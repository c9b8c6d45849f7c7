import Oott.Frontend.Responses
import Oott.Scanners.Dhcp
import Oott.Utils.Addresses
import Oott.WebServer.Devices

/-!
# The actions on a device

`devices/device_actions.dart`: the dialogs that edit, register, forget and delete a device, the
requests of `oott_api_devices.dart` that they send, the routes of `web_server.rs` that take them and
the payloads that `serde` reads. Over them an inventory, of what the app shows of every MAC, with
the actions on it: that is what all these layers come to, over any sequence of actions
(`device_actions_arrive`). A dialog that is cancelled sends nothing, and the texts of the dialogs
are left out.
-/

set_option autoImplicit false
set_option relaxedAutoImplicit false

namespace Oott

open Effects

/-! ### Requests -/

/-- The methods of the requests that change a device. -/
inductive HttpMethod
  | put
  | delete

/-- A request: its method, its path under the base URL and its body. -/
structure HttpRequest where
  method : HttpMethod
  path : String
  body : Option Json

namespace App

/-- `registerDevice`. -/
def registerDevice (macAddress owner deviceType : String) (name : Option String) : HttpRequest where
  method := .put
  path := "/devices"
  body := some (.object ([("mac_address", .string macAddress), ("owner", .string owner),
    ("device_type", .string deviceType)] ++ (name.map fun name ↦ ("name", .string name)).toList))

/-- `updateDevice`. -/
def updateDevice (macAddress owner deviceType vendor : String) (name : Option String) :
    HttpRequest where
  method := .put
  path := "/devices/" ++ macAddress
  body := some (.object [("owner", .string owner), ("device_type", .string deviceType),
    ("vendor", .string vendor), ("name", .ofTextOrNull name)])

/-- `forgetDevice`. -/
def forgetDevice (macAddress : String) : HttpRequest := ⟨.delete, "/devices/" ++ macAddress, none⟩

/-- `deleteDevice`. -/
def deleteDevice (macAddress : String) : HttpRequest :=
  ⟨.delete, "/devices/" ++ macAddress ++ "/permanently", none⟩

/-! ### Dialogs -/

/-- `String.trim` of Dart, which trims the byte order mark as well. -/
def trim (text : String) : String := trimMatches (fun c ↦ isWhiteSpace c || c = '\uFEFF') text

/-- The fields of the dialog that edits a device. -/
structure EditForm where
  owner : String
  name : String
  vendor : String
  deviceType : DeviceType

/-- The fields of the dialog that registers a device. -/
structure RegisterForm where
  owner : String
  name : String
  deviceType : DeviceType

/-- The `validator` of the owner. -/
def ownerValid (owner : String) : Bool := trim owner ≠ ""

/-- `name.isEmpty ? null : name`, of the trimmed name. -/
def savedName (name : String) : Option String := if trim name = "" then none else some (trim name)

/-- What is done in a dialog about a device. A device that is registered is deleted in the dialog
that forgets it. -/
inductive DeviceAction
  | saveEdit (form : EditForm)
  | saveRegistration (form : RegisterForm)
  | forget
  | delete

/-- The request that is sent, if the form is valid. -/
def DeviceAction.request (macAddress : String) : DeviceAction → Option HttpRequest
  | saveEdit form =>
    if ownerValid form.owner then
      some (updateDevice macAddress (trim form.owner) form.deviceType.apiName (trim form.vendor)
        (savedName form.name))
    else none
  | saveRegistration form =>
    if ownerValid form.owner then
      some (registerDevice macAddress (trim form.owner) form.deviceType.apiName
        (savedName form.name))
    else none
  | forget => some (forgetDevice macAddress)
  | delete => some (deleteDevice macAddress)

end App

/-! ### Routes and payloads -/

/-- `RegisterDevicePayload`, deserialized. -/
def RegisterDevicePayload.ofJson (body : Json) : Option RegisterDevicePayload := do
  return {
    macAddress := ← (← body.member "mac_address").text
    owner := ← (← body.member "owner").text
    deviceType := ← (← body.member "device_type").text
    name := ← body.textOrNull "name" }

/-- `UpdateDevicePayload`, deserialized. -/
def UpdateDevicePayload.ofJson (body : Json) : Option UpdateDevicePayload := do
  return {
    owner := ← (← body.member "owner").text
    deviceType := ← (← body.member "device_type").text
    vendor := ← (← body.member "vendor").text
    name := ← body.textOrNull "name" }

/-- The segments of a path. -/
def segments (path : String) : List String := (path.toList.splitOn '/').map String.ofList

/-- The routes of `web_server.rs` that change a device, below `/api`. There is a route of its own
for the summary. -/
def DeviceRequest.ofRoute (body : Option Json) :
    HttpMethod → List String → Option DeviceRequest
  | _, ["", "devices", "summary"] => none
  | .put, ["", "devices"] => (body.bind RegisterDevicePayload.ofJson).map .register
  | .put, ["", "devices", macAddress] =>
    (body.bind UpdateDevicePayload.ofJson).map (.update macAddress)
  | .delete, ["", "devices", macAddress] => some (.unregister macAddress)
  | .delete, ["", "devices", macAddress, "permanently"] => some (.delete macAddress)
  | _, _ => none

/-- The request that a handler gets. -/
def DeviceRequest.ofHttp (request : HttpRequest) : Option DeviceRequest :=
  DeviceRequest.ofRoute request.body request.method (segments request.path)

/-! ### Requests arrive -/

/-- The text of a MAC is one segment of a path. -/
theorem slash_notMem_toText (address : MacAddr) : '/' ∉ address.toText.toList := by
  have hdigits : ∀ b : UInt8, '/' ∉ hexByte b := by
    intro b
    have hall : ∀ digit < 16, Nat.digitChar digit ≠ '/' := by decide
    have hlt := b.toNat_lt
    simp only [hexByte, List.mem_cons, List.not_mem_nil, or_false, not_or]
    exact ⟨(hall _ (by omega)).symm, (hall _ (by omega)).symm⟩
  have hparts : ∀ bytes : List UInt8, '/' ∉ [':'].intercalate (bytes.map hexByte) := by
    intro bytes
    induction bytes with
    | nil => exact List.not_mem_nil
    | cons b rest ih =>
      cases rest with
      | nil => simpa using hdigits b
      | cons second rest =>
        rw [List.map_cons, List.map_cons, List.intercalate_cons_cons, ← List.map_cons]
        simp only [List.mem_append, not_or]
        exact ⟨⟨hdigits b, by decide⟩, ih⟩
  unfold MacAddr.toText formatMac
  rw [String.toList_ofList]
  exact hparts _

theorem toText_ne_summary (address : MacAddr) : address.toText ≠ "summary" := by
  intro hsame
  have hread := MacAddr.fromText_toText address
  rw [hsame] at hread
  have hnone : MacAddr.fromText "summary" = none := by decide +kernel
  rw [hnone] at hread
  cases hread

section Paths

variable {macAddress : String} (hslash : '/' ∉ macAddress.toList)

include hslash

theorem segments_device : segments ("/devices/" ++ macAddress) = ["", "devices", macAddress] := by
  have hjoined : ("/devices/" ++ macAddress).toList =
      ['/'].intercalate [[], "devices".toList, macAddress.toList] := by
    rw [String.toList_append]
    simp [List.intercalate_cons_cons]
  rw [segments, hjoined, List.splitOn_intercalate '/' (by simpa using hslash) (by simp)]
  simp

theorem segments_permanently :
    segments ("/devices/" ++ macAddress ++ "/permanently") =
      ["", "devices", macAddress, "permanently"] := by
  have hjoined : ("/devices/" ++ macAddress ++ "/permanently").toList =
      ['/'].intercalate [[], "devices".toList, macAddress.toList, "permanently".toList] := by
    rw [String.toList_append, String.toList_append]
    simp [List.intercalate_cons_cons]
  rw [segments, hjoined, List.splitOn_intercalate '/' (by simpa using hslash) (by simp)]
  simp

end Paths

namespace App

/-- The request that the handlers get. -/
def DeviceAction.sent (macAddress : String) : DeviceAction → DeviceRequest
  | saveEdit form =>
    .update macAddress ⟨trim form.owner, form.deviceType.apiName, trim form.vendor,
      savedName form.name⟩
  | saveRegistration form =>
    .register ⟨macAddress, trim form.owner, form.deviceType.apiName, savedName form.name⟩
  | forget => .unregister macAddress
  | delete => .delete macAddress

@[simp] theorem UpdateDevicePayload.ofJson_updateDevice
    (macAddress owner deviceType vendor : String) (name : Option String) :
    (updateDevice macAddress owner deviceType vendor name).body.bind UpdateDevicePayload.ofJson =
      some ⟨owner, deviceType, vendor, name⟩ := by
  cases name <;>
    simp [updateDevice, UpdateDevicePayload.ofJson, Json.member, Json.text, Json.textOrNull,
      Json.ofTextOrNull]

@[simp] theorem RegisterDevicePayload.ofJson_registerDevice
    (macAddress owner deviceType : String) (name : Option String) :
    (registerDevice macAddress owner deviceType name).body.bind RegisterDevicePayload.ofJson =
      some ⟨macAddress, owner, deviceType, name⟩ := by
  cases name <;>
    simp [registerDevice, RegisterDevicePayload.ofJson, Json.member, Json.text, Json.textOrNull]

/-- What is sent from a dialog arrives as it was meant. -/
theorem ofHttp_request (address : MacAddr) {action : DeviceAction} {request : HttpRequest}
    (hrequest : action.request address.toText = some request) :
    DeviceRequest.ofHttp request = some (action.sent address.toText) := by
  have hslash := slash_notMem_toText address
  have hsummary := toText_ne_summary address
  cases action with
  | saveEdit form =>
    obtain ⟨-, hsent⟩ := Option.ite_none_right_eq_some.mp hrequest
    cases hsent
    change DeviceRequest.ofRoute _ .put (segments ("/devices/" ++ address.toText)) = _
    rw [segments_device hslash]
    simp [DeviceRequest.ofRoute, DeviceAction.sent]
  | saveRegistration form =>
    obtain ⟨-, hsent⟩ := Option.ite_none_right_eq_some.mp hrequest
    cases hsent
    have hsegments : segments "/devices" = ["", "devices"] := by decide +kernel
    change DeviceRequest.ofRoute _ .put (segments "/devices") = _
    rw [hsegments]
    simp [DeviceRequest.ofRoute, DeviceAction.sent]
  | forget =>
    cases hrequest
    change DeviceRequest.ofRoute none .delete (segments ("/devices/" ++ address.toText)) = _
    rw [segments_device hslash]
    simp [DeviceRequest.ofRoute, DeviceAction.sent]
  | delete =>
    cases hrequest
    change DeviceRequest.ofRoute none .delete
      (segments ("/devices/" ++ address.toText ++ "/permanently")) = _
    rw [segments_permanently hslash]
    simp [DeviceRequest.ofRoute, DeviceAction.sent]

/-! ### What is shown afterwards -/

/-- What the app shows of one MAC: its device and its events, in the order of the table. -/
@[ext] structure Shown where
  device : Option Device
  history : List DeviceEvent

/-- What the app shows of every MAC. -/
abbrev Inventory := MacAddr → Shown

/-- The inventory that the app shows of the tables. -/
def inventory (dart : DartLowerCase) (db : Database) : Inventory := fun address ↦ {
  device := (db.devices.select address.toText).map (.of dart)
  history := (db.deviceEvents.filter fun row ↦ NocaseEq row.macAddress address.toText).map .of }

namespace DeviceAction

/-- The form of the action is valid. -/
def valid : DeviceAction → Bool
  | saveEdit form => ownerValid form.owner
  | saveRegistration form => ownerValid form.owner
  | forget => true
  | delete => true

/-- The action is for a device of the other kind, registered or not. -/
def refused (action : DeviceAction) (device : Device) : Bool :=
  match action with
  | saveEdit _ => !device.isRegistered
  | saveRegistration _ => device.isRegistered
  | forget => !device.isRegistered
  | delete => false

/-- The status of an action that is performed. -/
def success : DeviceAction → StatusCode
  | saveRegistration _ => .created
  | saveEdit _ | forget | delete => .ok

/-- What an action makes of what is shown: what is saved is shown, and a registration without a name
keeps the name. -/
def result (action : DeviceAction) (device : Device) (history : List DeviceEvent) : Shown :=
  match action with
  | saveEdit form =>
    ⟨some { device with
      owner := trim form.owner
      name := savedName form.name
      vendor := trim form.vendor
      deviceType := form.deviceType }, history⟩
  | saveRegistration form =>
    ⟨some { device with
      isRegistered := true
      owner := trim form.owner
      name := (savedName form.name).or device.name
      deviceType := form.deviceType }, history⟩
  | forget => ⟨some { device with isRegistered := false, owner := "" }, history⟩
  | delete => ⟨none, []⟩

/-- An action on an inventory, and its status if something is sent. -/
def perform (address : MacAddr) (action : DeviceAction) (shown : Inventory) :
    Inventory × Option StatusCode :=
  if !action.valid then (shown, none)
  else match (shown address).device with
    | none => (shown, some .notFound)
    | some device =>
      if action.refused device then (shown, some .conflict)
      else (Function.update shown address (action.result device (shown address).history),
        some action.success)

/-- An action as it is: its request is sent, taken by its route and served. -/
def submit (address : MacAddr) (action : DeviceAction) (world : World) :
    World × Option StatusCode :=
  match (action.request address.toText).bind DeviceRequest.ofHttp with
  | none => (world, none)
  | some request =>
    let (reply, after) := request.handler.run clocked world
    (after, reply.map Prod.fst)

end DeviceAction

end App

/-- The text that is stored for a type is read as the type. -/
@[simp] theorem DeviceType.fromString_apiName (dart : DartLowerCase) (deviceType : DeviceType) :
    fromString dart deviceType.apiName = deviceType := by
  have hascii : deviceType.apiName.toList.all (·.toNat < 128) = true := by
    cases deviceType <;> decide
  unfold fromString
  rw [dart.ascii _ (by simpa using hascii)]
  cases deviceType <;> decide

/-- Two MACs have texts that are equal up to letter case only if they are one MAC. -/
theorem MacAddr.nocaseEq_toText_iff {first second : MacAddr} :
    NocaseEq first.toText second.toText ↔ first = second :=
  nocaseEq_formatMac_iff.trans toText_injective.eq_iff

namespace App

open DeviceAction

variable {dart : DartLowerCase} {address : MacAddr} {action : DeviceAction}

/-- A form that is not valid sends nothing, and any other its request. -/
theorem request_bind_ofHttp :
    (action.request address.toText).bind DeviceRequest.ofHttp =
      if action.valid then some (action.sent address.toText) else none := by
  have hsome : action.valid = true → (action.request address.toText).isSome := by
    cases action <;> simp +contextual [valid, DeviceAction.request]
  have hnone : action.valid = false → action.request address.toText = none := by
    cases action <;> simp +contextual [valid, DeviceAction.request]
  cases hvalid : action.valid with
  | false => simp [hnone hvalid]
  | true =>
    obtain ⟨request, hrequest⟩ := Option.isSome_iff_exists.mp (hsome hvalid)
    simp [hrequest, ofHttp_request address hrequest]

@[simp] theorem mac_sent : (action.sent address.toText).mac = address.toText := by
  cases action <;> exact normalizeMac_formatMac _

/-- The handler refuses what the inventory says. -/
theorem refusal_sent (device : Oott.Device) :
    ((action.sent address.toText).refusal device).map Prod.fst =
      if action.refused (.of dart device) then some .conflict else none := by
  cases action <;> cases hregistered : device.isRegistered <;>
    simp [DeviceAction.sent, DeviceRequest.refusal, refused, Device.of, hregistered,
      WebServer.Devices.updateRefusal, WebServer.Devices.registerRefusal,
      WebServer.Devices.unregisterRefusal]

@[simp] theorem done_sent : (action.sent address.toText).done.1 = action.success := by
  cases action <;> rfl

/-- An `UPDATE` changes what is shown of its MAC. -/
theorem inventory_updateDevices {db : Database} {clause : SetClause} {row : Oott.Device}
    (hrow : db.devices.select address.toText = some row) :
    inventory dart (db.updateDevices clause address.toText) =
      Function.update (inventory dart db) address
        ⟨some (.of dart (clause.apply row)), (inventory dart db address).history⟩ := by
  funext other
  by_cases hsame : other = address
  · subst hsame
    rw [Function.update_self]
    simp [inventory, Database.updateDevices,
      DevicesTable.select_update_of_some clause (NocaseEq.refl _) hrow]
  · have hmac : ¬ NocaseEq other.toText address.toText :=
      fun hmac ↦ hsame (MacAddr.nocaseEq_toText_iff.mp hmac)
    rw [Function.update_of_ne hsame]
    simp [inventory, Database.updateDevices, DevicesTable.select_update_other clause hmac]

/-- The transaction of a deletion leaves nothing that is shown of its MAC. -/
theorem inventory_deleteDevice {db : Database} :
    inventory dart (db.deleteDevice address.toText) =
      Function.update (inventory dart db) address ⟨none, []⟩ := by
  funext other
  by_cases hsame : other = address
  · subst hsame
    rw [Function.update_self]
    simp [inventory, Database.deleteDevice,
      DevicesTable.select_delete_same (NocaseEq.refl _)]
  · have hmac : ¬ NocaseEq other.toText address.toText :=
      fun hmac ↦ hsame (MacAddr.nocaseEq_toText_iff.mp hmac)
    have hkept : (fun row : Oott.DeviceEvent ↦ decide (NocaseEq row.macAddress other.toText) &&
        decide ¬ NocaseEq row.macAddress address.toText) =
        fun row ↦ decide (NocaseEq row.macAddress other.toText) := by
      funext row
      by_cases hother : NocaseEq row.macAddress other.toText
      · have hrow : ¬ NocaseEq row.macAddress address.toText :=
          fun hboth ↦ hmac (hother.symm.trans hboth)
        simp [hother, hrow]
      · simp [hother]
    rw [Function.update_of_ne hsame]
    simp only [inventory, Database.deleteDevice, DevicesTable.select_delete_other hmac,
      List.filter_filter, hkept]

/-- The write of an action makes of the inventory what the action says. -/
theorem inventory_write {db : Database} {row : Oott.Device}
    (hrow : db.devices.select address.toText = some row) :
    inventory dart ((action.sent address.toText).write db) =
      Function.update (inventory dart db) address
        (action.result (.of dart row) (inventory dart db address).history) := by
  have hmac : normalizeMac address.toText = address.toText := normalizeMac_formatMac _
  cases action with
  | saveEdit form =>
    change inventory dart (db.updateDevices (Db.Devices.updateClause _ _ _ _) _) = _
    rw [hmac, inventory_updateDevices hrow]
    simp [result, Device.of, SetClause.apply, Db.Devices.updateClause]
  | saveRegistration form =>
    change inventory dart (db.updateDevices (Db.Devices.registerClause _ _ _) _) = _
    rw [hmac, inventory_updateDevices hrow]
    cases hname : savedName form.name <;>
      simp [result, Device.of, SetClause.apply, Db.Devices.registerClause, hname]
  | forget =>
    change inventory dart (db.updateDevices Db.Devices.unregisterClause _) = _
    rw [hmac, inventory_updateDevices hrow]
    simp [result, Device.of, SetClause.apply, Db.Devices.unregisterClause]
  | delete =>
    change inventory dart (db.deleteDevice _) = _
    rw [hmac, inventory_deleteDevice]
    rfl

/-- An action does to the tables what it does to the inventory. -/
theorem submit_perform (world : World) :
    action.perform address (inventory dart world.db) =
      (action.submit address world).map (fun after ↦ inventory dart after.db) id := by
  unfold perform submit
  rw [request_bind_ofHttp]
  cases hvalid : action.valid with
  | false => rfl
  | true =>
    simp only [Bool.not_true, Bool.false_eq_true, if_false, if_true, DeviceRequest.run_handler,
      DeviceRequest.serve, mac_sent]
    cases hselect : world.db.devices.select address.toText with
    | none => simp [inventory, hselect]
    | some row =>
      have hrefusal := @refusal_sent dart address action row
      have hshown : (inventory dart world.db address).device = some (.of dart row) := by
        simp [inventory, hselect]
      have hwrite := @inventory_write dart address action _ row hselect
      rw [hshown]
      cases hrefused : action.refused (.of dart row) with
      | true =>
        rw [hrefused, if_pos rfl, Option.map_eq_some_iff] at hrefusal
        obtain ⟨reply, hreply, hstatus⟩ := hrefusal
        simp [hrefused, hreply, hstatus]
      | false =>
        rw [hrefused, if_neg Bool.false_ne_true, Option.map_eq_none_iff] at hrefusal
        simp [hrefused, hrefusal, hwrite]

/-- Operations that agree with others through a view of their states do so over any sequence. -/
theorem mapAccumr_map {α β σ τ : Type} {concrete : α → σ → σ × β} {abstract : α → τ → τ × β}
    (view : σ → τ)
    (hstep : ∀ operation state,
      abstract operation (view state) = (concrete operation state).map view id)
    (operations : List α) (state : σ) :
    operations.mapAccumr abstract (view state) =
      (operations.mapAccumr concrete state).map view id := by
  induction operations with
  | nil => rfl
  | cons latest earlier ih =>
    change ((abstract latest (earlier.mapAccumr abstract (view state)).1).1,
      (abstract latest (earlier.mapAccumr abstract (view state)).1).2 ::
        (earlier.mapAccumr abstract (view state)).2) = _
    rw [ih, Prod.map_fst, Prod.map_snd, hstep]
    rfl

/-- The actions on the tables are those on the inventory, in any order and number, the latest first:
what has been saved in a dialog is shown from then on, of its device alone, and an action is refused
exactly when the device, as it would be shown when the request arrives, is missing or of the other
kind. -/
theorem device_actions_arrive (dart : DartLowerCase) (actions : List (MacAddr × DeviceAction))
    (world : World) :
    actions.mapAccumr (fun (address, action) ↦ action.perform address) (inventory dart world.db) =
      (actions.mapAccumr (fun (address, action) ↦ action.submit address) world).map
        (fun after ↦ inventory dart after.db) id := by
  refine mapAccumr_map (fun world ↦ inventory dart world.db) ?_ actions world
  intro (address, action) state
  exact submit_perform state

end App

end Oott
