import Oott.Frontend.DeviceTypes
import Oott.WebServer.Parameters

/-!
# The requests of the lists

`listDevices`, `listNotifications` and `getDeviceEvents` of the app, with the query that each sends:
a map of values of any type, which are written as texts. What the app asks for arrives
(`requests_arrive`): a Boolean, a number, a text and a timestamp are read back as they were written,
and a parameter that is left out, or empty where the handler expects a Boolean, is none. So a client
that asks for page after page gets every device that it asked for once (`devices_paged`), and the
history of a device has exactly the events since the cutoff (`history_listed`).
-/

set_option autoImplicit false
set_option relaxedAutoImplicit false

namespace Oott

open Query

/-! ### What the app sends -/

/-- A value of a `Map<String, dynamic>`, as far as the app puts it into a query. -/
inductive QueryValue
  | bool (value : Bool)
  | int (value : Int)
  | text (value : String)
deriving DecidableEq

/-- `toString`. -/
def QueryValue.toString : QueryValue → String
  | bool true => "true"
  | bool false => "false"
  | int value => String.ofList (Decimal.write value)
  | text value => value

/-- The query of a map, which keeps the order in which its entries were put in. -/
def queryOf (params : List (String × QueryValue)) : QueryParameters :=
  params.map fun entry ↦ (entry.1, entry.2.toString)

/-- `if (value != null) params[name] = value`. -/
def entryOf (name : String) (value : Option QueryValue) : List (String × QueryValue) :=
  value.toList.map fun value ↦ (name, value)

/-- `listDevices`. -/
def listDevicesQuery (isRegistered : Option Bool) (owner : Option String)
    (deviceType : Option DeviceType) (sortBy : Option String) (sortAscending : Option Bool)
    (page perPage : ℕ) : QueryParameters :=
  queryOf <|
    entryOf "is_registered" (isRegistered.map .bool) ++
    entryOf "owner" ((owner.filter fun owner ↦ owner ≠ "").map .text) ++
    entryOf "device_type" (deviceType.map fun type ↦ .text type.filterText) ++
    entryOf "sort_by" (sortBy.map .text) ++
    entryOf "sort_order" (sortAscending.map fun ascending ↦
      .text (if ascending then "asc" else "desc")) ++
    [("page_offset", .int (page * perPage : ℕ)), ("page_limit", .int perPage)]

/-- `listNotifications`. -/
def listNotificationsQuery (isNew : Option Bool) (page perPage : ℕ) : QueryParameters :=
  queryOf [("is_new", (isNew.map .bool).getD (.text "")),
    ("page_offset", .int (page * perPage : ℕ)), ("page_limit", .int perPage)]

/-- `getDeviceEvents`. -/
def getDeviceEventsQuery (createdFrom : Option DateTime) : QueryParameters :=
  queryOf (entryOf "created_from" (createdFrom.map fun date ↦ .text date.toIso8601String))

example : listDevicesQuery (some true) (some "") (some .unknown) none (some false) 2 10 =
    [("is_registered", "true"), ("device_type", ""), ("sort_order", "desc"), ("page_offset", "20"),
      ("page_limit", "10")] := by decide

/-! ### What arrives -/

section Lookup

variable {front back : List (String × QueryValue)} {name other : String}

@[simp] theorem toHashMap_append :
    (queryOf (front ++ back)).toHashMap name =
      ((queryOf back).toHashMap name).or ((queryOf front).toHashMap name) := by
  unfold QueryParameters.toHashMap queryOf
  rw [List.map_append, List.reverse_append, List.lookup_append]

@[simp] theorem toHashMap_nil : (queryOf []).toHashMap name = none := rfl

@[simp] theorem toHashMap_cons (value : QueryValue) :
    (queryOf ((other, value) :: back)).toHashMap name =
      ((queryOf back).toHashMap name).or (if name = other then some value.toString else none) := by
  unfold QueryParameters.toHashMap queryOf
  rw [List.map_cons, List.reverse_cons, List.lookup_append]
  simp

@[simp] theorem toHashMap_entryOf (value : Option QueryValue) :
    (queryOf (entryOf other value)).toHashMap name =
      if name = other then value.map QueryValue.toString else none := by
  cases value <;> simp [entryOf]

end Lookup

section Parse

variable {params : String → Option String} {name : String}

/-- A Boolean is read as it was written. -/
theorem parseParameter_bool {value : Option Bool}
    (hvalue : params name = (value.map .bool).map QueryValue.toString) :
    parseParameter params name = value := by
  unfold parseParameter
  rw [hvalue]
  rcases value with _ | _ | _ <;> rfl

/-- A number of 64 bits is read as it was written. -/
theorem parseParameter_int {value : Int} (hrange : -2 ^ 63 ≤ value ∧ value < 2 ^ 63)
    (hvalue : params name = some (QueryValue.int value).toString) :
    parseParameter params name = some value := by
  have hread := Decimal.read_write (-2 ^ 63) (2 ^ 63 - 1) value
  rw [if_pos ⟨hrange.1, Int.le_sub_one_of_lt hrange.2⟩] at hread
  unfold parseParameter
  rw [hvalue]
  show Decimal.read _ _ (String.ofList (Decimal.write value)).toList = _
  rw [String.toList_ofList, hread]

/-- A text is taken as it is. -/
theorem parseParameter_text {value : Option String}
    (hvalue : params name = (value.map .text).map QueryValue.toString) :
    parseParameter params name = value := by
  unfold parseParameter
  rw [hvalue]
  cases value <;> rfl

/-- What is not sent is none. -/
theorem parseParameter_none {T : Type} [FromStr T] (hvalue : params name = none) :
    (parseParameter params name : Option T) = none := by
  unfold parseParameter
  rw [hvalue]
  rfl

theorem parseParameterDate_none (hvalue : params name = none) :
    parseParameterDate params name = none := by
  unfold parseParameterDate
  rw [hvalue]
  rfl

end Parse

section Arrival

variable {isRegistered : Option Bool} {owner : Option String} {deviceType : Option DeviceType}
  {sortBy : Option String} {sortAscending : Option Bool} {page perPage : ℕ}

/-- A number of 64 bits without a sign. -/
theorem int64_of_lt {n : ℕ} (hlt : n < 2 ^ 63) : -2 ^ 63 ≤ (n : Int) ∧ (n : Int) < 2 ^ 63 := by
  omega

/-- The handler takes from the query of `listDevices` what the app has put into it, and no other
filter. -/
theorem listArguments_listDevicesQuery (hoffset : page * perPage < 2 ^ 63)
    (hlimit : perPage < 2 ^ 63) :
    WebServer.Devices.listArguments
        (listDevicesQuery isRegistered owner deviceType sortBy sortAscending page
          perPage).toHashMap =
      let query := devicesQuery isRegistered owner deviceType sortBy sortAscending page perPage
      ⟨{ isRegistered := query.isRegistered
         owner := query.owner
         deviceType := query.deviceType },
        query.sortBy, query.sortOrder, query.pageOffset, query.pageLimit⟩ := by
  let query := listDevicesQuery isRegistered owner deviceType sortBy sortAscending page perPage
  have hflag : query.toHashMap "is_registered" =
      (isRegistered.map .bool).map QueryValue.toString := by
    simp [query, listDevicesQuery]
  have howner : query.toHashMap "owner" =
      ((owner.filter fun owner ↦ owner ≠ "").map .text).map QueryValue.toString := by
    simp [query, listDevicesQuery]
  have htype : query.toHashMap "device_type" =
      ((deviceType.map DeviceType.filterText).map .text).map QueryValue.toString := by
    simp [query, listDevicesQuery, Function.comp_def]
  have hsortBy : query.toHashMap "sort_by" = (sortBy.map .text).map QueryValue.toString := by
    simp [query, listDevicesQuery]
  have hsortOrder : query.toHashMap "sort_order" =
      ((sortAscending.map fun ascending ↦ if ascending then "asc" else "desc").map .text).map
        QueryValue.toString := by
    simp [query, listDevicesQuery, Function.comp_def]
  have hpageOffset : query.toHashMap "page_offset" =
      some (QueryValue.int (page * perPage : ℕ)).toString := by
    simp [query, listDevicesQuery]
  have hpageLimit : query.toHashMap "page_limit" = some (QueryValue.int perPage).toString := by
    simp [query, listDevicesQuery]
  have hother {name : String} (hname : name ∈ ["last_seen_from", "last_seen_to", "vendor"]) :
      query.toHashMap name = none := by
    simp only [List.mem_cons, List.not_mem_nil, or_false] at hname
    rcases hname with rfl | rfl | rfl
    all_goals
      simp [query, listDevicesQuery]
  unfold WebServer.Devices.listArguments devicesQuery
  simp only
  rw [parseParameter_bool hflag, parseParameter_text howner, parseParameter_text htype,
    parseParameter_text hsortBy, parseParameter_text hsortOrder,
    parseParameter_int (int64_of_lt hoffset) hpageOffset,
    parseParameter_int (int64_of_lt hlimit) hpageLimit,
    parseParameterDate_none (hother (by decide)), parseParameterDate_none (hother (by decide)),
    parseParameter_none (hother (by decide))]

/-- A Boolean that is not chosen is sent as an empty text, which no Boolean is parsed from. -/
theorem listArguments_listNotificationsQuery {isNew : Option Bool}
    (hoffset : page * perPage < 2 ^ 63) (hlimit : perPage < 2 ^ 63) :
    WebServer.Notifications.listArguments (listNotificationsQuery isNew page perPage).toHashMap =
      ⟨isNew, some (page * perPage : ℕ), some perPage⟩ := by
  let query := listNotificationsQuery isNew page perPage
  have hflag : query.toHashMap "is_new" =
      some ((isNew.map QueryValue.bool).getD (.text "")).toString := by
    simp [query, listNotificationsQuery]
  have hpageOffset : query.toHashMap "page_offset" =
      some (QueryValue.int (page * perPage : ℕ)).toString := by
    simp [query, listNotificationsQuery]
  have hpageLimit : query.toHashMap "page_limit" = some (QueryValue.int perPage).toString := by
    simp [query, listNotificationsQuery]
  have hparsed : parseParameter query.toHashMap "is_new" = isNew := by
    unfold parseParameter
    rw [hflag]
    rcases isNew with _ | _ | _ <;> rfl
  unfold WebServer.Notifications.listArguments
  rw [hparsed, parseParameter_int (int64_of_lt hoffset) hpageOffset,
    parseParameter_int (int64_of_lt hlimit) hpageLimit]

/-- The history has no pages. -/
theorem listArguments_getDeviceEventsQuery {createdFrom : Option DateTime}
    (hyear : ∀ date ∈ createdFrom, date.instant.FourDigitYear) :
    WebServer.DeviceEvents.listArguments (getDeviceEventsQuery createdFrom).toHashMap =
      ⟨createdFrom.map DateTime.instant, none, none⟩ := by
  let query := getDeviceEventsQuery createdFrom
  have hother {name : String} (hname : name ≠ "created_from") : query.toHashMap name = none := by
    simp [query, getDeviceEventsQuery, hname]
  have hdate : parseParameterDate query.toHashMap "created_from" =
      createdFrom.map DateTime.instant := by
    cases createdFrom with
    | none => rfl
    | some date =>
      exact DateTime.parseParameterDate_toIso8601String (hyear date rfl) rfl
  unfold WebServer.DeviceEvents.listArguments
  rw [hdate, parseParameter_none (hother (by decide)), parseParameter_none (hother (by decide))]

end Arrival

/-- Every list request arrives as the app means it: whatever is chosen on the page of the devices,
of the notifications or in the history of a device, the handler takes just that from the query, the
numbers within 64 bits and the cutoff within the years 0 to 9999. -/
theorem requests_arrive (isRegistered : Option Bool) (owner : Option String)
    (deviceType : Option DeviceType) (sortBy : Option String) (sortAscending isNew : Option Bool)
    {page perPage : ℕ} (hoffset : page * perPage < 2 ^ 63) (hlimit : perPage < 2 ^ 63)
    {createdFrom : Option DateTime}
    (hyear : ∀ date ∈ createdFrom, date.instant.FourDigitYear) :
    (WebServer.Devices.listArguments
        (listDevicesQuery isRegistered owner deviceType sortBy sortAscending page
          perPage).toHashMap =
      let query := devicesQuery isRegistered owner deviceType sortBy sortAscending page perPage
      ⟨{ isRegistered := query.isRegistered
         owner := query.owner
         deviceType := query.deviceType },
        query.sortBy, query.sortOrder, query.pageOffset, query.pageLimit⟩) ∧
    WebServer.Notifications.listArguments (listNotificationsQuery isNew page perPage).toHashMap =
      ⟨isNew, some (page * perPage : ℕ), some perPage⟩ ∧
    WebServer.DeviceEvents.listArguments (getDeviceEventsQuery createdFrom).toHashMap =
      ⟨createdFrom.map DateTime.instant, none, none⟩ :=
  ⟨listArguments_listDevicesQuery hoffset hlimit,
    listArguments_listNotificationsQuery hoffset hlimit, listArguments_getDeviceEventsQuery hyear⟩

/-- The second page of the registered devices, the notifications in any state, and the events since
1970. -/
theorem requests_arrive_secondPage :
    ∃ cutoff : DateTime, cutoff.instant = .epoch ∧
      (WebServer.Devices.listArguments
        (listDevicesQuery (some true) none none none none 1 10).toHashMap).pageOffset = some 10 ∧
      WebServer.Notifications.listArguments (listNotificationsQuery none 1 10).toHashMap =
        ⟨none, some 10, some 10⟩ ∧
      WebServer.DeviceEvents.listArguments (getDeviceEventsQuery (some cutoff)).toHashMap =
        ⟨some .epoch, none, none⟩ := by
  let cutoff : DateTime := ⟨.epoch, by decide⟩
  have harrive := @requests_arrive (some true) none none none none none 1 10 (by decide)
    (by decide) (some cutoff) (by simp only [Option.mem_def, Option.some.injEq, forall_eq']; decide)
  exact ⟨cutoff, rfl, congrArg WebServer.Devices.ListArguments.pageOffset harrive.1, harrive.2⟩

/-! ### The pages of the devices -/

section Pages

variable {isRegistered : Option Bool} {owner : Option String} {deviceType : Option DeviceType}
  {sortBy : Option String} {sortAscending : Option Bool}

/-- A device is one of those that `listDevices` asks for: it has the flag, an owner with the text in
it, up to wildcards, and the type. -/
def AskedFor (isRegistered : Option Bool) (owner : Option String) (deviceType : Option DeviceType)
    (device : Device) : Prop :=
  (∀ flag ∈ isRegistered, device.isRegistered = flag) ∧
    (∀ text ∈ owner, text ≠ "" →
      SqlValue.likeWildcards.accepts ('%' :: text.toList ++ ['%']) device.owner.toList) ∧
    ∀ type ∈ deviceType, NocaseEq device.deviceType type.filterText

instance (device : Device) : Decidable (AskedFor isRegistered owner deviceType device) :=
  inferInstanceAs (Decidable (_ ∧ _ ∧ _))

@[simp] theorem WhereClause.holdsOf_pushSome {clause : WhereClause} {condition : Condition}
    {value : Option SqlValue} {row : Stored Device} :
    (clause.pushSome condition value).HoldsOf row ↔
      clause.HoldsOf row ∧ ∀ bound ∈ value, condition.HoldsOf row bound := by
  cases value with
  | none => simp [pushSome]
  | some value =>
    unfold HoldsOf pushSome
    dsimp only
    rw [List.zip_append clause.bound, List.forall_mem_append]
    simp

/-- The clause of a query of the app has no timestamps, so that it says the same of a stored row and
of its record. -/
theorem holdsOf_iff_askedFor (row : Stored Device) :
    (buildDeviceFilters
        { isRegistered := isRegistered
          owner := owner.filter fun owner ↦ owner ≠ ""
          deviceType := deviceType.map DeviceType.filterText }).HoldsOf row ↔
      AskedFor isRegistered owner deviceType row.record := by
  have halways : WhereClause.always.HoldsOf row := fun _ hmem ↦ nomatch hmem
  have hflag (flag : Bool) : Condition.isRegistered.HoldsOf row (.ofBool flag) ↔
      row.record.isRegistered = flag := holds_isRegistered
  have howner (text : String) : Condition.owner.HoldsOf row (.text ("%" ++ text ++ "%")) ↔
      SqlValue.likeWildcards.accepts ('%' :: text.toList ++ ['%']) row.record.owner.toList :=
    holds_owner
  have htype (type : DeviceType) : Condition.deviceType.HoldsOf row (.text type.filterText) ↔
      NocaseEq row.record.deviceType type.filterText := holds_deviceType
  unfold buildDeviceFilters AskedFor
  cases isRegistered <;> cases owner <;> cases deviceType <;>
    simp [halways, hflag, howner, htype, and_assoc]

/-- The devices of a table that `listDevices` asks for. -/
def StoredDevices.askedFor (isRegistered : Option Bool) (owner : Option String)
    (deviceType : Option DeviceType) (table : StoredDevices) : List Device :=
  (table.rows.map Stored.record).filter fun device ↦
    AskedFor isRegistered owner deviceType device

/-- Paging by requests. While the table does not change and the requests are answered, a client that
asks for page after page, until one is empty, gets every device that it has asked for once, and
every response has their number. -/
theorem devices_paged {perPage : ℕ} (hperPage : 0 < perPage) {table : StoredDevices}
    (hsize : table.rows.length + perPage < 2 ^ 63) {responses : ℕ → DeviceListResponse}
    (hresponses : ∀ page, page * perPage < table.rows.length + perPage →
      WebServer.Devices.ListAnswers
        (listDevicesQuery isRegistered owner deviceType sortBy sortAscending page
          perPage).toHashMap table table (.ok (responses page))) :
    ∃ count,
      (∀ page ≤ count, (responses page).totalCount =
        (table.askedFor isRegistered owner deviceType).length) ∧
      (responses count).items = [] ∧ (∀ page < count, (responses page).items ≠ []) ∧
      ((List.range count).flatMap fun page ↦ (responses page).items).Perm
        (table.askedFor isRegistered owner deviceType) := by
  let query := devicesQuery isRegistered owner deviceType sortBy sortAscending 0 perPage
  let filters : DeviceFilters :=
    { isRegistered := query.isRegistered
      owner := query.owner
      deviceType := query.deviceType }
  let rows := Db.Devices.matching filters table
  have hasked : rows.map Stored.record = table.askedFor isRegistered owner deviceType := by
    unfold StoredDevices.askedFor
    rw [List.filter_map]
    congr 1
    exact List.filter_congr fun row _ ↦ decide_eq_decide.mpr (holdsOf_iff_askedFor row)
  have hlength : (table.askedFor isRegistered owner deviceType).length = rows.length := by
    rw [← hasked, List.length_map]
  have hle : rows.length ≤ table.rows.length := List.length_filter_le _ _
  have hanswer (page : ℕ) : ∃ listed,
      Db.Devices.Lists filters query.sortBy query.sortOrder table (some (page * perPage : ℕ))
        (some perPage) listed ∧
      (page * perPage < table.rows.length + perPage →
        (responses page).items = listed.map Stored.record ∧
          (responses page).totalCount = rows.length) := by
    by_cases hpage : page * perPage < table.rows.length + perPage
    · obtain ⟨listed, hlisted, hitems, htotal⟩ := (hresponses page hpage).of_ok
      rw [listArguments_listDevicesQuery (hpage.trans hsize) (by omega)] at hlisted htotal
      exact ⟨listed, hlisted, fun _ ↦ ⟨hitems, htotal.trans List.countP_eq_length_filter⟩⟩
    · obtain ⟨answer, hanswer⟩ := exists_answers
        (Db.Devices.orderBy query.sortBy query.sortOrder) rows
      exact ⟨_, ⟨answer, hanswer, rfl⟩, fun hpage' ↦ absurd hpage' hpage⟩
  choose pages hpages hresponse using hanswer
  have hpartition : ListPartitions
      (Db.Devices.Lists filters query.sortBy query.sortOrder table) perPage rows :=
    listPartitions_iff.mpr (pagesPartition_of_distinguishes hperPage (table.nodup.filter _)
      (distinguishes_devices filters query.sortBy query.sortOrder table))
  obtain ⟨count, hlast, hfull, hperm⟩ := hpartition pages hpages
  -- The page before the empty one has a row, so that all of them have been asked for.
  have hbound : count * perPage < table.rows.length + perPage := by
    cases count with
    | zero => omega
    | succ page =>
      obtain ⟨answer, hanswer, hlisted⟩ := hpages page
      have hpage : PageOf (Db.Devices.orderBy query.sortBy query.sortOrder) rows perPage
          (page * perPage) (pages page) :=
        ⟨answer, hanswer, hlisted.trans (applyPaging_page answer page perPage)⟩
      have hstart := mt (hpage.eq_nil_iff hperPage).mpr (hfull page (Nat.lt_succ_self page))
      rw [Nat.succ_mul]
      omega
  have hpage {page : ℕ} (hpage : page ≤ count) := hresponse page
    ((Nat.mul_le_mul_right perPage hpage).trans_lt hbound)
  refine ⟨count, fun page hle ↦ (hpage hle).2.trans hlength.symm, ?_, fun page hlt ↦ ?_, ?_⟩
  · rw [(hpage (Nat.le_refl count)).1, hlast, List.map_nil]
  · rw [(hpage hlt.le).1]
    exact fun hnil ↦ hfull page hlt (List.map_eq_nil_iff.mp hnil)
  · have hitems : (List.range count).flatMap (fun page ↦ (responses page).items) =
        ((List.range count).flatMap pages).map Stored.record := by
      rw [List.map_flatMap]
      exact List.flatMap_congr fun page hmem ↦ (hpage (List.mem_range.mp hmem).le).1
    rw [hitems, ← hasked]
    exact hperm.map _

/-- A device that is registered for Ann. -/
def annsDevice (macAddress : String) : Device :=
  { Device.new macAddress "192.168.1.2" "" .epoch with isRegistered := true, owner := "Ann" }

/-- Three devices of Ann, and one that is not registered. -/
def annsDevices : DevicesTable where
  rows := [annsDevice "aa:bb:cc:dd:ee:03", annsDevice "aa:bb:cc:dd:ee:01",
    .new "aa:bb:cc:dd:ee:02" "192.168.1.3" "" .epoch, annsDevice "aa:bb:cc:dd:ee:04"]
  primaryKey := by decide +kernel

/-- The registered ones, which all have the same owner, in pages of two by the owner. -/
theorem devices_paged_tied :
    ∃ (responses : ℕ → DeviceListResponse) (count : ℕ),
      (annsDevices.stored.askedFor (some true) none none).map Device.owner = ["Ann", "Ann", "Ann"] ∧
      (∀ page ≤ count, (responses page).totalCount = 3) ∧
      ((List.range count).flatMap fun page ↦ (responses page).items).Perm
        (annsDevices.stored.askedFor (some true) none none) := by
  let filters : DeviceFilters := { isRegistered := some true }
  let responses (page : ℕ) : DeviceListResponse :=
    ⟨((listDevices filters (some "owner") (some "asc") (some (page * 2 : ℕ)) (some (2 : ℕ))
      annsDevices).map Device.stored).map Stored.record,
      Db.Devices.count filters annsDevices.stored⟩
  have howners : (annsDevices.stored.askedFor (some true) none none).map Device.owner =
      ["Ann", "Ann", "Ann"] := by decide +kernel
  have hpaged := @devices_paged (some true) none none (some "owner") (some true) 2 Nat.two_pos
    annsDevices.stored (by decide) responses fun page hpage ↦ ?_
  · obtain ⟨count, htotal, -, -, hperm⟩ := hpaged
    refine ⟨responses, count, howners, fun page hpage ↦ ?_, hperm⟩
    rw [htotal page hpage, ← List.length_map, howners]
    rfl
  · have hoffset : page * 2 < 2 ^ 63 := by
      change page * 2 < 4 + 2 at hpage
      omega
    have harguments := @listArguments_listDevicesQuery (some true) none none (some "owner")
      (some true) page 2 hoffset (by decide)
    have hanswers := @WebServer.Devices.ListAnswers.listed
      (listDevicesQuery (some true) none none (some "owner") (some true) page 2).toHashMap
      annsDevices.stored annsDevices.stored _ (by rw [harguments]; exact lists_listDevices _ _)
    rw [harguments] at hanswers
    exact hanswers

end Pages

/-! ### The history of a device -/

section History

variable {macAddress : String} {createdFrom : DateTime} {table : StoredEvents}

theorem text_le_iff {cutoff instant : Instant} {timestamp : String} (hcutoff : cutoff.FourDigitYear)
    (hwritten : WrittenAt instant timestamp) :
    SqlValue.text (toRfc3339 cutoff) ≤ .text timestamp ↔ cutoff ≤ instant := by
  obtain ⟨hyear, format, rfl⟩ := hwritten
  rw [← not_lt, ← not_lt, SqlValue.text_lt_text]
  cases format with
  | nanos => exact not_congr (stored_lt_iff hyear hcutoff.2)
  | autoSi => exact not_congr (toRfc3339_lt_iff hyear hcutoff)

/-- The rows that the statement matches, by the instants. -/
theorem matching_of_written (hyear : createdFrom.instant.FourDigitYear)
    (hwritten : ∀ row ∈ table.rows, WrittenAt row.record.createdOn row.timestamp) :
    (Db.DeviceEvents.matching (some macAddress) (some createdFrom.instant) table).map
        Stored.record =
      (table.rows.map Stored.record).filter fun event ↦
        NocaseEq event.macAddress macAddress ∧ createdFrom.instant ≤ event.createdOn := by
  unfold Db.DeviceEvents.matching
  rw [List.filter_map]
  refine congrArg (List.map Stored.record) (List.filter_congr fun row hrow ↦ ?_)
  rw [Function.comp_apply, decide_eq_decide]
  have hmac : NocaseEq row.record.macAddress (normalizeMac macAddress) ↔
      NocaseEq row.record.macAddress macAddress :=
    ⟨fun h ↦ h.trans (nocaseEq_normalizeMac _), fun h ↦ h.trans (nocaseEq_normalizeMac _).symm⟩
  have hcutoff := text_le_iff hyear (hwritten row hrow)
  simp only [Option.mem_def, Option.some.injEq, forall_eq', hmac, hcutoff]

/-- A row that the order puts before another is not older. -/
theorem createdOn_le_of_precedes {first second : Stored DeviceEvent}
    (hfirst : WrittenAt first.record.createdOn first.timestamp)
    (hsecond : WrittenAt second.record.createdOn second.timestamp)
    (hprecedes : Precedes Db.DeviceEvents.orderBy first second) :
    second.record.createdOn ≤ first.record.createdOn := by
  obtain ⟨hfirstYear, format, hfirstText⟩ := hfirst
  obtain ⟨hsecondYear, format', hsecondText⟩ := hsecond
  by_contra hlater
  have htext : first.timestamp < second.timestamp := by
    rw [hfirstText, hsecondText]
    exact text_lt_of_lt hfirstYear hsecondYear (not_le.mp hlater)
  rw [← SqlValue.text_lt_text] at htext
  rcases hprecedes with hbefore | ⟨hkey, -⟩
  · exact lt_asymm htext hbefore
  · exact htext.ne hkey

/-- The history of a device. For every table of events that this version or an older one has
written, what the app gets for a MAC and a cutoff of the years 0 to 9999 are the events of the MAC,
in any letter case, that are not older than the cutoff, each once and newest first. -/
theorem history_listed (hyear : createdFrom.instant.FourDigitYear)
    (hwritten : ∀ row ∈ table.rows, WrittenAt row.record.createdOn row.timestamp)
    {events : List DeviceEvent}
    (hanswers : WebServer.DeviceEvents.ListAnswers macAddress
      (getDeviceEventsQuery (some createdFrom)).toHashMap table (.ok events)) :
    events.Perm ((table.rows.map Stored.record).filter fun event ↦
        NocaseEq event.macAddress macAddress ∧ createdFrom.instant ≤ event.createdOn) ∧
      events.Pairwise fun first second ↦ second.createdOn ≤ first.createdOn := by
  obtain ⟨rows, hrows, rfl⟩ := hanswers.of_ok
  have hcutoff : ∀ date ∈ some createdFrom, date.instant.FourDigitYear := by
    rintro date ⟨⟩
    exact hyear
  rw [listArguments_getDeviceEventsQuery hcutoff] at hrows
  obtain ⟨answer, hanswer, hpaging⟩ := hrows
  have hsame : rows = answer := hpaging
  subst hsame
  refine ⟨matching_of_written hyear hwritten ▸ hanswer.perm.map _, List.pairwise_map.mpr ?_⟩
  refine hanswer.ordered.imp_of_mem fun {first second} hfirst hsecond hprecedes ↦ ?_
  have hrow {row : Stored DeviceEvent} (hmem : row ∈ rows) : row ∈ table.rows :=
    List.mem_of_mem_filter (hanswer.perm.mem_iff.mp hmem)
  exact createdOn_le_of_precedes (hwritten first (hrow hfirst)) (hwritten second (hrow hsecond))
    hprecedes

/-- Two events of a device, of which an older version has written one. -/
theorem history_listed_twoVersions :
    ∃ (earlier later : DeviceEvent) (cutoff : DateTime) (table : StoredEvents),
      earlier.createdOn < later.createdOn ∧
      table.rows = [⟨earlier, toRfc3339 earlier.createdOn⟩,
        ⟨later, toRfc3339Opts later.createdOn .nanos⟩] ∧
      [later, earlier].Perm ((table.rows.map Stored.record).filter fun event ↦
        NocaseEq event.macAddress "AA:BB:CC:DD:EE:01" ∧ cutoff.instant ≤ event.createdOn) := by
  let earlier : DeviceEvent :=
    ⟨1, "aa:bb:cc:dd:ee:01", .epoch, .newDevice, "192.168.1.2", "", .arp⟩
  let later : DeviceEvent :=
    ⟨2, "aa:bb:cc:dd:ee:01", ⟨10 ^ 9, by decide⟩, .deviceSeen, "192.168.1.2", "", .arp⟩
  let cutoff : DateTime := ⟨.epoch, by decide⟩
  let first : Stored DeviceEvent := ⟨earlier, toRfc3339 earlier.createdOn⟩
  let second : Stored DeviceEvent := ⟨later, toRfc3339Opts later.createdOn .nanos⟩
  let table : StoredEvents := ⟨[first, second], by decide⟩
  have hyear : cutoff.instant.FourDigitYear := by decide
  have hwritten : ∀ row ∈ table.rows, WrittenAt row.record.createdOn row.timestamp :=
    List.forall_mem_cons.mpr ⟨⟨by decide, .autoSi, rfl⟩,
      List.forall_mem_singleton.mpr ⟨by decide, .nanos, rfl⟩⟩
  have hcutoff : ∀ date ∈ some cutoff, date.instant.FourDigitYear := by
    rintro date ⟨⟩
    exact hyear
  have hlists : Db.DeviceEvents.Lists (some "AA:BB:CC:DD:EE:01") (some cutoff.instant) table none
      none [second, first] := ⟨_, ⟨by decide, by decide⟩, rfl⟩
  have hanswers : WebServer.DeviceEvents.ListAnswers "AA:BB:CC:DD:EE:01"
      (getDeviceEventsQuery (some cutoff)).toHashMap table (.ok [later, earlier]) := by
    refine @WebServer.DeviceEvents.ListAnswers.listed _ _ _ [second, first] ?_
    rw [listArguments_getDeviceEventsQuery hcutoff]
    exact hlists
  exact ⟨earlier, later, cutoff, table, by decide, rfl,
    (history_listed hyear hwritten hanswers).1⟩

end History

end Oott
