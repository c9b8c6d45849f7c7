import Oott.Database.Paging
import Oott.Text.Decimal
import Oott.Utils.DatesReadBack
import Oott.WebServer.Notifications

/-!
# The parameters of the list requests

`parse_parameter` of `web_server/utils.rs` and the three handlers that list a table in pages. A
parameter counts when it can be parsed as the type that its handler takes it as, and is as good as
absent otherwise. The items of a list and their count are two statements, so they can be of two
states of the table.
-/

set_option autoImplicit false
set_option relaxedAutoImplicit false

namespace Oott

/-- The parameters of a query, in the order in which they stand in it. -/
abbrev QueryParameters := List (String × String)

/-- `Query<HashMap<String, String>>`: of the parameters with one name the last one counts. -/
def QueryParameters.toHashMap (query : QueryParameters) (name : String) : Option String :=
  query.reverse.lookup name

/-- `FromStr`. -/
class FromStr (T : Type) where
  fromStr : String → Option T

/-- `bool::from_str`. -/
instance : FromStr Bool where
  fromStr text := if text = "true" then some true else if text = "false" then some false else none

/-- `i64::from_str`. -/
instance : FromStr Int where
  fromStr text := Decimal.read (-2 ^ 63) (2 ^ 63 - 1) text.toList

/-- `String::from_str`. -/
instance : FromStr String where
  fromStr := some

/-- `parse_parameter`. -/
def parseParameter {T : Type} [FromStr T] (params : String → Option String) (name : String) :
    Option T := do
  let value ← params name
  FromStr.fromStr value

/-! ### Devices -/

/-- `DeviceListResponse`. -/
structure DeviceListResponse where
  items : List Device
  totalCount : ℕ

namespace WebServer.Devices

/-- What `list` takes from its parameters. -/
structure ListArguments where
  filters : DeviceFilters
  sortBy : Option String
  sortOrder : Option String
  pageOffset : Option Int
  pageLimit : Option Int

/-- The parameters of `list`. -/
def listArguments (params : String → Option String) : ListArguments where
  filters :=
    { isRegistered := parseParameter params "is_registered"
      lastSeenFrom := parseParameterDate params "last_seen_from"
      lastSeenTo := parseParameterDate params "last_seen_to"
      owner := parseParameter params "owner"
      deviceType := parseParameter params "device_type"
      vendor := parseParameter params "vendor" }
  sortBy := parseParameter params "sort_by"
  sortOrder := parseParameter params "sort_order"
  pageOffset := parseParameter params "page_offset"
  pageLimit := parseParameter params "page_limit"

/-- What `list` may answer when its two statements find the tables `first` and `second`; either may
fail. -/
inductive ListAnswers (params : String → Option String) (first second : StoredDevices) :
    Except StatusCode DeviceListResponse → Prop
  | listed {rows : List (Stored Device)}
      (hrows : Db.Devices.Lists (listArguments params).filters (listArguments params).sortBy
        (listArguments params).sortOrder first (listArguments params).pageOffset
        (listArguments params).pageLimit rows) :
      ListAnswers params first second
        (.ok ⟨rows.map Stored.record, Db.Devices.count (listArguments params).filters second⟩)
  | failed : ListAnswers params first second (.error .internalServerError)

theorem ListAnswers.of_ok {params : String → Option String} {first second : StoredDevices}
    {response : DeviceListResponse} (hanswers : ListAnswers params first second (.ok response)) :
    ∃ rows, Db.Devices.Lists (listArguments params).filters (listArguments params).sortBy
        (listArguments params).sortOrder first (listArguments params).pageOffset
        (listArguments params).pageLimit rows ∧
      response.items = rows.map Stored.record ∧
      response.totalCount = Db.Devices.count (listArguments params).filters second := by
  cases hanswers with
  | listed hrows => exact ⟨_, hrows, rfl, rfl⟩

end WebServer.Devices

/-! ### Notifications -/

namespace WebServer.Notifications

/-- What `list` takes from its parameters. -/
structure ListArguments where
  isNew : Option Bool
  pageOffset : Option Int
  pageLimit : Option Int

/-- The parameters of `list`. -/
def listArguments (params : String → Option String) : ListArguments where
  isNew := parseParameter params "is_new"
  pageOffset := parseParameter params "page_offset"
  pageLimit := parseParameter params "page_limit"

end WebServer.Notifications

/-! ### Device events -/

namespace WebServer.DeviceEvents

/-- What `list` takes from its parameters. -/
structure ListArguments where
  createdFrom : Option Instant
  pageOffset : Option Int
  pageLimit : Option Int

/-- The parameters of `list`. -/
def listArguments (params : String → Option String) : ListArguments where
  createdFrom := parseParameterDate params "created_from"
  pageOffset := parseParameter params "page_offset"
  pageLimit := parseParameter params "page_limit"

/-- What `list` may answer for a MAC when its statement finds the table; it may fail. -/
inductive ListAnswers (macAddress : String) (params : String → Option String)
    (table : StoredEvents) : Except StatusCode (List DeviceEvent) → Prop
  | listed {rows : List (Stored DeviceEvent)}
      (hrows : Db.DeviceEvents.Lists (some macAddress) (listArguments params).createdFrom table
        (listArguments params).pageOffset (listArguments params).pageLimit rows) :
      ListAnswers macAddress params table (.ok (rows.map Stored.record))
  | failed : ListAnswers macAddress params table (.error .internalServerError)

theorem ListAnswers.of_ok {macAddress : String} {params : String → Option String}
    {table : StoredEvents} {events : List DeviceEvent}
    (hanswers : ListAnswers macAddress params table (.ok events)) :
    ∃ rows, Db.DeviceEvents.Lists (some macAddress) (listArguments params).createdFrom table
        (listArguments params).pageOffset (listArguments params).pageLimit rows ∧
      events = rows.map Stored.record := by
  cases hanswers with
  | listed hrows => exact ⟨_, hrows, rfl⟩

end WebServer.DeviceEvents

end Oott
