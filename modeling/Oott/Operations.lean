import Oott.Scanners.Enrichment
import Oott.Scanners.Pipeline
import Oott.WebServer.Devices
import Oott.Retention

/-!
# The operations of the backend

Everything that writes `devices` or `device_events`: a sighting handed to `record_sighting` by a
scanner, a request to the device API, and a sweep of the retention task.
-/

set_option autoImplicit false
set_option relaxedAutoImplicit false

namespace Oott

open Effects

/-- One operation of the backend. -/
inductive Operation
  | sighting (device : Device) (scanner : DeviceEventScanner)
  | request (served : DeviceRequest)
  | sweep

namespace Operation

/-- What an operation returns. -/
abbrev Outcome : Operation → Type
  | sighting _ _ => List DeviceChange
  | request _ => Reply
  | sweep => Unit

/-- The program of an operation. -/
def program (settings : Settings) : (operation : Operation) → Program backend operation.Outcome
  | sighting device scanner => recordSighting settings device scanner
  | request served => served.handler
  | sweep => Oott.sweep settings

/-- The device of a sighting was built by `build_device`, at some instant. -/
def Built (databases : Databases) : Operation → Prop
  | sighting device _ => ∃ mac ipv4 serviceHints name instant,
      device = buildDevice databases mac ipv4 serviceHints name instant
  | request _ => True
  | sweep => True

end Operation

end Oott
