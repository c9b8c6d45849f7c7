import Oott.Model.Time

/-!
# Notifications

The records of `model/notifications.rs`.
-/

set_option autoImplicit false
set_option relaxedAutoImplicit false

namespace Oott

/-- `model::notifications::NotificationType`. -/
inductive NotificationType
  | newDeviceFound
  | deviceOnlineAfterTime
  | deviceChanged
  | other
deriving DecidableEq

/-- `model::notifications::Notification`. -/
structure Notification where
  id : Int
  createdOn : Instant
  notificationType : NotificationType
  title : String
  body : String
  isNew : Bool
  macAddress : Option String
deriving DecidableEq

/-- `Notification::new`: a notification without a row yet, under the id -1. -/
def Notification.new (createdOn : Instant) (notificationType : NotificationType)
    (title body : String) (isNew : Bool) (macAddress : Option String) : Notification where
  id := -1
  createdOn := createdOn
  notificationType := notificationType
  title := title
  body := body
  isNew := isNew
  macAddress := macAddress

end Oott
