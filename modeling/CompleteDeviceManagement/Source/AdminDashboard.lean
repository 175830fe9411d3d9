import CompleteDeviceManagement.Source.JoinRouter

/-!
# The dashboard of the admin portal

Source: `admin_dashboard` of glue-services/iot-bridge-api/app/routers/admin_portal.py. It
sorts the JOIN requests as `list_join_requests` does.
-/

set_option autoImplicit false

namespace CompleteDeviceManagement.Source.AdminDashboard
open CompleteDeviceManagement.Library CompleteDeviceManagement.Source.Models
  CompleteDeviceManagement.Source.Runtime CompleteDeviceManagement.Source.AdminPortal
  CompleteDeviceManagement.Source.JoinStore CompleteDeviceManagement.Source.JoinRouter
open CompleteDeviceManagement.Library.Fallible

/-- The JOIN requests from the file-based store; whatever raises makes an empty list. -/
def joinRequests : App (List JoinEntry) := do
  let sorted ← attempt (fun _ => true) do
    let joinStore ← loadStore
    pure (byRequestedAt joinStore.values)
  match sorted with
  | .ok requests => pure requests
  | .error _ => pure []

/-- A redirect (`none`) without an admin. The loads from Keycloak, RabbitMQ and step-ca
that come first are `aggregated`: each catches what it raises and none uses the store. -/
def adminDashboard {α : Type} (caller : Caller) (aggregated : App α) :
    App (Option (α × List JoinEntry)) := do
  let user ← language (getCdmAdmin caller)
  match user with
  | none => pure none
  | some _ => do
      let state ← aggregated
      let requests ← joinRequests
      pure (some (state, requests))

end CompleteDeviceManagement.Source.AdminDashboard
