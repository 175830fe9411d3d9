import Mathlib.Data.String.Basic

/-!
# The URLs that a name is written into

The f-strings of the clients that put a realm or a device into a path as it is.
Source: `_kc_delete_realm` in glue-services/iot-bridge-api/app/routers/admin_portal.py,
`get_target` and `_put_attributes` in app/clients/hawkbit.py.
-/

set_option autoImplicit false

namespace CompleteDeviceManagement.Source.Urls

/-- `_kc_delete_realm` -/
def deleteRealmUrl (keycloakUrl realmId : String) : String :=
  keycloakUrl ++ "/admin/realms/" ++ realmId

/-- `get_target` -/
def targetUrl (baseUrl controllerId : String) : String :=
  baseUrl ++ "/rest/v1/targets/" ++ controllerId

/-- `_put_attributes` -/
def attributesUrl (baseUrl controllerId : String) : String :=
  baseUrl ++ "/rest/v1/targets/" ++ controllerId ++ "/attributes"

end CompleteDeviceManagement.Source.Urls
