import CompleteDeviceManagement.Source.DeviceRuntime

/-!
# The hawkBit client

Source: glue-services/iot-bridge-api/app/clients/hawkbit.py. `get_target`
returns the decoded body, and `None` on 404.
-/

set_option autoImplicit false

namespace CompleteDeviceManagement.Source.HawkBit
open CompleteDeviceManagement.Library CompleteDeviceManagement.Source.Runtime
  CompleteDeviceManagement.Source.DeviceRuntime
open CompleteDeviceManagement.Library.Fallible

structure HawkBitClient where
  baseUrl : String
  username : String
  password : String

namespace HawkBitClient

variable (self : HawkBitClient)

def request (call : HawkBitCall) : DeviceApp Response :=
  DeviceRuntime.exchange (.hawkbit self.baseUrl self.username self.password call)

def unexpected {α : Type} (action : String) (resp : Response) : DeviceApp α :=
  fail (.hawkBitError ("hawkBit " ++ action ++ " returned " ++ toString resp.status ++ ": " ++
    resp.text))

def getTarget (controllerId : String) : DeviceApp Json := do
  let resp ← self.request (.getTarget controllerId)
  if resp.status = 404 then pure .null
  else if resp.isSuccess then decoded resp
  else unexpected "GET target" resp

def putAttributes (controllerId : String) (attributes : List (String × Json)) :
    DeviceApp Unit := do
  let resp ← self.request (.putAttributes controllerId attributes)
  if resp.isSuccess then pure () else unexpected "PUT attributes" resp

def createTarget (controllerId : String) (name : Json) (attributes : List (String × Json)) :
    DeviceApp Json := do
  let resp ← self.request (.postTargets controllerId name)
  if resp.isSuccess then do
    let created ← decoded resp
    let target ← checked created.first
    if attributes.isEmpty then pure target
    else do
      self.putAttributes controllerId attributes
      pure target
  else unexpected "POST targets" resp

end HawkBitClient

/-- `get_hawkbit_client` (app/deps.py); the constructor strips the base URL. -/
def getHawkbitClient (settings : DeviceSettings) : HawkBitClient :=
  ⟨rstripSlash settings.hawkbitUrl, settings.hawkbitUser, settings.hawkbitPassword⟩

end CompleteDeviceManagement.Source.HawkBit
