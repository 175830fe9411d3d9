import CompleteDeviceManagement.Library.Dict
import CompleteDeviceManagement.Library.IpText

/-!
# WireGuardConfig: address allocation

Source: glue-services/iot-bridge-api/app/clients/wireguard.py,
`WireGuardConfig.allocate_ip` with `_load_peers` and `_save_peers`. Both
callers, `enroll_device` and `thingsboard_webhook`, call it synchronously, so
one call is one step of the database. `cdm_peers.json` is the map from device id
to address text that `json` reads back, absent until the first allocation.
-/

set_option autoImplicit false

namespace CompleteDeviceManagement.Source.WireGuard
open CompleteDeviceManagement.Library

/-- `ip_network(subnet, strict=False)` and `ip_address(server_ip)`. -/
structure WireGuardConfig where
  subnet : IpNetwork
  serverIp : IpAddress

abbrev Peers := Dict String String

inductive Error where
  | wireGuardError (message : String)
  /-- raised by `ip_address` for a recorded text that is no address -/
  | valueError (text : String)
  deriving DecidableEq, Repr

def loadPeers (peersDb : Option Peers) : Peers := peersDb.getD Dict.empty

/-- `{ipaddress.ip_address(ip) for ip in peers.values()}` -/
def usedAddresses : List String → Except Error (List IpAddress)
  | [] => .ok []
  | ip :: rest =>
      match IpAddress.ofText ip with
      | none => .error (.valueError ip)
      | some a => (usedAddresses rest).map fun used => a :: used

def networkText : IpNetwork → String
  | .v4 range =>
      (IpAddress.v4 (BitVec.ofNat 32 range.network)).text ++ "/" ++ toString range.prefixlen
  | .v6 range =>
      (IpAddress.v6 (BitVec.ofNat 128 range.network) none).text ++ "/" ++
        toString range.prefixlen

def exhausted (wg : WireGuardConfig) : Error :=
  .wireGuardError ("No available IPs in subnet " ++ networkText wg.subnet)

/-- The loop over `subnet.hosts()` stops at the first host that is not in use. -/
def allocateIp (wg : WireGuardConfig) (peersDb : Option Peers) (deviceId : String) :
    Except Error String × Option Peers :=
  let peers := loadPeers peersDb
  match peers.get? deviceId with
  | some ip => (.ok ip, peersDb)
  | none =>
      match usedAddresses peers.values with
      | .error error => (.error error, peersDb)
      | .ok used =>
          match wg.subnet.hosts.find? fun host => decide (host ∉ wg.serverIp :: used) with
          | some host => (.ok host.text, some (peers.set deviceId host.text))
          | none => (.error (exhausted wg), peersDb)

def run (wg : WireGuardConfig) (peersDb : Option Peers) (calls : List String) : Option Peers :=
  calls.foldl (fun db deviceId => (allocateIp wg db deviceId).2) peersDb

/-- The network of the tests that are about exhaustion: one host is left. -/
def smallNetwork : WireGuardConfig where
  subnet := .v4 (NetworkRange.containing (0x0A000000#32) 30 (by decide))
  serverIp := .v4 0x0A000001#32

example : (allocateIp smallNetwork none "device-a").1 = .ok "10.0.0.2" := by decide +kernel

example : (allocateIp smallNetwork (run smallNetwork none ["device-a"]) "device-b").1 =
    .error (.wireGuardError "No available IPs in subnet 10.0.0.0/30") := by decide +kernel

end CompleteDeviceManagement.Source.WireGuard
