import CompleteDeviceManagement.Source.DeviceRuntime

/-!
# WireGuardConfig: the server's peer list and the client config

Source: glue-services/iot-bridge-api/app/clients/wireguard.py,
`get_server_pubkey`, `write_server_peer` and `generate_client_config`, and
`allocate_ip` as an operation on the WireGuard volume.
-/

set_option autoImplicit false

namespace CompleteDeviceManagement.Source.WireGuardPeers
open CompleteDeviceManagement.Library CompleteDeviceManagement.Source.WireGuard
  CompleteDeviceManagement.Source.DeviceRuntime

def getServerPubkey (py : PyText) (files : WgFiles) : String :=
  match files.publickey with
  | some text => py.strip text
  | none => "<SERVER_PUBLIC_KEY – run: docker exec cdm-wireguard cat /config/server/publickey>"

def peerBlock (deviceId deviceIp devicePubkey : String) : String :=
  "\n[Peer]\n# device: " ++ deviceId ++ "\nPublicKey = " ++ devicePubkey ++ "\nAllowedIPs = " ++
    deviceIp ++ "/32\n"

/-- The block is appended; without a wg0.conf nothing is written. -/
def writeServerPeer (deviceId deviceIp devicePubkey : String) (files : WgFiles) : WgFiles :=
  { files with wg0 := files.wg0.map fun conf => conf ++ peerBlock deviceId deviceIp devicePubkey }

def clientConfig (env : DeviceEnv) (deviceId deviceIp serverPubkey : String) : String :=
  "[Interface]\n# Device: " ++ deviceId ++ "\nAddress = " ++ deviceIp ++
    "/24\nPrivateKey = <REPLACE_WITH_DEVICE_PRIVATE_KEY>\nDNS = " ++ env.wg.serverIp.text ++
    "\n\n[Peer]\nPublicKey = " ++ serverPubkey ++ "\nEndpoint = " ++ env.settings.wgServerUrl ++
    ":" ++ toString env.settings.wgPort ++ "\nAllowedIPs = " ++ networkText env.wg.subnet ++
    "\nPersistentKeepalive = 25\n"

def generateClientConfig (env : DeviceEnv) (deviceId deviceIp devicePubkey : String) :
    DeviceApp String :=
  onFiles fun files =>
    let files := if devicePubkey = "" then files
      else writeServerPeer deviceId deviceIp devicePubkey files
    (.ok (clientConfig env deviceId deviceIp (getServerPubkey env.env.py files)), files)

def allocate (env : DeviceEnv) (deviceId : String) : DeviceApp String :=
  onFiles fun files =>
    ((allocateIp env.wg files.peersDb deviceId).1,
      { files with peersDb := (allocateIp env.wg files.peersDb deviceId).2 })

end CompleteDeviceManagement.Source.WireGuardPeers
