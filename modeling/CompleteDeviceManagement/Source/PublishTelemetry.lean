import CompleteDeviceManagement.Source.EnrollClients

/-!
# The simulated telemetry of a device

Source: device-stack/docker-based/mqtt-client/publish-telemetry.sh, the publish
loop. `mosquitto_pub` may fail: the loop goes on, and what it does with the message
is left out. The arithmetic of the shell has 64 bits.
-/

set_option autoImplicit false

namespace CompleteDeviceManagement.Source.PublishTelemetry
open CompleteDeviceManagement.Source.EnrollClients

/-- What `od` reads from /dev/urandom in one round. -/
structure Draws where
  cpu : UInt16
  ram : UInt16
  disk : UInt16
  temp : UInt16
  rssi : UInt16

def randInt (min max : Int) (val : UInt16) : Int :=
  let range := max - min + 1
  Int.tmod val.toNat range + min

def payload (deviceId : String) (seq : Int) (draws : Draws) : String :=
  "\x7b\"sequence\":" ++ toString seq ++ ",\"cpu_percent\":" ++ toString (randInt 5 85 draws.cpu) ++
    ",\"ram_percent\":" ++ toString (randInt 30 90 draws.ram) ++
    ",\"disk_percent\":" ++ toString (randInt 10 70 draws.disk) ++
    ",\"temperature_c\":" ++ toString (randInt 38 72 draws.temp) ++
    ",\"rssi_dbm\":" ++ toString (randInt (-95) (-40) draws.rssi) ++
    ",\"ota_status\":\"" ++ "idle" ++ "\",\"device_id\":\"" ++ deviceId ++ "\"\x7d"

/-- The messages of so many rounds, from a value of `SEQ` on. -/
def publishLoop (deviceId : String) : Int → List Draws → List String
  | _, [] => []
  | seq, draws :: rest =>
      let seq := Int.bmod (seq + 1) (2 ^ 64)
      payload deviceId seq draws :: publishLoop deviceId seq rest

/-- What a run of the script publishes in its first rounds. -/
def published (deviceId : Option String) (rounds : List Draws) : List String :=
  publishLoop (orDefault deviceId "sim-device-001") 0 rounds

end CompleteDeviceManagement.Source.PublishTelemetry
