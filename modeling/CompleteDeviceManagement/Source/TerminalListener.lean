import CompleteDeviceManagement.Source.IpResolver

/-!
# terminal-proxy: what the upgrade listener does, and what leaves it

Source: glue-services/terminal-proxy/src/server.ts, the `upgrade` listener of
`createProxyServer` and its `handleUpgrade` callback up to `connect(ttydUrl)`.
The listener is async and nothing around it catches: an exception inside rejects
a promise that nobody awaits. `TerminalUpgrade` has the same listener with the
verifier behind it and without the connection's own failures.
-/

set_option autoImplicit false

namespace CompleteDeviceManagement.Source.TerminalListener
open CompleteDeviceManagement.Library CompleteDeviceManagement.Source.IpResolver
open CompleteDeviceManagement.Source.TerminalUpgrade (Host Url parseDeviceId)

inductive Effect where
  /-- `rejectUpgrade(socket, statusCode, statusText)` -/
  | rejectUpgrade (statusCode : Nat) (statusText : String)
  /-- `wss.handleUpgrade(request, socket, head, callback)` -/
  | handleUpgrade
  /-- `connect(ttydUrl)` returned a socket -/
  | connect (ttydUrl : String)
  deriving DecidableEq

/-- What the listener did, and whether an exception left it. -/
structure Ending where
  effects : List Effect
  escaped : Bool
  deriving DecidableEq

/-- How things stand when `verifyToken` has settled: its outcome, the peers file,
and whether the client has gone meanwhile. -/
structure Settled where
  verified : Except String Json
  content : Option String
  gone : Bool

section Listener

variable {R : Type} (host : Host R) (engine : Engine) (newWebSocket : String → Bool)
  (ttydPort : Nat)

/-- The callback: `newWebSocket` says whether the constructor takes the URL. -/
def openDevice (vpnIp : JsValue) : Ending :=
  match textOf engine vpnIp with
  | none => ⟨[.handleUpgrade], true⟩
  | some text =>
      let ttydUrl := "ws://" ++ text ++ ":" ++ toString ttydPort
      if newWebSocket ttydUrl then ⟨[.handleUpgrade, .connect ttydUrl], false⟩
      else ⟨[.handleUpgrade], true⟩

/-- ws calls back for a well-formed handshake of a client that is still there,
and answers or destroys the socket itself otherwise. -/
def completes (request : R) (settled : Settled) : Bool :=
  (host.refuses request).isNone && !settled.gone

def onUpgrade (request : R) (settled : Settled) : Ending :=
  match host.newUrl (host.rawUrl request) with
  | none => ⟨[], true⟩
  | some parsed =>
      match parseDeviceId parsed.pathname with
      | none => ⟨[.rejectUpgrade 404 "Not Found"], false⟩
      | some deviceId =>
          match (parsed.param "token").filter (· ≠ "") with
          | none => ⟨[.rejectUpgrade 401 "Unauthorized"], false⟩
          | some _ =>
              match settled.verified with
              | .error _ => ⟨[.rejectUpgrade 401 "Unauthorized"], false⟩
              | .ok _ =>
                  match (resolve engine settled.content deviceId).filter (truthy engine) with
                  | none => ⟨[.rejectUpgrade 404 "Device Not Found"], false⟩
                  | some vpnIp =>
                      if completes host request settled then
                        openDevice engine newWebSocket ttydPort vpnIp
                      else ⟨[.handleUpgrade], false⟩

end Listener

end CompleteDeviceManagement.Source.TerminalListener
