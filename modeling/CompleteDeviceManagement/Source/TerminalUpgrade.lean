import CompleteDeviceManagement.Library.Dict
import CompleteDeviceManagement.Library.PyValue

/-!
# terminal-proxy: one upgrade request

Source: glue-services/terminal-proxy/src/server.ts, the `upgrade` listener of
`createProxyServer`, with `createVerifier` of src/auth.ts and
`createFileIpResolver` of src/ipResolver.ts as src/index.ts wires them. The
URL parser, the token library and the handshake of `ws` are given from outside;
`cdm_peers.json` is what `JSON.parse` makes of it, and `none` where reading or
parsing throws.
-/

set_option autoImplicit false

namespace CompleteDeviceManagement.Source.TerminalUpgrade
open CompleteDeviceManagement.Library

/-! ## src/auth.ts -/

structure JwtHeader where
  kid : Option String
  deriving DecidableEq

structure AuthConfig where
  audience : String

/-- The callback's `(err, key)`: an error, or the key if there is one. -/
abbrev GetKeyFn := JwtHeader → Except String (Option String)

/-- What `createVerifier` uses of jwks-rsa and jsonwebtoken. -/
structure Packages where
  /-- `client.getSigningKey(kid)`, with the public key taken out of the answer -/
  getSigningKey : Option String → Except String (Option String)
  /-- `jwt.verify(token, getKey, { audience })` -/
  verify : String → GetKeyFn → String → Except String Json

/-- A promise that resolves is `.ok`, one that rejects is `.error`. -/
def createVerifier (packages : Packages) (authConfig : AuthConfig) (getKeyFn : Option GetKeyFn)
    (token : String) : Except String Json :=
  let resolveKey := getKeyFn.getD fun header => packages.getSigningKey header.kid
  packages.verify token resolveKey authConfig.audience

/-- `payload.realm_access.roles`, where Keycloak puts the roles of the realm. -/
def realmRoles : Json → List String
  | .obj claims =>
      match Json.field? "realm_access" claims with
      | some (.obj access) =>
          match Json.field? "roles" access with
          | some (.arr roles) => roles.filterMap fun
              | .str role => some role
              | _ => none
          | _ => []
      | _ => []
  | _ => []

/-! ## src/ipResolver.ts -/

abbrev Peers := Dict String String

/-- The text a template gives for what an object inherits under this name. -/
def inherited (name : String) : Option String :=
  if name = "__proto__" then some "[object Object]"
  else if name = "constructor" then some "function Object() \x7b [native code] \x7d"
  else if name ∈ ["__defineGetter__", "__defineSetter__", "hasOwnProperty", "__lookupGetter__",
      "__lookupSetter__", "isPrototypeOf", "propertyIsEnumerable", "toString", "valueOf",
      "toLocaleString"] then some ("function " ++ name ++ "() \x7b [native code] \x7d")
  else none

/-- `peers[deviceId] ?? null` -/
def resolve (peersDb : Option Peers) (deviceId : String) : Option String :=
  match peersDb with
  | none => none
  | some peers =>
      match peers.get? deviceId with
      | some ip => some ip
      | none => inherited deviceId

/-! ## src/server.ts -/

/-- `new URL(…)`: the path and the pairs of `searchParams` in order. -/
structure Url where
  pathname : String
  searchParams : List (String × String)

/-- `searchParams.get(name)` -/
def Url.param (url : Url) (name : String) : Option String :=
  (url.searchParams.find? fun pair => pair.1 == name).map Prod.snd

def parseDeviceId (pathname : String) : Option String :=
  match (pathname.toList.splitOn '/').filter (· ≠ []) with
  | root :: deviceId :: _ => if root = "terminal".toList then some (.ofList deviceId) else none
  | _ => none

structure ServerDeps where
  verifyToken : String → Except String Json
  resolveIp : String → Option String
  ttydPort : Nat

/-- What one request did: the texts written to its raw socket, whether that was
destroyed, the URLs given to `connectToDevice`, and whether the listener threw. -/
structure Upgrade where
  written : List String := []
  destroyed : Bool := false
  connected : List String := []
  thrown : Bool := false
  deriving DecidableEq

def rejectUpgrade (statusCode : Nat) (statusText : String) : Upgrade where
  written := ["HTTP/1.1 " ++ toString statusCode ++ " " ++ statusText ++
    "\r\nConnection: close\r\n\r\n"]
  destroyed := true

/-- What the listener takes from Node and ws: `new URL(rawUrl, "ws://localhost")`,
which may throw, and the text with which `wss.handleUpgrade` refuses a request
that is no WebSocket handshake before it destroys the socket. -/
structure Host (R : Type) where
  rawUrl : R → String
  newUrl : String → Option Url
  refuses : R → Option String

section Handler

variable {R : Type} (host : Host R) (deps : ServerDeps)

/-- `wss.handleUpgrade(request, socket, head, callback)`: the callback connects. -/
def handleUpgrade (request : R) (vpnIp : String) : Upgrade :=
  match host.refuses request with
  | some response => { written := [response], destroyed := true }
  | none => { connected := ["ws://" ++ vpnIp ++ ":" ++ toString deps.ttydPort] }

/-- An empty string is falsy, so it is no token and no address. -/
def onUpgrade (request : R) : Upgrade :=
  match host.newUrl (host.rawUrl request) with
  | none => { thrown := true }
  | some parsed =>
      match parseDeviceId parsed.pathname with
      | none => rejectUpgrade 404 "Not Found"
      | some deviceId =>
          match (parsed.param "token").filter (· ≠ "") with
          | none => rejectUpgrade 401 "Unauthorized"
          | some token =>
              match deps.verifyToken token with
              | .error _ => rejectUpgrade 401 "Unauthorized"
              | .ok _ =>
                  match (deps.resolveIp deviceId).filter (· ≠ "") with
                  | none => rejectUpgrade 404 "Device Not Found"
                  | some vpnIp => handleUpgrade host deps request vpnIp

end Handler

/-- src/index.ts: the verifier and the resolver behind the listener. -/
def serverDeps (packages : Packages) (authConfig : AuthConfig) (peersDb : Option Peers)
    (ttydPort : Nat) : ServerDeps where
  verifyToken := createVerifier packages authConfig none
  resolveIp := resolve peersDb
  ttydPort := ttydPort

end CompleteDeviceManagement.Source.TerminalUpgrade
