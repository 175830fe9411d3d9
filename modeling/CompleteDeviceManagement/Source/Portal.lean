import CompleteDeviceManagement.Library.Base64
import CompleteDeviceManagement.Source.Runtime

/-!
# The tenant portal: login, callback, logout

Source: glue-services/iot-bridge-api/app/routers/portal.py.
-/

set_option autoImplicit false

namespace CompleteDeviceManagement.Source.Portal
open CompleteDeviceManagement.Library CompleteDeviceManagement.Source.Runtime

/-! ## Tokens -/

/-- `_decode_jwt_payload`; `loads` is `json.loads` on bytes, and `none` where it
raises. Whatever raises makes an empty object. -/
def decodeJwtPayload (loads : List UInt8 → Option Json) (token : String) : Json :=
  match (token.toList.splitOn '.')[1]? with
  | none => .obj []
  | some part =>
      let padding := List.replicate (-(part.length : Int) % 4).toNat '='
      ((Base64.urlsafeB64decode (.ofList (part ++ padding))).bind loads).getD (.obj [])

/-! ## Settings and session -/

/-- What the portal is given and does not change: `loadsText` and `loads` are
`json.loads` on text and on bytes, and `none` where it raises. -/
structure PortalEnv where
  settings : Settings
  portalTenantsJson : String
  py : PyText
  loadsText : String → Option Json
  loads : List UInt8 → Option Json

/-- `session["user"]` -/
structure PortalUser where
  sub : Json
  name : Json
  preferredUsername : Json
  email : Json
  realm : String
  tenantName : Json
  roles : List String
  idToken : Json

/-- `request.session`; a key that is not there is `none`. -/
structure Session where
  oauthState : Option String
  oauthNonce : Option String
  oauthTenant : Option String
  user : Option PortalUser

def Session.empty : Session := ⟨none, none, none, none⟩

inductive PortalReply where
  /-- portal/tenant_select.html with an error -/
  | selectPage (error : String) (status : Nat)
  /-- status 302 -/
  | redirect (url : String)
  /-- the handler raised: status 500 -/
  | serverError

def adminRoles : List String := ["cdm-admin", "platform-admin"]

def operatorRoles : List String := ["cdm-operator", "platform-operator"]

def viewerRoles : List String := ["cdm-viewer"]

section Handlers

variable (env : PortalEnv)

def parseTenants : Json := (env.loadsText env.portalTenantsJson).getD (.obj [])

def callbackUri : String := env.settings.externalUrl ++ "/api/portal/callback"

/-! ## Login -/

/-- `value.lower()` -/
def lowerOf (py : PyText) : Json → Except PyError String
  | .str s => .ok (py.lower s)
  | v => .error (.attributeError ("'" ++ v.typeName ++ "' object has no attribute 'lower'"))

/-- `tenants.items()` -/
def membersOf : Json → Except PyError (List (String × Json))
  | .obj fields => .ok fields
  | v => .error (.attributeError ("'" ++ v.typeName ++ "' object has no attribute 'items'"))

/-- The first tenant of the static map with this ID or display name. -/
def matchTenant (tenantInput : String) : List (String × Json) → Except PyError (Option String)
  | [] => .ok none
  | (tid, entry) :: rest =>
      if tid = tenantInput then .ok (some tid)
      else do
        let name ← entry.get "name" (.str "")
        let lowered ← lowerOf env.py name
        if lowered = tenantInput then .ok (some tid) else matchTenant tenantInput rest

/-- The tenant to log in to. `realmStatus` is the status of a GET of a URL, and
`none` where httpx raises; no match and an empty ID ask Keycloak. -/
def findTenant (tenantInput : String) (realmStatus : String → Option Nat) :
    Except PyError (Option String) := do
  let members ← membersOf (parseTenants env)
  let matched ← matchTenant env tenantInput members
  let tenantId :=
    if (matched.getD "") ≠ "" then matched
    else if realmStatus (env.settings.keycloakUrl ++ "/realms/" ++ tenantInput) = some 200 then
      some tenantInput
    else matched
  .ok (tenantId.filter (· ≠ ""))

/-- `text.replace(old, new, 1)` -/
def replaceFirst (old new : List Char) : List Char → List Char
  | [] => if old.isEmpty then new else []
  | c :: rest =>
      if old.isPrefixOf (c :: rest) then new ++ (c :: rest).drop old.length
      else c :: replaceFirst old new rest

def authUrl (tenantId state nonce : String) : String :=
  let internal := env.settings.keycloakUrl ++ "/realms/" ++ tenantId ++
    "/protocol/openid-connect/auth" ++ "?client_id=portal" ++ "&response_type=code" ++
    "&scope=openid+profile+email+roles" ++ "&redirect_uri=" ++ callbackUri env ++
    "&state=" ++ state ++ "&nonce=" ++ nonce
  .ofList (replaceFirst env.settings.keycloakUrl.toList
    (env.settings.externalUrl ++ "/auth").toList internal.toList)

/-- `POST /portal/login`; `state` and `nonce` are the two draws of
`secrets.token_urlsafe(32)`, which only a request with a tenant makes. -/
def portalLogin (session : Session) (tenantField : String) (realmStatus : String → Option Nat)
    (state nonce : String) : Except Raised (Session × PortalReply) := do
  let tenantInput := env.py.lower (env.py.strip tenantField)
  match ← (findTenant env tenantInput realmStatus).mapError .language with
  | none => .ok (session,
      .selectPage "Organisation nicht gefunden. Bitte überprüfen Sie Ihre Eingabe." 400)
  | some tenantId => .ok (⟨some state, some nonce, some tenantId, none⟩,
      .redirect (authUrl env tenantId state nonce))

/-! ## Callback -/

structure CallbackQuery where
  code : Option String := none
  state : Option String := none
  error : Option String := none
  errorDescription : Option String := none

/-- The POST to the token endpoint of a realm, with its form. -/
structure TokenRequest where
  url : String
  data : List (String × String)

def tokenRequest (tenantId code : String) : TokenRequest where
  url := env.settings.keycloakUrl ++ "/realms/" ++ tenantId ++ "/protocol/openid-connect/token"
  data := [("grant_type", "authorization_code"), ("code", code),
    ("redirect_uri", callbackUri env), ("client_id", "portal"),
    ("client_secret", env.settings.portalOidcSecret)]

/-- `_decode_jwt_payload` on what a response has for a token: a value that is no
text raises inside its `try`. -/
def tokenPayload (token : Json) : Json :=
  match token with
  | .str text => decodeJwtPayload env.loads text
  | _ => .obj []

/-- `[r for r in roles if r in (ADMIN_ROLES | OPERATOR_ROLES | VIEWER_ROLES)]` -/
def cdmRoles : List Json → Except PyError (List String)
  | [] => .ok []
  | .str role :: rest => do
      let known ← cdmRoles rest
      .ok (if role ∈ adminRoles ++ operatorRoles ++ viewerRoles then role :: known else known)
  | r :: rest =>
      if r.hashable then cdmRoles rest
      else .error (.typeError ("unhashable type: '" ++ r.typeName ++ "'"))

/-- The user that a token response stands for. -/
def portalUser (tenantId : String) (tokenData : Json) : Except PyError PortalUser := do
  let accessToken ← tokenData.get "access_token" (.str "")
  let idToken ← tokenData.get "id_token" (.str "")
  let payload := tokenPayload env accessToken
  let realmAccess ← payload.get "realm_access" (.obj [])
  let roles ← realmAccess.get "roles" (.arr [])
  let items ← roles.iter
  let known ← cdmRoles items
  let sub ← payload.get "sub" (.str "")
  let name ← payload.get "name" .null
  let preferredUsername ← payload.get "preferred_username" (.str "")
  let email ← payload.get "email" (.str "")
  let entry ← (parseTenants env).get tenantId (.obj [])
  let tenantName ← entry.get "name" (.str tenantId)
  .ok
    { sub := sub
      name := if name.truthy then name else preferredUsername
      preferredUsername := preferredUsername
      email := email
      realm := tenantId
      tenantName := tenantName
      roles := known
      idToken := idToken }

/-- `bool(value)` of a text that may be `None`. -/
def given (value : Option String) : Bool := value.getD "" ≠ ""

/-- `GET /portal/callback`; `post` is the token endpoint. -/
def portalCallback (session : Session) (query : CallbackQuery) (post : TokenRequest → HttpResult) :
    Except Raised (Session × PortalReply) :=
  if given query.error then
    let msg := if given query.errorDescription then query.errorDescription else query.error
    .ok (session, .selectPage ("Anmeldung fehlgeschlagen: " ++ msg.getD "") 400)
  else if !given query.code || !given query.state || query.state ≠ session.oauthState ||
      !given session.oauthTenant then
    .ok (session, .selectPage "Ungültige Sitzung. Bitte erneut anmelden." 400)
  else
    let tenantId := session.oauthTenant.getD ""
    match post (tokenRequest env tenantId (query.code.getD "")) with
    | .failure text => .error (.requestError text)
    | .response resp =>
        if resp.status ≠ 200 then
          .ok (session,
            .selectPage "Token-Austausch fehlgeschlagen. Bitte erneut versuchen." 502)
        else do
          let tokenData ← resp.json.mapError .jsonDecodeError
          let user ← (portalUser env tenantId tokenData).mapError .language
          .ok (⟨none, none, none, some user⟩, .redirect "/api/portal/dashboard")

/-! ## Logout -/

/-- `GET /portal/logout` -/
def portalLogout (session : Session) : Session × PortalReply :=
  let realm := (session.user.map PortalUser.realm).getD "cdm"
  let idToken := (session.user.map PortalUser.idToken).getD (.str "")
  let logoutUrl := env.settings.externalUrl ++ "/auth/realms/" ++ realm ++
    "/protocol/openid-connect/logout" ++ "?post_logout_redirect_uri=" ++
    env.settings.externalUrl ++ "/api/portal/" ++ "&client_id=portal"
  (.empty, .redirect
    (if idToken.truthy then logoutUrl ++ "&id_token_hint=" ++ idToken.text env.py else logoutUrl))

/-! ## The router -/

/-- A request of one browser, with what the handler draws and is answered. -/
inductive PortalRequest where
  | login (tenantField : String) (realmStatus : String → Option Nat) (state nonce : String)
  | callback (query : CallbackQuery) (post : TokenRequest → HttpResult)
  | logout

/-- The session cookie is written with the response: an exception leaves the
browser with the one it had. -/
def delivered (session : Session) :
    Except Raised (Session × PortalReply) → Session × PortalReply
  | .ok outcome => outcome
  | .error _ => (session, .serverError)

def handle (session : Session) : PortalRequest → Session × PortalReply
  | .login tenantField realmStatus state nonce =>
      delivered session (portalLogin env session tenantField realmStatus state nonce)
  | .callback query post => delivered session (portalCallback env session query post)
  | .logout => portalLogout env session

end Handlers

end CompleteDeviceManagement.Source.Portal
