import CompleteDeviceManagement.Source.RabbitMq
import CompleteDeviceManagement.Source.StepCa

/-!
# The admin portal: guards and tenant lifecycle

Source: glue-services/iot-bridge-api/app/routers/admin_portal.py.
-/

set_option autoImplicit false

namespace CompleteDeviceManagement.Source.AdminPortal
open CompleteDeviceManagement.Library CompleteDeviceManagement.Source.Runtime
  CompleteDeviceManagement.Source.RabbitMq CompleteDeviceManagement.Source.StepCa
open CompleteDeviceManagement.Library.Fallible

/-- What a handler reads of the request besides path and body: the user in the
session (`null` if there is none) and two headers. -/
structure Caller where
  user : Json
  authorization : Option String
  xJoinKey : Option String

/-! ## Auth guard -/

def adminRoles : List String := ["cdm-admin", "platform-admin"]

/-- The session user if it is an admin of the cdm realm; a session of another
shape can make it raise. -/
def getCdmAdmin (caller : Caller) : Except PyError (Option Json) := do
  if caller.user.truthy then do
    let realm ← caller.user.get "realm" .null
    if realm.isText "cdm" then do
      let roles ← caller.user.get "roles" (.arr [])
      let admitted ← roles.meets adminRoles
      .ok (if admitted then some caller.user else none)
    else .ok none
  else .ok none

/-- The token of an `Authorization: Bearer` header. -/
def bearerToken (caller : Caller) : Option String :=
  let auth := (caller.authorization.getD "").toList
  if "Bearer ".toList.isPrefixOf auth then some (.ofList (auth.drop 7)) else none

/-- The claims in the payload of a token; `none` where decoding raises. -/
def tokenClaims (env : Env) (token : String) : Option Json :=
  match (token.toList.splitOn '.')[1]? with
  | none => none
  | some payload =>
      env.loadsBase64 (.ofList (payload ++ List.replicate (4 - payload.length % 4) '='))

/-- The roles of a token: `realm_access.roles`, or else the flat claim. -/
def claimedRoles (claims : Json) : Except PyError Json := do
  let access ← claims.get "realm_access" (.obj [])
  let roles ← access.get "roles" (.arr [])
  if roles.truthy then .ok roles else claims.get "roles" (.arr [])

/-- The user that a token stands for, after Keycloak's answer about it. -/
def bearerUser (env : Env) (token : String) (r : Response) : Except Raised Json :=
  if r.isSuccess then
    match tokenClaims env token with
    | none => .error (.httpException 401 "Malformed token")
    | some claims => do
        let roles ← (claimedRoles claims).mapError .language
        let admitted ← (roles.meets adminRoles).mapError .language
        if admitted then do
          let username ← (claims.get "preferred_username" (.str "")).mapError .language
          .ok (.obj [("realm", .str "cdm"), ("roles", roles), ("preferred_username", username)])
        else .error (.httpException 403
          "Access denied – cdm-admin or platform-admin role required")
  else .error (.httpException 401 "Invalid or expired token")

def requireCdmAdmin (env : Env) (caller : Caller) : App Json := do
  let user ← language (getCdmAdmin caller)
  match user, bearerToken caller with
  | some user, _ => pure user
  | none, none => fail (.httpException 401 "Authentication required")
  | none, some token => do
      let r ← exchange (.keycloakUserinfo env.settings.keycloakUrl token)
      settled (bearerUser env token r)

/-! ## Helper factories -/

def rabbitmq (settings : Settings) : RabbitMQClient :=
  ⟨rstripSlash settings.rabbitmqMgmtUrl, settings.rabbitmqAdminUser,
    settings.rabbitmqAdminPassword⟩

def stepCaAdmin (settings : Settings) : StepCAAdminClient :=
  ⟨rstripSlash settings.stepCaUrl, settings.stepCaAdminProvisioner,
    settings.stepCaAdminPassword⟩

/-- `string.ascii_letters + string.digits` -/
def passwordAlphabet : List Char :=
  "abcdefghijklmnopqrstuvwxyzABCDEFGHIJKLMNOPQRSTUVWXYZ0123456789".toList

def randomPassword (env : Env) : App String := choose env passwordAlphabet 24

/-! ## Keycloak helpers -/

def kcAdminToken (env : Env) : App String := do
  let resp ← exchange (.keycloakAdminToken env.settings.keycloakUrl
    env.settings.keycloakAdminUser env.settings.keycloakAdminPassword)
  if resp.isSuccess then do
    let data ← resp.decoded
    let token ← language (data.item "access_token")
    pure (token.text env.py)
  else fail (.runtimeError ("KC admin token failed HTTP " ++ toString resp.status ++ ": " ++
    prefixOf resp.text 200))

/-- `any(...)` over the mappers: stops at the first that has the audience. -/
def anyAudienceMapper : List Json → Except PyError Bool
  | [] => .ok false
  | m :: rest => do
      let config ← m.get "config" (.obj [])
      let audience ← config.get "included.client.audience" .null
      if audience.isText "account" then .ok true else anyAudienceMapper rest

def mapperPayload : Json := .obj
  [("name", .str "account-audience"), ("protocol", .str "openid-connect"),
    ("protocolMapper", .str "oidc-audience-mapper"), ("consentRequired", .bool false),
    ("config", .obj [("included.client.audience", .str "account"),
      ("id.token.claim", .str "false"), ("access.token.claim", .str "true")])]

/-- `resp.json() if resp.is_success else []` -/
def listed (resp : Response) : App Json :=
  if resp.isSuccess then resp.decoded else pure (.arr [])

def kcFixAccountConsole (env : Env) (realmId token : String) : App Unit := do
  let base := env.settings.keycloakUrl
  let resp ← exchange (.keycloakClients base token realmId "account-console")
  let clients ← listed resp
  if clients.truthy then do
    let client ← language clients.first
    let acId ← language (client.item "id")
    let resp ← exchange (.keycloakMappers base token realmId (acId.text env.py))
    let mappers ← listed resp
    let mappers ← language mappers.iter
    let present ← language (anyAudienceMapper mappers)
    if present then pure ()
    else do
      let _ ← exchange (.keycloakAddMapper base token realmId (acId.text env.py) mapperPayload)
      pure ()
  else pure ()

def realmPayload (env : Env) (realmId displayName : String) : Json := .obj
  [("id", .str realmId), ("realm", .str realmId), ("displayName", .str displayName),
    ("enabled", .bool true), ("sslRequired", .str "external"),
    ("registrationAllowed", .bool false), ("loginWithEmailAllowed", .bool true),
    ("duplicateEmailsAllowed", .bool false), ("resetPasswordAllowed", .bool true),
    ("editUsernameAllowed", .bool false), ("bruteForceProtected", .bool true),
    ("roles", .obj [("realm", .arr
      [.obj [("name", .str "cdm-admin"), ("description", .str "Tenant administrator")],
        .obj [("name", .str "cdm-operator"), ("description", .str "Fleet operator")],
        .obj [("name", .str "cdm-viewer"), ("description", .str "Read-only access")]])]),
    ("clients", .arr [.obj
      [("clientId", .str "portal"), ("name", .str "CDM Tenant Portal"), ("enabled", .bool true),
        ("protocol", .str "openid-connect"), ("publicClient", .bool false),
        ("secret", .str env.settings.portalOidcSecret), ("redirectUris", .arr [.str "*"]),
        ("webOrigins", .arr [.str "*"]), ("standardFlowEnabled", .bool true),
        ("implicitFlowEnabled", .bool false), ("directAccessGrantsEnabled", .bool false),
        ("postLogoutRedirectUris", .arr [.str "*"])]]),
    ("defaultDefaultClientScopes",
      .arr [.str "profile", .str "email", .str "roles", .str "web-origins"]),
    ("defaultOptionalClientScopes", .arr [.str "offline_access", .str "address", .str "phone"]),
    ("eventsEnabled", .bool true), ("eventsListeners", .arr [.str "jboss-logging"]),
    ("adminEventsEnabled", .bool true), ("adminEventsDetailsEnabled", .bool true)]

def kcCreateRealm (env : Env) (realmId displayName token : String) : App Unit := do
  let resp ← exchange (.keycloakCreateRealm env.settings.keycloakUrl token
    (realmPayload env realmId displayName))
  if resp.status ∈ [201, 409] then kcFixAccountConsole env realmId token
  else fail (.runtimeError ("KC create realm failed HTTP " ++ toString resp.status ++ ": " ++
    prefixOf resp.text 300))

def userPayload (env : Env) (username email password : String) : Json := .obj
  [("username", .str username), ("email", .str email),
    ("firstName", .str (env.py.capitalize username)), ("lastName", .str ""),
    ("enabled", .bool true), ("emailVerified", .bool true),
    ("credentials", .arr [.obj
      [("type", .str "password"), ("value", .str password), ("temporary", .bool true)]])]

/-- `[r for r in all_roles if r["name"] in roles]` -/
def namedRoles (roles : List String) : List Json → Except PyError (List Json)
  | [] => .ok []
  | r :: rest => do
      let name ← r.item "name"
      let others ← namedRoles roles rest
      .ok (if roles.any (fun role => name.isText role) then r :: others else others)

/-- `user_url.rstrip("/").split("/")[-1]` -/
def lastSegment (url : String) : String :=
  .ofList (((rstripSlash url).toList.splitOn '/').getLastD [])

def kcCreateUser (env : Env) (realmId username email password : String) (roles : List String)
    (token : String) : App Unit := do
  let base := env.settings.keycloakUrl
  let resp ← exchange (.keycloakCreateUser base token realmId
    (userPayload env username email password))
  if resp.status ∈ [201, 409] then
    if resp.status = 409 then pure ()
    else do
      let userId := lastSegment (resp.location.getD "")
      let rolesResp ← exchange (.keycloakRoles base token realmId)
      let allRoles ← listed rolesResp
      let allRoles ← language allRoles.iter
      let roleObjects ← language (namedRoles roles allRoles)
      if roleObjects ≠ [] ∧ userId ≠ "" then do
        let _ ← exchange (.keycloakAssignRoles base token realmId userId (.arr roleObjects))
        pure ()
      else pure ()
  else fail (.runtimeError ("KC create user failed HTTP " ++ toString resp.status ++ ": " ++
    prefixOf resp.text 300))

def kcDeleteRealm (env : Env) (realmId token : String) : App Unit := do
  let resp ← exchange (.keycloakDeleteRealm env.settings.keycloakUrl token realmId)
  if resp.status ∈ [204, 404] then pure ()
  else fail (.runtimeError ("KC delete realm failed HTTP " ++ toString resp.status))

/-! ## Routes -/

/-- A `JSONResponse` with one `error` member and its status. -/
structure Refusal where
  error : String
  statusCode : Nat

structure TenantCreated where
  realmId : String
  displayName : String
  adminUser : String
  adminEmail : String
  adminPassword : String
  results : Dict String String
  errors : Dict String String
  hint : String :=
    "Save the admin_password — it will not be shown again. " ++
      "The admin user must change it on first login (temporary=true)."

structure TenantDeleted where
  realmId : String
  results : Dict String String
  errors : Dict String String

def protectedRealms : List String := ["master", "cdm"]

/-- `str(body.get(key, fallback)).strip()` -/
def textMember (env : Env) (body : Json) (key fallback : String) : Except PyError String := do
  let value ← body.get key (.str fallback)
  .ok (env.py.strip (value.text env.py))

def createKeycloakRealm (env : Env)
    (realmId displayName adminUser adminEmail adminPassword : String) : App Unit := do
  let token ← kcAdminToken env
  kcCreateRealm env realmId displayName token
  kcCreateUser env realmId adminUser adminEmail adminPassword ["cdm-admin"] token

/-- The two steps of `create_tenant`, once the input is accepted. -/
def onboardTenant (env : Env) (realmId displayName adminEmail adminUser : String) :
    App TenantCreated := do
  let adminPassword ← randomPassword env
  let keycloak ← attempt (fun _ => true)
    (createKeycloakRealm env realmId displayName adminUser adminEmail adminPassword)
  let rmqPassword ← randomPassword env
  let broker ← attempt Raised.isRabbitMqError
    ((rabbitmq env.settings).provisionTenant realmId rmqPassword)
  let results := match keycloak with
    | .ok _ => Dict.empty.set "keycloak" "created"
    | .error _ => Dict.empty
  let errors := match keycloak with
    | .ok _ => Dict.empty
    | .error exc => Dict.empty.set "keycloak" (exc.text env.py)
  pure
    { realmId := realmId
      displayName := displayName
      adminUser := adminUser
      adminEmail := adminEmail
      adminPassword := adminPassword
      results := match broker with
        | .ok _ => ((results.set "rabbitmq" "created").set "rabbitmq_user" realmId).set
            "rabbitmq_password" rmqPassword
        | .error _ => results
      errors := match broker with
        | .ok _ => errors
        | .error exc => errors.set "rabbitmq" (exc.text env.py) }

/-- The body is the decoded one, or the text of the exception that decoding
raised. -/
def createTenant (env : Env) (caller : Caller) (body : Except String Json) :
    App (Except Refusal TenantCreated) := do
  let user ← language (getCdmAdmin caller)
  match user with
  | none => pure (.error ⟨"Unauthorized", 403⟩)
  | some _ =>
      match body with
      | .error _ => pure (.error ⟨"Invalid JSON body", 400⟩)
      | .ok body => do
          let realmId ← language (textMember env body "realm_id" "")
          let realmId := env.py.lower realmId
          let displayName ← language (textMember env body "display_name" realmId)
          let adminEmail ← language
            (textMember env body "admin_email" ("admin@" ++ realmId ++ ".local"))
          let adminUser ← language (textMember env body "admin_user" (realmId ++ "-admin"))
          if realmId = "" ∨ env.py.isidentifier realmId = false then
            pure (.error
              ⟨"realm_id must be a valid identifier (letters, digits, underscores)", 400⟩)
          else if realmId ∈ protectedRealms then
            pure (.error ⟨"Realm '" ++ realmId ++ "' is protected", 400⟩)
          else do
            let created ← onboardTenant env realmId displayName adminEmail adminUser
            pure (.ok created)

def deleteKeycloakRealm (env : Env) (realmId : String) : App Unit := do
  let token ← kcAdminToken env
  kcDeleteRealm env realmId token

/-- The two steps of `delete_tenant`. -/
def offboardTenant (env : Env) (realmId : String) : App TenantDeleted := do
  let keycloak ← attempt (fun _ => true) (deleteKeycloakRealm env realmId)
  let broker ← attempt Raised.isRabbitMqError
    ((rabbitmq env.settings).deprovisionTenant realmId)
  let results := match keycloak with
    | .ok _ => Dict.empty.set "keycloak" "deleted"
    | .error _ => Dict.empty
  let errors := match keycloak with
    | .ok _ => Dict.empty
    | .error exc => Dict.empty.set "keycloak" (exc.text env.py)
  pure
    { realmId := realmId
      results := match broker with
        | .ok _ => results.set "rabbitmq" "deleted"
        | .error _ => results
      errors := match broker with
        | .ok _ => errors
        | .error exc => errors.set "rabbitmq" (exc.text env.py) }

def deleteTenant (env : Env) (caller : Caller) (realmId : String) :
    App (Except Refusal TenantDeleted) := do
  let user ← language (getCdmAdmin caller)
  match user with
  | none => pure (.error ⟨"Unauthorized", 403⟩)
  | some _ =>
      if realmId ∈ protectedRealms then
        pure (.error ⟨"Realm '" ++ realmId ++ "' is protected", 400⟩)
      else do
        let deleted ← offboardTenant env realmId
        pure (.ok deleted)

structure ProvisionerAdded where
  realmId : String
  provisionerName : String
  configurationEndpoint : String
  result : Json

def addOidcProvisioner (env : Env) (caller : Caller) (realmId : String)
    (body : Except String Json) : App (Except Refusal ProvisionerAdded) := do
  let user ← language (getCdmAdmin caller)
  match user with
  | none => pure (.error ⟨"Unauthorized", 403⟩)
  | some _ =>
      match body with
      | .error _ => pure (.error ⟨"Invalid JSON body", 400⟩)
      | .ok body => do
          let clientId ← language (textMember env body "client_id" "step-ca")
          let clientSecret ← language (textMember env body "client_secret" "")
          let adminEmails ← language (body.get "admin_emails" (.arr []))
          let configurationEndpoint := env.settings.keycloakUrl ++ "/realms/" ++ realmId ++
            "/.well-known/openid-configuration"
          let provisionerName := realmId ++ "-keycloak"
          let added ← attempt Raised.isStepCaError
            ((stepCaAdmin env.settings).addOidcProvisioner env provisionerName clientId
              clientSecret configurationEndpoint adminEmails)
          match added with
          | .ok result => pure (.ok
              { realmId := realmId
                provisionerName := provisionerName
                configurationEndpoint := configurationEndpoint
                result := result })
          | .error exc => pure (.error ⟨exc.text env.py, 502⟩)

end CompleteDeviceManagement.Source.AdminPortal
