import CompleteDeviceManagement.Source.Runtime

/-!
# The step-ca client

Source: glue-services/iot-bridge-api/app/clients/step_ca.py. The routers make a
client for each request, so a client's cached key is never there yet. A signed
token is kept by what it signs.
-/

set_option autoImplicit false

namespace CompleteDeviceManagement.Source.StepCa
open CompleteDeviceManagement.Library CompleteDeviceManagement.Source.Runtime
open CompleteDeviceManagement.Library.Fallible

/-! ## The key of a JWK provisioner -/

/-- The loop over the provisioners that step-ca lists, for the one called
`name`. The methods that have this loop differ in their two messages. -/
def findKey (env : Env) (name password noKey notFound : String) :
    List Json → Except Raised Jwk
  | [] => .error (.stepCaError notFound)
  | prov :: rest => do
      let provName ← (prov.get "name" .null).mapError .language
      let kind ← if provName.isText name then (prov.get "type" .null).mapError .language
        else .ok .null
      if kind.isText "JWK" then do
        let encryptedKey ← (prov.get "encryptedKey" (.str "")).mapError .language
        if encryptedKey.truthy then
          (env.crypto.decryptKey encryptedKey password).mapError .packageError
        else .error (.stepCaError noKey)
      else findKey env name password noKey notFound rest

def loadKey (env : Env) (url name password noKey notFound : String) : App Jwk := do
  let resp ← exchange (.stepCaProvisioners url)
  resp.raiseForStatus
  let data ← resp.decoded
  let provisioners ← language (data.get "provisioners" (.arr []))
  let provs ← language provisioners.iter
  settled (findKey env name password noKey notFound provs)

/-- A token for `audience` that is valid for five minutes. -/
def token (key : Jwk) (issuer subject audience : String) (now : Datetime)
    (sans : Option (List String)) (sha : Option String) : Jwt where
  kid := key.keyId
  iss := issuer
  sub := subject
  aud := [audience]
  iat := now.unixSeconds
  nbf := now.unixSeconds
  exp := now.unixSeconds + 300
  sans := sans
  sha := sha
  key := key

/-- POST the CSR with its token, and take the two certificates out of the
answer. -/
def submit (url failure csrPem : String) (ott : Jwt) : App (Json × Json) := do
  let resp ← exchange (.stepCaSign url csrPem ott)
  if resp.isSuccess then do
    let data ← resp.decoded
    let crt ← language (data.item "crt")
    let ca ← language (data.item "ca")
    pure (crt, ca)
  else fail (.stepCaError (failure ++ toString resp.status ++ ": " ++ resp.text))

/-! ## `StepCAClient` -/

structure StepCAClient where
  url : String
  provisionerName : String
  provisionerPassword : String

namespace StepCAClient

variable (env : Env) (self : StepCAClient)

def loadSigningKey : App Jwk :=
  loadKey env self.url self.provisionerName self.provisionerPassword
    ("Provisioner '" ++ self.provisionerName ++ "' has no encryptedKey")
    ("JWK provisioner '" ++ self.provisionerName ++ "' not found in step-ca")

def makeOtt (subject : String) (sans : List String) (csrPem : String) : App Jwt := do
  let key ← self.loadSigningKey env
  let now ← now env
  let sha ← package (env.crypto.csrSha csrPem)
  let ott := token key self.provisionerName subject (self.url ++ "/1.0/sign") now sans sha
  package (env.crypto.signToken ott)
  pure ott

def signCertificate (csrPem subject : String) (sans : List String) : App (Json × Json) := do
  let ott ← self.makeOtt env subject sans csrPem
  submit self.url "step-ca /1.0/sign returned " csrPem ott

end StepCAClient

/-! ## `StepCAAdminClient` -/

structure StepCAAdminClient where
  url : String
  adminProvisioner : String
  adminPassword : String

namespace StepCAAdminClient

variable (env : Env) (self : StepCAAdminClient)

def signSubCaCsr (csrPem tenantId subCaProvisionerName subCaProvisionerPassword : String) :
    App (Json × Json) := do
  let key ← loadKey env self.url subCaProvisionerName subCaProvisionerPassword
    ("Sub-CA provisioner '" ++ subCaProvisionerName ++ "' has no encryptedKey")
    ("JWK provisioner '" ++ subCaProvisionerName ++ "' not found in step-ca")
  let sha ← package (env.crypto.csrSha csrPem)
  let now ← now env
  let ott := token key subCaProvisionerName tenantId (self.url ++ "/1.0/sign") now
    [tenantId] sha
  package (env.crypto.signToken ott)
  submit self.url "step-ca sub-CA sign returned " csrPem ott

def loadAdminKey : App Jwk :=
  loadKey env self.url self.adminProvisioner self.adminPassword
    ("Admin provisioner '" ++ self.adminProvisioner ++ "' has no encryptedKey")
    ("JWK admin provisioner '" ++ self.adminProvisioner ++ "' not found in step-ca")

def makeAdminToken : App Jwt := do
  let key ← self.loadAdminKey env
  let now ← now env
  let admin := token key self.adminProvisioner self.adminProvisioner (self.url ++ "/admin") now
    none none
  package (env.crypto.signToken admin)
  pure admin

/-- The payload of `add_oidc_provisioner`; no `admins` for an empty list. -/
def oidcPayload (name clientId clientSecret configurationEndpoint : String)
    (adminEmails : Json) : Json := .obj
  ([("type", .str "OIDC"), ("name", .str name), ("clientID", .str clientId),
    ("clientSecret", .str clientSecret), ("configurationEndpoint", .str configurationEndpoint),
    ("claims", .null), ("options", .null)] ++
    if adminEmails.truthy then [("admins", adminEmails)] else [])

def addOidcProvisioner (name clientId clientSecret configurationEndpoint : String)
    (adminEmails : Json) : App Json := do
  let adminToken ← self.makeAdminToken env
  let resp ← exchange (.stepCaAddProvisioner self.url adminToken
    (oidcPayload name clientId clientSecret configurationEndpoint adminEmails))
  if resp.isSuccess then resp.decoded
  else fail (.stepCaError ("step-ca add OIDC provisioner failed HTTP " ++
    toString resp.status ++ ": " ++ resp.text))

end StepCAAdminClient

end CompleteDeviceManagement.Source.StepCa
