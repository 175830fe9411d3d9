import CompleteDeviceManagement.Source.JoinRouter

/-!
# What the provisioning asks of the services, and what it makes of the answers

The parts of the handlers between two file operations. They leave files and
locks alone, make calls for one tenant only, and take a certificate from nobody
but the signer: a certificate in the bundle is the `crt` member of an answer to
the CSR that was sent, where `answers` says which answers are given.
-/

set_option autoImplicit false

namespace CompleteDeviceManagement.Guarantees.Provisioning
open CompleteDeviceManagement.Library CompleteDeviceManagement.Source.Models
  CompleteDeviceManagement.Source.Runtime CompleteDeviceManagement.Source.RabbitMq
  CompleteDeviceManagement.Source.StepCa CompleteDeviceManagement.Source.AdminPortal
  CompleteDeviceManagement.Source.JoinRouter
open CompleteDeviceManagement.Library.Fallible

/-! ## Calm parts -/

structure SameFiles (w w' : World) : Prop where
  requests : w'.requests = w.requests
  keys : w'.keys = w.keys

theorem SameFiles.refl (w : World) : SameFiles w w := ⟨rfl, rfl⟩

theorem SameFiles.trans {w w' w'' : World} (h : SameFiles w w') (h' : SameFiles w' w'') :
    SameFiles w w'' := ⟨h'.requests.trans h.requests, h'.keys.trans h.keys⟩

theorem SameFiles.table {w w' : World} (h : SameFiles w w') :
    Source.JoinKeyStore.table w' = Source.JoinKeyStore.table w := by
  simp only [Source.JoinKeyStore.table, h.keys]

theorem SameFiles.entries {w w' : World} (h : SameFiles w w') :
    Source.JoinStore.entries w' = Source.JoinStore.entries w := by
  simp only [Source.JoinStore.entries, h.requests]

/-- Files and locks are as they were. -/
structure Undisturbed (w w' : World) : Prop where
  files : SameFiles w w'
  storeLocked : w'.storeLocked = w.storeLocked
  keyLocked : w'.keyLocked = w.keyLocked

section Calm

variable {α β : Type} {calls : HttpRequest → Prop} {answers : HttpRequest → HttpResult → Prop}

variable (calls answers) in
abbrev Calm (post : Except Raised α → Prop) (x : App α) : Prop :=
  Proc.Quiet Undisturbed calls answers post x.run

/-- No more is said about the result. -/
def anyResult (_ : Except Raised α) : Prop := True

theorem Calm.bind {x : App α} {f : α → App β} {mid : Except Raised α → Prop}
    {post : Except Raised β → Prop} (hx : Calm calls answers mid x)
    (hok : ∀ value, mid (.ok value) → Calm calls answers post (f value))
    (herr : ∀ error, mid (.error error) → post (.error error)) :
    Calm calls answers post (x >>= f) := quiet_bind_of hx hok herr

theorem Calm.andThen {x : App α} {f : α → App β} (hx : Calm calls answers anyResult x)
    (hf : ∀ value, Calm calls answers anyResult (f value)) :
    Calm calls answers anyResult (x >>= f) :=
  hx.bind (fun value _ => hf value) fun _ _ => trivial

theorem calm_pure {post : Except Raised α → Prop} {value : α} (h : post (.ok value)) :
    Calm calls answers post (pure value : App α) := h

theorem calm_fail {post : Except Raised α → Prop} {error : Raised} (h : post (.error error)) :
    Calm calls answers post (fail error : App α) := h

theorem calm_language (result : Except PyError α) :
    Calm calls answers (fun r => r = result.mapError .language) (language result) := rfl

theorem calm_language_any (result : Except PyError α) :
    Calm calls answers anyResult (language result) := trivial

theorem calm_package (result : Except String α) :
    Calm calls answers anyResult (package result) := trivial

theorem calm_exchange {post : Except Raised Response → Prop} {request : HttpRequest}
    (asked : calls request)
    (answered : ∀ r, answers request (.response r) → post (.ok r))
    (failed : ∀ text, answers request (.failure text) → post (.error (.requestError text))) :
    Calm calls answers post (exchange request) := by
  refine ⟨asked, fun answer given => ?_⟩
  cases answer with
  | response r => exact answered r given
  | failure text => exact failed text given

theorem calm_exchange_any {request : HttpRequest} (asked : calls request) :
    Calm calls answers anyResult (exchange request) :=
  calm_exchange asked (fun _ _ => trivial) fun _ _ => trivial

theorem Calm.ask {request : HttpRequest} {f : Response → App β} (asked : calls request)
    (hf : ∀ resp, Calm calls answers anyResult (f resp)) :
    Calm calls answers anyResult (exchange request >>= f) :=
  (calm_exchange_any asked).andThen hf

theorem calm_decoded (r : Response) :
    Calm calls answers (fun result => result = r.json.mapError .jsonDecodeError) r.decoded := rfl

theorem calm_decoded_any (r : Response) : Calm calls answers anyResult r.decoded := trivial

theorem calm_raiseForStatus (r : Response) : Calm calls answers anyResult r.raiseForStatus := by
  unfold Response.raiseForStatus
  split
  · exact calm_pure trivial
  · exact calm_fail trivial

theorem calm_now (env : Env) : Calm calls answers anyResult (now env) :=
  fun _ => ⟨⟨.refl _, rfl, rfl⟩, fun _ => ⟨⟨⟨rfl, rfl⟩, rfl, rfl⟩, trivial⟩⟩

theorem calm_choose (env : Env) (alphabet : List Char) (n : Nat) :
    Calm calls answers anyResult (choose env alphabet n) :=
  fun _ => ⟨⟨.refl _, rfl, rfl⟩, fun _ => ⟨⟨⟨rfl, rfl⟩, rfl, rfl⟩, trivial⟩⟩

theorem calm_attempt {catches : Raised → Bool} {body : App α} {mid : Except Raised α → Prop}
    {post : Except Raised (Except Raised α) → Prop} (hbody : Calm calls answers mid body)
    (hok : ∀ value, mid (.ok value) → post (.ok (.ok value)))
    (hcaught : ∀ error, mid (.error error) → catches error = true → post (.ok (.error error)))
    (hraised : ∀ error, mid (.error error) → catches error = false → post (.error error)) :
    Calm calls answers post (attempt catches body) := quiet_attempt hbody hok hcaught hraised

theorem calm_attempt_any (catches : Raised → Bool) {body : App α}
    (hbody : Calm calls answers anyResult body) :
    Calm calls answers anyResult (attempt catches body) :=
  calm_attempt hbody (fun _ _ => trivial) (fun _ _ _ => trivial) fun _ _ _ => trivial

end Calm

/-! ## Signing -/

/-- Some answer of the signer to this CSR, under a token of this issuer for
this subject, carries `cert` as its certificate. -/
def Certified (answers : HttpRequest → HttpResult → Prop) (csr issuer subject : String)
    (cert : Json) : Prop :=
  ∃ url ott r data, answers (.stepCaSign url csr ott) (.response r) ∧ ott.iss = issuer ∧
    ott.sub = subject ∧ r.isSuccess = true ∧ r.json = .ok data ∧ data.item "crt" = .ok cert

section Signing

variable {calls : HttpRequest → Prop} {answers : HttpRequest → HttpResult → Prop} {env : Env}

theorem loadKey_calm {url name password noKey notFound : String}
    (asked : calls (.stepCaProvisioners url)) :
    Calm calls answers anyResult (loadKey env url name password noKey notFound) := by
  refine Calm.ask asked ?_
  intro resp
  apply (calm_raiseForStatus resp).andThen
  intro _
  apply (calm_decoded_any resp).andThen
  intro data
  apply (calm_language_any _).andThen
  intro provisioners
  apply (calm_language_any _).andThen
  intro provs
  exact trivial

theorem submit_calm {url failure csrPem : String} {ott : Jwt}
    (asked : calls (.stepCaSign url csrPem ott)) :
    Calm calls answers
      (fun result => ∀ certs, result = .ok certs →
        Certified answers csrPem ott.iss ott.sub certs.1)
      (submit url failure csrPem ott) := by
  have exchanged : Calm calls answers
      (fun result => ∀ r, result = .ok r → answers (.stepCaSign url csrPem ott) (.response r))
      (exchange (.stepCaSign url csrPem ott)) := by
    apply calm_exchange asked
    · intro r given r' hr
      cases hr
      exact given
    · intro text _ r hr
      cases hr
  refine exchanged.bind ?_ ?_
  · intro resp given
    by_cases success : resp.isSuccess = true
    · rw [if_pos success]
      refine (calm_decoded resp).bind (fun data hdata => ?_) (fun error _ certs h => by cases h)
      refine (calm_language (data.item "crt")).bind (fun crt hcrt => ?_)
        (fun error _ certs h => by cases h)
      refine (calm_language (data.item "ca")).bind (fun ca _ => ?_)
        (fun error _ certs h => by cases h)
      intro certs h
      cases h
      refine ⟨url, ott, resp, data, given resp rfl, rfl, rfl, success, ?_, ?_⟩
      · cases hjson : resp.json with
        | ok data' =>
          rw [hjson] at hdata
          cases hdata
          rfl
        | error text =>
          rw [hjson] at hdata
          cases hdata
      · cases hitem : data.item "crt" with
        | ok crt' =>
          rw [hitem] at hcrt
          cases hcrt
          rfl
        | error error =>
          rw [hitem] at hcrt
          cases hcrt
    · rw [if_neg success]
      intro certs h
      cases h
  · intro error _ certs h
    cases h

theorem signSubCaCsr_calm {self : StepCAAdminClient} {csrPem tenantId name password : String}
    (provisioners : calls (.stepCaProvisioners self.url))
    (sign : ∀ ott : Jwt, ott.iss = name → ott.sub = tenantId →
      calls (.stepCaSign self.url csrPem ott)) :
    Calm calls answers
      (fun result => ∀ certs, result = .ok certs →
        Certified answers csrPem name tenantId certs.1)
      (self.signSubCaCsr env csrPem tenantId name password) := by
  refine (loadKey_calm provisioners).bind (fun key _ => ?_) (fun _ _ certs h => by cases h)
  refine (calm_package _).bind (fun sha _ => ?_) (fun _ _ certs h => by cases h)
  refine (calm_now env).bind (fun now _ => ?_) (fun _ _ certs h => by cases h)
  refine (calm_package _).bind (fun _ _ => ?_) (fun _ _ certs h => by cases h)
  exact submit_calm (sign _ rfl rfl)

theorem signCertificate_calm {self : StepCAClient} {csrPem subject : String} {sans : List String}
    (provisioners : calls (.stepCaProvisioners self.url))
    (sign : ∀ ott : Jwt, ott.iss = self.provisionerName → ott.sub = subject →
      calls (.stepCaSign self.url csrPem ott)) :
    Calm calls answers
      (fun result => ∀ certs, result = .ok certs →
        Certified answers csrPem self.provisionerName subject certs.1)
      (self.signCertificate env csrPem subject sans) := by
  have ott : Calm calls answers
      (fun result => ∀ ott, result = .ok ott → ott.iss = self.provisionerName ∧ ott.sub = subject)
      (self.makeOtt env subject sans csrPem) := by
    refine (loadKey_calm provisioners).bind (fun key _ => ?_) (fun _ _ ott h => by cases h)
    refine (calm_now env).bind (fun now _ => ?_) (fun _ _ ott h => by cases h)
    refine (calm_package _).bind (fun sha _ => ?_) (fun _ _ ott h => by cases h)
    refine (calm_package _).bind (fun _ _ => ?_) (fun _ _ ott h => by cases h)
    intro ott h
    cases h
    exact ⟨rfl, rfl⟩
  refine ott.bind (fun ott hott => ?_) (fun _ _ certs h => by cases h)
  obtain ⟨issuer, subj⟩ := hott ott rfl
  have submitted : Calm calls answers
      (fun result => ∀ certs, result = .ok certs →
        Certified answers csrPem ott.iss ott.sub certs.1)
      (submit self.url "step-ca /1.0/sign returned " csrPem ott) :=
    submit_calm (sign ott issuer subj)
  rw [issuer, subj] at submitted
  exact submitted

end Signing

/-! ## The calls for one tenant -/

/-- Set up `user` with its `vhost`. -/
def SetsUp (user vhost : String) : RabbitCall → Prop
  | .putVhost name _ => name = vhost
  | .putUser name _ tags => name = user ∧ tags = "none"
  | .putPermissions name host _ _ _ => name = user ∧ host = vhost
  | .deleteVhost _ => False
  | .deleteUser _ => False

/-- Remove the user and the vhost called `name`. -/
def TakesDown (name : String) : RabbitCall → Prop
  | .deleteVhost host => host = name
  | .deleteUser user => user = name
  | _ => False

/-- The calls of the JOIN provisioning of a tenant. -/
def ProvisioningCall (env : Env) (tenantId : String) : HttpRequest → Prop
  | .stepCaProvisioners _ => True
  | .stepCaSign _ _ ott =>
      (ott.iss = env.settings.stepCaSubCaProvisioner ∧ ott.sub = tenantId) ∨
        (ott.iss = env.settings.stepCaProvisionerName ∧ ott.sub = mqttUser tenantId)
  | .stepCaRoot _ _ => True
  | .rabbitmq _ _ _ call => SetsUp (mqttUser tenantId) tenantId call
  | .keycloakAdminToken _ _ _ => True
  | .keycloakCreateClient _ _ payload =>
      payload.item "clientId" = .ok (.str ("cdm-federation-" ++ tenantId))
  | _ => False

/-- The calls of `create_tenant`. -/
def OnboardingCall (realmId : String) : HttpRequest → Prop
  | .rabbitmq _ _ _ call => SetsUp realmId realmId call
  | .keycloakAdminToken _ _ _ => True
  | .keycloakCreateRealm _ _ payload => payload.item "realm" = .ok (.str realmId)
  | .keycloakClients _ _ realm _ => realm = realmId
  | .keycloakMappers _ _ realm _ => realm = realmId
  | .keycloakAddMapper _ _ realm _ _ => realm = realmId
  | .keycloakCreateUser _ _ realm _ => realm = realmId
  | .keycloakRoles _ _ realm => realm = realmId
  | .keycloakAssignRoles _ _ realm _ _ => realm = realmId
  | _ => False

/-- The calls of `delete_tenant`. -/
def OffboardingCall (realmId : String) : HttpRequest → Prop
  | .rabbitmq _ _ _ call => TakesDown realmId call
  | .keycloakAdminToken _ _ _ => True
  | .keycloakDeleteRealm _ _ realm => realm = realmId
  | _ => False

/-! ## Brokers and realms -/

section Calls

variable {calls : HttpRequest → Prop} {answers : HttpRequest → HttpResult → Prop} {env : Env}

theorem request_calm {self : RabbitMQClient} {call : RabbitCall} {expected : List Nat}
    {action : String}
    (asked : calls (.rabbitmq self.mgmtUrl self.adminUser self.adminPassword call)) :
    Calm calls answers anyResult (self.request call expected action) := by
  refine Calm.ask asked ?_
  intro resp
  split
  · exact trivial
  · unfold raiseForStatus
    split
    · exact calm_pure trivial
    · exact calm_fail trivial

theorem kcAdminToken_calm (asked : ∀ base user password,
    calls (.keycloakAdminToken base user password)) :
    Calm calls answers anyResult (kcAdminToken env) := by
  refine Calm.ask (asked _ _ _) ?_
  intro resp
  split
  · apply (calm_decoded_any resp).andThen
    intro data
    apply (calm_language_any _).andThen
    intro token
    exact trivial
  · exact trivial

theorem listed_calm (resp : Response) : Calm calls answers anyResult (listed resp) := by
  unfold listed
  split
  · exact calm_decoded_any resp
  · exact calm_pure trivial

theorem kcFixAccountConsole_calm (realmId token : String) :
    Calm (OnboardingCall realmId) answers anyResult (kcFixAccountConsole env realmId token) := by
  refine Calm.ask rfl ?_
  intro resp
  apply (listed_calm resp).andThen
  intro clients
  split
  · apply (calm_language_any _).andThen
    intro client
    apply (calm_language_any _).andThen
    intro acId
    refine Calm.ask rfl ?_
    intro resp
    apply (listed_calm resp).andThen
    intro mappers
    apply (calm_language_any _).andThen
    intro mappers
    apply (calm_language_any _).andThen
    intro present
    split
    · exact trivial
    · exact Calm.ask rfl fun _ => trivial
  · exact trivial

theorem kcCreateRealm_calm (realmId displayName token : String) :
    Calm (OnboardingCall realmId) answers anyResult
      (kcCreateRealm env realmId displayName token) := by
  refine Calm.ask rfl ?_
  intro resp
  split
  · exact kcFixAccountConsole_calm realmId token
  · exact trivial

theorem kcCreateUser_calm (realmId username email password : String) (roles : List String)
    (token : String) :
    Calm (OnboardingCall realmId) answers anyResult
      (kcCreateUser env realmId username email password roles token) := by
  refine Calm.ask rfl ?_
  intro resp
  split
  · split
    · exact trivial
    · refine Calm.ask rfl ?_
      intro rolesResp
      apply (listed_calm rolesResp).andThen
      intro allRoles
      apply (calm_language_any _).andThen
      intro allRoles
      apply (calm_language_any _).andThen
      intro roleObjects
      split
      · exact Calm.ask rfl fun _ => trivial
      · exact trivial
  · exact trivial

theorem onboardTenant_calm (realmId displayName adminEmail adminUser : String) :
    Calm (OnboardingCall realmId) answers anyResult
      (onboardTenant env realmId displayName adminEmail adminUser) := by
  apply (calm_choose env _ _).andThen
  intro adminPassword
  have keycloak : Calm (OnboardingCall realmId) answers anyResult
      (createKeycloakRealm env realmId displayName adminUser adminEmail adminPassword) := by
    apply (kcAdminToken_calm fun _ _ _ => trivial).andThen
    intro token
    apply (kcCreateRealm_calm realmId displayName token).andThen
    intro _
    exact kcCreateUser_calm realmId adminUser adminEmail adminPassword _ token
  apply (calm_attempt_any _ keycloak).andThen
  intro keycloak
  apply (calm_choose env _ _).andThen
  intro rmqPassword
  have broker : Calm (OnboardingCall realmId) answers anyResult
      ((rabbitmq env.settings).provisionTenant realmId rmqPassword) := by
    refine Calm.andThen (request_calm rfl) ?_
    intro _
    refine Calm.andThen (request_calm ⟨rfl, rfl⟩) ?_
    intro _
    exact request_calm ⟨rfl, rfl⟩
  apply (calm_attempt_any _ broker).andThen
  intro broker
  exact trivial

theorem offboardTenant_calm (realmId : String) :
    Calm (OffboardingCall realmId) answers anyResult (offboardTenant env realmId) := by
  have keycloak : Calm (OffboardingCall realmId) answers anyResult
      (deleteKeycloakRealm env realmId) := by
    apply (kcAdminToken_calm fun _ _ _ => trivial).andThen
    intro token
    refine Calm.ask rfl ?_
    intro resp
    split
    · exact trivial
    · exact trivial
  apply (calm_attempt_any _ keycloak).andThen
  intro keycloak
  have broker : Calm (OffboardingCall realmId) answers anyResult
      ((rabbitmq env.settings).deprovisionTenant realmId) := by
    refine Calm.andThen (request_calm rfl) ?_
    intro _
    exact request_calm rfl
  apply (calm_attempt_any _ broker).andThen
  intro broker
  exact trivial

/-! ## The JOIN provisioning -/

theorem fetchRootCaCert_calm (tenantId : String) :
    Calm (ProvisioningCall env tenantId) answers anyResult (fetchRootCaCert env) := by
  unfold fetchRootCaCert
  split
  · exact trivial
  · refine Calm.ask trivial ?_
    intro resp
    split
    · apply (calm_decoded_any resp).andThen
      intro data
      apply (calm_language_any _).andThen
      intro ca
      exact trivial
    · exact trivial

theorem signSubCa_calm (tenantId csr : String) :
    Calm (ProvisioningCall env tenantId) answers
      (fun result => ∀ certs, result = .ok (.ok certs) →
        Certified answers csr env.settings.stepCaSubCaProvisioner tenantId certs.1)
      (signSubCa env tenantId csr) := by
  have body : Calm (ProvisioningCall env tenantId) answers
      (fun result => ∀ certs, result = .ok certs →
        Certified answers csr env.settings.stepCaSubCaProvisioner tenantId certs.1)
      (do
        let certs ← (stepCaAdmin env.settings).signSubCaCsr env csr tenantId
          env.settings.stepCaSubCaProvisioner env.settings.stepCaSubCaPassword
        if certs.2.truthy then pure certs
        else do
          let root ← fetchRootCaCert env
          pure (certs.1, root)) := by
    refine (signSubCaCsr_calm trivial fun ott issuer subject => ?_).bind (fun certs signed => ?_)
      (fun _ _ certs h => by cases h)
    · exact Or.inl ⟨issuer, subject⟩
    · split
      · intro certs' h
        cases h
        exact signed certs rfl
      · refine (fetchRootCaCert_calm tenantId).bind (fun root _ => ?_)
          (fun _ _ certs h => by cases h)
        intro certs' h
        cases h
        exact signed certs rfl
  refine calm_attempt body (fun certs signed certs' h => ?_) (fun _ _ _ certs h => by cases h)
    (fun _ _ _ certs h => by cases h)
  cases h
  exact signed certs rfl

theorem provisionRabbitMq_calm (tenantId : String) :
    Calm (ProvisioningCall env tenantId) answers anyResult (provisionRabbitMq env tenantId) := by
  apply calm_attempt_any
  refine Calm.andThen (request_calm rfl) ?_
  intro _
  refine Calm.andThen (request_calm ⟨rfl, rfl⟩) ?_
  intro _
  exact request_calm ⟨rfl, rfl⟩

theorem signMqttBridge_calm (tenantId csr : String) :
    Calm (ProvisioningCall env tenantId) answers
      (fun result => ∀ cert, result = .ok (some (.ok cert)) →
        Certified answers csr env.settings.stepCaProvisionerName (mqttUser tenantId) cert)
      (signMqttBridge env tenantId csr) := by
  have body : Calm (ProvisioningCall env tenantId) answers
      (fun result => ∀ cert, result = .ok cert →
        Certified answers csr env.settings.stepCaProvisionerName (mqttUser tenantId) cert)
      (do
        let certs ← (stepCaClient env.settings).signCertificate env csr (mqttUser tenantId)
          [mqttUser tenantId]
        pure certs.1) := by
    refine (signCertificate_calm trivial fun ott issuer subject => ?_).bind
      (fun certs signed => ?_) (fun _ _ cert h => by cases h)
    · exact Or.inr ⟨issuer, subject⟩
    · intro cert h
      cases h
      exact signed certs rfl
  have attempted : Calm (ProvisioningCall env tenantId) answers
      (fun result => ∀ cert, result = .ok (.ok cert) →
        Certified answers csr env.settings.stepCaProvisionerName (mqttUser tenantId) cert)
      (attempt Raised.isStepCaError do
        let certs ← (stepCaClient env.settings).signCertificate env csr (mqttUser tenantId)
          [mqttUser tenantId]
        pure certs.1) := by
    refine calm_attempt body (fun cert signed cert' h => ?_) (fun _ _ _ cert h => by cases h)
      (fun _ _ _ cert h => by cases h)
    cases h
    exact signed cert rfl
  unfold signMqttBridge
  split
  · intro cert h
    cases h
  · rw [map_eq_pure_bind]
    refine attempted.bind (fun outcome signed => ?_) (fun _ _ cert h => by cases h)
    intro cert h
    cases h
    exact signed cert rfl

theorem federate_calm (tenantId keycloakUrl : String) :
    Calm (ProvisioningCall env tenantId) answers anyResult
      (federate env tenantId keycloakUrl) := by
  apply calm_attempt_any
  apply (kcAdminToken_calm fun _ _ _ => trivial).andThen
  intro token
  apply (calm_choose env _ _).andThen
  intro clientSecret
  refine Calm.ask rfl ?_
  intro resp
  split
  · exact trivial
  · split
    · exact trivial
    · exact trivial

end Calls

/-- What the certificates of a provisioning are: the signer's answers to these
two CSRs, or empty where a `StepCAError` was noted. -/
structure Bundle (env : Env) (answers : HttpRequest → HttpResult → Prop)
    (tenantId subCaCsr mqttBridgeCsr : String) (p : Provisioned) : Prop where
  subCa : (Certified answers subCaCsr env.settings.stepCaSubCaProvisioner tenantId p.signedCert ∧
      p.errors.get? "step_ca" = none) ∨
    (p.signedCert = .str "" ∧ p.errors.get? "step_ca" ≠ none)
  mqtt : Certified answers mqttBridgeCsr env.settings.stepCaProvisionerName (mqttUser tenantId)
      p.mqttBridgeCert ∨ p.mqttBridgeCert = .str ""

theorem noted_errors {α : Type} (env : Env) {name key : String} (done : String)
    (outcome : Except Raised α) (notes : Dict String String × Dict String String)
    (hne : key ≠ name) :
    (noted env name done outcome notes).2.get? key = notes.2.get? key := by
  cases outcome with
  | ok value => rfl
  | error exc => exact Dict.get?_set_of_ne _ _ hne

/-- Only the first step writes the note `step_ca`, and only where it failed. -/
theorem notes_stepCa (env : Env) (subCa : Except Raised (Json × Json))
    (broker : Except Raised Unit) (mqtt : Option (Except Raised Json))
    (federation : Except Raised (String × String)) :
    (notes env subCa broker mqtt federation).2.get? "step_ca" =
      match subCa with
      | .ok _ => none
      | .error exc => some (exc.text env.py) := by
  have first : (noted env "rabbitmq" "provisioned" broker
      (noted env "step_ca" "signed" subCa (Dict.empty, Dict.empty))).2.get? "step_ca" =
      match subCa with
      | .ok _ => none
      | .error exc => some (exc.text env.py) := by
    rw [noted_errors env _ _ _ (by decide)]
    cases subCa with
    | ok certs => rfl
    | error exc => exact Dict.get?_set_self _ _ _
  unfold notes
  rw [noted_errors env _ _ _ (by decide), ← first]
  cases mqtt with
  | none => rfl
  | some outcome => exact noted_errors env _ _ _ (by decide)

theorem provision_calm (env : Env) (answers : HttpRequest → HttpResult → Prop)
    (tenantId subCaCsr mqttBridgeCsr keycloakUrl : String) :
    Calm (ProvisioningCall env tenantId) answers
      (fun result => ∀ p, result = .ok p → Bundle env answers tenantId subCaCsr mqttBridgeCsr p)
      (provision env tenantId subCaCsr mqttBridgeCsr keycloakUrl) := by
  refine (signSubCa_calm tenantId subCaCsr).bind (fun subCa signed => ?_)
    (fun _ _ p h => by cases h)
  refine (provisionRabbitMq_calm tenantId).bind (fun broker _ => ?_) (fun _ _ p h => by cases h)
  refine (signMqttBridge_calm tenantId mqttBridgeCsr).bind (fun mqtt signedMqtt => ?_)
    (fun _ _ p h => by cases h)
  refine (federate_calm tenantId keycloakUrl).bind (fun federation _ => ?_)
    (fun _ _ p h => by cases h)
  intro p h
  cases h
  have note := notes_stepCa env subCa broker mqtt federation
  refine ⟨?_, ?_⟩
  · cases subCa with
    | ok certs => exact Or.inl ⟨signed certs rfl, note⟩
    | error exc =>
      refine Or.inr ⟨rfl, ?_⟩
      intro hnone
      cases note.symm.trans hnone
  · cases mqtt with
    | none => exact Or.inr rfl
    | some outcome =>
      cases outcome with
      | ok cert => exact Or.inl (signedMqtt cert rfl)
      | error exc => exact Or.inr rfl

end CompleteDeviceManagement.Guarantees.Provisioning
