import CompleteDeviceManagement.Guarantees.JoinPipelines
import CompleteDeviceManagement.Library.Server

/-!
# The root certificate in the bundle

Step 1 of the provisioning takes `root_ca_cert` from the answer of the signer,
and asks for the root only if there is nothing in it. What the signer answers is
the certificate of the issuer, so below a root that is kept offline no tenant
ever gets the root itself.
-/

set_option autoImplicit false

namespace CompleteDeviceManagement.Guarantees.RootCertificate
open CompleteDeviceManagement.Library CompleteDeviceManagement.Source.Models
  CompleteDeviceManagement.Source.Runtime CompleteDeviceManagement.Source.StepCa
  CompleteDeviceManagement.Source.AdminPortal CompleteDeviceManagement.Source.JoinStore
  CompleteDeviceManagement.Source.JoinKeyStore CompleteDeviceManagement.Source.JoinRouter
  CompleteDeviceManagement.Guarantees.Provisioning CompleteDeviceManagement.Guarantees.JoinContract
open CompleteDeviceManagement.Library.Fallible

/-! ## The Provider's certificates -/

structure Certificate where
  subject : String
  issuer : String
  fingerprint : String
  deriving DecidableEq

/-- A self-signed root with the online issuer below it, by their PEM texts;
`read` is what a PEM text says. -/
structure ProviderPki where
  read : String → Option Certificate
  rootPem : String
  issuerPem : String
  root : Certificate
  issuer : Certificate
  rootRead : read rootPem = some root
  issuerRead : read issuerPem = some issuer
  emptyRead : read "" = none
  selfSigned : root.subject = root.issuer
  below : issuer.subject ≠ issuer.issuer

namespace ProviderPki

/-- The value is the PEM text of a self-signed certificate with this fingerprint. -/
def IsRoot (pki : ProviderPki) (fingerprint : String) (value : Json) : Prop :=
  ∃ pem cert, value = .str pem ∧ pki.read pem = some cert ∧ cert.subject = cert.issuer ∧
    cert.fingerprint = fingerprint

/-- What step-ca answers: to a CSR the new certificate with that of the issuer,
to the fingerprint of the root the root. -/
def Answers (pki : ProviderPki) : HttpRequest → HttpResult → Prop
  | .stepCaSign _ _ _, .response r => r.isSuccess = true →
      ∃ data crt, r.json = .ok data ∧ data.item "crt" = .ok (.str crt) ∧
        data.item "ca" = .ok (.str pki.issuerPem)
  | .stepCaRoot _ fingerprint, result => fingerprint = pki.root.fingerprint →
      ∃ r data, result = .response r ∧ r.isSuccess = true ∧ r.json = .ok data ∧
        data.item "ca" = .ok (.str pki.rootPem)
  | _, _ => True

theorem issuerPem_ne (pki : ProviderPki) : pki.issuerPem ≠ "" := by
  intro h
  have read := pki.issuerRead
  rw [h, pki.emptyRead] at read
  cases read

theorem issuer_not_root (pki : ProviderPki) (fingerprint : String) :
    ¬ pki.IsRoot fingerprint (.str pki.issuerPem) := by
  intro isRoot
  obtain ⟨pem, cert, same, read, selfSigned, _⟩ := isRoot
  cases same
  rw [pki.issuerRead] at read
  cases read
  exact pki.below selfSigned

end ProviderPki

/-! ## The two flows -/

/-- A JOIN by its three ways to a bundle: the reply to the handshake, the reply
to the approval, and the poll after it. -/
inductive Join where
  | handshake (caller : Caller) (payload : JoinHandshakePayload)
  | approval (caller : Caller) (tenantId : String)
  | poll (caller : Caller) (tenantId : String)

/-- `signed_cert` and `root_ca_cert` of the bundle. -/
def Join.delivered (env : Env) : Join → App (Json × Json)
  | .handshake caller payload => do
      let reply ← joinHandshake env caller payload
      pure (.str reply.signedCert, .str reply.rootCaCert)
  | .approval caller tenantId => do
      let reply ← approveJoinRequest env caller tenantId
      pure (reply.bundle.signedCert, reply.bundle.rootCaCert)
  | .poll caller tenantId => do
      let _ ← approveJoinRequest env caller tenantId
      let status ← getJoinStatus tenantId
      pure (.ofOption status.signedCert, .ofOption status.rootCaCert)

/-! ## What step 1 makes of the answers -/

section Steps

variable {env : Env} {pki : ProviderPki} {calls : HttpRequest → Prop}

theorem submit_issuer {url failure csrPem : String} {ott : Jwt}
    (asked : calls (.stepCaSign url csrPem ott)) :
    Calm calls pki.Answers
      (fun result => ∀ certs, result = .ok certs → certs.2 = .str pki.issuerPem)
      (submit url failure csrPem ott) := by
  have exchanged : Calm calls pki.Answers
      (fun result => ∀ r, result = .ok r → pki.Answers (.stepCaSign url csrPem ott) (.response r))
      (exchange (.stepCaSign url csrPem ott)) := by
    apply calm_exchange asked
    · intro r given r' hr
      cases hr
      exact given
    · intro text _ r hr
      cases hr
  refine exchanged.bind ?_ ?_
  · intro resp given
    by_cases success : resp.isSuccess = true
    · rw [if_pos success]
      obtain ⟨data, crt, hjson, hcrt, hca⟩ := given resp rfl success
      have decoded : resp.decoded = pure data := by
        unfold Response.decoded
        rw [hjson]
        rfl
      have hasCrt : language (data.item "crt") = pure (.str crt) := by
        rw [hcrt]
        rfl
      have hasCa : language (data.item "ca") = pure (.str pki.issuerPem) := by
        rw [hca]
        rfl
      rw [decoded, pure_bind, hasCrt, pure_bind, hasCa, pure_bind]
      intro certs h
      cases h
      rfl
    · rw [if_neg success]
      intro certs h
      cases h
  · intro error _ certs h
    cases h

theorem signSubCaCsr_issuer {self : StepCAAdminClient} {csrPem tenantId name password : String}
    (provisioners : calls (.stepCaProvisioners self.url))
    (sign : ∀ ott : Jwt, ott.iss = name → ott.sub = tenantId →
      calls (.stepCaSign self.url csrPem ott)) :
    Calm calls pki.Answers
      (fun result => ∀ certs, result = .ok certs → certs.2 = .str pki.issuerPem)
      (self.signSubCaCsr env csrPem tenantId name password) := by
  refine (loadKey_calm provisioners).bind (fun key _ => ?_) fun _ _ certs h => by cases h
  refine (calm_package _).bind (fun sha _ => ?_) fun _ _ certs h => by cases h
  refine (calm_now env).bind (fun now _ => ?_) fun _ _ certs h => by cases h
  refine (calm_package _).bind (fun _ _ => ?_) fun _ _ certs h => by cases h
  exact submit_issuer (sign _ rfl rfl)

/-- The issuer's certificate stands in the root's place, so the root is not
asked for. -/
theorem signSubCa_issuer (tenantId csr : String) :
    Calm (ProvisioningCall env tenantId) pki.Answers
      (fun result => ∀ certs, result = .ok (.ok certs) → certs.2 = .str pki.issuerPem)
      (signSubCa env tenantId csr) := by
  have body : Calm (ProvisioningCall env tenantId) pki.Answers
      (fun result => ∀ certs, result = .ok certs → certs.2 = .str pki.issuerPem)
      (do
        let certs ← (stepCaAdmin env.settings).signSubCaCsr env csr tenantId
          env.settings.stepCaSubCaProvisioner env.settings.stepCaSubCaPassword
        if certs.2.truthy then pure certs
        else do
          let root ← fetchRootCaCert env
          pure (certs.1, root)) := by
    refine (signSubCaCsr_issuer trivial fun ott issuer subject => ?_).bind ?_
      fun _ _ certs h => by cases h
    · exact Or.inl ⟨issuer, subject⟩
    · intro certs issuer
      have truthy : certs.2.truthy = true := by
        rw [issuer certs rfl]
        simpa [Json.truthy] using pki.issuerPem_ne
      rw [if_pos truthy]
      exact calm_pure issuer
  refine calm_attempt body ?_ ?_ ?_
  · intro certs issuer certs' h
    cases h
    exact issuer certs rfl
  · intro error _ _ certs h
    cases h
  · intro error _ _ certs h
    cases h

/-- Nothing was signed, or what counts as the root's certificate is the issuer's. -/
def IssuerForRoot (pki : ProviderPki) (signed root : Json) : Prop :=
  signed = .str "" ∨ root = .str pki.issuerPem

theorem provision_issuer (tenantId subCaCsr mqttBridgeCsr keycloakUrl : String) :
    Calm (ProvisioningCall env tenantId) pki.Answers
      (fun result => ∀ p, result = .ok p → IssuerForRoot pki p.signedCert p.rootCaCert)
      (provision env tenantId subCaCsr mqttBridgeCsr keycloakUrl) := by
  refine (signSubCa_issuer tenantId subCaCsr).bind (fun subCa issuer => ?_)
    fun _ _ p h => by cases h
  refine (provisionRabbitMq_calm tenantId).bind (fun broker _ => ?_) fun _ _ p h => by cases h
  refine (signMqttBridge_calm tenantId mqttBridgeCsr).bind (fun mqtt _ => ?_)
    fun _ _ p h => by cases h
  refine (federate_calm tenantId keycloakUrl).bind (fun federation _ => ?_)
    fun _ _ p h => by cases h
  intro p h
  cases h
  cases subCa with
  | ok certs => exact .inr (issuer certs rfl)
  | error error => exact .inl rfl

theorem runProvisioning_issuer (tenantId : String) (payload : JoinHandshakePayload) :
    Calm (ProvisioningCall env tenantId) pki.Answers
      (fun result => ∀ reply, result = .ok reply →
        IssuerForRoot pki (.str reply.signedCert) (.str reply.rootCaCert))
      (runProvisioning env tenantId payload) := by
  refine (provision_issuer tenantId payload.subCaCsr payload.mqttBridgeCsr
    payload.keycloakUrl).bind ?_ fun _ _ reply h => by cases h
  intro p issuer
  split
  next signedCert rootCaCert mqttBridgeCert hsigned hroot hmember =>
    intro reply h
    cases h
    have both := issuer p rfl
    rw [eq_str_of_strField hsigned, eq_str_of_strField hroot] at both
    exact both
  · intro reply h
    cases h

end Steps

/-! ## Whole runs -/

section Runs

variable {env : Env} {pki : ProviderPki} {w : World}

/-- A part that leaves the files alone, in a run. -/
theorem leaves_calm {α : Type} {x : App α} {calls : HttpRequest → Prop}
    {answers : HttpRequest → HttpResult → Prop} {mid : Except Raised α → Prop}
    (calm : Calm calls answers mid x) (free : Free w) :
    Proc.leaves answers (fun result w' => mid result ∧ Held w w') x.run w := by
  have keeps : ∀ v v' : World, Held w v → Undisturbed v v' → Held w v' :=
    fun _ _ held quiet => held.undisturbed quiet
  exact Proc.Quiet.leaves calm keeps (Held.refl free)

/-- The bundle of a run, if it ends with one. -/
def Delivers (pki : ProviderPki) (result : Except Raised (Json × Json)) (_ : World) : Prop :=
  ∀ signed root, result = .ok (signed, root) → IssuerForRoot pki signed root

theorem delivers_error (error : Raised) (w : World) : Delivers pki (.error error) w := by
  intro signed root h
  cases h

theorem validateEffect_free (env : Env) (key : String) (free : Free w) :
    Free (validateEffect env key w).2 := by
  unfold validateEffect
  split
  · exact free
  · split
    · exact free
    · split
      · exact ⟨free.store, free.key⟩
      · exact ⟨free.store, free.key⟩

theorem joinHandshake_delivers (caller : Caller) (payload : JoinHandshakePayload)
    (free : Free w) :
    Proc.leaves pki.Answers (Delivers pki)
      ((Join.handshake caller payload).delivered env).run w := by
  have handshake : Proc.leaves pki.Answers
      (fun result _ => ∀ reply, result = .ok reply →
        IssuerForRoot pki (.str reply.signedCert) (.str reply.rootCaCert))
      (joinHandshake env caller payload).run w := by
    dsimp only [joinHandshake]
    split
    · intro reply h
      cases h
    · have unlocked := validateEffect_free env (presentedKey env caller) free
      refine leaves_after (runsTo_attempt _
        (validateAndConsume_runs env (presentedKey env caller) free.key)) ?_
      cases (validateEffect env (presentedKey env caller) w).1 with
      | ok keyEntry =>
        exact Proc.leaves_mono (leaves_calm (runProvisioning_issuer keyEntry.tenantId payload)
          unlocked) fun result w' h => h.1
      | error error =>
        cases hcaught : isKeyOrValueError error with
        | false =>
          simp only [caught, hcaught]
          intro reply h
          cases h
        | true =>
          simp only [caught, hcaught, if_true, onward_ok]
          split
          · intro reply h
            cases h
          · intro reply h
            cases h
          next keyEntry heq => cases heq
  refine leaves_bind_of handshake ?_ fun error s' _ => delivers_error error s'
  intro reply s' issuer signed root h
  cases h
  exact issuer reply rfl

/-- An approval that is answered has saved its bundle. -/
def Saved (pki : ProviderPki) (tenantId : String) (result : Except Raised ApproveResponse)
    (w : World) : Prop :=
  ∀ reply, result = .ok reply → Free w ∧
    IssuerForRoot pki reply.bundle.signedCert reply.bundle.rootCaCert ∧
    ∃ entry, (entries w).get? tenantId = some entry ∧
      entry.signedCert = reply.bundle.signedCert ∧ entry.rootCaCert = reply.bundle.rootCaCert

theorem approveJoinRequest_saves (caller : Caller) (tenantId : String) (free : Free w) :
    Proc.leaves pki.Answers (Saved pki tenantId)
      (approveJoinRequest env caller tenantId).run w := by
  have raised : ∀ (error : Raised) (v : World), Saved pki tenantId (.error error) v := by
    intro error v reply h
    cases h
  refine leaves_after (language_runs _ w) ?_
  cases getCdmAdmin caller with
  | error error => exact raised _ w
  | ok user =>
    refine leaves_after (getRequest_runs free) ?_
    cases (entries w).get? tenantId with
    | none => exact raised _ w
    | some entry =>
      simp only [onward_ok]
      split
      · exact raised _ w
      · split
        · exact raised _ w
        · refine leaves_bind_of (leaves_calm (provision_issuer tenantId entry.subCaCsr
            entry.mqttBridgeCsr entry.keycloakUrl) free) ?_ fun error v _ => raised error v
          intro p v h
          obtain ⟨issuer, held⟩ := h
          refine leaves_after (loadStore_runs held.free.store) ?_
          simp only [onward_ok]
          split
          · exact raised _ v
          next stored found =>
            refine leaves_after (now_runs env v) ?_
            refine leaves_after (saveStore_runs _ held.free.store) ?_
            intro reply h
            cases h
            exact ⟨⟨held.free.store, held.free.key⟩, issuer p rfl, _, Dict.get?_set_self _ _ _,
              rfl, rfl⟩

theorem approval_delivers (caller : Caller) (tenantId : String) (free : Free w) :
    Proc.leaves pki.Answers (Delivers pki)
      ((Join.approval caller tenantId).delivered env).run w := by
  refine leaves_bind_of (approveJoinRequest_saves caller tenantId free) ?_
    fun error s' _ => delivers_error error s'
  intro reply s' saved signed root h
  cases h
  exact (saved reply rfl).2.1

/-- A text field that is set is the stored value. -/
theorem ofOption_of_field {value : Json} {field : Option String}
    (h : optionalStrField value = some field) : Json.ofOption field = value := by
  cases value with
  | null =>
    cases h
    rfl
  | str text =>
    cases h
    rfl
  | bool b => cases h
  | int n => cases h
  | float text => cases h
  | arr items => cases h
  | obj fields => cases h

theorem poll_delivers (caller : Caller) (tenantId : String) (free : Free w) :
    Proc.leaves pki.Answers (Delivers pki) ((Join.poll caller tenantId).delivered env).run w := by
  refine leaves_bind_of (approveJoinRequest_saves caller tenantId free) ?_
    fun error s' _ => delivers_error error s'
  intro reply v saved
  obtain ⟨freed, issuer, entry, stored, hsigned, hroot⟩ := saved reply rfl
  have polled : Proc.leaves pki.Answers
      (fun result _ => ∀ status, result = .ok status →
        IssuerForRoot pki (.ofOption status.signedCert) (.ofOption status.rootCaCert))
      (getJoinStatus tenantId).run v := by
    refine leaves_after (getRequest_runs freed) ?_
    rw [stored]
    simp only [onward_ok]
    split
    next signedCert rootCaCert mqttBridgeCert fieldSigned fieldRoot _ =>
      intro status h
      cases h
      rw [ofOption_of_field fieldSigned, ofOption_of_field fieldRoot, hsigned, hroot]
      exact issuer
    · intro status h
      cases h
  refine leaves_bind_of polled ?_ fun error s' _ => delivers_error error s'
  intro status s' h signed root heq
  cases heq
  exact h status rfl

theorem delivered_issuer (join : Join) (free : Free w) :
    Proc.leaves pki.Answers (Delivers pki) (join.delivered env).run w := by
  cases join with
  | handshake caller payload => exact joinHandshake_delivers caller payload free
  | approval caller tenantId => exact approval_delivers caller tenantId free
  | poll caller tenantId => exact poll_delivers caller tenantId free

end Runs

/-! ## Result -/

def joinRun (env : Env) (ans : Nat → HttpResult) (w : World) (join : Join) :
    Proc.Run World HttpRequest HttpResult (Except Raised (Json × Json)) :=
  (join.delivered env).run.solo ans 0 w

/-- Below an offline root, every JOIN whose Sub-CA was signed hands out the
issuer's certificate for the root's, by either flow and whatever the other
services answer. -/
theorem root_never_delivered (env : Env) (pki : ProviderPki) (join : Join)
    (ans : Nat → HttpResult) {w : World} (free : Free w)
    (answered : ∀ exchange ∈ (joinRun env ans w join).trace, pki.Answers exchange.1 exchange.2)
    {signed root : Json} (delivered : (joinRun env ans w join).value = some (.ok (signed, root)))
    (succeeded : signed ≠ .str "") :
    root = .str pki.issuerPem ∧ ¬ pki.IsRoot env.settings.stepCaFingerprint root := by
  obtain ⟨result, hvalue, delivers⟩ := Proc.leaves_solo ans (delivered_issuer join free) answered
  obtain rfl : result = .ok (signed, root) := Option.some.inj (hvalue.symm.trans delivered)
  rcases delivers signed root rfl with unsigned | issuer
  · exact absurd unsigned succeeded
  · rw [issuer]
    exact ⟨rfl, pki.issuer_not_root _⟩

/-- A root with one issuer below it. -/
def twoLevels : ProviderPki where
  read := fun pem =>
    if pem = "root pem" then some ⟨"CDM Root CA", "CDM Root CA", "f00d"⟩
    else if pem = "issuer pem" then some ⟨"CDM Intermediate CA", "CDM Root CA", "beef"⟩
    else none
  rootPem := "root pem"
  issuerPem := "issuer pem"
  root := ⟨"CDM Root CA", "CDM Root CA", "f00d"⟩
  issuer := ⟨"CDM Intermediate CA", "CDM Root CA", "beef"⟩
  rootRead := by decide
  issuerRead := by decide
  emptyRead := by decide
  selfSigned := rfl
  below := by decide

def pinnedEnv : Env :=
  { Env.counting with settings := { stepCaFingerprint := "f00d" } }

/-- step-ca answers as it does with this issuer; the other services cannot be
reached. -/
def signedBelow : Nat → HttpResult
  | 0 => JoinPipelines.bothProvisioners
  | 1 => JoinPipelines.ok (.obj [("crt", .str "crt"), ("ca", .str "issuer pem")])
  | 3 => JoinPipelines.bothProvisioners
  | 4 => JoinPipelines.ok (.obj [("crt", .str "bridge crt"), ("ca", .str "issuer pem")])
  | _ => unreachable

def acmePoll : Join := .poll cdmAdmin "acme"

/-- A decidable sufficient condition for the answers of the PKI. -/
def answeredBelow : HttpRequest × HttpResult → Bool
  | (.stepCaSign _ _ _, .response ⟨_, _, .ok (.obj [("crt", .str _), ("ca", .str pem)]), _⟩) =>
      pem == "issuer pem"
  | (.stepCaSign _ _ _, .failure _) => true
  | (.stepCaSign _ _ _, _) => false
  | (.stepCaRoot _ _, _) => false
  | _ => true

theorem answers_of_below {exchange : HttpRequest × HttpResult}
    (h : answeredBelow exchange = true) : twoLevels.Answers exchange.1 exchange.2 := by
  obtain ⟨request, result⟩ := exchange
  cases request with
  | stepCaSign url csr ott =>
    unfold answeredBelow at h
    split at h
    next heq =>
      cases heq
      rw [beq_iff_eq] at h
      subst h
      exact fun _ => ⟨_, _, rfl, rfl, rfl⟩
    next heq =>
      cases heq
      trivial
    · cases h
    next heq => cases heq
    next noSign _ => exact absurd rfl (noSign url csr ott result)
  | stepCaRoot url fingerprint => cases h
  | _ => cases result <;> trivial

theorem acme_answered : ∀ exchange ∈
    (joinRun pinnedEnv signedBelow JoinPipelines.submittedWorld acmePoll).trace,
      twoLevels.Answers exchange.1 exchange.2 := by
  have below : (joinRun pinnedEnv signedBelow JoinPipelines.submittedWorld acmePoll).trace.all
      answeredBelow = true := by decide +kernel
  intro exchange h
  exact answers_of_below (List.all_eq_true.mp below exchange h)

theorem acme_delivered :
    (joinRun pinnedEnv signedBelow JoinPipelines.submittedWorld acmePoll).value =
      some (.ok (.str "crt", .str "issuer pem")) := rfl

theorem acme_without_root :
    ¬ twoLevels.IsRoot pinnedEnv.settings.stepCaFingerprint (.str "issuer pem") :=
  (root_never_delivered pinnedEnv twoLevels acmePoll signedBelow
    (w := JoinPipelines.submittedWorld) ⟨rfl, rfl⟩ acme_answered acme_delivered
    (by simp)).2

/-- The bundle that acme polls for has the issuer's certificate for the root's. -/
theorem acme_issuer_for_root :
    (∀ exchange ∈ (joinRun pinnedEnv signedBelow JoinPipelines.submittedWorld acmePoll).trace,
      twoLevels.Answers exchange.1 exchange.2) ∧
    pinnedEnv.settings.stepCaFingerprint = twoLevels.root.fingerprint ∧
    ∃ root, (joinRun pinnedEnv signedBelow JoinPipelines.submittedWorld acmePoll).value =
        some (.ok (.str "crt", root)) ∧
      ¬ twoLevels.IsRoot pinnedEnv.settings.stepCaFingerprint root :=
  ⟨acme_answered, rfl, _, acme_delivered, twoLevels.issuer_not_root _⟩

end CompleteDeviceManagement.Guarantees.RootCertificate
