import CompleteDeviceManagement.Source.JoinPipelines
import CompleteDeviceManagement.Guarantees.JoinBundle

/-!
# The handshake and the approval provision alike

The two copies of the pipeline on one submission, for every sequence of answers
of the services: they make the same calls and raise in the same cases, and what
they hand to the tenant agrees, wherever step-ca hands out texts. Only the
handshake puts its certificates through a response model, so a certificate that
is no text ends it, while the approval saves it.
-/

set_option autoImplicit false

namespace CompleteDeviceManagement.Guarantees.JoinPipelines
open CompleteDeviceManagement.Library CompleteDeviceManagement.Source.Models
  CompleteDeviceManagement.Source.Runtime CompleteDeviceManagement.Source.AdminPortal
  CompleteDeviceManagement.Source.JoinStore CompleteDeviceManagement.Source.JoinKeyStore
  CompleteDeviceManagement.Source.JoinRouter CompleteDeviceManagement.Source.JoinPipelines
  CompleteDeviceManagement.Source.StepCa CompleteDeviceManagement.Source.RabbitMq
  CompleteDeviceManagement.Guarantees.Provisioning CompleteDeviceManagement.Guarantees.JoinContract
  CompleteDeviceManagement.Guarantees.JoinBundle
open CompleteDeviceManagement.Library.Fallible

/-! ## Bundles -/

abbrev Bundle := List (String × Json)

/-- `null` is the empty text. -/
def unset : Json → Json
  | .null => .str ""
  | v => v

/-- The same members, where an empty text and `null` are the same. -/
def Agree (b b' : Bundle) : Prop :=
  b.map (fun member => (member.1, unset member.2)) =
    b'.map fun member => (member.1, unset member.2)

def handed (r : JoinHandshakeResponse) : Bundle :=
  [("signed_cert", .str r.signedCert), ("root_ca_cert", .str r.rootCaCert),
    ("rabbitmq_url", .ofOption r.rabbitmqUrl), ("rabbitmq_vhost", .ofOption r.rabbitmqVhost),
    ("rabbitmq_user", .ofOption r.rabbitmqUser), ("mqtt_bridge_cert", .ofOption r.mqttBridgeCert),
    ("cdm_idp_client_id", .ofOption r.cdmIdpClientId),
    ("cdm_idp_client_secret", .ofOption r.cdmIdpClientSecret),
    ("cdm_discovery_url", .ofOption r.cdmDiscoveryUrl)]

def approved (p : Provisioned) : Bundle :=
  [("signed_cert", p.signedCert), ("root_ca_cert", p.rootCaCert), ("rabbitmq_url", .str p.rmqUrl),
    ("rabbitmq_vhost", .str p.rmqVhost), ("rabbitmq_user", .str p.rmqMqttUser),
    ("mqtt_bridge_cert", p.mqttBridgeCert), ("cdm_idp_client_id", .str p.cdmIdpClientId),
    ("cdm_idp_client_secret", .str p.cdmIdpClientSecret),
    ("cdm_discovery_url", .str p.cdmDiscoveryUrl)]

def polled (s : JoinStatusResponse) : Bundle :=
  [("signed_cert", .ofOption s.signedCert), ("root_ca_cert", .ofOption s.rootCaCert),
    ("rabbitmq_url", .ofOption s.rabbitmqUrl), ("rabbitmq_vhost", .ofOption s.rabbitmqVhost),
    ("rabbitmq_user", .ofOption s.rabbitmqUser), ("mqtt_bridge_cert", .ofOption s.mqttBridgeCert),
    ("cdm_idp_client_id", .ofOption s.cdmIdpClientId),
    ("cdm_idp_client_secret", .ofOption s.cdmIdpClientSecret),
    ("cdm_discovery_url", .ofOption s.cdmDiscoveryUrl)]

/-! ## The runs -/

abbrev AppRun (α : Type) := Proc.Run World HttpRequest HttpResult (Except Raised α)

/-- The submission as the handshake receives it. -/
def asHandshake (payload : JoinRequestPayload) : JoinHandshakePayload where
  subCaCsr := payload.subCaCsr
  wgPubkey := payload.wgPubkey
  keycloakUrl := payload.keycloakUrl
  mqttBridgeCsr := payload.mqttBridgeCsr

section Runs

variable (env : Env) (ans : Nat → HttpResult) (w : World) (tenantId : String)
  (payload : JoinRequestPayload)

def run {α : Type} (x : App α) : AppRun α := x.run.solo ans 0 w

def handshakeRun : AppRun JoinHandshakeResponse :=
  run ans w (handshakePipeline env tenantId (asHandshake payload))

def approvalRun (entry : JoinEntry) : AppRun Provisioned :=
  run ans w (approvalPipeline env tenantId entry)

/-- The admin approves, then the tenant polls. -/
def approveThenPoll (caller : Caller) : AppRun JoinStatusResponse :=
  run ans w do
    let _ ← approveJoinRequest env caller tenantId
    getJoinStatus tenantId

/-- Both raise, or both hand out the same bundle. -/
inductive SameOutcome : Except Raised JoinHandshakeResponse → Except Raised Provisioned → Prop
  | raised (exc exc' : Raised) : SameOutcome (.error exc) (.error exc')
  | handed (reply : JoinHandshakeResponse) (p : Provisioned)
      (agree : Agree (handed reply) (approved p)) :
      SameOutcome (.ok reply) (.ok p)

structure SamePipeline (caller : Caller) (entry : JoinEntry) : Prop where
  calls : (approvalRun env ans w tenantId entry).trace =
    (handshakeRun env ans w tenantId payload).trace
  outcome : ∃ result result', (handshakeRun env ans w tenantId payload).value = some result ∧
    (approvalRun env ans w tenantId entry).value = some result' ∧ SameOutcome result result'
  poll : ∀ reply, (handshakeRun env ans w tenantId payload).value = some (.ok reply) →
    ∃ status, (approveThenPoll env ans w tenantId caller).value = some (.ok status) ∧
      status.status = "approved" ∧ Agree (handed reply) (polled status)

/-! ## The calls that sign -/

def signSubCaCsr : App (Json × Json) :=
  (stepCaAdmin env.settings).signSubCaCsr env payload.subCaCsr tenantId
    env.settings.stepCaSubCaProvisioner env.settings.stepCaSubCaPassword

def signBridge : App (Json × Json) :=
  (stepCaClient env.settings).signCertificate env payload.mqttBridgeCsr (mqttUser tenantId)
    [mqttUser tenantId]

/-- The run up to and including `sign_sub_ca_csr`. -/
def subCaSigned : AppRun (Json × Json) := run ans w (signSubCaCsr env tenantId payload)

/-- The run up to and including `_fetch_root_ca_cert`, where it is called. -/
def rootFetched : AppRun Json :=
  run ans w do
    let _ ← signSubCaCsr env tenantId payload
    fetchRootCaCert env

/-- Steps 1 and 2. -/
def untilBroker : App Unit := do
  let _ ← signSubCa env tenantId payload.subCaCsr
  let _ ← provisionRabbitMq env tenantId

/-- The run up to and including `sign_certificate`, where it is called. -/
def bridgeSigned : AppRun (Json × Json) :=
  run ans w do
    untilBroker env tenantId payload
    signBridge env tenantId payload

/-- The run ended in an exception that the `except StepCAError` lets through. -/
def Escapes {α : Type} (r : AppRun α) : Prop :=
  ∃ exc, r.value = some (.error exc) ∧ exc.isStepCaError = false

/-- Step 1 raises something else than `StepCAError`. -/
def SubCaAborts : Prop :=
  Escapes (subCaSigned env ans w tenantId payload) ∨
    ((∃ crt ca, (subCaSigned env ans w tenantId payload).value = some (.ok (crt, ca)) ∧
      ca.truthy = false) ∧ Escapes (rootFetched env ans w tenantId payload))

/-- Step 1 or step 2b raises something else than `StepCAError`; the other two
steps catch everything. -/
def Aborts : Prop :=
  SubCaAborts env ans w tenantId payload ∨
    (payload.mqttBridgeCsr ≠ "" ∧ Escapes (bridgeSigned env ans w tenantId payload))

def IsText (value : Json) : Prop := ∃ s, value = .str s

/-- A chain that is empty or missing is replaced, so it need not be a text. -/
def SubCaTexts : Prop :=
  ∀ crt ca, (subCaSigned env ans w tenantId payload).value = some (.ok (crt, ca)) →
    IsText crt ∧ (ca.truthy = true → IsText ca)

/-- The bridge may be without a certificate. -/
def BridgeTexts : Prop :=
  payload.mqttBridgeCsr ≠ "" → ∀ crt ca,
    (bridgeSigned env ans w tenantId payload).value = some (.ok (crt, ca)) →
      crt = .null ∨ IsText crt

/-- What step-ca signs is handed out as texts. -/
def CertificatesAreTexts : Prop :=
  SubCaTexts env ans w tenantId payload ∧ BridgeTexts env ans w tenantId payload

end Runs

/-! ## Step 1 -/

section Steps

variable {env : Env} {ans : Nat → HttpResult} {w : World} {tenantId : String}
  {payload : JoinRequestPayload}

/-- What `_fetch_root_ca_cert` ends with: a text, or an exception that is no
`StepCAError`. -/
def RootResult : Except Raised Json → Prop
  | .ok root => IsText root
  | .error exc => exc.isStepCaError = false

/-- No exception of the language or of the JSON decoder is a `StepCAError`. -/
def Foreign {α : Type} (result : Except Raised α) : Prop :=
  ∀ exc, result = .error exc → exc.isStepCaError = false

theorem foreign_mapError {α ε : Type} {raised : ε → Raised} (result : Except ε α)
    (foreign : ∀ e, (raised e).isStepCaError = false) : Foreign (result.mapError raised) := by
  intro exc h
  cases result with
  | ok value => cases h
  | error e =>
    cases h
    exact foreign e

theorem fetchRootCaCert_result (answers : HttpRequest → HttpResult → Prop) :
    Calm (fun _ => True) answers RootResult (fetchRootCaCert env) := by
  unfold fetchRootCaCert
  split
  · exact calm_pure ⟨"", rfl⟩
  · have asked : Calm (fun _ => True) answers Foreign
        (exchange (.stepCaRoot (rstripSlash env.settings.stepCaUrl)
          env.settings.stepCaFingerprint)) := by
      refine calm_exchange trivial (fun r _ exc h => ?_) fun text _ exc h => ?_
      · cases h
      · cases h
        rfl
    refine asked.bind (fun resp _ => ?_) fun exc h => h exc rfl
    split
    · refine (calm_decoded resp).bind (fun data _ => ?_) fun exc h => ?_
      · refine (calm_language _).bind (fun ca _ => ?_) fun exc h => ?_
        · exact calm_pure ⟨ca.text env.py, rfl⟩
        · exact foreign_mapError _ (fun _ => rfl) exc h.symm
      · exact foreign_mapError _ (fun _ => rfl) exc h.symm
    · exact calm_pure ⟨"", rfl⟩

/-- The two certificates that step 1 goes on with. -/
def signedPair : Except Raised (Json × Json) → Json × Json
  | .ok certs => certs
  | .error _ => (.str "", .str "")

/-- The body of the `try` of step 1. -/
def signOrFetch (env : Env) (tenantId : String) (payload : JoinRequestPayload) :
    App (Json × Json) := do
  let certs ← signSubCaCsr env tenantId payload
  if certs.2.truthy then pure certs
  else do
    let root ← fetchRootCaCert env
    pure (certs.1, root)

theorem isText_empty : IsText (.str "") := ⟨"", rfl⟩

theorem caught_escapes {α : Type} {exc : Raised} (h : exc.isStepCaError = false) :
    caught Raised.isStepCaError (.error exc : Except Raised α) = .error exc := by
  simp [caught, h]

theorem caught_stepCaError {α : Type} {exc : Raised} (h : exc.isStepCaError = true) :
    caught Raised.isStepCaError (.error exc : Except Raised α) = .ok (.error exc) := by
  simp [caught, h]

/-- Step 1 by what its two calls came to. -/
theorem signSubCa_solo (free : Free w) :
    ∃ trace w' result,
      (signSubCa env tenantId payload.subCaCsr).run.solo ans 0 w = ⟨trace, w', some result⟩ ∧
      Held w w' ∧
      ((∃ exc, result = .error exc ∧ SubCaAborts env ans w tenantId payload) ∨
        ∃ signing, result = .ok signing ∧ ¬ SubCaAborts env ans w tenantId payload ∧
          (SubCaTexts env ans w tenantId payload ↔
            IsText (signedPair signing).1 ∧ IsText (signedPair signing).2)) := by
  have hstep : signSubCa env tenantId payload.subCaCsr =
      attempt Raised.isStepCaError (signOrFetch env tenantId payload) := rfl
  rw [hstep]
  have calm : ∀ answers, Calm (fun _ => True) answers anyResult
      (signSubCaCsr env tenantId payload) := fun answers =>
    (signSubCaCsr_calm trivial fun _ _ _ => trivial).mono fun _ _ => trivial
  obtain ⟨trace, v, result, hsigned, held, -⟩ := calm_solo calm free ans 0
  have value : (subCaSigned env ans w tenantId payload).value = some result :=
    congrArg Proc.Run.value hsigned
  cases result with
  | error exc =>
    have hbody : (signOrFetch env tenantId payload).run.solo ans 0 w =
        ⟨trace, v, some (.error exc)⟩ := solo_raised hsigned
    refine ⟨trace, v, _, solo_attempt _ hbody, held, ?_⟩
    cases hexc : exc.isStepCaError with
    | false =>
      rw [caught_escapes hexc]
      exact Or.inl ⟨exc, rfl, Or.inl ⟨exc, value, hexc⟩⟩
    | true =>
      rw [caught_stepCaError hexc]
      refine Or.inr ⟨_, rfl, ?_, fun _ => ⟨isText_empty, isText_empty⟩, fun _ => ?_⟩
      · rintro (⟨exc', hvalue, hexc'⟩ | ⟨⟨crt, ca, hvalue, -⟩, -⟩)
        · rw [value] at hvalue
          cases hvalue
          rw [hexc] at hexc'
          cases hexc'
        · rw [value] at hvalue
          cases hvalue
      · intro crt ca hvalue
        rw [value] at hvalue
        cases hvalue
  | ok certs =>
    cases htruthy : certs.2.truthy with
    | true =>
      have hbody : (signOrFetch env tenantId payload).run.solo ans 0 w =
          ⟨trace, v, some (.ok certs)⟩ := by
        unfold signOrFetch
        rw [solo_then hsigned, if_pos htruthy]
        simp [Proc.solo]
      refine ⟨trace, v, _, solo_attempt _ hbody, held, Or.inr ⟨.ok certs, rfl, ?_, ?_⟩⟩
      · rintro (⟨exc', hvalue, -⟩ | ⟨⟨crt, ca, hvalue, hfalsy⟩, -⟩)
        · rw [value] at hvalue
          cases hvalue
        · rw [value] at hvalue
          cases hvalue
          rw [htruthy] at hfalsy
          cases hfalsy
      · constructor
        · intro texts
          have h := texts certs.1 certs.2 value
          exact ⟨h.1, h.2 htruthy⟩
        · intro texts crt ca hvalue
          rw [value] at hvalue
          cases hvalue
          exact ⟨texts.1, fun _ => texts.2⟩
    | false =>
      have calmRoot : ∀ answers, Calm (fun _ => True) answers RootResult (fetchRootCaCert env) :=
        fun answers => fetchRootCaCert_result answers
      obtain ⟨trace', v', root, hroot, held', hresult⟩ :=
        calm_solo calmRoot held.free ans (0 + trace.length)
      have fetched : (rootFetched env ans w tenantId payload).value = some root := by
        unfold rootFetched JoinPipelines.run
        rw [solo_then hsigned, hroot]
      have hbody : (signOrFetch env tenantId payload).run.solo ans 0 w =
          ⟨trace ++ trace', v', some (root.map fun root => (certs.1, root))⟩ := by
        unfold signOrFetch
        rw [solo_then hsigned, if_neg (by rw [htruthy]; exact Bool.false_ne_true)]
        cases root with
        | error exc => rw [solo_raised hroot]; rfl
        | ok root =>
          rw [solo_then hroot]
          simp [Proc.solo, Except.map]
      have held'' : Held w v' := ⟨held'.free, held.same.trans held'.same⟩
      refine ⟨trace ++ trace', v', _, solo_attempt _ hbody, held'', ?_⟩
      cases root with
      | error exc =>
        refine Or.inl ⟨exc, caught_escapes hresult, Or.inr ⟨⟨certs.1, certs.2, value, htruthy⟩,
          exc, fetched, hresult⟩⟩
      | ok root =>
        refine Or.inr ⟨.ok (certs.1, root), rfl, ?_, ?_⟩
        · rintro (⟨exc', hvalue, -⟩ | ⟨-, exc', hvalue, -⟩)
          · rw [value] at hvalue
            cases hvalue
          · rw [fetched] at hvalue
            cases hvalue
        · constructor
          · intro texts
            exact ⟨(texts certs.1 certs.2 value).1, hresult⟩
          · intro texts crt ca hvalue
            rw [value] at hvalue
            cases hvalue
            refine ⟨texts.1, fun h => ?_⟩
            rw [htruthy] at h
            cases h

/-! ## The steps after it -/

theorem provisionRabbitMq_solo (n : Nat) (free : Free w) :
    ∃ trace w' outcome,
      (provisionRabbitMq env tenantId).run.solo ans n w = ⟨trace, w', some (.ok outcome)⟩ ∧
      Held w w' := by
  have calm : ∀ answers, Calm (ProvisioningCall env tenantId) answers anyResult
      (provisionRabbitMq env tenantId) := fun answers => provisionRabbitMq_calm tenantId
  obtain ⟨trace, v, result, hrun, held, -⟩ := calm_solo calm free ans n
  obtain ⟨outcome, rfl⟩ := attempt_all_solo hrun
  exact ⟨trace, v, outcome, hrun, held⟩

theorem federate_solo (keycloakUrl : String) (n : Nat) (free : Free w) :
    ∃ trace w' outcome,
      (federate env tenantId keycloakUrl).run.solo ans n w = ⟨trace, w', some (.ok outcome)⟩ ∧
      Held w w' := by
  have calm : ∀ answers, Calm (ProvisioningCall env tenantId) answers anyResult
      (federate env tenantId keycloakUrl) := fun answers => federate_calm tenantId keycloakUrl
  obtain ⟨trace, v, result, hrun, held, -⟩ := calm_solo calm free ans n
  obtain ⟨outcome, rfl⟩ := attempt_all_solo hrun
  exact ⟨trace, v, outcome, hrun, held⟩

/-- The bridge's certificate that step 2b goes on with. -/
def bridgeCert : Option (Except Raised Json) → Json
  | some (.ok cert) => cert
  | _ => .str ""

/-- Step 2b by what its call came to. -/
theorem signMqttBridge_solo {trace : List (HttpRequest × HttpResult)} {w' : World} {n : Nat}
    (before : (untilBroker env tenantId payload).run.solo ans 0 w = ⟨trace, w', some (.ok ())⟩)
    (hn : n = 0 + trace.length) (free : Free w') :
    ∃ trace' v result,
      (signMqttBridge env tenantId payload.mqttBridgeCsr).run.solo ans n w' =
        ⟨trace', v, some result⟩ ∧ Held w' v ∧
      ((∃ exc, result = .error exc ∧ payload.mqttBridgeCsr ≠ "" ∧
          Escapes (bridgeSigned env ans w tenantId payload)) ∨
        ∃ bridge, result = .ok bridge ∧
          ¬ (payload.mqttBridgeCsr ≠ "" ∧ Escapes (bridgeSigned env ans w tenantId payload)) ∧
          (BridgeTexts env ans w tenantId payload ↔
            bridgeCert bridge = .null ∨ IsText (bridgeCert bridge))) := by
  subst hn
  by_cases hcsr : payload.mqttBridgeCsr = ""
  · unfold signMqttBridge
    rw [if_pos hcsr]
    refine ⟨[], w', .ok none, rfl, .refl free, Or.inr ⟨none, rfl, fun h => h.1 hcsr, ?_⟩⟩
    exact ⟨fun _ => Or.inr isText_empty, fun _ h => absurd hcsr h⟩
  · have hstep : signMqttBridge env tenantId payload.mqttBridgeCsr =
        attempt Raised.isStepCaError (signBridge env tenantId payload >>= fun certs =>
          pure certs.1) >>= fun outcome => pure (some outcome) := by
      unfold signMqttBridge
      rw [if_neg hcsr, map_eq_pure_bind]
      rfl
    rw [hstep]
    have calm : ∀ answers, Calm (fun _ => True) answers anyResult
        (signBridge env tenantId payload) := fun answers =>
      (signCertificate_calm trivial fun _ _ _ => trivial).mono fun _ _ => trivial
    obtain ⟨trace', v, result, hsigned, held, -⟩ := calm_solo calm free ans (0 + trace.length)
    have value : (bridgeSigned env ans w tenantId payload).value = some result := by
      unfold bridgeSigned JoinPipelines.run
      rw [solo_then before, hsigned]
    have hbody : (signBridge env tenantId payload >>= fun certs => pure certs.1).run.solo ans
        (0 + trace.length) w' = ⟨trace', v, some (result.map Prod.fst)⟩ := by
      cases result with
      | error exc => exact solo_raised hsigned
      | ok certs =>
        rw [solo_then hsigned]
        simp [Proc.solo, Except.map]
    have hattempt := solo_attempt Raised.isStepCaError hbody
    cases result with
    | error exc =>
      cases hexc : exc.isStepCaError with
      | false =>
        refine ⟨trace', v, .error exc, ?_, held, Or.inl ⟨exc, rfl, hcsr, exc, value, hexc⟩⟩
        exact solo_raised (hattempt.trans (by rw [Except.map, caught_escapes hexc]))
      | true =>
        refine ⟨trace', v, .ok (some (.error exc)), ?_, held, Or.inr ⟨_, rfl, ?_, ?_⟩⟩
        · rw [solo_then (hattempt.trans (by
            rw [Except.map, caught_stepCaError hexc]))]
          simp [Proc.solo]
        · rintro ⟨-, exc', hvalue, hexc'⟩
          rw [value] at hvalue
          cases hvalue
          rw [hexc] at hexc'
          cases hexc'
        · refine ⟨fun _ => Or.inr isText_empty, fun _ _ crt ca hvalue => ?_⟩
          rw [value] at hvalue
          cases hvalue
    | ok certs =>
      refine ⟨trace', v, .ok (some (.ok certs.1)), ?_, held, Or.inr ⟨_, rfl, ?_, ?_⟩⟩
      · rw [solo_then hattempt]
        simp [Proc.solo]
      · rintro ⟨-, exc', hvalue, -⟩
        rw [value] at hvalue
        cases hvalue
      · constructor
        · intro texts
          exact texts hcsr certs.1 certs.2 value
        · intro texts _ crt ca hvalue
          rw [value] at hvalue
          cases hvalue
          exact texts

/-! ## The whole pipeline -/

theorem held_trans {w w' w'' : World} (h : Held w w') (h' : Held w' w'') : Held w w'' :=
  ⟨h'.free, h.same.trans h'.same⟩

/-- The pipeline raises where step 1 or step 2b does, and its certificates are
texts where step-ca's are. -/
theorem provision_solo (free : Free w) :
    ∃ trace w' result,
      (provision env tenantId payload.subCaCsr payload.mqttBridgeCsr
        payload.keycloakUrl).run.solo ans 0 w = ⟨trace, w', some result⟩ ∧ Held w w' ∧
      ((∃ exc, result = .error exc ∧ Aborts env ans w tenantId payload) ∨
        ∃ p, result = .ok p ∧ ¬ Aborts env ans w tenantId payload ∧
          (CertificatesAreTexts env ans w tenantId payload ↔
            IsText p.signedCert ∧ IsText p.rootCaCert ∧
              (p.mqttBridgeCert = .null ∨ IsText p.mqttBridgeCert))) := by
  unfold provision
  obtain ⟨t₁, w₁, _, hsubCa, held₁, cases₁⟩ := @signSubCa_solo env ans w tenantId payload free
  rcases cases₁ with ⟨exc, rfl, aborts⟩ | ⟨signing, rfl, through, texts⟩
  · exact ⟨t₁, w₁, .error exc, solo_raised hsubCa, held₁, Or.inl ⟨exc, rfl, Or.inl aborts⟩⟩
  obtain ⟨t₂, w₂, broker, hbroker, held₂⟩ :=
    @provisionRabbitMq_solo env ans w₁ tenantId (0 + t₁.length) held₁.free
  have before : (untilBroker env tenantId payload).run.solo ans 0 w =
      ⟨t₁ ++ (t₂ ++ []), w₂, some (.ok ())⟩ := by
    unfold untilBroker
    rw [solo_then hsubCa, solo_then hbroker]
    rfl
  obtain ⟨t₃, w₃, _, hbridge, held₃, cases₃⟩ :=
    signMqttBridge_solo (n := 0 + t₁.length + t₂.length) before (by simp) held₂.free
  have held := held_trans held₁ (held_trans held₂ held₃)
  rcases cases₃ with ⟨exc, rfl, aborts⟩ | ⟨bridge, rfl, bridgeThrough, bridgeTexts⟩
  · refine ⟨t₁ ++ (t₂ ++ t₃), w₃, .error exc, ?_, held, Or.inl ⟨exc, rfl, Or.inr aborts⟩⟩
    rw [solo_then hsubCa, solo_then hbroker, solo_raised hbridge]
  obtain ⟨t₄, w₄, federation, hfederation, held₄⟩ := @federate_solo env ans w₃ tenantId
    payload.keycloakUrl (0 + t₁.length + t₂.length + t₃.length) held₃.free
  refine ⟨t₁ ++ (t₂ ++ (t₃ ++ (t₄ ++ []))), w₄, .ok _, by
    rw [solo_then hsubCa, solo_then hbroker, solo_then hbridge, solo_then hfederation]
    rfl, held_trans held held₄, Or.inr ⟨_, rfl, ?_, ?_⟩⟩
  · rintro (aborts | aborts)
    · exact through aborts
    · exact bridgeThrough aborts
  · constructor
    · intro certificates
      refine ⟨?_, ?_, ?_⟩
      · cases signing <;> exact (texts.mp certificates.1).1
      · cases signing <;> exact (texts.mp certificates.1).2
      · exact bridgeTexts.mp certificates.2
    · rintro ⟨signed, root, mqtt⟩
      refine ⟨texts.mpr ⟨?_, ?_⟩, bridgeTexts.mpr mqtt⟩
      · cases signing <;> exact signed
      · cases signing <;> exact root

end Steps

/-! ## The response model -/

/-- `JoinHandshakeResponse(…)` on what the pipeline ended with. -/
def respond (tenantId : String) (p : Provisioned) : App JoinHandshakeResponse :=
  handshakeResponse tenantId p.signedCert p.rootCaCert p.rmqUrl p.rmqVhost p.rmqMqttUser
    p.mqttBridgeCert p.cdmIdpClientId p.cdmIdpClientSecret p.cdmDiscoveryUrl

theorem runProvisioning_eq (env : Env) (tenantId : String) (payload : JoinHandshakePayload) :
    runProvisioning env tenantId payload =
      provision env tenantId payload.subCaCsr payload.mqttBridgeCsr payload.keycloakUrl >>=
        respond tenantId := rfl

/-- The certificates of a bundle are texts; the bridge's may be missing. -/
structure Texts (p : Provisioned) : Prop where
  signed : IsText p.signedCert
  root : IsText p.rootCaCert
  bridge : p.mqttBridgeCert = .null ∨ IsText p.mqttBridgeCert

@[simp] theorem unset_orNone (s : String) : unset (.ofOption (orNone s)) = .str s := by
  unfold orNone
  split
  next h =>
    subst h
    rfl
  · rfl

@[simp] theorem ofOption_some (s : String) : Json.ofOption (some s) = .str s := rfl

@[simp] theorem unset_str (s : String) : unset (.str s) = .str s := rfl

/-- The bridge's certificate as the response has it. -/
theorem bridge_response {cert : Json} (h : cert = .null ∨ IsText cert) :
    ∃ member, optionalStrField (if cert.truthy then cert else .null) = some member ∧
      unset (.ofOption member) = unset cert := by
  rcases h with rfl | ⟨s, rfl⟩
  · exact ⟨none, rfl, rfl⟩
  · by_cases hs : s = ""
    · subst hs
      exact ⟨none, rfl, rfl⟩
    · have htruthy : (Json.str s).truthy = true := by simp [Json.truthy, hs]
      exact ⟨some s, by rw [if_pos htruthy]; rfl, rfl⟩

theorem respond_texts (tenantId : String) {p : Provisioned} (h : Texts p) :
    ∃ reply, respond tenantId p = pure reply ∧ Agree (handed reply) (approved p) := by
  obtain ⟨⟨signed, hsigned⟩, ⟨root, hroot⟩, bridge⟩ := h
  obtain ⟨member, hmember, same⟩ := bridge_response bridge
  refine ⟨_, by rw [respond, handshakeResponse, hsigned, hroot, hmember]; rfl, ?_⟩
  simp [Agree, handed, approved, hsigned, hroot, same]

/-- A member of a response is the certificate only if that is a text or null. -/
theorem text_of_member {member : Option String} {cert : Json}
    (same : unset (.ofOption member) = unset cert) : cert = .null ∨ IsText cert := by
  have text : ∃ s, unset (.ofOption member) = .str s := by
    cases member with
    | none => exact ⟨"", rfl⟩
    | some s => exact ⟨s, rfl⟩
  obtain ⟨s, hs⟩ := text
  rw [hs] at same
  cases cert with
  | null => exact Or.inl rfl
  | str s => exact Or.inr ⟨s, rfl⟩
  | bool b => cases same
  | int n => cases same
  | float text => cases same
  | arr items => cases same
  | obj fields => cases same

/-- Without texts the response model raises, or it drops a value that counts as
false and that the approval keeps. -/
theorem respond_without (tenantId : String) {p : Provisioned} (h : ¬ Texts p) :
    respond tenantId p = fail .validationError ∨
      ∃ reply, respond tenantId p = pure reply ∧ ¬ Agree (handed reply) (approved p) := by
  unfold respond handshakeResponse
  split
  next signed root member hsigned hroot hmember =>
    refine Or.inr ⟨_, rfl, fun agree => h ?_⟩
    simp only [Agree, handed, approved, List.map_cons, List.cons.injEq, Prod.mk.injEq] at agree
    exact ⟨⟨signed, eq_str_of_strField hsigned⟩, ⟨root, eq_str_of_strField hroot⟩,
      text_of_member agree.2.2.2.2.2.1.2⟩
  · exact Or.inl rfl

/-! ## The poll -/

section Poll

variable {env : Env} {ans : Nat → HttpResult} {v w : World} {tenantId : String}
  {payload : JoinRequestPayload}

/-- What a submission that is accepted leaves on file. -/
theorem submitted_entry (free : Free v) {reply : SubmitResponse}
    (submitted : Proc.RunsTo (submitJoinRequest env tenantId payload).run v (.ok reply) w) :
    Free w ∧ (entries w).get? tenantId =
      some (pendingEntry tenantId payload (env.clock v.ticks)) := by
  rcases submitJoinRequest_runs free.store submitted with ⟨exc, refused, -⟩ | ⟨-, -, rfl⟩
  · cases refused
  · exact ⟨⟨free.store, free.key⟩, Dict.get?_set_self _ _ _⟩

/-- A stored bundle of texts is what the poll answers. -/
theorem getJoinStatus_approved (free : Free w) {entry : JoinEntry} {approvedAt : Datetime}
    {p : Provisioned} (texts : Texts p)
    (stored : (entries w).get? tenantId = some (approvedEntry entry approvedAt p)) :
    ∃ status, Proc.RunsTo (getJoinStatus tenantId).run w (.ok status) w ∧
      status.status = "approved" ∧ Agree (approved p) (polled status) := by
  obtain ⟨⟨signed, hsigned⟩, ⟨root, hroot⟩, bridge⟩ := texts
  have member : ∃ m, optionalStrField p.mqttBridgeCert = some m ∧
      Json.ofOption m = p.mqttBridgeCert := by
    rcases bridge with h | ⟨s, h⟩
    · exact ⟨none, by rw [h]; rfl, h.symm⟩
    · exact ⟨some s, by rw [h]; rfl, h.symm⟩
  obtain ⟨m, hm, hmember⟩ := member
  have found : Proc.RunsTo (getRequest tenantId).run w
      (.ok (approvedEntry entry approvedAt p)) w := by
    have hget := @getRequest_runs tenantId w free
    rw [stored] at hget
    exact hget
  have hfields : optionalStrField (approvedEntry entry approvedAt p).signedCert =
        some (some signed) ∧
      optionalStrField (approvedEntry entry approvedAt p).rootCaCert = some (some root) ∧
      optionalStrField (approvedEntry entry approvedAt p).mqttBridgeCert = some m := by
    refine ⟨?_, ?_, hm⟩
    · simp [approvedEntry, hsigned, optionalStrField]
    · simp [approvedEntry, hroot, optionalStrField]
  refine ⟨_, by
    unfold getJoinStatus
    refine runsTo_bind found ?_
    rw [hfields.1, hfields.2.1, hfields.2.2]
    exact Proc.RunsTo.ret _ _, rfl, ?_⟩
  simp [Agree, approved, polled, approvedEntry, hsigned, hroot, hmember]

theorem approveThenPoll_value {caller : Caller} {user : Option Json}
    (guard : getCdmAdmin caller = .ok user) (free : Free w) {requestedAt : Datetime}
    (found : (entries w).get? tenantId = some (pendingEntry tenantId payload requestedAt))
    {trace : List (HttpRequest × HttpResult)} {w' : World} {p : Provisioned}
    (hp : (provision env tenantId payload.subCaCsr payload.mqttBridgeCsr
      payload.keycloakUrl).run.solo ans 0 w = ⟨trace, w', some (.ok p)⟩)
    (held : Held w w') (texts : Texts p) :
    ∃ status, (approveThenPoll env ans w tenantId caller).value = some (.ok status) ∧
      status.status = "approved" ∧ Agree (approved p) (polled status) := by
  have entriesKept : entries w' = entries w := held.same.entries
  obtain ⟨w'', hw''⟩ : ∃ w'', w'' = { w' with
      ticks := w'.ticks + 1
      requests := some ((entries w).set tenantId
        (approvedEntry (pendingEntry tenantId payload requestedAt) (env.clock w'.ticks) p)) } :=
    ⟨_, rfl⟩
  have free'' : Free w'' := by
    subst hw''
    exact ⟨held.free.store, held.free.key⟩
  have stored : (entries w'').get? tenantId = some
      (approvedEntry (pendingEntry tenantId payload requestedAt) (env.clock w'.ticks) p) := by
    subst hw''
    exact Dict.get?_set_self _ _ _
  have approve : (approveJoinRequest env caller tenantId).run.solo ans 0 w = ⟨trace, w'', some
      (.ok { tenantId := tenantId, results := p.results, errors := p.errors, bundle := p })⟩ := by
    subst hw''
    unfold approveJoinRequest
    rw [solo_of_runs (language_runs _ w), guard]
    simp only [Except.mapError, onward_ok]
    rw [solo_of_runs (getRequest_runs free), found]
    simp only [onward_ok]
    have pending : (pendingEntry tenantId payload requestedAt).status = .pending := rfl
    rw [if_neg (by rw [pending]; decide), if_neg (by rw [pending]; decide)]
    refine solo_after hp ?_
    refine runsTo_bind (loadStore_runs held.free.store) ?_
    rw [entriesKept, found]
    refine runsTo_bind (now_runs env w') ?_
    exact runsTo_bind (saveStore_runs _ held.free.store) (Proc.RunsTo.ret _ _)
  obtain ⟨status, hpoll, hstatus, agree⟩ := getJoinStatus_approved free'' texts stored
  refine ⟨status, ?_, hstatus, agree⟩
  have hrest := Proc.solo_of_runsTo (f := .ret) hpoll ans (0 + trace.length)
  rw [Proc.bind_ret] at hrest
  unfold approveThenPoll JoinPipelines.run
  rw [solo_then approve, hrest]
  rfl

end Poll

/-! ## Result -/

/-- The two pipelines, run on one submission from the same state of clock and
random secrets, do the same exactly if step-ca's certificates are texts, unless
they are aborted, which ends both alike. -/
theorem same_pipeline_iff (env : Env) (ans : Nat → HttpResult) {v w : World} (free : Free v)
    {tenantId : String} {payload : JoinRequestPayload} {reply : SubmitResponse}
    (submitted : Proc.RunsTo (submitJoinRequest env tenantId payload).run v (.ok reply) w)
    {entry : JoinEntry} (stored : (entries w).get? tenantId = some entry)
    {caller : Caller} {user : Option Json} (guard : getCdmAdmin caller = .ok user) :
    SamePipeline env ans w tenantId payload caller entry ↔
      Aborts env ans w tenantId payload ∨ CertificatesAreTexts env ans w tenantId payload := by
  obtain ⟨freed, found⟩ := submitted_entry free submitted
  have hentry : entry = pendingEntry tenantId payload (env.clock v.ticks) :=
    Option.some.inj (stored.symm.trans found)
  obtain ⟨trace, w', result, hp, held, outcome⟩ := @provision_solo env ans w tenantId payload freed
  have approval : approvalRun env ans w tenantId entry = ⟨trace, w', some result⟩ := by
    unfold approvalRun JoinPipelines.run
    rw [approvalPipeline_eq, hentry]
    exact hp
  have handshake : handshakeRun env ans w tenantId payload =
      (provision env tenantId payload.subCaCsr payload.mqttBridgeCsr payload.keycloakUrl >>=
        respond tenantId).run.solo ans 0 w := by
    unfold handshakeRun JoinPipelines.run
    rw [handshakePipeline_eq, runProvisioning_eq]
    rfl
  rcases outcome with ⟨exc, rfl, aborts⟩ | ⟨p, rfl, through, texts⟩
  · rw [solo_raised hp] at handshake
    refine ⟨fun _ => Or.inl aborts, fun _ => ⟨?_, ?_, ?_⟩⟩
    · rw [approval, handshake]
    · refine ⟨.error exc, .error exc, by rw [handshake], by rw [approval], .raised exc exc⟩
    · intro reply h
      rw [handshake] at h
      cases h
  · rw [solo_then hp] at handshake
    by_cases h : Texts p
    · have certificates := texts.mpr ⟨h.signed, h.root, h.bridge⟩
      obtain ⟨reply, hreply, agree⟩ := respond_texts tenantId h
      rw [hreply] at handshake
      refine ⟨fun _ => Or.inr certificates, fun _ => ⟨?_, ?_, ?_⟩⟩
      · rw [approval, handshake]
        simp [Proc.solo]
      · exact ⟨.ok reply, .ok p, by rw [handshake]; rfl, by rw [approval], .handed reply p agree⟩
      · intro reply' hvalue
        rw [handshake] at hvalue
        cases hvalue
        obtain ⟨status, hpoll, hstatus, agree'⟩ :=
          approveThenPoll_value guard freed found hp held h
        exact ⟨status, hpoll, hstatus, agree.trans agree'⟩
    · constructor
      · intro same
        exfalso
        obtain ⟨result, result', hresult, hresult', hsame⟩ := same.outcome
        rw [approval] at hresult'
        cases hresult'
        rw [handshake] at hresult
        rcases respond_without tenantId h with hraise | ⟨reply, hreply, differ⟩
        · rw [hraise] at hresult
          cases hresult
          cases hsame
        · rw [hreply] at hresult
          cases hresult
          cases hsame with
          | handed reply p agree => exact differ agree
      · rintro (aborts | certificates)
        · exact absurd aborts through
        · obtain ⟨signed, root, bridge⟩ := texts.mp certificates
          exact absurd ⟨signed, root, bridge⟩ h

/-! ## Two answers of step-ca -/

def acmeRequest : JoinRequestPayload :=
  { displayName := "Acme", subCaCsr := "csr", wgPubkey := "", mqttBridgeCsr := "bridge csr" }

def acmeEntry : JoinEntry := pendingEntry "acme" acmeRequest ⟨63892281600000000⟩

/-- After the submission, with nothing else on file. -/
def submittedWorld : World :=
  { World.empty with ticks := 1, requests := some (Dict.empty.set "acme" acmeEntry) }

theorem acme_submitted :
    Proc.RunsTo (submitJoinRequest Env.counting "acme" acmeRequest).run World.empty
      (.ok { tenantId := "acme", pollUrl := "/portal/admin/tenants/acme/join-status" })
      submittedWorld := by
  have accepted : tenantIdOk Env.counting.py "acme" = true := by decide
  unfold submitJoinRequest
  rw [if_pos accepted]
  rfl

def ok (body : Json) : HttpResult := .response { status := 200, text := "", json := .ok body }

/-- A listing with both JWK provisioners. -/
def bothProvisioners : HttpResult :=
  ok (.obj [("provisioners", .arr
    [.obj [("name", .str "tenant-sub-ca-signer"), ("type", .str "JWK"),
      ("encryptedKey", .str "jwe")],
    .obj [("name", .str "iot-bridge"), ("type", .str "JWK"), ("encryptedKey", .str "jwe")]])])

/-- The services answer, and step-ca signs the sub-CA with `crt` and `ca`; the
calls of RabbitMQ and Keycloak go unanswered. -/
def signing (crt ca : Json) : Nat → HttpResult
  | 0 => bothProvisioners
  | 1 => ok (.obj [("crt", crt), ("ca", ca)])
  | 2 => unreachable
  | 3 => bothProvisioners
  | 4 => ok (.obj [("crt", .str "bridge crt"), ("ca", .str "")])
  | _ => unreachable

/-- A submission whose certificates are texts. -/
theorem same_pipeline_signed :
    SamePipeline Env.counting (signing (.str "crt") (.str "ca")) submittedWorld "acme" acmeRequest
      cdmAdmin acmeEntry := by
  have subCa : (subCaSigned Env.counting (signing (.str "crt") (.str "ca")) submittedWorld "acme"
      acmeRequest).value = some (.ok (.str "crt", .str "ca")) := rfl
  have bridge : (bridgeSigned Env.counting (signing (.str "crt") (.str "ca")) submittedWorld "acme"
      acmeRequest).value = some (.ok (.str "bridge crt", .str "")) := rfl
  have guard : getCdmAdmin cdmAdmin = .ok (some cdmAdmin.user) := rfl
  refine (same_pipeline_iff Env.counting (signing (.str "crt") (.str "ca"))
    (v := World.empty) ⟨rfl, rfl⟩ acme_submitted (Dict.get?_set_self _ _ _)
    guard).mpr (Or.inr ⟨?_, ?_⟩)
  · intro crt ca h
    rw [subCa] at h
    cases h
    exact ⟨⟨"crt", rfl⟩, fun _ => ⟨"ca", rfl⟩⟩
  · intro _ crt ca h
    rw [bridge] at h
    cases h
    exact Or.inr ⟨"bridge crt", rfl⟩

/-- step-ca answers with no certificate: the handshake raises, and the approval
is saved as if all had been well. -/
theorem null_certificate_differs :
    ¬ SamePipeline Env.counting (signing .null .null) submittedWorld "acme" acmeRequest cdmAdmin
      acmeEntry := by
  have handshake : (handshakeRun Env.counting (signing .null .null) submittedWorld "acme"
      acmeRequest).value = some (.error .validationError) := rfl
  have approval : ∃ p, (approvalRun Env.counting (signing .null .null) submittedWorld "acme"
      acmeEntry).value = some (.ok p) := ⟨_, rfl⟩
  intro same
  obtain ⟨result, result', hresult, hresult', outcome⟩ := same.outcome
  obtain ⟨p, hp⟩ := approval
  rw [handshake] at hresult
  rw [hp] at hresult'
  cases hresult
  cases hresult'
  cases outcome

end CompleteDeviceManagement.Guarantees.JoinPipelines
