import CompleteDeviceManagement.Guarantees.JoinStateMachine

/-!
# Certificates of approved requests

Of step-ca it is assumed that the certificate it answers with is issued for the
CSR it was sent. An approval signs the CSRs it read when it started and writes
the certificates into the entry it finds at the end: as long as that entry
still has the same CSRs, every approved entry holds certificates for its own.
-/

set_option autoImplicit false

namespace CompleteDeviceManagement.Guarantees.CertificateAgreement
open CompleteDeviceManagement.Library CompleteDeviceManagement.Source.Models
  CompleteDeviceManagement.Source.Runtime CompleteDeviceManagement.Source.AdminPortal
  CompleteDeviceManagement.Source.JoinStore CompleteDeviceManagement.Source.JoinRouter
  CompleteDeviceManagement.Source.Service CompleteDeviceManagement.Guarantees.Provisioning
  CompleteDeviceManagement.Guarantees.JoinContract
  CompleteDeviceManagement.Guarantees.JoinStateMachine
open CompleteDeviceManagement.Library.EventLoop

section Issued

/- `issued cert csr`: step-ca issued this certificate for this CSR. -/
variable (issued : Json → String → Prop)

/-- An answer to a CSR that carries a certificate carries one for that CSR. -/
def IssuesFor (request : HttpRequest) (result : HttpResult) : Prop :=
  ∀ url csr ott r data cert, request = .stepCaSign url csr ott → result = .response r →
    r.json = .ok data → data.item "crt" = .ok cert → issued cert csr

structure Agrees (entry : JoinEntry) : Prop where
  subCa : entry.signedCert ≠ .str "" → issued entry.signedCert entry.subCaCsr
  mqtt : entry.mqttBridgeCert ≠ .str "" → issued entry.mqttBridgeCert entry.mqttBridgeCsr

/-- Every approved entry on file holds certificates for its own CSRs. -/
def Agreement (w : World) : Prop :=
  ∀ tenantId entry, (entries w).get? tenantId = some entry → entry.status = .approved →
    Agrees issued entry

/-- The step in which an approval saves finds the CSRs that the approval read
when it started. -/
def SavesSameCsrs (c : JoinLoop) : JoinAction → Prop
  | .arrive _ => True
  | .resume i result => ∀ t tenantId reply entry stored, c.tasks[i]? = some t →
      t.request.endpoint = .approveJoinRequest tenantId →
      (runTask t result c.state).1.stop = .returned (.approved reply) →
      (entries (t.begun.getD c.state)).get? tenantId = some entry →
      (entries c.state).get? tenantId = some stored →
      stored.subCaCsr = entry.subCaCsr ∧ stored.mqttBridgeCsr = entry.mqttBridgeCsr

/-- The steps considered: step-ca answers as assumed, and every save finds the
CSRs it has certificates for. -/
def Considered (c : JoinLoop) (action : JoinAction) : Prop :=
  Answers (IssuesFor issued) c action ∧ SavesSameCsrs c action

variable {issued}

theorem issued_of_certified {csr issuer subject : String} {cert : Json}
    (h : Certified (IssuesFor issued) csr issuer subject cert) : issued cert csr := by
  obtain ⟨url, ott, r, data, given, -, -, -, hjson, hcrt⟩ := h
  exact given url csr ott r data cert rfl rfl hjson hcrt

/-- What an approval saves agrees with the CSRs it signed. -/
theorem agrees_of_bundle {env : Env} {tenantId : String} {entry stored : JoinEntry}
    {approvedAt : Datetime} {p : Provisioned}
    (bundle : Bundle env (IssuesFor issued) tenantId entry.subCaCsr entry.mqttBridgeCsr p)
    (same : stored.subCaCsr = entry.subCaCsr ∧ stored.mqttBridgeCsr = entry.mqttBridgeCsr) :
    Agrees issued (approvedEntry stored approvedAt p) := by
  refine ⟨fun nonempty => ?_, fun nonempty => ?_⟩
  · have hcsr : (approvedEntry stored approvedAt p).subCaCsr = entry.subCaCsr := same.1
    rw [hcsr]
    rcases bundle.subCa with ⟨certified, -⟩ | ⟨empty, -⟩
    · exact issued_of_certified certified
    · exact absurd empty nonempty
  · have hcsr : (approvedEntry stored approvedAt p).mqttBridgeCsr = entry.mqttBridgeCsr := same.2
    rw [hcsr]
    rcases bundle.mqtt with certified | empty
    · exact issued_of_certified certified
    · exact absurd empty nonempty

theorem agreement_set {w w' : World} {tenantId : String} {entry : JoinEntry}
    (h : Agreement issued w)
    (requests : w'.requests = some ((entries w).set tenantId entry))
    (agrees : entry.status = .approved → Agrees issued entry) : Agreement issued w' := by
  intro other found hfound happroved
  rw [entries_set requests] at hfound
  by_cases he : other = tenantId
  · rw [if_pos he] at hfound
    cases hfound
    exact agrees happroved
  · rw [if_neg he] at hfound
    exact h other found hfound happroved

theorem writes_agreement {env : Env} {q : Request} {b s s' : World}
    {stop : Proc.Stop HttpRequest Reply} (h : Agreement issued s)
    (written : Writes env (IssuesFor issued) q b s s' stop)
    (saves : ∀ tenantId reply entry stored, q.endpoint = .approveJoinRequest tenantId →
      stop = .returned (.approved reply) → (entries b).get? tenantId = some entry →
      (entries s).get? tenantId = some stored →
      stored.subCaCsr = entry.subCaCsr ∧ stored.mqttBridgeCsr = entry.mqttBridgeCsr) :
    Agreement issued s' := by
  have unchanged : s'.requests = s.requests → Agreement issued s' := by
    intro requests tenantId entry hentry
    simp only [entries, requests] at hentry
    exact h tenantId entry hentry
  cases written with
  | nothing same => exact unchanged same.requests
  | keyIssued issuedAt hq admitted requests keys => exact unchanged requests
  | keyExpired hq first stored isOpen requests keys => exact unchanged requests
  | keyUsed hq first presented requests keys => exact unchanged requests
  | submitted hq accepted unapproved keys requests =>
    refine agreement_set h requests fun happroved => ?_
    cases happroved
  | approved hq begun pending current bundle keys requests =>
    exact agreement_set h requests fun _ =>
      agrees_of_bundle bundle (saves _ _ _ _ hq rfl begun current)
  | rejected hq current unapproved keys requests =>
    refine agreement_set h requests fun happroved => ?_
    cases happroved

/-- Every run in which step-ca answers as assumed and every approval saves over
the CSRs it signed. -/
theorem certificates_agree (issued : Json → String → Prop) (env : Env) (w0 : World)
    (free : Free w0) (initial : Agreement issued w0) (c : JoinLoop)
    (h : Reaches (serve env) (Considered issued) (start w0) c) : Agreement issued c.state := by
  have inOrder : JoinOk env (IssuesFor issued) c ∧ Agreement issued c.state := by
    apply h.invariant
    · exact ⟨loopOk_start _ _ _ _ free, initial⟩
    · intro c action ⟨ok, agreement⟩ ⟨answered, saves⟩
      refine ⟨(serve_serves env (IssuesFor issued)).step_ok ok answered, ?_⟩
      rcases step_owes ok answered with same | ⟨i, result, t, rfl, hi, hstate, owes⟩
      · rw [same]
        exact agreement
      · rw [hstate]
        refine writes_agreement agreement owes.writes ?_
        intro tenantId reply entry stored hq hstop begun current
        exact saves t tenantId reply entry stored hi hq hstop begun current
  exact inOrder.2

end Issued

/-! ## A resubmission in the window -/

/-- A step-ca whose certificates are the texts of the CSRs. -/
def echoed (cert : Json) (csr : String) : Prop := cert = .str csr

def signer : HttpResult :=
  .response
    { status := 200, text := ""
      json := .ok (.obj [("provisioners", .arr [.obj [("name", .str "tenant-sub-ca-signer"),
        ("type", .str "JWK"), ("encryptedKey", .str "jwe")]])]) }

def certificate (csr : String) : HttpResult :=
  .response
    { status := 201, text := "", json := .ok (.obj [("crt", .str csr), ("ca", .str "root")]) }

/-- An approval that is suspended at its first exchange while another submission
replaces the request; the approval then sends the first CSR. -/
def resubmitted : List JoinAction :=
  [.arrive (submission "csr-1"), .resume 0 unreachable,
    .arrive ⟨cdmAdmin, .approveJoinRequest "acme"⟩, .resume 1 unreachable,
    .arrive (submission "csr-2"), .resume 2 unreachable, .resume 1 signer]

/-- The CSR that a suspended task has sent to the signer. -/
def sentCsr (t : JoinTask) : Option String :=
  match t.proc.stop with
  | .suspended (some (.stepCaSign _ csr _)) => some csr
  | _ => none

def NoCertificate : JoinAction → Prop
  | .arrive _ => True
  | .resume _ result => ∀ r data cert, result = .response r → r.json = .ok data →
      data.item "crt" ≠ .ok cert

theorem reaches_without_certificate (env : Env) (issued : Json → String → Prop) (c : JoinLoop)
    (actions : List JoinAction) (h : ∀ action ∈ actions, NoCertificate action) :
    Reaches (serve env) (Answers (IssuesFor issued)) c (run (serve env) c actions) := by
  apply reaches_run
  intro before action after split
  have hplain := h action (by simp [split])
  cases action with
  | arrive q => exact trivial
  | resume i result =>
    intro t request next _ _ _ url csr ott r data cert _ hr hjson hcrt
    exact absurd hcrt (hplain r data cert hr hjson)

theorem noCertificate_unreachable (i : Nat) : NoCertificate (.resume i unreachable) := by
  intro r data cert hr
  cases hr

theorem noCertificate_signer (i : Nat) : NoCertificate (.resume i signer) := by
  intro r data cert hr hjson hcrt
  cases hr
  cases hjson
  cases hcrt

theorem sentCsr_answered {c : JoinLoop} {i : Nat} {csr : String}
    (sent : (c.tasks[i]?).bind sentCsr = some csr) :
    Answers (IssuesFor echoed) c (.resume i (certificate csr)) := by
  intro t request next ht _ hproc url csr' ott r data cert hrequest hr hjson hcrt
  rw [ht, Option.bind_some, sentCsr, hproc, hrequest] at sent
  cases sent
  cases hr
  cases hjson
  cases hcrt
  rfl

/-- The approved entry then holds the certificate of the first CSR beside the
second. -/
theorem certificate_of_other_csr :
    ∃ c, Reaches (serve Env.counting) (Answers (IssuesFor echoed)) (start World.empty) c ∧
      ¬ Agreement echoed c.state := by
  have signing : Reaches (serve Env.counting) (Answers (IssuesFor echoed)) (start World.empty)
      (run (serve Env.counting) (start World.empty) resubmitted) := by
    apply reaches_without_certificate
    intro action haction
    simp only [resubmitted, List.mem_cons, List.not_mem_nil, or_false] at haction
    rcases haction with rfl | rfl | rfl | rfl | rfl | rfl | rfl
    · exact trivial
    · exact noCertificate_unreachable 0
    · exact trivial
    · exact noCertificate_unreachable 1
    · exact trivial
    · exact noCertificate_unreachable 2
    · exact noCertificate_signer 1
  have sent : ((run (serve Env.counting) (start World.empty) resubmitted).tasks[1]?).bind
      sentCsr = some "csr-1" := by decide +kernel
  have signed := signing.then (.resume 1 (certificate "csr-1")) (sentCsr_answered sent)
  have saved := reaches_without_certificate Env.counting echoed
    (step (serve Env.counting) (run (serve Env.counting) (start World.empty) resubmitted)
      (.resume 1 (certificate "csr-1"))) [.resume 1 unreachable, .resume 1 unreachable] <| by
    intro action haction
    simp only [List.mem_cons, List.not_mem_nil, or_false, or_self] at haction
    subst haction
    exact noCertificate_unreachable 1
  refine ⟨_, signed.trans saved, fun agreement => ?_⟩
  have stored : ((entries (run (serve Env.counting) (step (serve Env.counting)
      (run (serve Env.counting) (start World.empty) resubmitted)
      (.resume 1 (certificate "csr-1")))
      [.resume 1 unreachable, .resume 1 unreachable]).state).get? "acme").map
        (fun e => (e.status, e.subCaCsr, e.signedCert.isText "csr-1")) =
      some (.approved, "csr-2", true) := by decide +kernel
  obtain ⟨entry, hentry, hfields⟩ := Option.map_eq_some_iff.mp stored
  simp only [Prod.mk.injEq] at hfields
  obtain ⟨happroved, hcsr, hcert⟩ := hfields
  have agrees := agreement "acme" entry hentry happroved
  cases hsigned : entry.signedCert with
  | str text =>
    rw [hsigned] at hcert
    have htext : text = "csr-1" := by simpa [Json.isText] using hcert
    have nonempty : entry.signedCert ≠ .str "" := by
      rw [hsigned, htext]
      intro h
      exact absurd (Json.str.inj h) (by decide)
    have echo := agrees.subCa nonempty
    rw [hsigned, hcsr, htext] at echo
    exact absurd (Json.str.inj echo) (by decide)
  | null => rw [hsigned] at hcert; cases hcert
  | bool b => rw [hsigned] at hcert; cases hcert
  | int n => rw [hsigned] at hcert; cases hcert
  | float text => rw [hsigned] at hcert; cases hcert
  | arr items => rw [hsigned] at hcert; cases hcert
  | obj fields => rw [hsigned] at hcert; cases hcert

/-! ## An approval without one -/

theorem considered_resume {c : JoinLoop} {i : Nat} {result : HttpResult}
    (answered : Answers (IssuesFor echoed) c (.resume i result))
    (same : ∀ t, c.tasks[i]? = some t → (t.begun.getD c.state).requests = c.state.requests) :
    Considered echoed c (.resume i result) := by
  refine ⟨answered, fun t tenantId reply entry stored ht _ _ begun current => ?_⟩
  have hentries : entries (t.begun.getD c.state) = entries c.state := by
    simp only [entries, same t ht]
  rw [hentries, current] at begun
  cases begun
  exact ⟨rfl, rfl⟩

theorem considered_plain {c : JoinLoop} {i : Nat} {result : HttpResult}
    (plain : NoCertificate (.resume i result))
    (same : ∀ t, c.tasks[i]? = some t → (t.begun.getD c.state).requests = c.state.requests) :
    Considered echoed c (.resume i result) :=
  considered_resume
    (fun _ _ _ _ _ _ _ _ _ r data cert _ hr hjson hcrt => absurd hcrt (plain r data cert hr hjson))
    same

/-- One request, submitted and approved. -/
theorem certificates_agree_approval :
    Agreement echoed (run (serve Env.counting) (start World.empty)
      [.arrive (submission "csr-1"), .resume 0 unreachable,
        .arrive ⟨cdmAdmin, .approveJoinRequest "acme"⟩, .resume 1 unreachable, .resume 1 signer,
        .resume 1 (certificate "csr-1"), .resume 1 unreachable, .resume 1 unreachable]).state := by
  have submitted := (Reaches.then (Relation.ReflTransGen.refl
      (r := Step (serve Env.counting) (Considered echoed)) (a := start World.empty))
    (.arrive (submission "csr-1")) ⟨trivial, trivial⟩).then (.resume 0 unreachable)
      (considered_plain (noCertificate_unreachable 0) fun t ht => by
        cases Option.some.inj ht
        rfl)
  have approving := ((submitted.then (.arrive ⟨cdmAdmin, .approveJoinRequest "acme"⟩)
    ⟨trivial, trivial⟩).then (.resume 1 unreachable)
      (considered_plain (noCertificate_unreachable 1) fun t ht => by
        cases Option.some.inj ht
        rfl)).then (.resume 1 signer)
      (considered_plain (noCertificate_signer 1) fun t ht => by
        cases Option.some.inj ht
        rfl)
  have signed := approving.then (.resume 1 (certificate "csr-1"))
    (considered_resume (sentCsr_answered (by decide +kernel)) fun t ht => by
      cases Option.some.inj ht
      rfl)
  have saved := (signed.then (.resume 1 unreachable)
    (considered_plain (noCertificate_unreachable 1) fun t ht => by
      cases Option.some.inj ht
      rfl)).then (.resume 1 unreachable)
    (considered_plain (noCertificate_unreachable 1) fun t ht => by
      cases Option.some.inj ht
      rfl)
  exact certificates_agree echoed Env.counting World.empty ⟨rfl, rfl⟩
    (fun tenantId entry hentry => by cases hentry) _ saved

end CompleteDeviceManagement.Guarantees.CertificateAgreement
