import CompleteDeviceManagement.Guarantees.CertificateAgreement
import CompleteDeviceManagement.Guarantees.JoinBundle
import CompleteDeviceManagement.Source.InitSubCa

/-!
# The certificate and the key of the tenant CA

`join_handshake` answers 200 also when the signing has failed, with an empty
certificate. The script then keeps the old certificate, and installs the new key
all the same.
-/

set_option autoImplicit false

namespace CompleteDeviceManagement.Guarantees.TenantCa
open CompleteDeviceManagement.Library CompleteDeviceManagement.Source.Models
  CompleteDeviceManagement.Source.Runtime CompleteDeviceManagement.Source.AdminPortal
  CompleteDeviceManagement.Source.JoinRouter CompleteDeviceManagement.Source.Service
  CompleteDeviceManagement.Source.InitSubCa CompleteDeviceManagement.Guarantees.Provisioning
  CompleteDeviceManagement.Guarantees.JoinContract
  CompleteDeviceManagement.Guarantees.JoinStateMachine
  CompleteDeviceManagement.Guarantees.CertificateAgreement
  CompleteDeviceManagement.Guarantees.JoinBundle
open CompleteDeviceManagement.Library.EventLoop

/-! ## Keys and certificates -/

/-- How files are read: the public key in a certificate, in a CSR, and of a
private key. -/
structure PublicKeys (κ : Type) where
  ofCert : String → Option κ
  ofCsr : String → Option κ
  ofKey : String → Option κ

section Pair

variable {κ : Type} (keys : PublicKeys κ)

/-- `intermediate_ca.crt` certifies the public key of `intermediate_ca_key`. -/
def Matching (volume : Volume) : Prop :=
  ∃ cert key k, volume.intermediateCert = some cert ∧ volume.caKey = some key ∧
    keys.ofCert cert = some k ∧ keys.ofKey key = some k

/-- What a CA issues for a CSR certifies the key that the CSR asks for. -/
def CertifiesCsr (cert : Json) (csr : String) : Prop :=
  ∀ text, cert = .str text → keys.ofCert text = keys.ofCsr csr

/-- The Provider cannot be reached, or a `join_handshake` with this payload has
returned the reply in some run. -/
def Outcome (env : Env) (w0 : World) (payload : JoinHandshakePayload) : Option Reply → Prop
  | none => True
  | some reply => ∃ c t caller b,
      Reaches (serve env) (Answers (IssuesFor (CertifiesCsr keys))) (start w0) c ∧ t ∈ c.tasks ∧
      t.request = ⟨caller, .joinHandshake payload⟩ ∧ t.begun = some b ∧
      t.proc.stop = .returned reply

/-- `KEY_FILE` was generated with the CSR in the payload, and how a certificate
reads does not depend on the newlines at its end. -/
structure Tools (payload : JoinHandshakePayload) (generated : Generated) (k : κ) : Prop where
  csr : keys.ofCsr payload.subCaCsr = some k
  key : keys.ofKey generated.key = some k
  newlines : ∀ text, keys.ofCert (captured text ++ "\n") = keys.ofCert text

/-- Nothing is installed, or a certificate with the key, or the key is one that
the old certificate certifies. -/
def KeepsPair (py : PyText) (host : Host) (reply : Option Reply) (volume : Volume) (k : κ) :
    Prop :=
  host.providerUrl = "" ∨ host.joinKey = "" ∨ (curl reply).httpCode ≠ "200" ∨
    jq py host (curl reply).response "signed_cert" ≠ "" ∨
    volume.intermediateCert.bind keys.ofCert = some k

end Pair

/-! ## The reply of a handshake -/

section Reply

variable {κ : Type} {keys : PublicKeys κ} {env : Env} {w0 : World}
  {payload : JoinHandshakePayload}

/-- A certificate in a reply certifies the key in the CSR of the request. -/
theorem signedCert_certifies (free : Free w0) {body : JoinHandshakeResponse}
    (h : Outcome keys env w0 payload (some (.joined body))) (signed : body.signedCert ≠ "") :
    keys.ofCert body.signedCert = keys.ofCsr payload.subCaCsr := by
  obtain ⟨c, t, caller, b, reached, ht, hq, hb, hstop⟩ := h
  obtain ⟨s, s', owes⟩ := (serve_serves env (IssuesFor (CertifiesCsr keys))).returned_owes
    (fun _ _ answers => answers) free reached ht hb hstop
  have replies := owes.replies _ rfl
  rw [hq] at replies
  rcases replies with ⟨entry, -, bundle⟩ | ⟨-, unauthorised⟩
  · rcases (bundle body rfl).subCa with certified | empty
    · exact issued_of_certified certified _ rfl
    · exact absurd empty signed
  · cases unauthorised

theorem jq_signedCert {py : PyText} {host : Host} {body : JoinHandshakeResponse}
    (printed : jq py host (some (bundleJson body)) "signed_cert" ≠ "") :
    jq py host (some (bundleJson body)) "signed_cert" = captured body.signedCert := by
  unfold jq at printed ⊢
  cases hpython : host.python3 with
  | true => exact captured_newline body.signedCert
  | false =>
    rw [hpython] at printed
    exact absurd rfl printed

/-- A response with something to install is the body of a handshake. -/
theorem response_joined {reply : Option Reply} {bundle : Json}
    (h : (curl reply).response = some bundle) :
    ∃ body, reply = some (.joined body) ∧ bundle = bundleJson body := by
  unfold curl at h
  split at h
  · cases h
  next body =>
    cases h
    exact ⟨body, rfl, rfl⟩
  · split at h <;> cases h

/-- Where a certificate is printed, it is one for the CSR, up to newlines. -/
theorem printed_certifies (free : Free w0) {generated : Generated} {k : κ}
    (tools : Tools keys payload generated k) {py : PyText} {host : Host} {reply : Option Reply}
    (h : Outcome keys env w0 payload reply)
    (nonempty : jq py host (curl reply).response "signed_cert" ≠ "") :
    keys.ofCert (jq py host (curl reply).response "signed_cert" ++ "\n") = some k := by
  cases hresponse : (curl reply).response with
  | none =>
    rw [hresponse] at nonempty
    have silent : jq py host none "signed_cert" = "" := by
      unfold jq
      cases host.python3 <;> rfl
    exact absurd silent nonempty
  | some bundle =>
    rw [hresponse] at nonempty
    obtain ⟨body, rfl, rfl⟩ := response_joined hresponse
    have same := jq_signedCert nonempty
    have signed : body.signedCert ≠ "" := by
      intro empty
      rw [same, empty] at nonempty
      exact nonempty rfl
    rw [same, tools.newlines, signedCert_certifies free h signed]
    exact tools.csr

end Reply

/-! ## The pair after the script -/

section After

variable {κ : Type} {keys : PublicKeys κ}

theorem matching_iff {volume : Volume} {cert key : String} {k : κ}
    (hcert : volume.intermediateCert = some cert) (hkey : volume.caKey = some key)
    (read : keys.ofKey key = some k) : Matching keys volume ↔ keys.ofCert cert = some k := by
  constructor
  · rintro ⟨cert', key', k', hcert', hkey', certified, read'⟩
    rw [hcert] at hcert'
    rw [hkey] at hkey'
    cases hcert'
    cases hkey'
    rw [read] at read'
    cases read'
    exact certified
  · intro certified
    exact ⟨cert, key, k, hcert, hkey, certified, read⟩

/-- Whatever the provisioning came to, and whatever the volume held: the script
leaves a pair if and only if it installs a certificate with the key, or neither,
or the old certificate fits the new key. -/
theorem pair_kept_iff (keys : PublicKeys κ) (env : Env) (w0 : World) (free : Free w0)
    (payload : JoinHandshakePayload) (reply : Option Reply)
    (outcome : Outcome keys env w0 payload reply) (py : PyText) (host : Host)
    (generated : Generated) (k : κ) (tools : Tools keys payload generated k) (volume : Volume)
    (pair : Matching keys volume) :
    Matching keys (initSubCa py host generated reply volume) ↔
      KeepsPair keys py host reply volume k := by
  unfold initSubCa KeepsPair
  split
  next joins =>
    split
    next refused =>
      exact ⟨fun _ => Or.inr (Or.inr (Or.inl refused)), fun _ => pair⟩
    next answered =>
      have newKey := installBundle_caKey py host generated (curl reply).response volume
      have newCert := installBundle_intermediateCert py host generated (curl reply).response volume
      by_cases signed : jq py host (curl reply).response "signed_cert" ≠ ""
      · rw [if_pos signed] at newCert
        rw [matching_iff newCert newKey tools.key]
        exact ⟨fun _ => Or.inr (Or.inr (Or.inr (Or.inl signed))),
          fun _ => printed_certifies free tools outcome signed⟩
      · obtain ⟨cert, key, k', hcert, hkey, certified, read⟩ := pair
        rw [if_neg signed, hcert] at newCert
        rw [matching_iff newCert newKey tools.key, hcert, Option.bind_some]
        constructor
        · intro fits
          exact Or.inr (Or.inr (Or.inr (Or.inr fits)))
        · rintro (noUrl | noKey | refused | installed | fits)
          · exact absurd noUrl joins.1
          · exact absurd noKey joins.2
          · exact absurd refused answered
          · exact absurd installed signed
          · exact fits
  next standalone =>
    refine ⟨fun _ => ?_, fun _ => pair⟩
    by_cases url : host.providerUrl = ""
    · exact Or.inl url
    · refine Or.inr (Or.inl ?_)
      by_contra key
      exact standalone ⟨url, key⟩

end After

/-! ## Two handshakes -/

/-- CSRs and certificates that are named after their key. -/
def sampleKeys : PublicKeys Nat :=
  let named := fun text : String =>
    if captured text = "old" then some 1 else if captured text = "new" then some 2 else none
  ⟨named, named, fun text =>
    if text = "old.key" then some 1 else if text = "new.key" then some 2 else none⟩

def tenantHost : Host := { providerUrl := "https://provider.example.com/api", joinKey := "K-1" }

def generatedPair : Generated := ⟨"new", "new.key", "mqtt", "mqtt.key"⟩

def handshake : JoinHandshakePayload := { subCaCsr := "new", wgPubkey := "" }

def oldPair : Volume := { intermediateCert := some "old\n", caKey := some "old.key" }

theorem captured_captured (text : String) : captured (captured text) = captured text := by
  simp [captured, List.rdropWhile_idempotent]

theorem sample_tools : Tools sampleKeys handshake generatedPair 2 where
  csr := by decide +kernel
  key := by decide +kernel
  newlines := by
    intro text
    simp only [sampleKeys, captured_newline, captured_captured]

theorem oldPair_matching : Matching sampleKeys oldPair :=
  ⟨"old\n", "old.key", 1, rfl, rfl, by decide +kernel, by decide +kernel⟩

/-- The certificate in the reply that a task has returned. -/
def returnedCert (t : JoinTask) : Option String :=
  match t.proc.stop with
  | .returned (.joined body) => some body.signedCert
  | _ => none

theorem joined_of_returnedCert {t : JoinTask} {cert : String} (h : returnedCert t = some cert) :
    ∃ body, t.proc.stop = .returned (.joined body) ∧ body.signedCert = cert := by
  unfold returnedCert at h
  split at h
  next body hstop => exact ⟨body, hstop, Option.some.inj h⟩
  · cases h

theorem certifies_of_echoed {cert : Json} {csr : String} (h : echoed cert csr) :
    CertifiesCsr sampleKeys cert csr := by
  intro text htext
  rw [htext] at h
  rw [Json.str.inj h]
  rfl

theorem reaches_certifying {c : JoinLoop}
    (h : Reaches (serve Env.counting) (Answers (IssuesFor echoed)) (start oneKey) c) :
    Reaches (serve Env.counting) (Answers (IssuesFor (CertifiesCsr sampleKeys))) (start oneKey)
      c := by
  refine h.mono fun c action answers => ?_
  cases action with
  | arrive q => exact trivial
  | resume i result =>
    intro t request next hi begun hproc url csr ott r data cert hrequest hr hjson hcrt
    exact certifies_of_echoed
      (answers t request next hi begun hproc url csr ott r data cert hrequest hr hjson hcrt)

/-- The handshake up to the answer to its first call. -/
def listed (provisioners : HttpResult) : List JoinAction :=
  [.arrive ⟨holder, .joinHandshake handshake⟩, .resume 0 unreachable, .resume 0 provisioners]

theorem reaches_listed {provisioners : HttpResult}
    (plain : NoCertificate (.resume 0 provisioners)) :
    Reaches (serve Env.counting) (Answers (IssuesFor echoed)) (start oneKey)
      (run (serve Env.counting) (start oneKey) (listed provisioners)) := by
  apply reaches_without_certificate
  intro action haction
  simp only [listed, List.mem_cons, List.not_mem_nil, or_false] at haction
  rcases haction with rfl | rfl | rfl
  · exact trivial
  · exact noCertificate_unreachable 0
  · exact plain

theorem reaches_unreachable {c : JoinLoop} :
    Reaches (serve Env.counting) (Answers (IssuesFor echoed)) c
      (run (serve Env.counting) c [.resume 0 unreachable, .resume 0 unreachable]) := by
  apply reaches_without_certificate
  intro action haction
  simp only [List.mem_cons, List.not_mem_nil, or_false, or_self] at haction
  subst haction
  exact noCertificate_unreachable 0

/-- step-ca signs; the broker and Keycloak are down. -/
def signedRun : JoinLoop :=
  run (serve Env.counting) (step (serve Env.counting)
    (run (serve Env.counting) (start oneKey) (listed signer)) (.resume 0 (certificate "new")))
    [.resume 0 unreachable, .resume 0 unreachable]

/-- step-ca lists no provisioner, and nothing else can be reached. -/
def unsignedRun : JoinLoop :=
  run (serve Env.counting) (run (serve Env.counting) (start oneKey) (listed noProvisioners))
    [.resume 0 unreachable, .resume 0 unreachable]

/-- The pair is a pair again: the reply has the certificate. -/
theorem pair_kept_signed :
    ∃ reply, Matching sampleKeys
      (initSubCa PyText.ascii tenantHost generatedPair (some reply) oldPair) := by
  have sent : ((run (serve Env.counting) (start oneKey) (listed signer)).tasks[0]?).bind
      sentCsr = some "new" := by decide +kernel
  have reached := reaches_certifying ((((reaches_listed (noCertificate_signer 0)).then
    (.resume 0 (certificate "new")) (sentCsr_answered sent))).trans reaches_unreachable)
  have returned : (signedRun.tasks[0]?).bind returnedCert = some "new" := by decide +kernel
  obtain ⟨t, hi, hcert⟩ := Option.bind_eq_some_iff.mp returned
  obtain ⟨body, hstop, hsigned⟩ := joined_of_returnedCert hcert
  have outcome : Outcome sampleKeys Env.counting oneKey handshake (some (.joined body)) := by
    refine ⟨signedRun, t, holder, ?_, reached, List.mem_of_getElem? hi, ?_, ?_, hstop⟩
    · exact oneKey
    · cases Option.some.inj hi
      rfl
    · cases Option.some.inj hi
      rfl
  refine ⟨.joined body, (pair_kept_iff sampleKeys Env.counting oneKey ⟨rfl, rfl⟩ handshake _ outcome
    PyText.ascii tenantHost generatedPair 2 sample_tools oldPair oldPair_matching).mpr ?_⟩
  refine Or.inr (Or.inr (Or.inr (Or.inl ?_)))
  have printed : jq PyText.ascii tenantHost (curl (some (.joined body))).response "signed_cert" =
      captured (body.signedCert ++ "\n") := rfl
  rw [printed, hsigned]
  decide +kernel

/-- Without a certificate in the reply the new key stands beside the old one. -/
theorem key_without_certificate :
    ∃ reply, Outcome sampleKeys Env.counting oneKey handshake (some reply) ∧
      Tools sampleKeys handshake generatedPair 2 ∧ Matching sampleKeys oldPair ∧
      ¬ Matching sampleKeys
        (initSubCa PyText.ascii tenantHost generatedPair (some reply) oldPair) := by
  have plain : NoCertificate (.resume 0 noProvisioners) := by
    intro r data cert hr hjson hcrt
    cases hr
    cases hjson
    cases hcrt
  have reached := reaches_certifying ((reaches_listed plain).trans reaches_unreachable)
  have returned : (unsignedRun.tasks[0]?).bind returnedCert = some "" := by decide +kernel
  obtain ⟨t, hi, hcert⟩ := Option.bind_eq_some_iff.mp returned
  obtain ⟨body, hstop, hsigned⟩ := joined_of_returnedCert hcert
  refine ⟨.joined body, ?_, sample_tools, oldPair_matching, ?_⟩
  · refine ⟨unsignedRun, t, holder, oneKey, reached, List.mem_of_getElem? hi, ?_, ?_, hstop⟩
    · cases Option.some.inj hi
      rfl
    · cases Option.some.inj hi
      rfl
  · have installed : initSubCa PyText.ascii tenantHost generatedPair (some (.joined body)) oldPair =
        installBundle PyText.ascii tenantHost generatedPair (some (bundleJson body)) oldPair := by
      simp [initSubCa, tenantHost, curl]
    have empty : jq PyText.ascii tenantHost (some (bundleJson body)) "signed_cert" = "" := by
      have printed : jq PyText.ascii tenantHost (some (bundleJson body)) "signed_cert" =
          captured (body.signedCert ++ "\n") := rfl
      rw [printed, hsigned]
      decide +kernel
    have newCert := installBundle_intermediateCert PyText.ascii tenantHost generatedPair
      (some (bundleJson body)) oldPair
    rw [if_neg (not_not.mpr empty)] at newCert
    rw [installed, matching_iff newCert (installBundle_caKey _ _ _ _ _) sample_tools.key]
    decide +kernel

end CompleteDeviceManagement.Guarantees.TenantCa
