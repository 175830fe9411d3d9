import CompleteDeviceManagement.Source.Enroll

/-!
# When an enrolled FreeRTOS device is provisioned

The flag is created behind writes whose results nobody looks at, and the response is
taken as it is. A run that sets the flag or returns 0 has provisioned the device if
and only if all that it wrote is stored, and is what the response says.
-/

set_option autoImplicit false

namespace CompleteDeviceManagement.Guarantees.DeviceEnrollment
open CompleteDeviceManagement.Library CompleteDeviceManagement.Source.Enroll
open CompleteDeviceManagement.Source.EnrollClients (required)

/-! ## What is meant -/

/-- A string member of the JSON object that the response is. -/
def responseMember (body : Bytes) (key : String) : Option Bytes :=
  match (Utf8.decode body).bind fun text => JsonText.parse (.ofList text) with
  | some (.obj fields) =>
      match Json.field? key fields with
      | some (.str text) => some (bytes text)
      | _ => none
  | _ => none

def FlagRead (m : Machine) (before : Files) : Prop :=
  (before (m.path ".enrolled")).isSome ∧ m.outcomes.flagReadable

/-- The run gets as far as to a key and its CSR. -/
structure Generated (m : Machine) : Prop where
  seed : m.mbedtls.ctrDrbgSeed = 0
  setup : m.mbedtls.pkSetup = 0
  genKey : m.mbedtls.ecpGenKey = 0
  writeKey : m.mbedtls.pkWriteKeyPem = 0
  setSubject : m.mbedtls.setSubjectName m.subject = 0
  writeCsr : m.mbedtls.x509writeCsrPem m.subject = 0

/-- The run asks for a certificate. -/
structure Asks (m : Machine) (before : Files) : Prop where
  url : required m.env.bridgeApiUrl ≠ none
  flag : ¬ FlagRead m before
  generated : Generated m

section Claim

-- which certificates are issued for which CSRs
variable (issuedFor : Bytes → String → Prop) (m : Machine) (before : Files)

/-- The files hold the key of the run, and the certificate for it with its chain. -/
def Provisioned (files : Files) : Prop :=
  Asks m before ∧ ∃ body certificate chain,
    (m.curlInit = true ∧ m.transfer = .answered 200 (some body)) ∧
    responseMember body "certificate" = some certificate ∧
    responseMember body "ca_chain" = some chain ∧ issuedFor certificate m.csrPem ∧
    files (m.inCertsDir "device-key.pem") = some m.mbedtls.keyPem ∧
    files (m.inCertsDir "device.pem") = some certificate ∧
    files (m.inCertsDir "ca-chain.pem") = some chain

/-- Enrolled means provisioned, and the next boot tries again otherwise. -/
def EnrolledMeansProvisioned : Prop :=
  let result := cdmEnroll m before
  let flag := result.disk.files (m.inCertsDir ".enrolled")
  (flag.isSome ∨ vEnrollTask m before = true →
    Provisioned issuedFor m before result.disk.files) ∧
  (¬ Provisioned issuedFor m before result.disk.files →
    (∃ ret, result.ends = .returned ret ∧ ret ≠ 0) ∧ flag = none)

/-- No request, or one without an answer of 200 with both texts. -/
def Refused : Prop :=
  m.curlInit = false ∨ m.transfer = .failed ∨
    ∃ httpCode body, m.transfer = .answered httpCode body ∧ (httpCode ≠ 200 ∨
      ∃ text, body = some text ∧ (pemOf text "certificate" = none ∨ pemOf text "ca_chain" = none))

/-- The run ends with an error before the certificate is written; where that is before
the request, a word on the stack is NULL. -/
def Fails : Prop :=
  required m.env.bridgeApiUrl = none ∨ (¬ FlagRead m before ∧
    ((¬ Generated m ∧ m.stackWord = 0) ∨ (Generated m ∧ Refused m)))

/-- What a file in the directory holds when it has been written, if its path is not too
long for the buffer. -/
def landed (name : String) (stored : Option Nat) (data : Bytes) (old : Option Bytes) :
    Option Bytes :=
  if (m.inCertsDir name).length ≤ 511 then
    match stored with
    | none => old
    | some n => some (data.take n)
  else old

/-- All is stored, and is what the response says. -/
def Stores : Prop :=
  Asks m before ∧ ∃ body certPem chainPem certificate chain,
    (m.curlInit = true ∧ m.transfer = .answered 200 (some body)) ∧
    (pemOf body "certificate" = some certPem ∧ pemOf body "ca_chain" = some chainPem) ∧
    responseMember body "certificate" = some certificate ∧
    responseMember body "ca_chain" = some chain ∧ issuedFor certificate m.csrPem ∧
    landed m "device-key.pem" m.outcomes.key m.mbedtls.keyPem
      (before (m.inCertsDir "device-key.pem")) = some m.mbedtls.keyPem ∧
    landed m "device.pem" m.outcomes.crt certPem (before (m.inCertsDir "device.pem")) =
      some certificate ∧
    landed m "ca-chain.pem" m.outcomes.ca chainPem (before (m.inCertsDir "ca-chain.pem")) =
      some chain

end Claim

/-! ## Paths -/

def names : List String := [".enrolled", "device-key.pem", "device.pem", "ca-chain.pem"]

variable {m : Machine} {before : Files}

/-- What is left of a path is no other of the paths. -/
theorem path_ne {a b : String} (ha : a ∈ names) (hb : b ∈ names) (other : a ≠ b) :
    m.path a ≠ m.inCertsDir b := by
  intro same
  have distinct : ∀ a ∈ names, ∀ b ∈ names, bytes b <+: bytes a → a = b := by decide +kernel
  have cut : m.path a <+: m.inCertsDir a := List.take_prefix _ _
  rw [same, Machine.inCertsDir, Machine.inCertsDir, List.prefix_append_right_inj,
    List.cons_prefix_cons] at cut
  exact other (distinct a ha b hb cut.2)

theorem path_eq_iff (name : String) :
    m.path name = m.inCertsDir name ↔ (m.inCertsDir name).length ≤ 511 := by
  rw [Machine.path, snprintf, List.take_eq_self_iff]

theorem writeFile_other {a b : String} (ha : a ∈ names) (hb : b ∈ names) (other : a ≠ b)
    (stored : Option Nat) (data : Bytes) (disk : Disk) :
    (writeFile stored (m.path a) data disk).2.files (m.inCertsDir b) =
      disk.files (m.inCertsDir b) := by
  cases stored with
  | none => rfl
  | some n => exact Function.update_of_ne (path_ne ha hb other).symm _ _

theorem writeFile_same (name : String) (stored : Option Nat) (data : Bytes) (disk : Disk) :
    (writeFile stored (m.path name) data disk).2.files (m.inCertsDir name) =
      landed m name stored data (disk.files (m.inCertsDir name)) := by
  unfold landed
  by_cases fits : (m.inCertsDir name).length ≤ 511
  · rw [if_pos fits, (path_eq_iff name).mpr fits]
    cases stored with
    | none => rfl
    | some n => exact Function.update_self _ _ _
  · rw [if_neg fits]
    cases stored with
    | none => rfl
    | some n => exact Function.update_of_ne (mt (fun h => (path_eq_iff name).mp h.symm) fits) _ _

/-! ## How a run ends -/

/-- The flag is as it was. -/
def Untouched (m : Machine) (before : Files) (disk : Disk) : Prop :=
  disk.files (m.inCertsDir ".enrolled") = before (m.inCertsDir ".enrolled")

/-- The files after the last write. -/
structure Written (m : Machine) (before : Files) (certPem chainPem : Bytes) (disk : Disk) :
    Prop where
  key : disk.files (m.inCertsDir "device-key.pem") = landed m "device-key.pem" m.outcomes.key
    m.mbedtls.keyPem (before (m.inCertsDir "device-key.pem"))
  crt : disk.files (m.inCertsDir "device.pem") = landed m "device.pem" m.outcomes.crt certPem
    (before (m.inCertsDir "device.pem"))
  ca : disk.files (m.inCertsDir "ca-chain.pem") = landed m "ca-chain.pem" m.outcomes.ca chainPem
    (before (m.inCertsDir "ca-chain.pem"))

/-- The six ways through `cdm_enroll`. -/
inductive Way (m : Machine) (before : Files) (result : Result) : Prop
  | unset (url : required m.env.bridgeApiUrl = none) (ends : result.ends = .returned (-1))
      (untouched : Untouched m before result.disk)
  | already (url : required m.env.bridgeApiUrl ≠ none) (flag : FlagRead m before)
      (ends : result.ends = .returned 0)
  | early (url : required m.env.bridgeApiUrl ≠ none) (flag : ¬ FlagRead m before)
      (failed : ¬ Generated m) (ret : Int) (nonzero : ret ≠ 0)
      (ends : result.ends = if m.stackWord = 0 then .returned ret else .undefined)
      (untouched : Untouched m before result.disk)
  | refused (asks : Asks m before) (refused : Refused m) (ends : result.ends = .returned (-1))
      (untouched : Untouched m before result.disk)
  | null (asks : Asks m before) (answer : m.curlInit = true ∧ m.transfer = .answered 200 none)
      (ends : result.ends = .undefined)
  | written (asks : Asks m before) (body certPem chainPem : Bytes)
      (answer : m.curlInit = true ∧ m.transfer = .answered 200 (some body))
      (crt : pemOf body "certificate" = some certPem) (ca : pemOf body "ca_chain" = some chainPem)
      (ends : result.ends = .returned 0) (written : Written m before certPem chainPem result.disk)

theorem stored_untouched : Untouched m before
    (writeFile m.outcomes.key (m.path "device-key.pem") m.mbedtls.keyPem ⟨before, []⟩).2 :=
  writeFile_other (by decide) (by decide) (by decide) _ _ _

/-- The files behind the three writes, with the flag or without it. -/
theorem persist_written {certPem chainPem : Bytes} {body : Bytes}
    (crt : pemOf body "certificate" = some certPem) (ca : pemOf body "ca_chain" = some chainPem) :
    let key := (writeFile m.outcomes.key (m.path "device-key.pem") m.mbedtls.keyPem ⟨before, []⟩).2
    (persist m body key).ends = .returned 0 ∧
      Written m before certPem chainPem (persist m body key).disk := by
  intro key
  let disk := (writeFile m.outcomes.ca (m.path "ca-chain.pem") chainPem
    (writeFile m.outcomes.crt (m.path "device.pem") certPem key).2).2
  have flag : ∀ b ∈ names, b ≠ ".enrolled" →
      (persist m body key).disk.files (m.inCertsDir b) = disk.files (m.inCertsDir b) := by
    intro b hb other
    rw [persist, crt, ca]
    by_cases writable : m.outcomes.flagWritable
    · simp only [writable, if_true]
      exact Function.update_of_ne (path_ne (by decide) hb other.symm).symm _ _
    · simp only [writable]
      rfl
  constructor
  · rw [persist, crt, ca]
  · constructor
    · rw [flag _ (by decide) (by decide), writeFile_other (by decide) (by decide) (by decide),
        writeFile_other (by decide) (by decide) (by decide), writeFile_same]
    · rw [flag _ (by decide) (by decide), writeFile_other (by decide) (by decide) (by decide),
        writeFile_same, writeFile_other (by decide) (by decide) (by decide)]
    · rw [flag _ (by decide) (by decide), writeFile_same,
        writeFile_other (by decide) (by decide) (by decide),
        writeFile_other (by decide) (by decide) (by decide)]

/-- The disk behind the write of the key. -/
def keyWritten (m : Machine) (before : Files) : Disk :=
  (writeFile m.outcomes.key (m.path "device-key.pem") m.mbedtls.keyPem ⟨before, []⟩).2

theorem post_way (asks : Asks m before) : Way m before (post m (keyWritten m before)) := by
  have stored : Untouched m before (keyWritten m before) := stored_untouched
  unfold post
  split
  next init =>
    split
    next failed => exact .refused asks (Or.inr (Or.inl failed)) rfl stored
    next httpCode body answer =>
      split
      next other => exact .refused asks (Or.inr (Or.inr ⟨_, _, answer, Or.inl other⟩)) rfl stored
      next ok =>
        rw [not_not.mp ok] at answer
        split
        next => exact .null asks ⟨init, answer⟩ rfl
        next text =>
          have missing : pemOf text "certificate" = none ∨ pemOf text "ca_chain" = none →
              Refused m := fun none =>
            Or.inr (Or.inr ⟨_, _, answer, Or.inr ⟨text, rfl, none⟩⟩)
          cases crt : pemOf text "certificate" with
          | none =>
            have ends : persist m text (keyWritten m before) =
                ⟨.returned (-1), keyWritten m before⟩ := by rw [persist, crt]
            rw [ends]
            exact .refused asks (missing (Or.inl crt)) rfl stored
          | some certPem =>
            cases ca : pemOf text "ca_chain" with
            | none =>
              have ends : persist m text (keyWritten m before) =
                  ⟨.returned (-1), keyWritten m before⟩ := by rw [persist, crt, ca]
              rw [ends]
              exact .refused asks (missing (Or.inr ca)) rfl stored
            | some chainPem =>
              obtain ⟨ends, written⟩ := persist_written crt ca
              exact .written asks text certPem chainPem ⟨init, answer⟩ crt ca ends written
  next none => exact .refused asks (Or.inl (Bool.eq_false_iff.mpr none)) rfl stored

theorem makeKey_way (url : required m.env.bridgeApiUrl ≠ none) (flag : ¬ FlagRead m before) :
    Way m before (makeKey m ⟨before, []⟩) := by
  have early : ∀ ret disk, ¬ Generated m → ret ≠ 0 → Untouched m before disk →
      Way m before (cleanupEarly m ret disk) :=
    fun ret disk failed nonzero untouched =>
      .early url flag failed ret nonzero rfl untouched
  have start : Untouched m before ⟨before, []⟩ := rfl
  have stored : Untouched m before (keyWritten m before) := stored_untouched
  unfold makeKey
  by_cases seed : m.mbedtls.ctrDrbgSeed = 0
  swap
  · rw [if_pos seed]
    exact early _ _ (fun made => seed made.seed) seed start
  rw [if_neg (not_not.mpr seed)]
  by_cases setup : m.mbedtls.pkSetup = 0
  swap
  · rw [if_pos setup]
    exact early _ _ (fun made => setup made.setup) setup start
  rw [if_neg (not_not.mpr setup)]
  by_cases genKey : m.mbedtls.ecpGenKey = 0
  swap
  · rw [if_pos genKey]
    exact early _ _ (fun made => genKey made.genKey) genKey start
  rw [if_neg (not_not.mpr genKey)]
  by_cases writeKey : m.mbedtls.pkWriteKeyPem = 0
  swap
  · rw [if_pos writeKey]
    exact early _ _ (fun made => writeKey made.writeKey) writeKey start
  rw [if_neg (not_not.mpr writeKey), makeCsr]
  by_cases subject : m.mbedtls.setSubjectName m.subject = 0
  swap
  · rw [if_pos subject]
    exact early _ _ (fun made => subject made.setSubject) subject stored
  rw [if_neg (not_not.mpr subject)]
  by_cases csr : m.mbedtls.x509writeCsrPem m.subject = 0
  swap
  · rw [if_pos csr]
    exact early _ _ (fun made => csr made.writeCsr) csr stored
  rw [if_neg (not_not.mpr csr)]
  exact post_way ⟨url, flag, seed, setup, genKey, writeKey, subject, csr⟩

theorem cdmEnroll_way (m : Machine) (before : Files) : Way m before (cdmEnroll m before) := by
  unfold cdmEnroll
  split
  next unset => exact .unset unset rfl rfl
  next url set =>
    have url : required m.env.bridgeApiUrl ≠ none := by simp [set]
    split
    next flag => exact .already url flag rfl
    next flag => exact makeKey_way url flag

/-- With an answer of 200 and a body, the run comes to it. -/
theorem cdmEnroll_persist (asks : Asks m before) {body : Bytes}
    (answer : m.curlInit = true ∧ m.transfer = .answered 200 (some body)) :
    cdmEnroll m before = persist m body (keyWritten m before) := by
  obtain ⟨url, flag, seed, setup, genKey, writeKey, subject, csr⟩ := asks
  have posted : post m (keyWritten m before) = persist m body (keyWritten m before) := by
    rw [post, if_pos answer.1, answer.2]
    rfl
  unfold cdmEnroll
  split
  next unset => exact absurd unset url
  next =>
    rw [FlagRead] at flag
    rw [if_neg flag, makeKey, if_neg (not_not.mpr seed), if_neg (not_not.mpr setup),
      if_neg (not_not.mpr genKey), if_neg (not_not.mpr writeKey), makeCsr,
      if_neg (not_not.mpr subject), if_neg (not_not.mpr csr)]
    exact posted

theorem writeFile_handed (stored : Option Nat) (path data : Bytes) (disk : Disk) :
    (writeFile stored path data disk).2.handed = disk.handed ++ [(path, data)] := by
  cases stored <;> rfl

/-! ## Enrolled means provisioned -/

/-- A run that fails and leaves the flag as it was keeps the promise. -/
theorem kept_of_failed (issuedFor : Bytes → String → Prop) {ret : Int}
    (absent : before (m.inCertsDir ".enrolled") = none) (nonzero : ret ≠ 0)
    (ends : (cdmEnroll m before).ends = .returned ret)
    (untouched : Untouched m before (cdmEnroll m before).disk) :
    EnrolledMeansProvisioned issuedFor m before := by
  have flag : (cdmEnroll m before).disk.files (m.inCertsDir ".enrolled") = none := by
    rw [← absent]
    exact untouched
  constructor
  · rintro (created | signalled)
    · rw [flag] at created
      cases created
    · rw [vEnrollTask, ends, decide_eq_true_eq] at signalled
      exact absurd (End.returned.inj signalled) nonzero
  · intro _
    exact ⟨⟨ret, ends, nonzero⟩, flag⟩

theorem refused_of_fails (asks : Asks m before) (fails : Fails m before) : Refused m := by
  rcases fails with unset | ⟨-, ⟨failed, -⟩ | ⟨-, refused⟩⟩
  · exact absurd unset asks.url
  · exact absurd asks.generated failed
  · exact refused

theorem refused_answered {body : Option Bytes}
    (answer : m.curlInit = true ∧ m.transfer = .answered 200 body) :
    Refused m = ∃ text, body = some text ∧
      (pemOf text "certificate" = none ∨ pemOf text "ca_chain" = none) := by
  simp [Refused, answer.1, answer.2]

/-- The promise is kept by exactly the runs that fail, or store what they were sent. -/
theorem enrolled_iff (issuedFor : Bytes → String → Prop) (m : Machine) (before : Files)
    (absent : before (m.inCertsDir ".enrolled") = none) :
    EnrolledMeansProvisioned issuedFor m before ↔ Fails m before ∨ Stores issuedFor m before := by
  have provisioned_of : EnrolledMeansProvisioned issuedFor m before →
      (cdmEnroll m before).ends = .returned 0 ∨ (cdmEnroll m before).ends = .undefined →
        Provisioned issuedFor m before (cdmEnroll m before).disk.files := by
    intro kept ends
    by_contra missing
    obtain ⟨⟨ret, returned, nonzero⟩, -⟩ := kept.2 missing
    rcases ends with ends | ends
    · rw [ends] at returned
      exact nonzero (End.returned.inj returned).symm
    · rw [ends] at returned
      cases returned
  cases cdmEnroll_way m before with
  | unset url ends untouched =>
    have kept := kept_of_failed issuedFor absent (by decide) ends untouched
    exact ⟨fun _ => Or.inl (Or.inl url), fun _ => kept⟩
  | already url flag ends =>
    constructor
    · intro kept
      exact absurd flag (provisioned_of kept (Or.inl ends)).1.flag
    · rintro ((unset | ⟨unread, -⟩) | ⟨asks, -⟩)
      · exact absurd unset url
      · exact absurd flag unread
      · exact absurd flag asks.flag
  | early url flag failed ret nonzero ends untouched =>
    by_cases null : m.stackWord = 0
    · rw [if_pos null] at ends
      have kept := kept_of_failed issuedFor absent nonzero ends untouched
      exact ⟨fun _ => Or.inl (Or.inr ⟨flag, Or.inl ⟨failed, null⟩⟩), fun _ => kept⟩
    · rw [if_neg null] at ends
      constructor
      · intro kept
        exact absurd (provisioned_of kept (Or.inr ends)).1.generated failed
      · rintro ((unset | ⟨-, ⟨-, word⟩ | ⟨made, -⟩⟩) | ⟨asks, -⟩)
        · exact absurd unset url
        · exact absurd word null
        · exact absurd made failed
        · exact absurd asks.generated failed
  | refused asks refused ends untouched =>
    have kept := kept_of_failed issuedFor absent (by decide) ends untouched
    exact ⟨fun _ => Or.inl (Or.inr ⟨asks.flag, Or.inr ⟨asks.generated, refused⟩⟩), fun _ => kept⟩
  | null asks answer ends =>
    constructor
    · intro kept
      obtain ⟨-, body, -, -, ⟨-, other⟩, -⟩ := provisioned_of kept (Or.inr ends)
      rw [answer.2] at other
      cases other
    · rintro (fails | ⟨-, body, -, -, -, -, ⟨-, other⟩, -⟩)
      · have refused := refused_of_fails asks fails
        rw [refused_answered answer] at refused
        obtain ⟨text, none, -⟩ := refused
        cases none
      · rw [answer.2] at other
        cases other
  | written asks body certPem chainPem answer crt ca ends written =>
    constructor
    · intro kept
      obtain ⟨-, body', certificate, chain, answer', hcrt, hca, issued, key, device, chainFile⟩ :=
        provisioned_of kept (Or.inl ends)
      rw [answer.2] at answer'
      cases answer'.2
      refine Or.inr ⟨asks, body, certPem, chainPem, certificate, chain, answer, ⟨crt, ca⟩, hcrt,
        hca, issued, ?_, ?_, ?_⟩
      · rw [← written.key, key]
      · rw [← written.crt, device]
      · rw [← written.ca, chainFile]
    · rintro (fails | ⟨-, body', certPem', chainPem', certificate, chain, answer', ⟨crt', ca'⟩,
        hcrt, hca, issued, key, device, chainFile⟩)
      · have refused := refused_of_fails asks fails
        rw [refused_answered answer] at refused
        obtain ⟨text, same, none | none⟩ := refused
        · cases same
          rw [crt] at none
          cases none
        · cases same
          rw [ca] at none
          cases none
      · rw [answer.2] at answer'
        cases answer'.2
        rw [crt] at crt'
        rw [ca] at ca'
        cases crt'
        cases ca'
        have provisioned : Provisioned issuedFor m before (cdmEnroll m before).disk.files := by
          refine ⟨asks, body, certificate, chain, answer, hcrt, hca, issued, ?_, ?_, ?_⟩
          · rw [written.key, key]
          · rw [written.crt, device]
          · rw [written.ca, chainFile]
        exact ⟨fun _ => provisioned, fun missing => absurd provisioned missing⟩

/-! ## A device with and without room for its key -/

def noFiles : Files := fun _ => none

def issued (certificate : Bytes) (csr : String) : Prop := certificate = bytes "CRT" ∧ csr = "CSR"

def answer : Bytes := bytes "\x7b\"certificate\":\"CRT\",\"ca_chain\":\"CA\"\x7d"

/-- All steps go well, so much of the key is stored, and the server answers this. -/
def device (key : Option Nat) (body : Bytes) : Machine where
  env := ⟨none, none, none, none, some "http://bridge"⟩
  certsDirSetting := none
  mbedtls := ⟨0, 0, 0, 0, bytes "KEY", fun _ => 0, fun _ => 0, fun _ => "CSR"⟩
  curlInit := true
  perform _ := .answered 200 (some body)
  outcomes := ⟨true, key, some 3, some 2, true⟩
  stackWord := 0

theorem device_asks (key : Option Nat) (body : Bytes) : Asks (device key body) noFiles where
  url := by simp [device, required]
  flag := by simp [FlagRead, noFiles]
  generated := ⟨rfl, rfl, rfl, rfl, rfl, rfl⟩

theorem device_answer (key : Option Nat) (body : Bytes) :
    (device key body).curlInit = true ∧
      (device key body).transfer = .answered 200 (some body) := by
  refine ⟨rfl, ?_⟩
  cases h : Source.EnrollClients.cdmEnroll (device key body).env
    ⟨(device key body).csrPem, ""⟩ with
  | none => simp [Source.EnrollClients.cdmEnroll, device, required] at h
  | some sent =>
    rw [Machine.transfer, h]
    rfl

theorem device_provisioned : noFiles ((device (some 3) answer).inCertsDir ".enrolled") = none ∧
    EnrolledMeansProvisioned issued (device (some 3) answer) noFiles := by
  refine ⟨rfl, (enrolled_iff issued (device (some 3) answer) noFiles rfl).mpr (Or.inr ?_)⟩
  exact ⟨device_asks _ _, answer, bytes "CRT", bytes "CA", bytes "CRT", bytes "CA",
    device_answer _ _, ⟨by decide +kernel, by decide +kernel⟩, by decide +kernel,
    by decide +kernel, ⟨rfl, rfl⟩, by decide +kernel, by decide +kernel, by decide +kernel⟩

/-- A disk that is full when the key is written: the flag is there, 0 is returned, and the
file of the key is empty. -/
theorem full_disk_enrolls :
    ((cdmEnroll (device (some 0) answer) noFiles).disk.files
        ((device (some 0) answer).inCertsDir ".enrolled")).isSome = true ∧
      vEnrollTask (device (some 0) answer) noFiles = true ∧
      (cdmEnroll (device (some 0) answer) noFiles).disk.files
        ((device (some 0) answer).inCertsDir "device-key.pem") = some [] ∧
      ¬ EnrolledMeansProvisioned issued (device (some 0) answer) noFiles := by
  have flag : ((cdmEnroll (device (some 0) answer) noFiles).disk.files
      ((device (some 0) answer).inCertsDir ".enrolled")).isSome = true := by decide +kernel
  have key : (cdmEnroll (device (some 0) answer) noFiles).disk.files
      ((device (some 0) answer).inCertsDir "device-key.pem") = some [] := by decide +kernel
  refine ⟨flag, by decide +kernel, key, ?_⟩
  intro kept
  obtain ⟨-, -, -, -, -, -, -, -, stored, -⟩ := kept.1 (Or.inl flag)
  rw [key] at stored
  exact absurd stored (by decide +kernel)

end CompleteDeviceManagement.Guarantees.DeviceEnrollment
