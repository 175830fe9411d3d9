import CompleteDeviceManagement.Guarantees.DeviceEnrollment
import CompleteDeviceManagement.Guarantees.EnrollmentAgreement
import CompleteDeviceManagement.Library.JsonSize

/-!
# The body of the enrollment request

Only the CSR is escaped. The body says what it is made of if and only if the id and the
type of the device need no escape and all of it fits into `post_body`: a JSON text that
holds the three strings is not shorter than the one with them escaped.
-/

set_option autoImplicit false

namespace CompleteDeviceManagement.Guarantees.EnrollBody
open CompleteDeviceManagement.Library CompleteDeviceManagement.Library.JsonText
  CompleteDeviceManagement.Source.Enroll CompleteDeviceManagement.Guarantees.EnrollmentAgreement
open CompleteDeviceManagement.Source (EnrollClients.cdmEnroll EnrollClients.csrEscaped
  EnrollClients.snprintf)
open CompleteDeviceManagement.Source.EnrollClients (Sent deviceId deviceType inlineBody required)
open CompleteDeviceManagement.Library.Utf8 (encode encode_append encode_ascii encode_cons)
open CompleteDeviceManagement.Guarantees.DeviceEnrollment (Asks Generated device noFiles)

/-! ## What is meant -/

def members : List String := ["device_id", "device_type", "csr"]

/-- The body is a JSON object of the three members with these texts. -/
def Encodes (m : Machine) (sent : Sent) : Prop :=
  ∃ body fields, sent.request.body = some body ∧ JsonText.parse body = some (.obj fields) ∧
    Json.field? "device_id" fields = some (.str (deviceId .freertos m.env)) ∧
    Json.field? "device_type" fields = some (.str (deviceType .freertos m.env)) ∧
    Json.field? "csr" fields = some (.str m.csrPem) ∧ ∀ field ∈ fields, field.1 ∈ members

/-- The run ends before the request, or the request says what it is made of. -/
def SendsInputs (m : Machine) (before : Files) : Prop :=
  ∀ sent, posted m before = some sent → Encodes m sent

/-- What mbedTLS writes for a CSR: lines of printable ASCII that fit into `csr_pem`. -/
structure WritesPem (mbedtls : Mbedtls) : Prop where
  text : ∀ subject, PemText (mbedtls.csrPem subject)
  short : ∀ subject, (mbedtls.csrPem subject).length ≤ 4095

/-- The body, of which 42 bytes are its marks and names, has no more than 8447 bytes. -/
def Fits (m : Machine) : Prop :=
  (bytes (deviceId .freertos m.env)).length + (bytes (deviceType .freertos m.env)).length +
    m.csrPem.length + m.csrPem.toList.count '\n' ≤ 8405

/-! ## Runs without a request -/

section Unposted

variable {m : Machine} {before : Files}

theorem posted_asked (asks : Asks m before) : posted m before =
    if m.curlInit then EnrollClients.cdmEnroll m.env ⟨m.csrPem, ""⟩ else none := by
  have zero : ∀ {ret : Int}, ret = 0 → ¬ ret ≠ 0 := fun h => not_not.mpr h
  have flag : ¬ ((before (m.path ".enrolled")).isSome ∧ m.outcomes.flagReadable) := asks.flag
  unfold posted
  cases url : required m.env.bridgeApiUrl with
  | none => exact absurd url asks.url
  | some apiUrl =>
    dsimp only
    rw [if_neg flag, if_neg (zero asks.generated.seed), if_neg (zero asks.generated.setup),
      if_neg (zero asks.generated.genKey), if_neg (zero asks.generated.writeKey),
      if_neg (zero asks.generated.setSubject), if_neg (zero asks.generated.writeCsr)]

theorem makeKey_unposted (never : Generated m → m.curlInit = false) (perform : Sent → Transfer)
    (disk : Disk) : makeKey { m with perform := perform } disk = makeKey m disk := by
  unfold makeKey makeCsr
  refine ite_congr rfl (fun _ => rfl) fun seed => ?_
  refine ite_congr rfl (fun _ => rfl) fun setup => ?_
  refine ite_congr rfl (fun _ => rfl) fun genKey => ?_
  refine ite_congr rfl (fun _ => rfl) fun writeKey => ?_
  refine ite_congr rfl (fun _ => rfl) fun setSubject => ?_
  refine ite_congr rfl (fun _ => rfl) fun writeCsr => ?_
  have off := never ⟨not_not.mp seed, not_not.mp setup, not_not.mp genKey, not_not.mp writeKey,
    not_not.mp setSubject, not_not.mp writeCsr⟩
  unfold post
  exact (if_neg (by simp [off])).trans (if_neg (by simp [off])).symm

/-- Without a request, nothing depends on what libcurl would have done. -/
theorem cdmEnroll_unposted (unposted : posted m before = none) (perform : Sent → Transfer) :
    cdmEnroll { m with perform := perform } before = cdmEnroll m before := by
  unfold cdmEnroll
  dsimp only
  cases url : required m.env.bridgeApiUrl with
  | none => rfl
  | some apiUrl =>
    refine ite_congr rfl (fun _ => rfl) fun flag => ?_
    refine makeKey_unposted ?_ perform _
    intro generated
    have asks : Asks m before := ⟨by rw [url]; exact Option.some_ne_none apiUrl, flag, generated⟩
    rw [posted_asked asks] at unposted
    cases init : m.curlInit with
    | false => rfl
    | true =>
      rw [if_pos init, EnrollClients.cdmEnroll, url] at unposted
      cases unposted

end Unposted

/-! ## What is put into the body -/

/-- A CSR that fits into its own buffer is escaped to its end. -/
theorem csrEscaped_whole {cs : List Char} {ei : Nat} (room : ei + 2 * cs.length ≤ 8190) :
    EnrollClients.csrEscaped ei cs =
      cs.flatMap fun c => if c = '\n' then ['\\', 'n'] else [c] := by
  induction cs generalizing ei with
  | nil => rfl
  | cons c cs ih =>
    rw [List.length_cons] at room
    have early : ei < 8192 - 3 := by omega
    rw [EnrollClients.csrEscaped, if_pos early, List.flatMap_cons]
    split
    · rw [ih (by omega)]
      rfl
    · rw [ih (by omega)]
      rfl

theorem length_escaped (cs : List Char) :
    (cs.flatMap fun c => if c = '\n' then ['\\', 'n'] else [c]).length =
      cs.length + cs.count '\n' := by
  induction cs with
  | nil => rfl
  | cons c cs ih =>
    rw [List.flatMap_cons, List.length_append, ih, List.length_cons, List.count_cons]
    by_cases newline : c = '\n'
    · subst newline
      simp
      omega
    · simp [newline]
      omega

/-- The escapes of a PEM text are those of its newlines. -/
theorem spelledLength_pem {cs : List Char}
    (pem : ∀ c ∈ cs, c = '\n' ∨ 32 ≤ c.toNat ∧ c.toNat < 127 ∧ c ≠ '"' ∧ c ≠ '\\') :
    spelledLength cs = cs.length + cs.count '\n' := by
  induction cs with
  | nil => rfl
  | cons c cs ih =>
    have rest := ih fun d hd => pem d (List.mem_cons_of_mem c hd)
    unfold spelledLength at rest ⊢
    rw [List.map_cons, List.sum_cons, rest, List.length_cons, List.count_cons]
    rcases pem c List.mem_cons_self with rfl | ⟨printable, -, quote, backslash⟩
    · simp [unitLength]
      omega
    · have other : c ≠ '\n' := by
        rintro rfl
        exact absurd printable (by decide)
      have quote' : c.toNat ≠ 34 := fun same => quote (Char.toNat_inj.mp same)
      have backslash' : c.toNat ≠ 92 := fun same => backslash (Char.toNat_inj.mp same)
      rw [unitLength, if_neg (by omega)]
      simp [other]
      omega

theorem length_le_spelledLength (cs : List Char) : cs.length ≤ spelledLength cs := by
  induction cs with
  | nil => exact Nat.le_refl 0
  | cons c cs ih =>
    have one := (unitLength_bounds c.toNat).1
    unfold spelledLength at ih ⊢
    rw [List.map_cons, List.sum_cons, List.length_cons]
    omega

/-- Only a text without escapes needs no more characters than it has. -/
theorem jsonPlain_of_length {text : String} (short : spelledLength text.toList ≤ text.length) :
    JsonPlain text := by
  rw [← String.length_toList] at short
  unfold JsonPlain
  generalize text.toList = cs at short
  induction cs with
  | nil => exact fun c hc => absurd hc List.not_mem_nil
  | cons c cs ih =>
    have rest := length_le_spelledLength cs
    have split : spelledLength (c :: cs) = unitLength c.toNat + spelledLength cs := by
      simp [spelledLength]
    rw [List.length_cons, split] at short
    have one := (unitLength_bounds c.toNat).1
    have plain : unitLength c.toNat = 1 := by omega
    intro d hd
    rcases List.mem_cons.mp hd with rfl | hd
    · unfold unitLength at plain
      split at plain
      · cases plain
      next none =>
        refine ⟨by omega, ?_, ?_⟩
        · rintro rfl
          exact none (by decide)
        · rintro rfl
          exact none (by decide)
    · exact ih (by omega) d hd

/-! ## What fits -/

theorem snprintf_whole {room : Nat} {text : List Char} (short : (encode text).length ≤ room) :
    EnrollClients.snprintf room text = some text := by
  induction text generalizing room with
  | nil => rfl
  | cons c text ih =>
    rw [encode_cons, List.length_append, String.length_utf8EncodeChar] at short
    rw [EnrollClients.snprintf, if_pos (by omega), ih (by omega), Option.map_some]

theorem snprintf_room {room : Nat} {text kept : List Char}
    (h : EnrollClients.snprintf room text = some kept) : (encode kept).length ≤ room := by
  induction text generalizing room kept with
  | nil =>
    cases h
    exact Nat.zero_le room
  | cons c text ih =>
    rw [EnrollClients.snprintf] at h
    split at h
    · obtain ⟨more, hmore, rfl⟩ := Option.map_eq_some_iff.mp h
      have rest := ih hmore
      rw [encode_cons, List.length_append, String.length_utf8EncodeChar]
      omega
    · split at h
      · cases h
        exact Nat.zero_le room
      · cases h

theorem inlineBody_length (id type : String) (csr : List Char) :
    (inlineBody id type csr).length = 42 + id.length + type.length + csr.length ∧
      (encode (inlineBody id type csr)).length =
        42 + (bytes id).length + (bytes type).length + (encode csr).length := by
  -- the literals are abstracted first: simp would unfold them
  have shape : ∀ first second third last : List Char,
      (first.length = 14 ∧ (encode first).length = 14) →
      (second.length = 17 ∧ (encode second).length = 17) →
      (third.length = 9 ∧ (encode third).length = 9) →
      (last.length = 2 ∧ (encode last).length = 2) →
      (first ++ id.toList ++ second ++ type.toList ++ third ++ csr ++ last).length =
        42 + id.length + type.length + csr.length ∧
      (encode (first ++ id.toList ++ second ++ type.toList ++ third ++ csr ++ last)).length =
        42 + (bytes id).length + (bytes type).length + (encode csr).length := by
    intro first second third last hfirst hsecond hthird hlast
    simp only [encode_append, List.length_append, String.length_toList, bytes]
    omega
  exact shape _ _ _ _ (by decide +kernel) (by decide +kernel) (by decide +kernel)
    (by decide +kernel)

/-- Three members of an object take their room in its text. -/
theorem least_of_members {fields : List (String × Json)} {id type csr : String}
    (hid : Json.field? "device_id" fields = some (.str id))
    (htype : Json.field? "device_type" fields = some (.str type))
    (hcsr : Json.field? "csr" fields = some (.str csr)) :
    42 + spelledLength id.toList + spelledLength type.toList + spelledLength csr.toList ≤
      leastLength (.obj fields) := by
  have held : ∀ {key : String} {v : Json}, Json.field? key fields = some v → (key, v) ∈ fields := by
    intro key v found
    obtain ⟨⟨name, w⟩, hfind, rfl⟩ := Option.map_eq_some_iff.mp found
    have same : name = key := by simpa using List.find?_some hfind
    rw [← same]
    exact List.mem_of_find?_eq_some hfind
  have some : List.Subperm
      [("device_id", Json.str id), ("device_type", .str type), ("csr", .str csr)] fields := by
    refine List.subperm_of_subset ?_ ?_
    · simp
    · intro member h
      simp only [List.mem_cons, List.not_mem_nil, or_false] at h
      rcases h with rfl | rfl | rfl
      · exact held hid
      · exact held htype
      · exact held hcsr
  obtain ⟨kept, same, sub⟩ := some
  have names : spelledLength "device_id".toList = 9 ∧ spelledLength "device_type".toList = 11 ∧
      spelledLength "csr".toList = 3 := by decide +kernel
  have sum : membersLength kept ≤ membersLength fields :=
    (sub.map memberLength).sum_le_sum fun _ _ => Nat.zero_le _
  have parts : membersLength kept = 41 + spelledLength id.toList + spelledLength type.toList +
      spelledLength csr.toList := by
    rw [membersLength, (same.map memberLength).sum_eq]
    simp only [List.map_cons, List.map_nil, List.sum_cons, List.sum_nil, memberLength,
      stringLength]
    omega
  have least : leastLength (.obj fields) = 1 + membersLength fields := rfl
  omega

/-! ## The claim -/

section Claim

variable {m : Machine} {before : Files}

/-- The CSR as it is written into the body. -/
def escapedCsr (m : Machine) : List Char :=
  m.csrPem.toList.flatMap fun c => if c = '\n' then ['\\', 'n'] else [c]

theorem spells_escapedCsr (text : PemText m.csrPem) :
    Spells m.csrPem.toList (escapedCsr m) ∧ ∀ c ∈ escapedCsr m, c.toNat < 128 := by
  unfold PemText at text
  unfold escapedCsr
  generalize m.csrPem.toList = cs at text
  induction cs with
  | nil => exact ⟨.nil, fun c hc => absurd hc List.not_mem_nil⟩
  | cons c cs ih =>
    obtain ⟨spelled, ascii⟩ := ih fun d hd => text d (List.mem_cons_of_mem c hd)
    rw [List.flatMap_cons]
    rcases text c List.mem_cons_self with rfl | ⟨printable, small, quote, backslash⟩
    · refine ⟨.short rfl spelled, ?_⟩
      intro d hd
      rcases List.mem_append.mp hd with hd | hd
      · have marks : ∀ d ∈ ['\\', 'n'], d.toNat < 128 := by decide
        exact marks d hd
      · exact ascii d hd
    · have other : c ≠ '\n' := by
        rintro rfl
        exact absurd printable (by decide)
      rw [if_neg other]
      refine ⟨.plain printable quote backslash spelled, ?_⟩
      intro d hd
      rcases List.mem_cons.mp hd with rfl | hd
      · omega
      · exact ascii d hd

/-- The request of a run that comes to it. -/
theorem posted_body (pem : WritesPem m.mbedtls) {sent : Sent}
    (posts : posted m before = some sent) :
    sent.request.body = (EnrollClients.snprintf 8447 (inlineBody (deviceId .freertos m.env)
      (deviceType .freertos m.env) (escapedCsr m))).map String.ofList := by
  have short := pem.short m.subject
  have room : 0 + 2 * m.csrPem.toList.length ≤ 8190 := by
    rw [String.length_toList]
    exact (Nat.zero_add _).trans_le (Nat.mul_le_mul_left 2 short)
  have asks : ∃ made, EnrollClients.cdmEnroll m.env ⟨m.csrPem, made⟩ = some sent := by
    unfold posted at posts
    split at posts
    · cases posts
    · split_ifs at posts
      exact ⟨"", posts⟩
  obtain ⟨made, request⟩ := asks
  obtain ⟨apiUrl, -, rfl⟩ := Option.map_eq_some_iff.mp request
  show (EnrollClients.snprintf 8447 (inlineBody _ _ (EnrollClients.csrEscaped 0 _))).map _ = _
  rw [csrEscaped_whole room]
  rfl

theorem encodes_of_plain (pem : WritesPem m.mbedtls) {sent : Sent}
    (posts : posted m before = some sent) (idPlain : JsonPlain (deviceId .freertos m.env))
    (typePlain : JsonPlain (deviceType .freertos m.env)) (fits : Fits m) : Encodes m sent := by
  obtain ⟨spelled, ascii⟩ := spells_escapedCsr (pem.text m.subject)
  have reads := reads_inlineBody idPlain typePlain spelled
  have parsed := parse_of_reads reads Style.space_nil Style.space_nil
  rw [List.nil_append, List.append_nil] at parsed
  have length := (inlineBody_length (deviceId .freertos m.env) (deviceType .freertos m.env)
    (escapedCsr m)).2
  have csr : (encode (escapedCsr m)).length = m.csrPem.length + m.csrPem.toList.count '\n' := by
    rw [encode_ascii ascii, List.length_map, escapedCsr, length_escaped, String.length_toList]
  unfold Fits at fits
  have body := posted_body pem posts
  rw [snprintf_whole (by omega), Option.map_some] at body
  refine ⟨_, _, body, parsed, rfl, rfl, ?_, ?_⟩
  · rw [String.ofList_toList]
    rfl
  · intro field h
    simp only [List.mem_cons, List.not_mem_nil, or_false] at h
    rcases h with rfl | rfl | rfl <;> simp [members]

theorem plain_of_encodes (pem : WritesPem m.mbedtls) {sent : Sent}
    (posts : posted m before = some sent) (encodes : Encodes m sent) :
    JsonPlain (deviceId .freertos m.env) ∧ JsonPlain (deviceType .freertos m.env) ∧ Fits m := by
  obtain ⟨body, fields, hbody, parsed, hid, htype, hcsr, -⟩ := encodes
  rw [posted_body pem posts] at hbody
  obtain ⟨kept, hkept, rfl⟩ := Option.map_eq_some_iff.mp hbody
  have text : PemText m.csrPem := pem.text m.subject
  have ascii := (spells_escapedCsr text).2
  have length := inlineBody_length (deviceId .freertos m.env) (deviceType .freertos m.env)
    (escapedCsr m)
  have csr : (escapedCsr m).length = m.csrPem.length + m.csrPem.toList.count '\n' := by
    rw [escapedCsr, length_escaped, String.length_toList]
  have csrBytes : (encode (escapedCsr m)).length = (escapedCsr m).length := by
    rw [encode_ascii ascii, List.length_map]
  have csrNeeds : spelledLength m.csrPem.toList =
      m.csrPem.length + m.csrPem.toList.count '\n' := by
    rw [spelledLength_pem text, String.length_toList]
  -- the strings need all of the text, so there is nothing to escape and nothing cut
  have needs := (parse_length parsed).1
  rw [String.length_ofList] at needs
  have least := least_of_members hid htype hcsr
  have idNeeds := length_le_spelledLength (deviceId .freertos m.env).toList
  have typeNeeds := length_le_spelledLength (deviceType .freertos m.env).toList
  rw [String.length_toList] at idNeeds typeNeeds
  obtain ⟨cut, split⟩ := snprintf_prefix hkept
  have whole := congrArg List.length split
  rw [List.length_append] at whole
  have none : cut = [] := List.eq_nil_of_length_eq_zero (by omega)
  rw [none, List.append_nil] at split
  have room := snprintf_room hkept
  rw [split] at room
  refine ⟨jsonPlain_of_length (by omega), jsonPlain_of_length (by omega), ?_⟩
  unfold Fits
  omega

/-- A run that comes to the request says what it is made of if and only if nothing in the
id and the type of the device needs an escape and the body fits. -/
theorem sends_inputs_iff (m : Machine) (before : Files) (pem : WritesPem m.mbedtls) :
    SendsInputs m before ↔
      posted m before = none ∨ (JsonPlain (deviceId .freertos m.env) ∧
        JsonPlain (deviceType .freertos m.env) ∧ Fits m) := by
  unfold SendsInputs
  cases posts : posted m before with
  | none => simp
  | some sent =>
    constructor
    · intro encodes
      exact Or.inr (plain_of_encodes pem posts (encodes sent rfl))
    · rintro (none | ⟨idPlain, typePlain, fits⟩) sent' same
      · cases none
      · cases same
        exact encodes_of_plain pem posts idPlain typePlain fits

end Claim

/-! ## Two devices -/

/-- The small device of the other module, of this type. -/
def typed (deviceType : Option String) : Machine :=
  { device (some 3) [] with
    env := ⟨none, none, deviceType, none, some "http://bridge"⟩ }

theorem typed_writesPem (deviceType : Option String) : WritesPem (typed deviceType).mbedtls where
  text subject := by
    show PemText "CSR"
    unfold PemText
    decide
  short subject := by
    show "CSR".length ≤ 4095
    decide

theorem posted_typed (deviceType : Option String) : (posted (typed deviceType) noFiles).isSome := by
  rfl

theorem default_sends_inputs : SendsInputs (typed none) noFiles :=
  (sends_inputs_iff (typed none) noFiles (typed_writesPem none)).mpr
    (Or.inr ⟨by unfold JsonPlain; decide, by unfold JsonPlain; decide, by unfold Fits; decide⟩)

/-- The text of a member. -/
def memberText (key : String) : Json → Option String
  | .obj fields => (Json.field? key fields).bind Source.Models.strField
  | _ => none

/-- A type that ends its string and goes on with another id. -/
theorem type_changes_id :
    ¬ SendsInputs (typed (some "x\",\"device_id\":\"other")) noFiles := by
  intro sends
  have sent : ((posted (typed (some "x\",\"device_id\":\"other")) noFiles).bind fun sent =>
      (sent.request.body.bind JsonText.parse).bind (memberText "device_id")) = some "other" := by
    decide +kernel
  obtain ⟨request, posts, read⟩ := Option.bind_eq_some_iff.mp sent
  obtain ⟨body, fields, hbody, parsed, hid, -⟩ := sends request posts
  rw [hbody, Option.bind_some, parsed, Option.bind_some, memberText, hid] at read
  exact absurd read (by decide)

end CompleteDeviceManagement.Guarantees.EnrollBody
