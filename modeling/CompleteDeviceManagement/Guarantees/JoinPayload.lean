import CompleteDeviceManagement.Source.JoinPayload

/-!
# PEM texts in the JOIN payload

The three filters of `_json_pem` together escape backslashes, quotes and newlines.
The Provider reads the CSRs as the shell has captured them, without the newlines at
their end.
-/

set_option autoImplicit false

namespace CompleteDeviceManagement.Guarantees.JoinPayload
open CompleteDeviceManagement.Library CompleteDeviceManagement.Library.JsonText
  CompleteDeviceManagement.Source.JoinPayload
open CompleteDeviceManagement.Source.InitSubCa (captured captured_eq_iff)
open CompleteDeviceManagement.Source.EnrollClients (records)

/-- Printable ASCII characters and newlines. -/
def PemText (text : Text) : Prop := ∀ c ∈ text, c = '\n' ∨ 32 ≤ c.toNat ∧ c.toNat < 127

/-! ## What the filters do together -/

def escaped (c : Char) : Text :=
  if c = '\\' then ['\\', '\\'] else if c = '"' then ['\\', '"']
  else if c = '\n' then ['\\', 'n'] else [c]

/-- What the first sed leaves of a character. -/
def sedEscaped (c : Char) : Text :=
  if c = '\\' then ['\\', '\\'] else if c = '"' then ['\\', '"'] else [c]

/-- What awk makes of a character. -/
def awkEscaped (c : Char) : Text := if c = '\n' then ['\\', 'n'] else [c]

theorem awkEscaped_sedEscaped (c : Char) : (sedEscaped c).flatMap awkEscaped = escaped c := by
  unfold sedEscaped escaped
  by_cases backslash : c = '\\'
  · subst backslash
    decide
  · by_cases quote : c = '"'
    · subst quote
      decide
    · simp [backslash, quote, awkEscaped]

theorem sedEscape_eq (text : Text) : sedEscape text = text.flatMap sedEscaped := by
  have inLine : ∀ subst ∈ [doubleBackslashes, escapeQuotes], subst.InLine := by
    simp [Sed.Subst.InLine, doubleBackslashes, escapeQuotes]
  have each : ∀ c, (if c = '\\' then ['\\', '\\'] else [c]).flatMap
      (fun d => if d = '"' then ['\\', '"'] else [d]) = sedEscaped c := by
    intro c
    unfold sedEscaped
    by_cases backslash : c = '\\'
    · subst backslash
      decide
    · simp [backslash]
  have doubled := Sed.replaceAll_char '\\' ['\\', '\\'] text
  have quoted := Sed.replaceAll_char '"' ['\\', '"']
    (text.flatMap fun c => if c = '\\' then ['\\', '\\'] else [c])
  rw [sedEscape, Sed.edited_eq inLine]
  calc Sed.edit [doubleBackslashes, escapeQuotes] text
      = Sed.replaceAll ['"'] ['\\', '"'] (Sed.replaceAll ['\\'] ['\\', '\\'] text) := rfl
    _ = (text.flatMap fun c => if c = '\\' then ['\\', '\\'] else [c]).flatMap
          fun d => if d = '"' then ['\\', '"'] else [d] := by rw [doubled, quoted]
    _ = text.flatMap sedEscaped := by
      rw [List.flatMap_assoc]
      exact congrArg (text.flatMap ·) (funext each)

/-- Each line gets an end, and so do the newlines between them. -/
theorem flatMap_lines (text : Text) :
    (text.splitOn '\n').flatMap (· ++ ['\\', 'n']) = text.flatMap awkEscaped ++ ['\\', 'n'] := by
  induction text with
  | nil => rfl
  | cons c text ih =>
    rw [List.splitOn_cons_eq_if_modifyHead]
    by_cases line : c = '\n'
    · rw [if_pos (by simp [line]), List.flatMap_cons, ih, List.flatMap_cons, awkEscaped,
        if_pos line]
      simp
    · rw [if_neg (by simp [line]), List.flatMap_cons, awkEscaped, if_neg line]
      cases hsplit : text.splitOn '\n' with
      | nil => exact absurd hsplit (List.splitOn_ne_nil '\n' text)
      | cons first rest =>
        rw [hsplit] at ih
        rw [List.modifyHead_cons, List.flatMap_cons]
        exact congrArg (c :: ·) ih

/-- The last line is empty only behind a newline. -/
theorem ends_of_splitOn {text : Text} (last : (text.splitOn '\n').getLast? = some []) :
    text = [] ∨ text.getLast? = some '\n' := by
  induction text with
  | nil => exact Or.inl rfl
  | cons c text ih =>
    right
    rw [List.splitOn_cons_eq_if_modifyHead] at last
    cases hsplit : text.splitOn '\n' with
    | nil => exact absurd hsplit (List.splitOn_ne_nil '\n' text)
    | cons first rest =>
      rw [hsplit] at last ih
      by_cases line : c = '\n'
      · rw [if_pos (by simp [line]), List.getLast?_cons_cons] at last
        rcases ih last with rfl | ends
        · rw [line]
          rfl
        · rw [List.getLast?_cons, ends]
          rfl
      · rw [if_neg (by simp [line]), List.modifyHead_cons] at last
        cases rest with
        | nil => simp at last
        | cons second rest =>
          rw [List.getLast?_cons_cons] at last ih
          rcases ih last with rfl | ends
          · simp at hsplit
          · rw [List.getLast?_cons, ends]
            rfl

theorem records_ended {text : Text} (nonempty : text ≠ []) (ends : text.getLast? ≠ some '\n') :
    records text = text.splitOn '\n' :=
  if_neg fun last => (ends_of_splitOn last).elim nonempty ends

theorem sedLast_ended {text : Text} (oneLine : '\n' ∉ text) :
    sedLast (text ++ ['\\', 'n']) = text := by
  have absent : '\n' ∉ text ++ ['\\', 'n'] := by
    rw [List.mem_append, not_or]
    exact ⟨oneLine, by decide⟩
  have last : (text ++ ['\\', 'n']).getLast? ≠ some '\n' := by
    simp
  have suffix : ['\\', 'n'] <:+ text ++ ['\\', 'n'] := List.suffix_append _ _
  rw [sedLast, records_ended (by simp) last, List.splitOn_eq_singleton absent, editLast,
    removeEscape, if_pos suffix, if_neg last]
  simp

theorem sedEscaped_ends {text : Text} (ends : text.getLast? ≠ some '\n') :
    (text.flatMap sedEscaped).getLast? ≠ some '\n' := by
  rcases List.eq_nil_or_concat text with rfl | ⟨front, c, rfl⟩
  · simp
  · rw [List.concat_eq_append] at ends ⊢
    have line : c ≠ '\n' := by simpa using ends
    have last : (sedEscaped c).getLast? ≠ some '\n' ∧ sedEscaped c ≠ [] := by
      unfold sedEscaped
      split
      · decide
      · split
        · decide
        · simp [line]
    rw [List.flatMap_append, List.flatMap_singleton, List.getLast?_append_of_ne_nil _ last.2]
    exact last.1

theorem newline_escaped (text : Text) : '\n' ∉ text.flatMap escaped := by
  intro inside
  obtain ⟨c, -, hc⟩ := List.mem_flatMap.mp inside
  unfold escaped at hc
  split at hc
  · exact absurd hc (by decide)
  · split at hc
    · exact absurd hc (by decide)
    · split at hc
      · exact absurd hc (by decide)
      next line => exact line (List.mem_singleton.mp hc).symm

/-- Whatever the text: single and empty lines, literal `\n` at its end. -/
theorem jsonPem_eq {text : Text} (ends : text.getLast? ≠ some '\n') :
    jsonPem text = text.flatMap escaped := by
  have both : (text.flatMap sedEscaped).flatMap awkEscaped = text.flatMap escaped := by
    rw [List.flatMap_assoc]
    exact congrArg (text.flatMap ·) (funext awkEscaped_sedEscaped)
  by_cases empty : text = []
  · subst empty
    decide
  · have nonempty : text.flatMap sedEscaped ≠ [] := by
      cases text with
      | nil => exact absurd rfl empty
      | cons c text =>
        rw [List.flatMap_cons]
        unfold sedEscaped
        split
        · simp
        · split <;> simp
    rw [jsonPem, sedEscape_eq, awkJoin, records_ended nonempty (sedEscaped_ends ends),
      flatMap_lines, both, sedLast_ended (newline_escaped text)]

theorem spells_escapedChar {c : Char} (pem : c = '\n' ∨ 32 ≤ c.toNat ∧ c.toNat < 127) :
    Spells [c] (escaped c) := by
  unfold escaped
  by_cases backslash : c = '\\'
  · subst backslash
    exact .short rfl .nil
  · by_cases quote : c = '"'
    · subst quote
      exact .short rfl .nil
    · rw [if_neg backslash, if_neg quote]
      rcases pem with line | ⟨printable, -⟩
      · subst line
        exact .short rfl .nil
      · have line : c ≠ '\n' := by
          intro same
          rw [same] at printable
          exact absurd printable (by decide)
        rw [if_neg line]
        exact .plain printable quote backslash .nil

theorem spells_escaped {text : Text} (pem : PemText text) :
    Spells text (text.flatMap escaped) := by
  induction text with
  | nil => exact .nil
  | cons c text ih =>
    have first := spells_escapedChar (pem c List.mem_cons_self)
    exact first.append (ih fun d hd => pem d (List.mem_cons_of_mem c hd))

/-! ## What the Provider reads -/

theorem captured_pem {text : String} (pem : PemText text.toList) :
    PemText (captured text).toList := by
  intro c hc
  unfold captured at hc
  rw [String.toList_ofList] at hc
  exact pem c ((List.rdropWhile_prefix _ _).subset hc)

/-- A captured text does not end in a newline. -/
theorem captured_ends (text : String) : (captured text).toList.getLast? ≠ some '\n' := by
  have again : captured (captured text) = captured text := by
    unfold captured
    rw [String.toList_ofList, List.rdropWhile_idempotent]
  exact (captured_eq_iff (captured text)).mp again

theorem inlinedPem_eq (file : String) :
    inlinedPem file = (captured file).toList.flatMap escaped := by
  have escapes := jsonPem_eq (captured_ends file)
  have kept : captured (.ofList (jsonPem (captured file).toList)) =
      .ofList (jsonPem (captured file).toList) := by
    rw [captured_eq_iff, String.toList_ofList, escapes]
    intro last
    exact newline_escaped _ (List.mem_of_getLast? last)
  rw [inlinedPem, kept, String.toList_ofList, escapes]

/-- The object that is sent, with what the four texts spell in it. -/
theorem reads_payload {csr wgPubkey keycloakUrl mqttCsr : List Char} {csrText wgText urlText
    mqttText : Text} (csrSpelled : Spells csr csrText) (wgSpelled : Spells wgPubkey wgText)
    (urlSpelled : Spells keycloakUrl urlText) (mqttSpelled : Spells mqttCsr mqttText) :
    Reads (.obj [("sub_ca_csr", .str (.ofList csr)), ("wg_pubkey", .str (.ofList wgPubkey)),
      ("keycloak_url", .str (.ofList keycloakUrl)), ("mqtt_bridge_csr", .str (.ofList mqttCsr))])
      ("\x7b\"sub_ca_csr\":\"".toList ++ csrText ++ "\",\"wg_pubkey\":\"".toList ++ wgText ++
        "\",\"keycloak_url\":\"".toList ++ urlText ++ "\",\"mqtt_bridge_csr\":\"".toList ++
        mqttText ++ "\"\x7d".toList) := by
  have name : ∀ key : String, (∀ c ∈ key.toList, 32 ≤ c.toNat ∧ c ≠ '"' ∧ c ≠ '\\') →
      Spells key.toList key.toList := fun key plain => spells_plain plain
  have hmqtt := readsMembers_one (name "mqtt_bridge_csr" (by decide)) (reads_str mqttSpelled)
    Style.space_nil Style.space_nil Style.space_nil
  have hurl := readsMembers_cons (name "keycloak_url" (by decide)) (reads_str urlSpelled)
    Style.space_nil Style.space_nil Style.space_nil Style.space_nil hmqtt
  have hwg := readsMembers_cons (name "wg_pubkey" (by decide)) (reads_str wgSpelled)
    Style.space_nil Style.space_nil Style.space_nil Style.space_nil hurl
  have hcsr := readsMembers_cons (name "sub_ca_csr" (by decide)) (reads_str csrSpelled)
    Style.space_nil Style.space_nil Style.space_nil Style.space_nil hwg
  have hobj := reads_obj Style.space_nil hcsr
  rw [collapse_nodup (by simp)] at hobj
  simp only [String.ofList_toList] at hobj
  -- the literals are abstracted first: comparing two of them unfolds both
  have shape : ∀ first second third fourth last : List Char,
      first = '\x7b' :: '"' :: ("sub_ca_csr".toList ++ ['"', ':', '"']) →
      second = '"' :: ',' :: '"' :: ("wg_pubkey".toList ++ ['"', ':', '"']) →
      third = '"' :: ',' :: '"' :: ("keycloak_url".toList ++ ['"', ':', '"']) →
      fourth = '"' :: ',' :: '"' :: ("mqtt_bridge_csr".toList ++ ['"', ':', '"']) →
      last = ['"', '\x7d'] →
      Reads (.obj [("sub_ca_csr", .str (.ofList csr)), ("wg_pubkey", .str (.ofList wgPubkey)),
        ("keycloak_url", .str (.ofList keycloakUrl)),
        ("mqtt_bridge_csr", .str (.ofList mqttCsr))])
        (first ++ csrText ++ second ++ wgText ++ third ++ urlText ++ fourth ++ mqttText ++
          last) := by
    intro first second third fourth last hfirst hsecond hthird hfourth hlast
    subst hfirst hsecond hthird hfourth hlast
    simpa only [List.append_assoc, List.cons_append, List.nil_append] using hobj
  exact shape _ _ _ _ _ (by decide +kernel) (by decide +kernel) (by decide +kernel)
    (by decide +kernel) (by decide +kernel)

theorem payload_parsed (forwarded : Forwarded) {csrFile mqttCsrFile : String}
    {wgPubkey keycloakUrl : List Char} (csrPem : PemText csrFile.toList)
    (mqttPem : PemText mqttCsrFile.toList)
    (wgSpelled : Spells wgPubkey forwarded.wgPubkey.toList)
    (urlSpelled : Spells keycloakUrl forwarded.tenantKeycloakUrl.toList) :
    parse (payload forwarded csrFile mqttCsrFile) =
      some (.obj [("sub_ca_csr", .str (captured csrFile)), ("wg_pubkey", .str (.ofList wgPubkey)),
        ("keycloak_url", .str (.ofList keycloakUrl)),
        ("mqtt_bridge_csr", .str (captured mqttCsrFile))]) := by
  have reads := reads_payload (spells_escaped (captured_pem csrPem)) wgSpelled urlSpelled
    (spells_escaped (captured_pem mqttPem))
  have read := parse_of_reads reads Style.space_nil Style.space_nil
  rw [String.ofList_toList, String.ofList_toList, List.nil_append, List.append_nil] at read
  have kept : ∀ front last : Text, last = ['"', '\x7d'] →
      captured (.ofList (front ++ last)) = .ofList (front ++ last) := by
    intro front last hlast
    rw [captured_eq_iff, String.toList_ofList, hlast]
    simp
  rw [payload, inlinedPem_eq, inlinedPem_eq, kept _ _ (by decide +kernel)]
  exact read

theorem received_payload (forwarded : Forwarded) {csrFile mqttCsrFile : String}
    {wgPubkey keycloakUrl : List Char} (csrPem : PemText csrFile.toList)
    (mqttPem : PemText mqttCsrFile.toList)
    (wgSpelled : Spells wgPubkey forwarded.wgPubkey.toList)
    (urlSpelled : Spells keycloakUrl forwarded.tenantKeycloakUrl.toList) :
    received (payload forwarded csrFile mqttCsrFile) =
      some ⟨captured csrFile, .ofList wgPubkey, .ofList keycloakUrl, captured mqttCsrFile⟩ := by
  rw [received, payload_parsed forwarded csrPem mqttPem wgSpelled urlSpelled, Option.bind_some]
  rfl

/-- A text that is put between quotes as it is. -/
def InString (text : String) : Prop := ∃ cs, Spells cs text.toList

/-- A text in the payload is one line that is read as the text, and the Provider reads
the contents of both CSR files without the newlines at their end. -/
theorem pem_survives :
    (∀ text, PemText text → text.getLast? ≠ some '\n' → '\n' ∉ jsonPem text ∧
      parse (.ofList ('"' :: jsonPem text ++ ['"'])) = some (.str (.ofList text))) ∧
    ∀ (forwarded : Forwarded) (csrFile mqttCsrFile : String),
      PemText csrFile.toList → PemText mqttCsrFile.toList → InString forwarded.wgPubkey →
        InString forwarded.tenantKeycloakUrl →
          ∃ read, received (payload forwarded csrFile mqttCsrFile) = some read ∧
            read.subCaCsr = captured csrFile ∧ read.mqttBridgeCsr = captured mqttCsrFile := by
  constructor
  · intro text pem ends
    rw [jsonPem_eq ends]
    have read := parse_of_reads (reads_str (spells_escaped pem)) Style.space_nil Style.space_nil
    rw [List.nil_append, List.append_nil] at read
    exact ⟨newline_escaped text, read⟩
  · intro forwarded csrFile mqttCsrFile csrPem mqttPem ⟨wgPubkey, wgSpelled⟩ ⟨url, urlSpelled⟩
    exact ⟨_, received_payload forwarded csrPem mqttPem wgSpelled urlSpelled, rfl, rfl⟩

def request : String :=
  "-----BEGIN CERTIFICATE REQUEST-----\nMIIB\n-----END CERTIFICATE REQUEST-----\n"

theorem request_pem : PemText request.toList := by
  unfold PemText
  decide +kernel

theorem request_survives :
    parse (.ofList ('"' :: jsonPem "\n\n\"\\n".toList ++ ['"'])) = some (.str "\n\n\"\\n") ∧
      ∃ read, received (payload {} request "") = some read ∧
        read.subCaCsr = captured request ∧ read.mqttBridgeCsr = captured "" := by
  have missing : InString (Forwarded.wgPubkey {}) :=
    ⟨"not-available".toList, spells_plain (by decide)⟩
  exact ⟨(pem_survives.1 _ (by unfold PemText; decide) (by decide)).2,
    pem_survives.2 {} request "" request_pem (fun c hc => absurd hc List.not_mem_nil) missing
      ⟨[], .nil⟩⟩

/-- The newline at the end of the CSR file is not sent, and a Keycloak URL with a quote
makes a payload that is no JSON. -/
theorem final_newline_lost :
    (∃ read, received (payload {} request request) = some read ∧
      read.subCaCsr ++ "\n" = request ∧ read.subCaCsr ≠ request) ∧
      received (payload { tenantKeycloakUrl := "\"" } "" "") = none := by
  have missing : Spells "not-available".toList (Forwarded.wgPubkey {}).toList :=
    spells_plain (by decide)
  have broken : (received (payload { tenantKeycloakUrl := "\"" } "" "")).isNone = true := by
    decide +kernel
  refine ⟨⟨_, received_payload {} request_pem request_pem missing .nil, ?_, ?_⟩,
    Option.isNone_iff_eq_none.mp broken⟩
  · decide +kernel
  · decide +kernel

end CompleteDeviceManagement.Guarantees.JoinPayload
