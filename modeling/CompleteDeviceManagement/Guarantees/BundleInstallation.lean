import CompleteDeviceManagement.Guarantees.JoinBundle
import CompleteDeviceManagement.Library.Url
import CompleteDeviceManagement.Source.InitSubCa

/-!
# What the tenant installs of the bundle

`print(None)` prints a text, so for `_jq` a field that is null has the value
`None`. The rest is kept but for newlines at the end, and the broker's host is
found in a URL that ends behind it or has a port.
-/

set_option autoImplicit false

namespace CompleteDeviceManagement.Guarantees.BundleInstallation
open CompleteDeviceManagement.Library CompleteDeviceManagement.Source.Models
  CompleteDeviceManagement.Source.Runtime CompleteDeviceManagement.Source.AdminPortal
  CompleteDeviceManagement.Source.Service CompleteDeviceManagement.Source.InitSubCa
  CompleteDeviceManagement.Guarantees.JoinContract CompleteDeviceManagement.Guarantees.JoinBundle
open CompleteDeviceManagement.Library.Url (Text)

/-! ## Addresses of a broker -/

/-- A character of a host that is a name or an IPv4 address. -/
def nameChar (c : Char) : Bool := c ∉ [':', '/', '?', '#', '@', '[', ']', '\\', ' ', '\n']

/-- `http://host:port/path`, on one line and without credentials. -/
structure Address where
  secure : Bool
  host : Text
  port : Option Text
  tail : Text
  hostPlain : ∀ c ∈ host, nameChar c = true
  portDigits : ∀ digits, port = some digits → digits ≠ [] ∧ ∀ c ∈ digits, c.isDigit = true
  tailMarked : ∀ c, tail.head? = some c → c ∈ ['/', '?', '#']
  oneLine : '\n' ∉ tail

def scheme (secure : Bool) : Text := (if secure then "https://" else "http://").toList

def Address.behindHost (a : Address) : Text :=
  match a.port with
  | some digits => ':' :: digits ++ a.tail
  | none => a.tail

def Address.text (a : Address) : Text := scheme a.secure ++ (a.host ++ a.behindHost)

/-- What `s|:.*||` cuts off begins right behind the host. -/
def Address.Cut (a : Address) : Prop := a.port.isSome = true ∨ a.tail = []

/-! ## The host in a URL -/

theorem removeFirst_scheme (secure : Bool) {c : Char} (h : c ≠ 'h') (rest : Text) :
    removeFirst (scheme secure) (c :: rest) = c :: removeFirst (scheme secure) rest := by
  cases secure
  · simp [scheme, removeFirst, h.symm]
  · simp [scheme, removeFirst, h.symm]

theorem removeFirst_prefix (first : Char) (more rest : Text) :
    removeFirst (first :: more) (first :: more ++ rest) = rest := by
  have found : (first :: more).isPrefixOf (first :: more ++ rest) = true := by
    simp [List.isPrefixOf_iff_prefix]
  rw [List.cons_append] at found ⊢
  rw [removeFirst, if_pos found, ← List.cons_append, List.drop_left]

theorem mem_removeFirst {pattern text : Text} {c : Char} (h : c ∈ removeFirst pattern text) :
    c ∈ text := by
  induction text with
  | nil => exact h
  | cons first rest ih =>
    rw [removeFirst] at h
    split at h
    · exact List.mem_of_mem_drop h
    · rcases List.mem_cons.mp h with same | later
      · rw [same]
        exact List.mem_cons_self
      · exact List.mem_cons_of_mem _ (ih later)

/-- Behind a host no scheme begins, and none that has begun in it goes on. -/
structure NoScheme (rest : Text) : Prop where
  ends : ∀ c, rest.head? = some c → nameChar c = false
  none : ¬ "://".toList <+: rest

theorem scheme_letters (secure : Bool) :
    ∃ letters, scheme secure = letters ++ "://".toList ∧ ∀ c ∈ letters, nameChar c = true := by
  cases secure with
  | true => exact ⟨"https".toList, by decide, by decide⟩
  | false => exact ⟨"http".toList, by decide, by decide⟩

theorem dropWhile_names {names rest : Text} (plain : ∀ c ∈ names, nameChar c = true)
    (ends : ∀ c, rest.head? = some c → nameChar c = false) :
    (names ++ rest).dropWhile nameChar = rest := by
  rw [List.dropWhile_append_of_pos plain]
  cases rest with
  | nil => rfl
  | cons c more => rw [List.dropWhile_cons_of_neg (by simp [ends c rfl])]

theorem not_scheme_prefix (secure : Bool) {names rest : Text}
    (plain : ∀ c ∈ names, nameChar c = true) (noScheme : NoScheme rest) :
    ¬ scheme secure <+: names ++ rest := by
  rintro ⟨more, same⟩
  obtain ⟨letters, split, letterPlain⟩ := scheme_letters secure
  rw [split, List.append_assoc] at same
  have behind : "://".toList ++ more = rest := by
    rw [← dropWhile_names plain noScheme.ends, ← same,
      dropWhile_names letterPlain (by simp [nameChar])]
  exact noScheme.none ⟨more, behind⟩

theorem removeFirst_names (secure : Bool) {names rest : Text}
    (plain : ∀ c ∈ names, nameChar c = true) (noScheme : NoScheme rest) :
    removeFirst (scheme secure) (names ++ rest) = names ++ removeFirst (scheme secure) rest := by
  induction names with
  | nil => rfl
  | cons c names ih =>
    have absent : (scheme secure).isPrefixOf (c :: names ++ rest) = false := by
      rw [Bool.eq_false_iff, ne_eq, List.isPrefixOf_iff_prefix]
      exact not_scheme_prefix secure plain noScheme
    rw [List.cons_append] at absent ⊢
    rw [removeFirst, absent, if_neg (by simp), ih fun d hd => plain d (List.mem_cons_of_mem _ hd)]
    rfl

theorem schemeAndPortRemoved_scheme (secure : Bool) {names rest : Text}
    (plain : ∀ c ∈ names, nameChar c = true) (noScheme : NoScheme rest) :
    schemeAndPortRemoved (scheme secure ++ (names ++ rest)) =
      names ++ (removeFirst (scheme (!secure)) rest).takeWhile (· ≠ ':') := by
  have name : ∀ c ∈ names, decide (c ≠ ':') = true := by
    intro c hc
    rw [decide_eq_true_eq]
    intro colon
    have h := plain c hc
    rw [colon] at h
    cases h
  have cleared : removeFirst "https://".toList
      (removeFirst "http://".toList (scheme secure ++ (names ++ rest))) =
        names ++ removeFirst (scheme (!secure)) rest := by
    cases secure with
    | false =>
      have removed := removeFirst_prefix 'h' "ttp://".toList (names ++ rest)
      have other := removeFirst_names true plain noScheme
      exact (congrArg (removeFirst _) removed).trans other
    | true =>
      have kept : removeFirst "http://".toList ("https://".toList ++ (names ++ rest)) =
          "https://".toList ++ removeFirst "http://".toList (names ++ rest) := by
        simp [removeFirst]
      have removed := removeFirst_prefix 'h' "ttps://".toList
        (removeFirst "http://".toList (names ++ rest))
      have other := removeFirst_names false plain noScheme
      exact (congrArg (removeFirst _) kept).trans (removed.trans other)
  rw [schemeAndPortRemoved, cleared, List.takeWhile_append_of_pos name]

theorem Address.noScheme (a : Address) : NoScheme a.behindHost := by
  unfold Address.behindHost
  have tailMark : ∀ c, a.tail.head? = some c → nameChar c = false ∧ c ≠ ':' := by
    intro c h
    have mark := a.tailMarked c h
    simp only [List.mem_cons, List.not_mem_nil, or_false] at mark
    rcases mark with rfl | rfl | rfl
    · decide
    · decide
    · decide
  split
  next digits port =>
    obtain ⟨nonempty, digit⟩ := a.portDigits digits port
    constructor
    · intro c h
      cases h
      decide
    · rintro ⟨more, same⟩
      cases digits with
      | nil => exact nonempty rfl
      | cons d digits =>
        have letters : ':' :: '/' :: '/' :: more = ':' :: d :: (digits ++ a.tail) := same
        have slash : some '/' = some d := congrArg (·[1]?) letters
        have isDigit := digit d List.mem_cons_self
        rw [← Option.some.inj slash] at isDigit
        cases isDigit
  · constructor
    · intro c h
      exact (tailMark c h).1
    · rintro ⟨more, same⟩
      exact (tailMark ':' (by rw [← same]; rfl)).2 rfl

/-- What the sed program leaves of an address. -/
theorem Address.removed (a : Address) :
    ∃ more, schemeAndPortRemoved a.text = a.host ++ more ∧
      ((more = [] ∧ a.Cut) ∨
        (¬ a.Cut ∧ ∃ mark rest, more = mark :: rest ∧ mark ∈ ['/', '?', '#'])) ∧
      '\n' ∉ more := by
  rw [Address.text, schemeAndPortRemoved_scheme a.secure a.hostPlain a.noScheme]
  refine ⟨_, rfl, ?_, ?_⟩
  · unfold Address.behindHost Address.Cut
    cases port : a.port with
    | some digits =>
      left
      have kept : removeFirst (scheme (!a.secure)) (':' :: digits ++ a.tail) =
          ':' :: removeFirst (scheme (!a.secure)) (digits ++ a.tail) := by
        exact removeFirst_scheme _ (by decide) _
      simp only [kept]
      simp
    | none =>
      cases tail : a.tail with
      | nil =>
        left
        simp [removeFirst]
      | cons mark rest =>
        right
        have marks := a.tailMarked mark (by rw [tail]; rfl)
        have kept : removeFirst (scheme (!a.secure)) (mark :: rest) =
            mark :: removeFirst (scheme (!a.secure)) rest := by
          apply removeFirst_scheme
          intro same
          rw [same] at marks
          revert marks
          decide
        have differs : mark ≠ ':' := by
          intro same
          rw [same] at marks
          revert marks
          decide
        simp only [kept]
        refine ⟨by simp, mark, _, List.takeWhile_cons_of_pos (by simpa using differs), marks⟩
  · intro newline
    have inside := mem_removeFirst ((List.takeWhile_prefix _).subset newline)
    unfold Address.behindHost at inside
    split at inside
    next digits port =>
      rcases List.mem_cons.mp inside with h | h
      · revert h
        decide
      · rcases List.mem_append.mp h with h | h
        · have digit := (a.portDigits digits port).2 _ h
          revert digit
          decide
        · exact a.oneLine h
    · exact a.oneLine inside

theorem Address.oneLine_host (a : Address) : '\n' ∉ a.host := by
  intro h
  have plain := a.hostPlain _ h
  revert plain
  decide

theorem Address.oneLine_text (a : Address) : '\n' ∉ a.text := by
  have behind : '\n' ∉ a.behindHost := by
    unfold Address.behindHost
    split
    next digits port =>
      intro h
      rcases List.mem_append.mp h with h | h
      · rcases List.mem_cons.mp h with h | h
        · revert h
          decide
        · have digit := (a.portDigits digits port).2 _ h
          revert digit
          decide
      · exact a.oneLine h
    · exact a.oneLine
  have front : '\n' ∉ scheme a.secure := by
    cases a.secure
    · decide
    · decide
  unfold Address.text
  rw [List.mem_append, List.mem_append]
  exact fun h => h.elim front fun h => h.elim a.oneLine_host behind

theorem captured_of_not_mem {text : Text} (h : '\n' ∉ text) :
    captured (.ofList text) = .ofList text := by
  rw [captured_eq_iff, String.toList_ofList]
  intro last
  exact h (List.mem_of_getLast? last)

theorem Address.mqttsHost_text (a : Address) :
    mqttsHost (.ofList a.text) = .ofList (schemeAndPortRemoved a.text) := by
  obtain ⟨more, removed, -, oneLine⟩ := a.removed
  rw [mqttsHost, String.toList_ofList, List.splitOn_eq_singleton a.oneLine_text]
  simp only [List.map_cons, List.map_nil, List.intercalate_singleton]
  rw [removed]
  apply captured_of_not_mem
  rw [List.mem_append]
  exact fun h => h.elim a.oneLine_host oneLine

/-! ## The law -/

/-- Null and the empty text are nothing to install. -/
def given : Option String → Option String
  | some text => if text = "" then none else some text
  | none => none

/-- The host in the URL; of another text, what the sed program leaves. -/
def IsHost (url host : String) : Prop :=
  (∃ a : Address, url = .ofList a.text ∧ host = .ofList a.host) ∨
    (∀ a : Address, url ≠ .ofList a.text) ∧ host = mqttsHost (captured url)

def tlsLines : String :=
  "\nRABBITMQ_TLS_CERT=/home/step/mqtt-bridge/client.crt" ++
    "\nRABBITMQ_TLS_KEY=/home/step/mqtt-bridge/client.key" ++
    "\nRABBITMQ_TLS_CA=/home/step/mqtt-bridge/ca.crt\n"

def rabbitmqEnv (host vhost user : String) : String :=
  "RABBITMQ_MQTTS_URL=mqtts://" ++ host ++ ":8883\nRABBITMQ_VHOST=" ++ vhost ++
    "\nRABBITMQ_USER=" ++ user ++ tlsLines

/-- The tenant's Keycloak issues a token to the script. -/
def Grants (keycloak : TenantKeycloak) : Prop :=
  keycloak.internalUrl ≠ "" ∧ ∃ reply token, keycloak.tokenReply = some reply ∧
    reply.get "access_token" (.str "") = .ok (.str token) ∧ captured token ≠ ""

/-- The files hold the fields of the bundle, or what they held before. -/
structure Installed (body : JoinHandshakeResponse) (generated : Generated)
    (before after : Volume) : Prop where
  intermediateCert : after.intermediateCert =
    (given (some body.signedCert)).or before.intermediateCert
  rootCert : after.rootCert = (given (some body.rootCaCert)).or before.rootCert
  mqttClientCert : after.mqttClientCert = (given body.mqttBridgeCert).or before.mqttClientCert
  mqttClientKey : after.mqttClientKey =
    if (given body.mqttBridgeCert).isSome then some generated.mqttKey else before.mqttClientKey
  mqttCa : after.mqttCa =
    if (given body.mqttBridgeCert).isSome then (given (some body.rootCaCert)).or before.mqttCa
    else before.mqttCa
  envKept : given body.rabbitmqUrl = none → after.rabbitmqEnv = before.rabbitmqEnv
  envWritten : ∀ url host, given body.rabbitmqUrl = some url → IsHost url host →
    after.rabbitmqEnv =
      some (rabbitmqEnv host (body.rabbitmqVhost.getD "") (body.rabbitmqUser.getD ""))

/-- The provider is registered with the client of the bundle, if there is one. -/
structure Registered (body : JoinHandshakeResponse) (keycloak : TenantKeycloak)
    (requests : List IdpRequest) : Prop where
  spared : given body.cdmIdpClientId = none → requests = []
  performed : ∀ clientId, given body.cdmIdpClientId = some clientId → Grants keycloak →
    requests.map IdpRequest.body =
      [idpPayload clientId (body.cdmIdpClientSecret.getD "") (body.cdmDiscoveryUrl.getD "")]

/-- Whatever was there before, and whatever the tenant's Keycloak answers. -/
def InstallsBundle (py : PyText) (host : Host) (body : JoinHandshakeResponse) : Prop :=
  ∀ generated keycloak before,
    Installed body generated before (initSubCa py host generated (some (.joined body)) before) ∧
      Registered body keycloak (idpRequests py host keycloak (some (.joined body)))

/-! ## The condition -/

def EndsInNewline (text : String) : Prop := text.toList.getLast? = some '\n'

/-- A file is a line that `printf '%s\n'` writes. -/
def FileArrives (host : Host) (field : Option String) : Prop :=
  match given field with
  | none => field ≠ none ∨ host.python3 = false
  | some text => host.python3 = true ∧
      ∃ line, text = line ++ "\n" ∧ line ≠ "" ∧ ¬ EndsInNewline line

def ValueArrives (host : Host) (field : Option String) : Prop :=
  match field with
  | none => host.python3 = false
  | some text => text = "" ∨ host.python3 = true ∧ ¬ EndsInNewline text

/-- No field is null, files end in one newline and values in none, and a host is
at the end of its URL or has a port. Without `python3` there is nothing to install. -/
structure Arrives (host : Host) (body : JoinHandshakeResponse) : Prop where
  signedCert : FileArrives host (some body.signedCert)
  rootCaCert : FileArrives host (some body.rootCaCert)
  mqttBridgeCert : FileArrives host body.mqttBridgeCert
  noBroker : given body.rabbitmqUrl = none → body.rabbitmqUrl ≠ none ∨ host.python3 = false
  broker : ∀ url, given body.rabbitmqUrl = some url → host.python3 = true ∧
    (∃ c ∈ url.toList, c ≠ '\n') ∧ (∀ a : Address, url = .ofList a.text → a.Cut) ∧
    ValueArrives host body.rabbitmqVhost ∧ ValueArrives host body.rabbitmqUser
  noClient : given body.cdmIdpClientId = none → body.cdmIdpClientId ≠ none ∨ host.python3 = false
  client : ∀ clientId, given body.cdmIdpClientId = some clientId → host.python3 = true ∧
    ¬ EndsInNewline clientId ∧ ValueArrives host body.cdmIdpClientSecret ∧
    ValueArrives host body.cdmDiscoveryUrl

/-! ## What `_jq` prints of a field -/

def shown (host : Host) (field : Option String) : String :=
  if host.python3 then captured (field.getD "None") else ""

theorem jq_field {py : PyText} {host : Host} {bundle : Json} {key : String}
    {field : Option String} (h : bundle.get key (.str "") = .ok (.ofOption field)) :
    jq py host (some bundle) key = shown host field := by
  unfold jq shown
  cases host.python3 with
  | false => rfl
  | true =>
    simp only [h, if_true]
    cases field with
    | none => exact captured_newline "None"
    | some text => exact captured_newline text

theorem given_eq_none {field : Option String} :
    given field = none ↔ field = none ∨ field = some "" := by
  cases field with
  | none => simp [given]
  | some text => simp [given]

theorem given_eq_some {field : Option String} {text : String} :
    given field = some text ↔ field = some text ∧ text ≠ "" := by
  cases field with
  | none => simp [given]
  | some other =>
    by_cases empty : other = ""
    · simp only [given, if_pos empty, reduceCtorEq, Option.some.injEq, false_iff, not_and, not_not]
      intro same
      rw [← same, empty]
    · simp only [given, if_neg empty, Option.some.injEq]
      constructor
      · intro same
        rw [← same]
        exact ⟨rfl, empty⟩
      · exact fun h => h.1

theorem shown_silent {host : Host} (h : host.python3 = false) (field : Option String) :
    shown host field = "" := by
  rw [shown, h]
  rfl

theorem shown_some {host : Host} (h : host.python3 = true) (text : String) :
    shown host (some text) = captured text := by
  rw [shown, h]
  rfl

theorem shown_none {host : Host} (h : host.python3 = true) : shown host none = "None" := by
  rw [shown, h]
  decide +kernel

theorem shown_empty (host : Host) : shown host (some "") = "" := by
  unfold shown
  split
  · decide +kernel
  · rfl

/-- A value without newlines at its end is printed as it is. -/
theorem shown_eq_of_arrives {host : Host} {field : Option String}
    (arrives : ValueArrives host field) : shown host field = field.getD "" := by
  cases field with
  | none => exact shown_silent arrives none
  | some text =>
    rcases arrives with rfl | ⟨python, ends⟩
    · exact shown_empty host
    · rw [shown_some python]
      exact (captured_eq_iff text).mpr ends

theorem shown_eq_iff {host : Host} {field : Option String} :
    shown host field = field.getD "" ↔ ValueArrives host field := by
  refine ⟨?_, shown_eq_of_arrives⟩
  intro same
  cases python : host.python3 with
  | false =>
    cases field with
    | none => exact python
    | some text =>
      rw [shown_silent python] at same
      exact Or.inl same.symm
  | true =>
    cases field with
    | none =>
      rw [shown_none python] at same
      exact absurd same (by decide)
    | some text =>
      rw [shown_some python] at same
      exact Or.inr ⟨python, (captured_eq_iff text).mp same⟩

/-- A field that is null is printed all the same. -/
theorem shown_nothing_iff {host : Host} {field : Option String} (nothing : given field = none) :
    shown host field = "" ↔ field ≠ none ∨ host.python3 = false := by
  rcases given_eq_none.mp nothing with rfl | rfl
  · cases python : host.python3 with
    | false => simp [shown_silent python]
    | true => simp [shown_none python]
  · simp [shown_empty]

theorem captured_ne_iff (text : String) :
    captured text ≠ "" ↔ ∃ c ∈ text.toList, c ≠ '\n' := by
  have empty : captured text = "" ↔ text.toList.rdropWhile (· == '\n') = [] := by
    rw [captured, String.ofList_eq_empty_iff]
  rw [ne_eq, empty, List.rdropWhile_eq_nil_iff]
  simp

theorem captured_line (text : String) : captured text ≠ "" ∧ captured text ++ "\n" = text ↔
    ∃ line, text = line ++ "\n" ∧ line ≠ "" ∧ ¬ EndsInNewline line := by
  constructor
  · intro h
    refine ⟨captured text, h.2.symm, h.1, ?_⟩
    have again : captured (captured text) = captured text := by
      simp [captured, List.rdropWhile_idempotent]
    exact (captured_eq_iff _).mp again
  · rintro ⟨line, rfl, nonempty, ends⟩
    rw [captured_newline, (captured_eq_iff line).mpr ends]
    exact ⟨nonempty, rfl⟩

/-- A file that is written if something is printed. -/
def fileAfter (host : Host) (field before : Option String) : Option String :=
  if shown host field ≠ "" then printed (shown host field) else before

theorem file_iff (host : Host) (field : Option String) :
    (∀ before, fileAfter host field before = (given field).or before) ↔
      FileArrives host field := by
  unfold fileAfter
  cases python : host.python3 with
  | false =>
    simp only [shown_silent python, FileArrives, python]
    cases h : given field with
    | none => simp
    | some text =>
      simp only [ne_eq, not_true_eq_false, if_false, Option.some_or, Bool.false_eq_true,
        false_and, iff_false]
      intro all
      cases all none
  | true =>
    cases field with
    | none =>
      simp only [shown_none python, FileArrives, given, python]
      simp only [ne_eq, not_true_eq_false, Bool.true_eq_false, or_self, iff_false]
      intro all
      cases all none
    | some text =>
      by_cases empty : text = ""
      · rw [empty, shown_empty]
        simp [FileArrives, given]
      · have hgiven : given (some text) = some text := given_eq_some.mpr ⟨rfl, empty⟩
        rw [FileArrives, hgiven, shown_some python]
        simp only [python, true_and, ← captured_line text, Option.some_or, printed]
        constructor
        · intro all
          have written := all none
          split at written
          next nonempty => exact ⟨nonempty, Option.some.inj written⟩
          · cases written
        · intro h before
          rw [if_pos h.1, h.2]

/-- A file arrives exactly where it is written if there is something to install. -/
theorem shown_ne_iff {host : Host} {field : Option String} (arrives : FileArrives host field) :
    shown host field ≠ "" ↔ (given field).isSome = true := by
  have kept := (file_iff host field).mpr arrives none
  rw [Option.or_none, fileAfter] at kept
  rw [← kept]
  split
  next h => simp [h, printed]
  next h => simpa using h

/-! ## The broker -/

theorem joined_chars (a h v u : String) {b c d : String} {b' c' d' : Text} (hb : b.toList = b')
    (hc : c.toList = c') (hd : d.toList = d') :
    (a ++ h ++ b ++ v ++ c ++ u ++ d).toList = a.toList ++ (h.toList ++ (b' ++
      (v.toList ++ (c' ++ (u.toList ++ d'))))) := by
  simp only [String.toList_append, List.append_assoc, hb, hc, hd]

/-- A value is followed by a line feed and the letter `R`. -/
theorem rabbitmqEnv_chars : ∃ vhostKey userKey rest : Text, ∀ host vhost user : String,
    (rabbitmqEnv host vhost user).toList =
      "RABBITMQ_MQTTS_URL=mqtts://".toList ++ (host.toList ++ (':' :: vhostKey ++
        (vhost.toList ++ ('\n' :: 'R' :: userKey ++ (user.toList ++ '\n' :: 'R' :: rest))))) := by
  obtain ⟨vhostKey, hvhost⟩ : ∃ key, ":8883\nRABBITMQ_VHOST=".toList = ':' :: key :=
    ⟨"8883\nRABBITMQ_VHOST=".toList, by decide +kernel⟩
  obtain ⟨userKey, huser⟩ : ∃ key, "\nRABBITMQ_USER=".toList = '\n' :: 'R' :: key :=
    ⟨"ABBITMQ_USER=".toList, by decide +kernel⟩
  obtain ⟨rest, htls⟩ : ∃ rest, tlsLines.toList = '\n' :: 'R' :: rest :=
    ⟨tlsLines.toList.drop 2, by decide +kernel⟩
  refine ⟨vhostKey, userKey, rest, ?_⟩
  intro host vhost user
  exact joined_chars _ host vhost user hvhost huser htls

theorem ends_split {text : String} (h : EndsInNewline text) :
    ∃ more, text.toList = (captured text).toList ++ '\n' :: more ∧ ∀ c ∈ more, c = '\n' := by
  have whole : text.toList.rdropWhile (· == '\n') ++ text.toList.rtakeWhile (· == '\n') =
      text.toList := List.rdropWhile_append_rtakeWhile
  have newlines : ∀ c ∈ text.toList.rtakeWhile (· == '\n'), c = '\n' := by
    intro c hc
    simpa using List.mem_rtakeWhile_imp hc
  rw [captured, String.toList_ofList]
  cases run : text.toList.rtakeWhile (· == '\n') with
  | nil =>
    exfalso
    rw [run, List.append_nil] at whole
    have kept : captured text = text := by rw [captured, whole, String.ofList_toList]
    exact (captured_eq_iff text).mp kept h
  | cons c more =>
    rw [run] at whole newlines
    have first := newlines c List.mem_cons_self
    rw [first] at whole
    exact ⟨more, whole.symm, fun d hd => newlines d (List.mem_cons_of_mem c hd)⟩

theorem values_eq_of_chars {host : Host} (python : host.python3 = true) {field : Option String}
    {rest rest' : Text} (same : (shown host field).toList ++ '\n' :: 'R' :: rest =
      (field.getD "").toList ++ '\n' :: 'R' :: rest') : ValueArrives host field ∧ rest = rest' := by
  cases field with
  | none =>
    rw [shown_none python] at same
    have first : some 'N' = some '\n' := congrArg List.head? same
    cases first
  | some text =>
    by_cases ends : EndsInNewline text
    · exfalso
      rw [shown_some python, Option.getD_some] at same
      obtain ⟨more, split, newlines⟩ := ends_split ends
      rw [split, List.append_assoc, List.append_cancel_left_eq] at same
      have second : some 'R' = (more ++ '\n' :: 'R' :: rest').head? := by
        rw [List.head?_eq_getElem?]
        exact congrArg (·[1]?) same
      cases more with
      | nil => cases second
      | cons c more =>
        rw [newlines c List.mem_cons_self] at second
        cases second
    · have arrives : ValueArrives host (some text) := Or.inr ⟨python, ends⟩
      rw [shown_eq_of_arrives arrives, List.append_cancel_left_eq] at same
      exact ⟨arrives, by simpa using same⟩

theorem isHost_exists (url : String) : ∃ host, IsHost url host := by
  by_cases named : ∃ a : Address, url = .ofList a.text
  · obtain ⟨a, h⟩ := named
    exact ⟨_, Or.inl ⟨a, h, rfl⟩⟩
  · refine ⟨_, Or.inr ⟨fun a h => named ⟨a, h⟩, rfl⟩⟩

/-- What the script finds is the host followed by what it has not cut off. -/
theorem Address.found (a : Address) :
    ∃ more, (mqttsHost (captured (.ofList a.text))).toList = a.host ++ more ∧
      ((more = [] ∧ a.Cut) ∨
        (¬ a.Cut ∧ ∃ mark rest, more = mark :: rest ∧ mark ∈ ['/', '?', '#'])) := by
  obtain ⟨more, removed, cases, -⟩ := a.removed
  refine ⟨more, ?_, cases⟩
  rw [captured_of_not_mem a.oneLine_text, a.mqttsHost_text, removed, String.toList_ofList]

/-- The lines are those of the bundle if and only if the host is cut off rightly,
and both values arrive. -/
theorem lines_iff {host : Host} (python : host.python3 = true) (url : String)
    (vhost user : Option String) :
    (∀ name, IsHost url name →
      rabbitmqEnv (mqttsHost (captured url)) (shown host vhost) (shown host user) =
        rabbitmqEnv name (vhost.getD "") (user.getD "")) ↔
      (∀ a : Address, url = .ofList a.text → a.Cut) ∧ ValueArrives host vhost ∧
        ValueArrives host user := by
  obtain ⟨vhostKey, userKey, rest, chars⟩ := rabbitmqEnv_chars
  have values : ∀ {name : String}, mqttsHost (captured url) = name →
      rabbitmqEnv (mqttsHost (captured url)) (shown host vhost) (shown host user) =
        rabbitmqEnv name (vhost.getD "") (user.getD "") →
      ValueArrives host vhost ∧ ValueArrives host user := by
    intro name found same
    have letters := congrArg String.toList same
    rw [chars, chars, found] at letters
    simp only [List.append_cancel_left_eq] at letters
    obtain ⟨first, behind⟩ := values_eq_of_chars python letters
    exact ⟨first, (values_eq_of_chars python (List.append_cancel_left behind)).1⟩
  constructor
  · intro all
    have cut : ∀ a : Address, url = .ofList a.text →
        a.Cut ∧ mqttsHost (captured url) = .ofList a.host := by
      intro a h
      obtain ⟨more, found, ⟨rfl, cut⟩ | ⟨-, mark, tail, rfl, marks⟩⟩ := a.found
      · rw [← h, List.append_nil] at found
        exact ⟨cut, String.toList_inj.mp (by rw [found, String.toList_ofList])⟩
      · exfalso
        have letters := congrArg String.toList (all _ (Or.inl ⟨a, h, rfl⟩))
        rw [chars, chars, h, found, List.append_cancel_left_eq, String.toList_ofList,
          List.append_assoc] at letters
        have letters := List.append_cancel_left letters
        have colon : mark = ':' := Option.some.inj (congrArg List.head? letters)
        rw [colon] at marks
        revert marks
        decide
    refine ⟨fun a h => (cut a h).1, ?_⟩
    obtain ⟨name, isHost⟩ := isHost_exists url
    have found : mqttsHost (captured url) = name := by
      rcases isHost with ⟨a, h, rfl⟩ | ⟨-, rfl⟩
      · exact (cut a h).2
      · rfl
    exact values found (all name isHost)
  · rintro ⟨cut, vhostArrives, userArrives⟩ name isHost
    rw [shown_eq_of_arrives vhostArrives, shown_eq_of_arrives userArrives]
    rcases isHost with ⟨a, h, rfl⟩ | ⟨-, rfl⟩
    · obtain ⟨more, found, ⟨rfl, -⟩ | ⟨uncut, -⟩⟩ := a.found
      · rw [← h, List.append_nil] at found
        have same : mqttsHost (captured url) = .ofList a.host :=
          String.toList_inj.mp (by rw [found, String.toList_ofList])
        rw [same]
      · exact absurd (cut a h) uncut
    · rfl

/-! ## The volume and the requests -/

section Task

variable (py : PyText) (host : Host) (body : JoinHandshakeResponse)

def envAfter (before : Option String) : Option String :=
  if shown host body.rabbitmqUrl ≠ "" then
    some (rabbitmqEnv (mqttsHost (shown host body.rabbitmqUrl)) (shown host body.rabbitmqVhost)
      (shown host body.rabbitmqUser))
  else before

theorem installCertificates_joined (before : Volume) :
    installCertificates py host (some (bundleJson body)) before =
      { before with
        intermediateCert := fileAfter host (some body.signedCert) before.intermediateCert
        rootCert := fileAfter host (some body.rootCaCert) before.rootCert } := by
  have signedCert : jq py host (some (bundleJson body)) "signed_cert" =
    shown host (some body.signedCert) := jq_field rfl
  have rootCaCert : jq py host (some (bundleJson body)) "root_ca_cert" =
    shown host (some body.rootCaCert) := jq_field rfl
  rw [installCertificates, signedCert, rootCaCert]
  rfl

def mqttAfter (generated : Generated) (before : Volume) : Volume :=
  { before with
    mqttClientCert := fileAfter host body.mqttBridgeCert before.mqttClientCert
    mqttClientKey :=
      if shown host body.mqttBridgeCert ≠ "" then some generated.mqttKey
      else before.mqttClientKey
    mqttCa :=
      if shown host body.mqttBridgeCert ≠ "" then
        fileAfter host (some body.rootCaCert) before.mqttCa
      else before.mqttCa }

theorem installMqtt_joined (generated : Generated) (before : Volume) :
    installMqtt py host generated (some (bundleJson body)) before =
      mqttAfter host body generated before := by
  have rootCaCert : jq py host (some (bundleJson body)) "root_ca_cert" =
    shown host (some body.rootCaCert) := jq_field rfl
  have mqttBridgeCert : jq py host (some (bundleJson body)) "mqtt_bridge_cert" =
    shown host body.mqttBridgeCert := jq_field rfl
  rw [installMqtt, rootCaCert, mqttBridgeCert]
  unfold mqttAfter
  by_cases silent : shown host body.mqttBridgeCert = ""
  · simp [silent, fileAfter]
  · simp [silent, fileAfter]

theorem lines_assoc (a h b v c u d dir e f g : String) :
    a ++ h ++ b ++ v ++ c ++ u ++ d ++ dir ++ e ++ dir ++ f ++ dir ++ g =
      a ++ h ++ b ++ v ++ c ++ u ++ (d ++ dir ++ e ++ dir ++ f ++ dir ++ g) := by
  simp only [String.append_assoc]

theorem tls_lines : "\nRABBITMQ_TLS_CERT=" ++ "/home/step/mqtt-bridge" ++
    "/client.crt\nRABBITMQ_TLS_KEY=" ++ "/home/step/mqtt-bridge" ++
    "/client.key\nRABBITMQ_TLS_CA=" ++ "/home/step/mqtt-bridge" ++ "/ca.crt\n" = tlsLines := by
  decide +kernel

theorem env_lines (h v u : String) :
    "RABBITMQ_MQTTS_URL=mqtts://" ++ h ++ ":8883\nRABBITMQ_VHOST=" ++ v ++ "\nRABBITMQ_USER=" ++
      u ++ "\nRABBITMQ_TLS_CERT=" ++ "/home/step/mqtt-bridge" ++
      "/client.crt\nRABBITMQ_TLS_KEY=" ++ "/home/step/mqtt-bridge" ++
      "/client.key\nRABBITMQ_TLS_CA=" ++ "/home/step/mqtt-bridge" ++ "/ca.crt\n" =
      rabbitmqEnv h v u :=
  (lines_assoc _ h _ v _ u _ _ _ _ _).trans (congrArg _ tls_lines)

theorem writeRabbitmqEnv_joined (before : Volume) :
    writeRabbitmqEnv py host (some (bundleJson body)) before =
      { before with rabbitmqEnv := envAfter host body before.rabbitmqEnv } := by
  have rabbitmqUrl : jq py host (some (bundleJson body)) "rabbitmq_url" =
    shown host body.rabbitmqUrl := jq_field rfl
  have rabbitmqVhost : jq py host (some (bundleJson body)) "rabbitmq_vhost" =
    shown host body.rabbitmqVhost := jq_field rfl
  have rabbitmqUser : jq py host (some (bundleJson body)) "rabbitmq_user" =
    shown host body.rabbitmqUser := jq_field rfl
  simp only [writeRabbitmqEnv, rabbitmqUrl, rabbitmqVhost, rabbitmqUser, env_lines, envAfter]
  split
  · rfl
  · rfl

theorem registerIdp_joined (keycloak : TenantKeycloak) :
    (registerIdp py host keycloak (some (bundleJson body))).map IdpRequest.body =
      if shown host body.cdmIdpClientId ≠ "" ∧ keycloak.internalUrl ≠ "" ∧
          jq py host keycloak.tokenReply "access_token" ≠ "" then
        [idpPayload (shown host body.cdmIdpClientId) (shown host body.cdmIdpClientSecret)
          (shown host body.cdmDiscoveryUrl)]
      else [] := by
  have clientId : jq py host (some (bundleJson body)) "cdm_idp_client_id" =
    shown host body.cdmIdpClientId := jq_field rfl
  have clientSecret : jq py host (some (bundleJson body)) "cdm_idp_client_secret" =
    shown host body.cdmIdpClientSecret := jq_field rfl
  have discoveryUrl : jq py host (some (bundleJson body)) "cdm_discovery_url" =
    shown host body.cdmDiscoveryUrl := jq_field rfl
  simp only [registerIdp, clientId, clientSecret, discoveryUrl]
  by_cases token : jq py host keycloak.tokenReply "access_token" = ""
  · simp [token]
  · by_cases client : shown host body.cdmIdpClientId ≠ "" ∧ keycloak.internalUrl ≠ ""
    · simp [token, client]
    · simp only [if_neg client, List.map_nil]
      rw [if_neg]
      exact fun h => client ⟨h.1, h.2.1⟩

variable {host}

theorem initSubCa_joined (joins : host.providerUrl ≠ "" ∧ host.joinKey ≠ "")
    (generated : Generated) (before : Volume) :
    ∃ caKey federation, initSubCa py host generated (some (.joined body)) before =
      { mqttAfter host body generated before with
        intermediateCert := fileAfter host (some body.signedCert) before.intermediateCert
        rootCert := fileAfter host (some body.rootCaCert) before.rootCert
        caKey := caKey
        rabbitmqEnv := envAfter host body before.rabbitmqEnv
        keycloakFederationEnv := federation } := by
  have answered : ¬ (curl (some (.joined body))).httpCode ≠ "200" := by simp [curl]
  rw [initSubCa, if_pos joins, if_neg answered]
  simp only [curl, installBundle, installCertificates_joined, installKey, installMqtt_joined,
    writeRabbitmqEnv_joined, writeFederationEnv]
  exact ⟨_, _, rfl⟩

/-- The files of the certificates, and the lines for the broker. -/
theorem installed_iff (joins : host.providerUrl ≠ "" ∧ host.joinKey ≠ "") :
    (∀ generated before, Installed body generated before
      (initSubCa py host generated (some (.joined body)) before)) ↔
      FileArrives host (some body.signedCert) ∧ FileArrives host (some body.rootCaCert) ∧
        FileArrives host body.mqttBridgeCert ∧
        ∀ before, (given body.rabbitmqUrl = none → envAfter host body before = before) ∧
          ∀ url name, given body.rabbitmqUrl = some url → IsHost url name →
            envAfter host body before = some (rabbitmqEnv name (body.rabbitmqVhost.getD "")
              (body.rabbitmqUser.getD "")) := by
  constructor
  · intro all
    have after : ∀ before, ∃ v, Installed body ⟨"", "", "", ""⟩ before v ∧
        v.intermediateCert = fileAfter host (some body.signedCert) before.intermediateCert ∧
        v.rootCert = fileAfter host (some body.rootCaCert) before.rootCert ∧
        v.mqttClientCert = fileAfter host body.mqttBridgeCert before.mqttClientCert ∧
        v.rabbitmqEnv = envAfter host body before.rabbitmqEnv := by
      intro before
      have installed := all ⟨"", "", "", ""⟩ before
      obtain ⟨caKey, federation, same⟩ := initSubCa_joined py body joins ⟨"", "", "", ""⟩ before
      rw [same] at installed
      exact ⟨_, installed, rfl, rfl, rfl, rfl⟩
    refine ⟨(file_iff _ _).mp ?_, (file_iff _ _).mp ?_, (file_iff _ _).mp ?_, ?_⟩
    · intro b
      obtain ⟨v, installed, file, -⟩ := after { intermediateCert := b }
      exact file.symm.trans installed.intermediateCert
    · intro b
      obtain ⟨v, installed, -, file, -⟩ := after { rootCert := b }
      exact file.symm.trans installed.rootCert
    · intro b
      obtain ⟨v, installed, -, -, file, -⟩ := after { mqttClientCert := b }
      exact file.symm.trans installed.mqttClientCert
    · intro b
      obtain ⟨v, installed, -, -, -, env⟩ := after { rabbitmqEnv := b }
      constructor
      · intro none
        exact env.symm.trans (installed.envKept none)
      · intro url name hgiven isHost
        exact env.symm.trans (installed.envWritten url name hgiven isHost)
  · rintro ⟨signedCert, rootCaCert, mqttBridgeCert, env⟩ generated before
    obtain ⟨caKey, federation, same⟩ := initSubCa_joined py body joins generated before
    rw [same]
    have printed := shown_ne_iff mqttBridgeCert
    constructor
    · exact (file_iff _ _).mpr signedCert _
    · exact (file_iff _ _).mpr rootCaCert _
    · exact (file_iff _ _).mpr mqttBridgeCert _
    · simp only [mqttAfter, printed]
    · simp only [mqttAfter, printed, (file_iff _ _).mpr rootCaCert]
    · exact (env _).1
    · exact (env _).2

/-- The lines for the broker are written exactly if there is a broker. -/
theorem env_iff :
    (∀ before, (given body.rabbitmqUrl = none → envAfter host body before = before) ∧
      ∀ url name, given body.rabbitmqUrl = some url → IsHost url name →
        envAfter host body before = some (rabbitmqEnv name (body.rabbitmqVhost.getD "")
          (body.rabbitmqUser.getD ""))) ↔
      (given body.rabbitmqUrl = none → body.rabbitmqUrl ≠ none ∨ host.python3 = false) ∧
      ∀ url, given body.rabbitmqUrl = some url → host.python3 = true ∧
        (∃ c ∈ url.toList, c ≠ '\n') ∧ (∀ a : Address, url = .ofList a.text → a.Cut) ∧
        ValueArrives host body.rabbitmqVhost ∧ ValueArrives host body.rabbitmqUser := by
  have written : shown host body.rabbitmqUrl ≠ "" → ∀ before, envAfter host body before =
      some (rabbitmqEnv (mqttsHost (shown host body.rabbitmqUrl)) (shown host body.rabbitmqVhost)
        (shown host body.rabbitmqUser)) := fun printed _ => if_pos printed
  have kept : shown host body.rabbitmqUrl = "" → ∀ before, envAfter host body before = before :=
    fun silent _ => if_neg (not_not.mpr silent)
  constructor
  · intro all
    constructor
    · intro nothing
      by_contra printed
      have printed := mt (shown_nothing_iff nothing).mp printed
      have none := (all none).1 nothing
      rw [written printed] at none
      cases none
    · intro url hgiven
      obtain ⟨field, -⟩ := given_eq_some.mp hgiven
      have printed : shown host body.rabbitmqUrl ≠ "" := by
        intro silent
        obtain ⟨name, isHost⟩ := isHost_exists url
        have some := (all none).2 url name hgiven isHost
        rw [kept silent] at some
        cases some
      have python : host.python3 = true := by
        by_contra absent
        exact printed (shown_silent (Bool.not_eq_true _ ▸ absent) _)
      have url_shown : shown host body.rabbitmqUrl = captured url := by
        rw [field, shown_some python]
      refine ⟨python, (captured_ne_iff url).mp (url_shown ▸ printed), ?_⟩
      rw [← lines_iff python]
      intro name isHost
      have lines := (all none).2 url name hgiven isHost
      rw [written printed, url_shown] at lines
      exact Option.some.inj lines
  · rintro ⟨noBroker, broker⟩ before
    constructor
    · intro nothing
      exact kept ((shown_nothing_iff nothing).mpr (noBroker nothing)) before
    · intro url name hgiven isHost
      obtain ⟨python, nonempty, arrives⟩ := broker url hgiven
      obtain ⟨field, -⟩ := given_eq_some.mp hgiven
      have url_shown : shown host body.rabbitmqUrl = captured url := by
        rw [field, shown_some python]
      have printed : shown host body.rabbitmqUrl ≠ "" := by
        rw [url_shown]
        exact (captured_ne_iff url).mpr nonempty
      rw [written printed, url_shown]
      exact congrArg some ((lines_iff python url _ _).mpr arrives name isHost)

theorem token_of_grants (python : host.python3 = true) {keycloak : TenantKeycloak}
    (grants : Grants keycloak) : keycloak.internalUrl ≠ "" ∧
      jq py host keycloak.tokenReply "access_token" ≠ "" := by
  obtain ⟨url, reply, token, answered, member, nonempty⟩ := grants
  have printed : jq py host (some reply) "access_token" = shown host (some token) :=
    jq_field member
  rw [answered, printed, shown_some python]
  exact ⟨url, nonempty⟩

def granting : TenantKeycloak :=
  { tenantId := "acme", tokenReply := some (.obj [("access_token", .str "t")]) }

theorem granting_grants : Grants granting :=
  ⟨by decide, _, "t", rfl, rfl, by decide +kernel⟩

/-- The request is made, with the client of the bundle, exactly if there is one. -/
theorem client_iff :
    (∀ keycloak, Registered body keycloak
      (registerIdp py host keycloak (some (bundleJson body)))) ↔
      (given body.cdmIdpClientId = none → body.cdmIdpClientId ≠ none ∨ host.python3 = false) ∧
      ∀ clientId, given body.cdmIdpClientId = some clientId → host.python3 = true ∧
        ¬ EndsInNewline clientId ∧ ValueArrives host body.cdmIdpClientSecret ∧
        ValueArrives host body.cdmDiscoveryUrl := by
  have bodies := registerIdp_joined py host body
  constructor
  · intro all
    have sample := all granting
    constructor
    · intro nothing
      by_contra printed
      have python : host.python3 = true := by simpa using (not_or.mp printed).2
      have printed := mt (shown_nothing_iff nothing).mp printed
      have request := bodies granting
      rw [sample.spared nothing, if_pos ⟨printed, token_of_grants py python granting_grants⟩]
        at request
      cases request
    · intro clientId hgiven
      obtain ⟨field, nonempty⟩ := given_eq_some.mp hgiven
      have request := bodies granting
      rw [sample.performed clientId hgiven granting_grants] at request
      split at request
      next printed =>
        have python : host.python3 = true := by
          by_contra absent
          exact printed.1 (shown_silent (Bool.not_eq_true _ ▸ absent) _)
        simp only [idpPayload, List.cons.injEq, Json.obj.injEq, Prod.mk.injEq, Json.str.injEq,
          true_and, and_true] at request
        obtain ⟨clientShown, secretShown, urlShown⟩ := request
        rw [field, shown_some python] at clientShown
        exact ⟨python, (captured_eq_iff clientId).mp clientShown.symm,
          shown_eq_iff.mp secretShown.symm, shown_eq_iff.mp urlShown.symm⟩
      · cases request
  · rintro ⟨noClient, client⟩ keycloak
    constructor
    · intro nothing
      have silent := (shown_nothing_iff nothing).mpr (noClient nothing)
      have request := bodies keycloak
      rw [if_neg fun h => h.1 silent] at request
      exact List.map_eq_nil_iff.mp request
    · intro clientId hgiven grants
      obtain ⟨python, ends, secret, url⟩ := client clientId hgiven
      obtain ⟨field, nonempty⟩ := given_eq_some.mp hgiven
      have clientShown : shown host body.cdmIdpClientId = clientId := by
        rw [field, shown_some python]
        exact (captured_eq_iff clientId).mpr ends
      rw [bodies, clientShown, shown_eq_of_arrives secret, shown_eq_of_arrives url,
        if_pos ⟨nonempty, token_of_grants py python grants⟩]

end Task

/-- The tenant installs what the bundle contains exactly if all of it arrives. -/
theorem installs_iff (py : PyText) (host : Host)
    (joins : host.providerUrl ≠ "" ∧ host.joinKey ≠ "") (body : JoinHandshakeResponse) :
    InstallsBundle py host body ↔ Arrives host body := by
  have requests : ∀ keycloak, idpRequests py host keycloak (some (.joined body)) =
      registerIdp py host keycloak (some (bundleJson body)) := by
    intro keycloak
    have answered : ¬ (curl (some (.joined body))).httpCode ≠ "200" := by simp [curl]
    rw [idpRequests, if_pos joins, if_neg answered]
    rfl
  constructor
  · intro installs
    obtain ⟨signedCert, rootCaCert, mqttBridgeCert, env⟩ := (installed_iff py body joins).mp
      fun generated before => (installs generated granting before).1
    obtain ⟨noBroker, broker⟩ := (env_iff body).mp env
    obtain ⟨noClient, client⟩ := (client_iff py body).mp fun keycloak =>
      requests keycloak ▸ (installs ⟨"", "", "", ""⟩ keycloak {}).2
    exact ⟨signedCert, rootCaCert, mqttBridgeCert, noBroker, broker, noClient, client⟩
  · intro arrives generated keycloak before
    constructor
    · exact (installed_iff py body joins).mpr ⟨arrives.signedCert, arrives.rootCaCert,
        arrives.mqttBridgeCert, (env_iff body).mpr ⟨arrives.noBroker, arrives.broker⟩⟩
        generated before
    · rw [requests]
      exact (client_iff py body).mpr ⟨arrives.noClient, arrives.client⟩ keycloak

/-! ## Two bundles -/

def joiningHost : Host := { providerUrl := "https://provider.example.com/api", joinKey := "K-1" }

theorem joiningHost_joins : joiningHost.providerUrl ≠ "" ∧ joiningHost.joinKey ≠ "" := by
  decide

def wholeBundle : JoinHandshakeResponse :=
  { tenantId := "acme", signedCert := "cert\n", rootCaCert := "root\n"
    rabbitmqUrl := some "http://rabbitmq:15672", rabbitmqVhost := some "acme"
    rabbitmqUser := some "acme-mqtt-bridge", mqttBridgeCert := some "bridge\n"
    cdmIdpClientId := some "cdm-acme", cdmIdpClientSecret := some "secret"
    cdmDiscoveryUrl := some "http://localhost:8888/auth/realms/cdm" }

theorem whole_host_cut (a : Address) (h : "http://rabbitmq:15672" = .ofList a.text) : a.Cut := by
  obtain ⟨more, found, ⟨-, cut⟩ | ⟨-, mark, rest, rfl, marks⟩⟩ := a.found
  · exact cut
  · exfalso
    have name : mqttsHost (captured "http://rabbitmq:15672") = "rabbitmq" := by decide +kernel
    rw [← h, name] at found
    have inside : mark ∈ "rabbitmq".toList := by
      rw [found]
      simp
    revert inside
    simp only [List.mem_cons, List.not_mem_nil, or_false] at marks
    rcases marks with rfl | rfl | rfl
    · decide
    · decide
    · decide

/-- A bundle without gaps is installed. -/
theorem whole_bundle_installed : InstallsBundle PyText.ascii joiningHost wholeBundle := by
  refine (installs_iff PyText.ascii joiningHost joiningHost_joins wholeBundle).mpr ?_
  constructor
  · exact ⟨rfl, "cert", rfl, by decide, by unfold EndsInNewline; decide⟩
  · exact ⟨rfl, "root", rfl, by decide, by unfold EndsInNewline; decide⟩
  · exact ⟨rfl, "bridge", rfl, by decide, by unfold EndsInNewline; decide⟩
  · intro nothing
    cases nothing
  · intro url hgiven
    obtain ⟨same, -⟩ := given_eq_some.mp hgiven
    cases same
    exact ⟨rfl, by decide, whole_host_cut, Or.inr ⟨rfl, by unfold EndsInNewline; decide⟩,
      Or.inr ⟨rfl, by unfold EndsInNewline; decide⟩⟩
  · intro nothing
    cases nothing
  · intro clientId hgiven
    obtain ⟨same, -⟩ := given_eq_some.mp hgiven
    cases same
    exact ⟨rfl, by unfold EndsInNewline; decide, Or.inr ⟨rfl, by unfold EndsInNewline; decide⟩,
      Or.inr ⟨rfl, by unfold EndsInNewline; decide⟩⟩

/-- step-ca lists no provisioner, and RabbitMQ and Keycloak cannot be reached. -/
def noSigners : Nat → HttpResult
  | 0 => noProvisioners
  | 2 => noProvisioners
  | _ => unreachable

def bridged : JoinHandshakePayload := { subCaCsr := "csr", wgPubkey := "", mqttBridgeCsr := "mqtt" }

def bridgeCert : Option Reply → Option (Option String)
  | some (.joined body) => some body.mqttBridgeCert
  | _ => none

/-- A handshake returns a bundle in which the certificate of the bridge is null,
and the script writes the file. -/
theorem null_installed : ∃ body,
    (served Env.counting noSigners oneKey ⟨holder, .joinHandshake bridged⟩).value =
      some (.joined body) ∧
    (initSubCa PyText.ascii joiningHost ⟨"", "", "", ""⟩ (some (.joined body)) {}).mqttClientCert =
      some "None\n" ∧
    ¬ InstallsBundle PyText.ascii joiningHost body := by
  have returned : bridgeCert (served Env.counting noSigners oneKey
      ⟨holder, .joinHandshake bridged⟩).value = some none := by decide +kernel
  unfold bridgeCert at returned
  split at returned
  next body hvalue =>
    have null : body.mqttBridgeCert = none := Option.some.inj returned
    refine ⟨body, hvalue, ?_, ?_⟩
    · obtain ⟨caKey, federation, same⟩ := initSubCa_joined PyText.ascii body joiningHost_joins
        ⟨"", "", "", ""⟩ {}
      rw [same]
      simp only [mqttAfter, null]
      decide +kernel
    · intro installs
      have files := (installed_iff PyText.ascii body joiningHost_joins).mp
        fun generated before => (installs generated granting before).1
      have arrives := files.2.2.1
      rw [null] at arrives
      rcases arrives with absent | silent
      · exact absent rfl
      · cases silent
  · cases returned

end CompleteDeviceManagement.Guarantees.BundleInstallation
