import CompleteDeviceManagement.Source.TerminalUrl

/-!
# Terminal URLs, there and back

The widget escapes the device id and the token; the proxy decodes the query but
not the path. So every token that is text comes back, and a device id comes back
exactly if there was nothing to escape in it and it is no dot segment.
-/

set_option autoImplicit false

namespace CompleteDeviceManagement.Guarantees.TerminalUrls
open CompleteDeviceManagement.Library CompleteDeviceManagement.Source.TerminalUrl
open CompleteDeviceManagement.Source.TerminalUpgrade (parseDeviceId)

section RoundTrip

variable (parser : UrlParser) (proxyHost proxyPort : String) (deviceId jwtToken : JsString)

/-- The widget makes a URL, the browser requests it, and the listener reads the
id and the token that it was made of. -/
def RoundTrips : Prop :=
  ∃ url device token parsed, terminalUrl proxyHost proxyPort deviceId jwtToken = some url ∧
    textOf deviceId = some device ∧ textOf jwtToken = some token ∧
    newUrl parser (.ofList (WebUrl.read url).target) = some parsed ∧
    parseDeviceId parsed.pathname = some (.ofList device) ∧
    parsed.param "token" = some (.ofList token)

/-- Both are text, nothing in the id is escaped, and it is no dot segment. -/
def Unescaped : Prop :=
  (∃ device, textOf deviceId = some device ∧ (∀ c ∈ device, unreserved c = true) ∧
    device ≠ ['.'] ∧ device ≠ ['.', '.']) ∧ (textOf jwtToken).isSome = true

end RoundTrip

/-! ## What a component is written with -/

def uriChar (c : Char) : Bool := unreserved c || c == '%'

theorem uriChar_ascii {c : Char} (h : uriChar c = true) : c.toNat < 128 := by
  simp only [uriChar, unreserved, Bool.or_eq_true, decide_eq_true_eq, beq_iff_eq] at h
  rcases h with (h | h) | h
  · have code : c.toNat = c.val.toNat := rfl
    have upper : 'Z'.val.toNat = 90 := rfl
    have lower : 'z'.val.toNat = 122 := rfl
    have digit : '9'.val.toNat = 57 := rfl
    have ranges : ((decide (c.val ≥ 'A'.val ∧ c.val ≤ 'Z'.val) ||
        c.val ≥ 'a'.val && c.val ≤ 'z'.val) || c.val ≥ '0'.val && c.val ≤ '9'.val) = true := h
    simp only [Bool.or_eq_true, Bool.and_eq_true, decide_eq_true_eq, UInt32.le_iff_toNat_le,
      ge_iff_le] at ranges
    omega
  · simp only [List.mem_cons, List.not_mem_nil, or_false] at h
    rcases h with h | h | h | h | h | h | h | h | h <;> rw [h] <;> decide
  · rw [h]
    decide

theorem uriChar_class {c : Char} (h : uriChar c = true) :
    WebUrl.plainChar c = true ∧ c ≠ '&' ∧ c ≠ '+' := by
  have table : ∀ n < 128, uriChar (Char.ofNat n) = true →
      WebUrl.plainChar (Char.ofNat n) = true ∧ Char.ofNat n ≠ '&' ∧ Char.ofNat n ≠ '+' := by
    decide +kernel
  have own := table c.toNat (uriChar_ascii h)
  rw [Char.ofNat_toNat] at own
  exact own h

theorem uriChar_encoded {cs : Url.Text} {c : Char} (h : c ∈ Url.escape unreserved cs) :
    uriChar c = true := by
  have digits : ∀ d < 16, uriChar (Url.hexDigit d) = true := by decide
  rcases Url.mem_escape h with kept | rfl | ⟨d, hd, rfl⟩
  · rw [uriChar, kept, Bool.true_or]
  · decide
  · exact digits d hd

theorem encoded_plain (cs : Url.Text) : WebUrl.Plain (Url.escape unreserved cs) :=
  fun _ h => (uriChar_class (uriChar_encoded h)).1

/-- The texts in ASCII that have these lower-case letters. -/
def spellings : Url.Text → List Url.Text
  | [] => [[]]
  | c :: rest => (spellings rest).flatMap fun more => [c :: more, c.toUpper :: more]

theorem mem_spellings {text lower : Url.Text} (ascii : ∀ c ∈ text, c.toNat < 128)
    (h : WebUrl.lowered text = lower) : text ∈ spellings lower := by
  have table : ∀ n < 128, Char.ofNat n = (Char.ofNat n).toLower ∨
      Char.ofNat n = (Char.ofNat n).toLower.toUpper := by
    decide +kernel
  induction text generalizing lower with
  | nil =>
    rw [← h]
    exact List.mem_singleton.mpr rfl
  | cons c text ih =>
    have rest := ih (fun d hd => ascii d (List.mem_cons_of_mem _ hd)) rfl
    have own := table c.toNat (ascii c List.mem_cons_self)
    rw [Char.ofNat_toNat] at own
    rw [← h]
    apply List.mem_flatMap.mpr
    refine ⟨text, rest, ?_⟩
    rcases own with own | own
    · rw [← own]
      exact List.mem_cons_self
    · rw [← own]
      exact List.mem_cons_of_mem _ List.mem_cons_self

/-- A component that reads as a dot segment was one. -/
theorem dots_of_encoded {cs : Url.Text} :
    (WebUrl.singleDot (Url.escape unreserved cs) = true → cs = ['.']) ∧
      (WebUrl.doubleDot (Url.escape unreserved cs) = true → cs = ['.', '.']) := by
  have ascii : ∀ c ∈ Url.escape unreserved cs, c.toNat < 128 :=
    fun _ h => uriChar_ascii (uriChar_encoded h)
  have bytes : Url.decoded (Url.escape unreserved cs) = Utf8.encode cs :=
    Url.decoded_escape (by decide) cs
  constructor
  · intro single
    have table : ∀ lower ∈ [".".toList, "%2e".toList], ∀ text ∈ spellings lower,
        Url.decoded text = Utf8.encode ['.'] := by
      decide +kernel
    have same := table _ (of_decide_eq_true single) _ (mem_spellings ascii rfl)
    exact Utf8.encode_injective (bytes.symm.trans same)
  · intro double
    have table : ∀ lower ∈ ["..".toList, ".%2e".toList, "%2e.".toList, "%2e%2e".toList],
        ∀ text ∈ spellings lower, Url.decoded text = Utf8.encode ['.', '.'] := by
      decide +kernel
    have same := table _ (of_decide_eq_true double) _ (mem_spellings ascii rfl)
    exact Utf8.encode_injective (bytes.symm.trans same)

/-! ## Through the browser and the proxy -/

/-- The path segments that are left of the path of a terminal. -/
def pathOf (component : Url.Text) : List Url.Text :=
  if WebUrl.doubleDot component then [[]]
  else if WebUrl.singleDot component then ["terminal".toList, []]
  else ["terminal".toList, component]

theorem climb_terminal {component : Url.Text} (plain : WebUrl.Plain component) :
    WebUrl.climb [] ["terminal".toList, component] = pathOf component := by
  have double : WebUrl.doubleDot "terminal".toList = false := by decide
  have single : WebUrl.singleDot "terminal".toList = false := by decide
  have written : Url.escape WebUrl.inPath "terminal".toList = "terminal".toList := by decide
  unfold pathOf
  rw [WebUrl.climb, double, single, if_neg Bool.false_ne_true, if_neg Bool.false_ne_true, written,
    WebUrl.climb, plain.written]
  split
  · rfl
  · split
    · rfl
    · rfl

theorem climb_pathOf {component : Url.Text} (plain : WebUrl.Plain component) :
    WebUrl.climb [] (pathOf component) = pathOf component := by
  unfold pathOf
  split
  · decide
  · split
    · decide
    next double single =>
      have again := climb_terminal plain
      rwa [pathOf, if_neg double, if_neg single] at again

theorem pathOf_plain {component : Url.Text} (plain : WebUrl.Plain component) :
    ∀ segment ∈ pathOf component, WebUrl.Plain segment := by
  have terminal : WebUrl.Plain "terminal".toList := by
    unfold WebUrl.Plain
    decide
  have empty : WebUrl.Plain [] := fun _ h => absurd h List.not_mem_nil
  unfold pathOf
  split
  · simpa using empty
  · split
    · simpa using ⟨terminal, empty⟩
    · simpa using ⟨terminal, plain⟩

/-- The query that both parsers write. -/
def queryOf (cs : Url.Text) : Url.Text :=
  "token=".toList ++ Url.escape (fun c => unreserved c && WebUrl.inQuery c) cs

theorem escape_query (cs : Url.Text) :
    Url.escape WebUrl.inQuery ("token=".toList ++ Url.escape unreserved cs) = queryOf cs := by
  have name : Url.escape WebUrl.inQuery "token=".toList = "token=".toList := by decide
  have split : Url.escape WebUrl.inQuery ("token=".toList ++ Url.escape unreserved cs) =
      Url.escape WebUrl.inQuery "token=".toList ++
        Url.escape WebUrl.inQuery (Url.escape unreserved cs) := List.flatMap_append
  rw [split, name, WebUrl.escape_inQuery, queryOf]

theorem queryChar {cs : Url.Text} {c : Char} (h : c ∈ queryOf cs) :
    (uriChar c = true ∨ c = '=') ∧ WebUrl.inQuery c = true := by
  have name : ∀ c ∈ "token=".toList, (uriChar c = true ∨ c = '=') ∧ WebUrl.inQuery c = true := by
    decide
  have digits : ∀ d < 16, uriChar (Url.hexDigit d) = true := by decide
  rcases List.mem_append.mp h with h | h
  · exact name c h
  · rcases Url.mem_escape h with kept | rfl | ⟨d, hd, rfl⟩
    · obtain ⟨own, written⟩ := Bool.and_eq_true_iff.mp kept
      exact ⟨.inl (by rw [uriChar, own, Bool.true_or]), written⟩
    · decide
    · exact ⟨.inl (digits d hd), WebUrl.inQuery_hexDigit d hd⟩

theorem queryChar_above {c : Char} (h : uriChar c = true ∨ c = '=') : 0x20 < c.toNat := by
  rcases h with h | rfl
  · exact WebUrl.plainChar_above (uriChar_class h).1
  · decide

theorem queryOf_above (cs : Url.Text) : ∀ c ∈ queryOf cs, 0x20 < c.toNat :=
  fun _ h => queryChar_above (queryChar h).1

theorem queryOf_no_hash (cs : Url.Text) : '#' ∉ queryOf cs :=
  fun h => absurd (queryChar h).2 (by decide)

theorem queryOf_written (cs : Url.Text) : Url.escape WebUrl.inQuery (queryOf cs) = queryOf cs :=
  (Url.escape_eq_self_iff WebUrl.inQuery _).mpr fun _ h => (queryChar h).2

/-- The query has one pair, and its value is the token. -/
theorem pairs_query (cs : Url.Text) :
    Url.pairs (queryOf cs) = [(Utf8.encode "token".toList, Utf8.encode cs)] := by
  have value : ∀ {mark : Char}, uriChar mark = false → mark ≠ '=' →
      mark ∉ Url.escape (fun c => unreserved c && WebUrl.inQuery c) cs := by
    intro mark hmark equals h
    rcases (queryChar (List.mem_append_right _ h)).1 with own | own
    · rw [hmark] at own
      cases own
    · exact equals own
  have fields : queryOf cs = Url.queryOf [("token".toList,
      Url.escape (fun c => unreserved c && WebUrl.inQuery c) cs)] := by
    simp [queryOf, Url.queryOf]
  have names : '=' ∉ "token".toList ∧ '&' ∉ "token".toList := by decide
  have plain : ∀ field ∈ [("token".toList,
      Url.escape (fun c => unreserved c && WebUrl.inQuery c) cs)],
      '=' ∉ field.1 ∧ '&' ∉ field.1 ∧ '&' ∉ field.2 := by
    intro field h
    rw [List.mem_singleton.mp h]
    exact ⟨names.1, names.2, value (by decide) (by decide)⟩
  have name : Url.decoded (Url.spaced "token".toList) = Utf8.encode "token".toList := by
    decide +kernel
  have token : Url.decoded (Url.escape (fun c => unreserved c && WebUrl.inQuery c) cs) =
      Utf8.encode cs := Url.decoded_escape (by decide) cs
  rw [fields, Url.pairs_queryOf plain, List.map_singleton, name,
    Url.spaced_of_not_mem (value (by decide) (by decide)), token]

theorem decode_encode (parser : UrlParser) (cs : Url.Text) :
    parser.decode (Utf8.encode cs) = .ofList cs := by
  rw [UrlParser.decode, Utf8.decode_encode, Option.getD_some]

/-- What the listener is given of the URL of a terminal. -/
theorem newUrl_target (parser : UrlParser) {component : Url.Text}
    (plain : WebUrl.Plain component) (token : Url.Text) :
    newUrl parser (.ofList (Url.joined (pathOf component) ++ '?' :: queryOf token)) =
      some ⟨.ofList (Url.joined (pathOf component)), [("token", .ofList token)]⟩ := by
  have path : ∃ first segments, pathOf component = first :: segments ∧
      (first ≠ [] ∨ segments = []) := by
    unfold pathOf
    split
    · exact ⟨[], [], rfl, .inr rfl⟩
    · split
      · exact ⟨_, _, rfl, .inl (by decide)⟩
      · exact ⟨_, _, rfl, .inl (by decide)⟩
  obtain ⟨first, segments, hpath, start⟩ := path
  have climbed := climb_pathOf plain
  have segmentsPlain := pathOf_plain plain
  rw [hpath] at climbed segmentsPlain
  have read := WebUrl.readAbsolute_joined segmentsPlain (queryOf_above token)
    (queryOf_no_hash token) start
  rw [climbed, queryOf_written] at read
  rw [newUrl, String.toList_ofList, hpath, read]
  simp only [WebUrl.Parsed.pathname, Option.getD_some, pairs_query, List.map_cons, List.map_nil,
    decode_encode, String.ofList_toList]

theorem parseDeviceId_pathOf {component : Url.Text} (plain : WebUrl.Plain component)
    (nonempty : component ≠ []) (single : WebUrl.singleDot component = false)
    (double : WebUrl.doubleDot component = false) :
    parseDeviceId (.ofList (Url.joined (pathOf component))) = some (.ofList component) := by
  have slash : '/' ∉ component := plain.not_mem (by decide)
  have terminal : '/' ∉ "terminal".toList := by decide
  have path : pathOf component = ["terminal".toList, component] := by
    rw [pathOf, double, single]
    rfl
  have chars : Url.joined ["terminal".toList, component] =
      [] ++ '/' :: ("terminal".toList ++ '/' :: component) := by
    simp [Url.joined]
  have pieces : (Url.joined ["terminal".toList, component]).splitOn '/' =
      [[], "terminal".toList, component] := by
    rw [chars, List.splitOn_append_cons_self_of_not_mem List.not_mem_nil,
      List.splitOn_append_cons_self_of_not_mem terminal, List.splitOn_eq_singleton slash]
  have parts : [[], "terminal".toList, component].filter (· ≠ []) =
      ["terminal".toList, component] := by
    simp [nonempty]
  rw [path, parseDeviceId, String.toList_ofList, pieces, parts]
  rfl

/-- A dot segment leaves no device id in the path. -/
theorem parseDeviceId_dots {component : Url.Text}
    (dots : WebUrl.singleDot component = true ∨ WebUrl.doubleDot component = true) :
    parseDeviceId (.ofList (Url.joined (pathOf component))) = none := by
  cases double : WebUrl.doubleDot component with
  | true =>
    rw [pathOf, double, if_pos rfl]
    decide +kernel
  | false =>
    have single : WebUrl.singleDot component = true := by
      rw [double] at dots
      exact dots.resolve_right Bool.false_ne_true
    rw [pathOf, double, single, if_neg Bool.false_ne_true, if_pos rfl]
    decide +kernel

/-- ws://<proxyHost>:<proxyPort> -/
def proxyOrigin (proxyHost proxyPort : String)
    (host : ∀ c ∈ proxyHost.toList ++ proxyPort.toList, Url.hostChar c = true) : Url.Origin where
  scheme := "ws".toList
  host := proxyHost.toList ++ ':' :: proxyPort.toList
  schemePlain := by decide
  hostPlain := by
    intro c h
    rcases List.mem_append.mp h with h | h
    · exact host c (List.mem_append_left _ h)
    · rcases List.mem_cons.mp h with rfl | h
      · decide
      · exact host c (List.mem_append_right _ h)

/-- The URL of a terminal as the proxy reads it. -/
theorem newUrl_terminal (parser : UrlParser) {proxyHost proxyPort : String}
    (host : ∀ c ∈ proxyHost.toList ++ proxyPort.toList, Url.hostChar c = true)
    {deviceId jwtToken : JsString} {device token : Url.Text}
    (hdevice : textOf deviceId = some device) (htoken : textOf jwtToken = some token) :
    ∃ url, terminalUrl proxyHost proxyPort deviceId jwtToken = some url ∧
      newUrl parser (.ofList (WebUrl.read url).target) =
        some ⟨.ofList (Url.joined (pathOf (Url.escape unreserved device))),
          [("token", .ofList token)]⟩ := by
  have terminal : WebUrl.Plain "terminal".toList := by
    unfold WebUrl.Plain
    decide
  have component := encoded_plain device
  have plain : ∀ segment ∈ ["terminal".toList, Url.escape unreserved device],
      WebUrl.Plain segment := by
    simpa using ⟨terminal, component⟩
  have written : ∀ c ∈ "token=".toList ++ Url.escape unreserved token,
      uriChar c = true ∨ c = '=' := by
    intro c h
    rcases List.mem_append.mp h with h | h
    · exact (queryChar (List.mem_append_left _ h : c ∈ queryOf token)).1
    · exact .inl (uriChar_encoded h)
  have read := WebUrl.read_below (proxyOrigin proxyHost proxyPort host) plain
    (fun c h => queryChar_above (written c h)) fun h => absurd (written _ h) (by decide)
  rw [climb_terminal component, escape_query] at read
  refine ⟨_, by
    rw [terminalUrl, encodeURIComponent, encodeURIComponent, hdevice, htoken]
    rfl, ?_⟩
  have url : "ws://".toList ++ (proxyHost.toList ++ ':' :: (proxyPort.toList ++
      ("/terminal/".toList ++ (Url.escape unreserved device ++
        ("?token=".toList ++ Url.escape unreserved token))))) =
      (proxyOrigin proxyHost proxyPort host).base.text.toList ++
        (Url.joined ["terminal".toList, Url.escape unreserved device] ++
          '?' :: ("token=".toList ++ Url.escape unreserved token)) := by
    rw [Url.Origin.chars]
    simp [proxyOrigin, Url.joined]
  rw [url, read]
  exact newUrl_target parser component token

theorem chars_ne_nil {us : List Nat} {cs : Url.Text} (h : JsonText.chars us = some cs)
    (nonempty : us ≠ []) : cs ≠ [] := by
  intro none
  rw [none] at h
  rw [JsonText.chars.eq_def] at h
  split at h
  · exact nonempty rfl
  · split at h
    · split at h
      · cases h
      · split at h
        · simp at h
        · cases h
    · split at h
      · cases h
      · simp at h

theorem escape_ne_nil {cs : Url.Text} (nonempty : cs ≠ []) : Url.escape unreserved cs ≠ [] := by
  intro none
  have long := Url.length_escape_le unreserved cs
  rw [none, List.length_nil, Nat.le_zero, List.length_eq_zero_iff] at long
  exact nonempty long

/-- Text comes back: the token always, the id as the component it was written as. -/
theorem read_back (parser : UrlParser) {proxyHost proxyPort : String}
    (host : ∀ c ∈ proxyHost.toList ++ proxyPort.toList, Url.hostChar c = true)
    {deviceId jwtToken : JsString} {device token : Url.Text} (nonempty : deviceId ≠ [])
    (hdevice : textOf deviceId = some device) (htoken : textOf jwtToken = some token) :
    ∃ url parsed, terminalUrl proxyHost proxyPort deviceId jwtToken = some url ∧
      newUrl parser (.ofList (WebUrl.read url).target) = some parsed ∧
      parsed.param "token" = some (.ofList token) ∧
      parseDeviceId parsed.pathname =
        if device = ['.'] ∨ device = ['.', '.'] then none
        else some (.ofList (Url.escape unreserved device)) := by
  obtain ⟨url, hurl, hparsed⟩ := newUrl_terminal parser host hdevice htoken
  refine ⟨url, _, hurl, hparsed, by simp [Source.TerminalUpgrade.Url.param], ?_⟩
  have something : Url.escape unreserved device ≠ [] := by
    apply escape_ne_nil
    exact chars_ne_nil hdevice (by simpa using nonempty)
  split
  next dots =>
    apply parseDeviceId_dots
    rcases dots with dot | dots
    · rw [dot]
      exact .inl (by decide)
    · rw [dots]
      exact .inr (by decide)
  next ordinary =>
    obtain ⟨single, double⟩ := @dots_of_encoded device
    apply parseDeviceId_pathOf (encoded_plain device) something
    · exact Bool.eq_false_iff.mpr fun h => ordinary (.inl (single h))
    · exact Bool.eq_false_iff.mpr fun h => ordinary (.inr (double h))

/-! ## Exactly when both come back -/

theorem round_trips_iff (parser : UrlParser) (proxyHost proxyPort : String)
    (host : ∀ c ∈ proxyHost.toList ++ proxyPort.toList, Url.hostChar c = true)
    (deviceId jwtToken : JsString) (nonempty : deviceId ≠ []) :
    RoundTrips parser proxyHost proxyPort deviceId jwtToken ↔ Unescaped deviceId jwtToken := by
  constructor
  · intro trips
    obtain ⟨url, device, token, parsed, hurl, hdevice, htoken, hparsed, hid, _⟩ := trips
    obtain ⟨url', parsed', hurl', hparsed', _, hid'⟩ :=
      read_back parser host nonempty hdevice htoken
    cases Option.some.inj (hurl.symm.trans hurl')
    cases Option.some.inj (hparsed.symm.trans hparsed')
    rw [hid] at hid'
    split at hid'
    · cases hid'
    next ordinary =>
      have same : device = Url.escape unreserved device :=
        String.ofList_injective (Option.some.inj hid')
      have kept := (Url.escape_eq_self_iff unreserved device).mp same.symm
      refine ⟨⟨device, hdevice, kept, ?_, ?_⟩, by rw [htoken]; rfl⟩
      · exact fun dot => ordinary (.inl dot)
      · exact fun dots => ordinary (.inr dots)
  · intro unescaped
    obtain ⟨⟨device, hdevice, kept, notDot, notDots⟩, text⟩ := unescaped
    obtain ⟨token, htoken⟩ := Option.isSome_iff_exists.mp text
    obtain ⟨url, parsed, hurl, hparsed, hparam, hid⟩ :=
      read_back parser host nonempty hdevice htoken
    have same := (Url.escape_eq_self_iff unreserved device).mpr kept
    have ordinary : ¬ (device = ['.'] ∨ device = ['.', '.']) := by
      intro dots
      rcases dots with dot | dots
      · exact notDot dot
      · exact notDots dots
    rw [if_neg ordinary, same] at hid
    exact ⟨url, device, token, parsed, hurl, hdevice, htoken, hparsed, hid, hparam⟩

/-- A parser that is asked for paths in UTF-8 only. -/
def pathParser : UrlParser where
  elsewhere := fun _ => none
  malformed := fun _ => []

/-- `dev-001` -/
def dev001 : JsString := [100, 101, 118, 45, 48, 48, 49]

/-- `line 1` -/
def line1 : JsString := [108, 105, 110, 101, 32, 49]

/-- `t` -/
def tokenT : JsString := [116]

theorem dev001_round_trips : RoundTrips pathParser "localhost" "8090" dev001 tokenT :=
  (round_trips_iff pathParser "localhost" "8090" (by decide) dev001 tokenT (by decide)).mpr
    ⟨⟨"dev-001".toList, by decide, by decide, by decide, by decide⟩, by decide⟩

/-- The id `line 1` arrives as `line%201`. -/
theorem line1_not_read_back :
    (∃ url parsed, terminalUrl "localhost" "8090" line1 tokenT = some url ∧
      newUrl pathParser (.ofList (WebUrl.read url).target) = some parsed ∧
      parseDeviceId parsed.pathname = some "line%201") ∧
    ¬ RoundTrips pathParser "localhost" "8090" line1 tokenT := by
  have host : ∀ c ∈ "localhost".toList ++ "8090".toList, Url.hostChar c = true := by decide
  have hdevice : textOf line1 = some "line 1".toList := by decide
  have htoken : textOf tokenT = some "t".toList := by decide
  obtain ⟨url, parsed, hurl, hparsed, _, hid⟩ :=
    read_back pathParser host (by decide) hdevice htoken
  have escaped : Url.escape unreserved "line 1".toList = "line%201".toList := by decide +kernel
  rw [if_neg (by decide), escaped] at hid
  refine ⟨⟨url, parsed, hurl, hparsed, hid⟩, ?_⟩
  intro trips
  obtain ⟨url', device, token, parsed', hurl', hdevice', _, hparsed', hid', _⟩ := trips
  cases Option.some.inj (hurl.symm.trans hurl')
  cases Option.some.inj (hparsed.symm.trans hparsed')
  cases Option.some.inj (hdevice.symm.trans hdevice')
  exact absurd (Option.some.inj (hid.symm.trans hid')) (by decide +kernel)

end CompleteDeviceManagement.Guarantees.TerminalUrls
