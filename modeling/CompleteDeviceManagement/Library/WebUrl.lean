import CompleteDeviceManagement.Library.Url

/-!
# URLs as a browser reads them

What the URL parser of browsers and of Node does behind the authority of a
`ws:` or `http:` URL: a backslash is a slash, dot segments are resolved, also
where they are written with escapes, and what may not stand in a path or a query
is escaped there. A request carries the path and the query so written, and the
server's parser reads them again.
-/

set_option autoImplicit false

namespace CompleteDeviceManagement.Library.WebUrl
open CompleteDeviceManagement.Library.Url (Text before behind joined escape)

/-- The path as written out, and the query. -/
structure Parsed where
  segments : List Text
  query : Option Text

def control (c : Char) : Bool := decide (c.toNat < 0x20) || decide (0x7E < c.toNat)

def inQuery (c : Char) : Bool := !(control c || c ∈ [' ', '"', '#', '<', '>', '\''])

def inPath (c : Char) : Bool :=
  !(control c || c ∈ [' ', '"', '#', '<', '>', '?', '^', '\x60', '\x7b', '\x7d'])

def lowered (segment : Text) : Text := segment.map Char.toLower

def singleDot (segment : Text) : Bool := lowered segment ∈ [".".toList, "%2e".toList]

def doubleDot (segment : Text) : Bool :=
  lowered segment ∈ ["..".toList, ".%2e".toList, "%2e.".toList, "%2e%2e".toList]

def isSlash (c : Char) : Bool := c == '/' || c == '\\'

/-- The segments so far are reversed; a dot segment at the end leaves an empty one. -/
def climb (out : List Text) : List Text → List Text
  | [] => out.reverse
  | segment :: rest =>
      if doubleDot segment then climb (if rest.isEmpty then [] :: out.tail else out.tail) rest
      else if singleDot segment then climb (if rest.isEmpty then [] :: out else out) rest
      else climb (escape inPath segment :: out) rest

/-- What stands behind the authority. -/
def readPath (text : Text) : Parsed where
  segments :=
    let path := before '?' (before '#' text)
    climb [] ((if (path.head?.map isSlash).getD false then path.tail else path).splitOnP isSlash)
  query := (behind '?' (before '#' text)).map (escape inQuery)

def Parsed.pathname (parsed : Parsed) : Text := joined parsed.segments

/-- The target of the request that the URL is fetched with. -/
def Parsed.target (parsed : Parsed) : Text :=
  parsed.pathname ++ (parsed.query.map fun query => '?' :: query).getD []

/-- Spaces and controls at the ends, and line breaks and tabs anywhere, are not read. -/
def cleaned (text : Text) : Text :=
  let blank := fun c : Char => decide (c.toNat ≤ 0x20)
  (((text.dropWhile blank).reverse.dropWhile blank).reverse).filter
    fun c => !(c ∈ ['\t', '\n', '\r'])

def endsAuthority (c : Char) : Bool := isSlash c || c == '?' || c == '#'

/-- A URL with a scheme and an authority. -/
def read (url : Text) : Parsed :=
  readPath ((Url.afterScheme (cleaned url)).dropWhile fun c => !endsAuthority c)

/-- A reference that has a path of its own, relative to an origin; no other one. -/
def readAbsolute (reference : Text) : Option Parsed :=
  match cleaned reference with
  | first :: rest =>
      if isSlash first && !(rest.head?.map isSlash).getD false then some (readPath (first :: rest))
      else none
  | [] => none

/-! ## Texts without a meaning in a path -/

/-- A character that a segment is written with as it is. -/
def plainChar (c : Char) : Bool := inPath c && !isSlash c

def Plain (text : Text) : Prop := ∀ c ∈ text, plainChar c = true

theorem plainChar_above {c : Char} (h : plainChar c = true) : 0x20 < c.toNat := by
  simp only [plainChar, inPath, control, Bool.and_eq_true, Bool.not_eq_true', Bool.or_eq_false_iff,
    decide_eq_false_iff_not] at h
  have space : c ≠ ' ' := fun heq => h.1.2 (by simp [heq])
  have code : c.toNat ≠ ' '.toNat := fun heq => space (Char.toNat_inj.mp heq)
  have value : ' '.toNat = 0x20 := rfl
  omega

theorem Plain.not_mem {text : Text} (plain : Plain text) {mark : Char}
    (hmark : plainChar mark = false) : mark ∉ text := by
  intro h
  have kept := plain mark h
  rw [hmark] at kept
  cases kept

theorem Plain.written {text : Text} (plain : Plain text) : escape inPath text = text := by
  apply (Url.escape_eq_self_iff inPath text).mpr
  intro c h
  exact (Bool.and_eq_true_iff.mp (plain c h)).1

/-- Nothing is cut off or left out of a text above the space. -/
theorem cleaned_of_above {text : Text} (above : ∀ c ∈ text, 0x20 < c.toNat) :
    cleaned text = text := by
  have front : ∀ cs : Text, (∀ c ∈ cs, 0x20 < c.toNat) →
      cs.dropWhile (fun c => decide (c.toNat ≤ 0x20)) = cs := by
    intro cs habove
    cases cs with
    | nil => rfl
    | cons c cs =>
      have hc := habove c List.mem_cons_self
      rw [List.dropWhile_cons_of_neg]
      simpa using hc
  have back : ∀ c ∈ text.reverse, 0x20 < c.toNat := by
    intro c h
    exact above c (List.mem_reverse.mp h)
  simp only [cleaned]
  rw [front text above, front _ back, List.reverse_reverse]
  apply List.filter_eq_self.mpr
  intro c h
  have hc := above c h
  have tab : '\t'.toNat = 9 := rfl
  have newline : '\n'.toNat = 10 := rfl
  have carriage : '\r'.toNat = 13 := rfl
  have ne : ∀ mark : Char, mark.toNat ≤ 0x20 → c ≠ mark := by
    intro mark hmark heq
    rw [heq] at hc
    omega
  have noTab := ne '\t' (by omega)
  have noNewline := ne '\n' (by omega)
  have noCarriage := ne '\r' (by omega)
  simp [noTab, noNewline, noCarriage]

theorem splitOnP_joined {first : Text} {segments : List Text} (hfirst : Plain first)
    (plain : ∀ segment ∈ segments, Plain segment) :
    (first ++ joined segments).splitOnP isSlash = first :: segments := by
  have noSlash : ∀ {text : Text}, Plain text → ∀ c ∈ text, isSlash c = false := by
    intro text htext c h
    simpa using (Bool.and_eq_true_iff.mp (htext c h)).2
  induction segments generalizing first with
  | nil =>
    rw [joined, List.flatMap_nil, List.append_nil]
    exact List.splitOnP_eq_singleton (noSlash hfirst)
  | cons segment segments ih =>
    have rest := ih (plain segment List.mem_cons_self)
      fun s hs => plain s (List.mem_cons_of_mem _ hs)
    have chars : first ++ joined (segment :: segments) =
        first ++ '/' :: (segment ++ joined segments) := by
      simp [joined]
    rw [chars, List.splitOnP_append_cons_of_forall_mem (noSlash hfirst) '/' (by decide), rest]

theorem not_mem_joined {segments : List Text} (plain : ∀ segment ∈ segments, Plain segment)
    {mark : Char} (hmark : plainChar mark = false) (slash : mark ≠ '/') :
    mark ∉ joined segments := by
  intro h
  obtain ⟨segment, hsegment, hc⟩ := List.mem_flatMap.mp h
  rcases List.mem_cons.mp hc with heq | hc
  · exact slash heq
  · exact (plain segment hsegment).not_mem hmark hc

/-- Plain segments are climbed as they are. -/
theorem readPath_joined {first : Text} {segments : List Text} {query : Text}
    (plain : ∀ segment ∈ first :: segments, Plain segment) (hash : '#' ∉ query) :
    readPath (joined (first :: segments) ++ '?' :: query) =
      ⟨climb [] (first :: segments), some (escape inQuery query)⟩ := by
  have noHash : '#' ∉ joined (first :: segments) ++ '?' :: query := by
    intro h
    rcases List.mem_append.mp h with h | h
    · exact not_mem_joined plain (by decide) (by decide) h
    · rcases List.mem_cons.mp h with h | h
      · exact absurd h (by decide)
      · exact hash h
  have noQuestion : '?' ∉ joined (first :: segments) :=
    not_mem_joined plain (by decide) (by decide)
  have front : joined (first :: segments) = '/' :: (first ++ joined segments) := by
    simp [joined]
  have split := splitOnP_joined (plain first List.mem_cons_self)
    fun s hs => plain s (List.mem_cons_of_mem _ hs)
  unfold readPath
  rw [Url.before_of_not_mem noHash, Url.before_front_mark noQuestion,
    Url.behind_front_mark noQuestion, front]
  have slash : isSlash '/' = true := by decide
  simp only [List.head?_cons, Option.map_some, Option.getD_some, List.tail_cons, slash, if_true,
    split]

/-- A segment that is no dot, however written. -/
structure Ordinary (segment : Text) : Prop where
  plain : Plain segment
  single : singleDot segment = false
  double : doubleDot segment = false

theorem climb_ordinary {segments : List Text} (ordinary : ∀ s ∈ segments, Ordinary s)
    (out : List Text) : climb out segments = out.reverse ++ segments := by
  induction segments generalizing out with
  | nil => rw [climb, List.append_nil]
  | cons segment segments ih =>
    obtain ⟨plain, single, double⟩ := ordinary segment List.mem_cons_self
    rw [climb, double, single, if_neg Bool.false_ne_true, if_neg Bool.false_ne_true, plain.written,
      ih fun s hs => ordinary s (List.mem_cons_of_mem _ hs)]
    simp

theorem target_above {segments : List Text} {query : Text}
    (plain : ∀ segment ∈ segments, Plain segment) (above : ∀ c ∈ query, 0x20 < c.toNat) :
    ∀ c ∈ joined segments ++ '?' :: query, 0x20 < c.toNat := by
  intro c h
  rcases List.mem_append.mp h with h | h
  · obtain ⟨segment, hsegment, hc⟩ := List.mem_flatMap.mp h
    rcases List.mem_cons.mp hc with rfl | hc
    · decide
    · exact plainChar_above (plain segment hsegment c hc)
  · rcases List.mem_cons.mp h with rfl | h
    · decide
    · exact above c h

/-- A URL below an origin, by its path and query. -/
theorem read_below (origin : Url.Origin) {first : Text} {segments : List Text} {query : Text}
    (plain : ∀ segment ∈ first :: segments, Plain segment)
    (above : ∀ c ∈ query, 0x20 < c.toNat) (hash : '#' ∉ query) :
    read (origin.base.text.toList ++ (joined (first :: segments) ++ '?' :: query)) =
      ⟨climb [] (first :: segments), some (escape inQuery query)⟩ := by
  have mark : ∀ c ∈ "://".toList, 0x20 < c.toNat := by decide
  have front : ∀ c ∈ origin.base.text.toList, 0x20 < c.toNat := by
    intro c h
    rw [origin.chars] at h
    rcases List.mem_append.mp h with h | h
    · rcases List.mem_append.mp h with h | h
      · apply Url.hostChar_above
        rw [Url.hostChar, origin.schemePlain c h, Bool.true_or]
      · exact mark c h
    · exact Url.hostChar_above (origin.hostPlain c h)
  have whole : ∀ c ∈ origin.base.text.toList ++ (joined (first :: segments) ++ '?' :: query),
      0x20 < c.toNat := by
    intro c h
    rcases List.mem_append.mp h with h | h
    · exact front c h
    · exact target_above plain above c h
  have host : ∀ c ∈ origin.host, (!endsAuthority c) = true := by
    intro c h
    have plainHost := origin.hostPlain c h
    have slash : c ≠ '/' := Url.hostChar_ne plainHost (by decide)
    have backslash : c ≠ '\\' := Url.hostChar_ne plainHost (by decide)
    have question : c ≠ '?' := Url.hostChar_ne plainHost (by decide)
    have number : c ≠ '#' := Url.hostChar_ne plainHost (by decide)
    simp [endsAuthority, isSlash, slash, backslash, question, number]
  have scheme : Url.afterScheme (origin.scheme ++ "://".toList ++
      (origin.host ++ (joined (first :: segments) ++ '?' :: query))) =
        origin.host ++ (joined (first :: segments) ++ '?' :: query) :=
    Url.afterScheme_append origin.base.schemePlain _
  have start : joined (first :: segments) ++ '?' :: query =
      '/' :: (first ++ joined segments ++ '?' :: query) := by
    simp [joined]
  rw [read, cleaned_of_above whole, origin.chars, List.append_assoc,
    scheme, List.dropWhile_append_of_pos host, start, List.dropWhile_cons_of_neg (by decide),
    ← start]
  exact readPath_joined plain hash

/-- A path read again where the origin is the base. -/
theorem readAbsolute_joined {first : Text} {segments : List Text} {query : Text}
    (plain : ∀ segment ∈ first :: segments, Plain segment)
    (above : ∀ c ∈ query, 0x20 < c.toNat) (hash : '#' ∉ query)
    (path : first ≠ [] ∨ segments = []) :
    readAbsolute (joined (first :: segments) ++ '?' :: query) =
      some ⟨climb [] (first :: segments), some (escape inQuery query)⟩ := by
  have start : joined (first :: segments) ++ '?' :: query =
      '/' :: (first ++ joined segments ++ '?' :: query) := by
    simp [joined]
  have second : ((first ++ joined segments ++ '?' :: query).head?.map isSlash).getD false =
      false := by
    cases first with
    | nil =>
      have none : segments = [] := path.resolve_left fun h => h rfl
      rw [none]
      rfl
    | cons c first =>
      have hc := plain (c :: first) List.mem_cons_self c List.mem_cons_self
      simpa using (Bool.and_eq_true_iff.mp hc).2
  have slash : isSlash '/' = true := by decide
  rw [readAbsolute, cleaned_of_above (target_above plain above), start]
  simp only [slash, second, Bool.not_false, Bool.and_self, if_true]
  rw [← start, readPath_joined plain hash]

theorem inQuery_hexDigit : ∀ d < 16, inQuery (Url.hexDigit d) = true := by
  decide

/-- What is escaped for a component and then for a query. -/
theorem escape_inQuery {keep : Char → Bool} (cs : Text) :
    escape inQuery (escape keep cs) = escape (fun c => keep c && inQuery c) cs := by
  induction cs with
  | nil => rfl
  | cons c cs ih =>
    have head : escape inQuery (Url.escapeChar keep c) =
        Url.escapeChar (fun c => keep c && inQuery c) c := by
      cases hkeep : keep c with
      | true => simp [escape, Url.escapeChar, hkeep]
      | false =>
        simp only [Url.escapeChar, hkeep, Bool.false_and, Bool.false_eq_true, if_false]
        apply (Url.escape_eq_self_iff inQuery _).mpr
        intro d h
        obtain ⟨b, _, hd⟩ := List.mem_flatMap.mp h
        rcases Url.mem_escapeByte hd with rfl | ⟨digit, hdigit, rfl⟩
        · decide
        · exact inQuery_hexDigit digit hdigit
    have split : escape inQuery (escape keep (c :: cs)) =
        escape inQuery (Url.escapeChar keep c) ++ escape inQuery (escape keep cs) := by
      simp only [escape, List.flatMap_cons, List.flatMap_append]
    rw [split, head, ih]
    rfl

end CompleteDeviceManagement.Library.WebUrl
