import CompleteDeviceManagement.Library.IpText
import CompleteDeviceManagement.Library.Utf8
import Mathlib.Data.List.TakeWhile

/-!
# Reading a URL

What a client makes of the text of a URL: the path goes up to the first `?` or
`#`, its segments `.` and `..` are resolved, and a server decodes a segment to
the bytes of a name. A segment decodes to the text it is written with if it has
no escape, and to a shorter one otherwise (`names_part`). A query is read as the
pairs of a form, where `+` is a space.
-/

set_option autoImplicit false

namespace CompleteDeviceManagement.Library.Url

abbrev Text := List Char

/-! ## The parts -/

/-- The segments of the path with the dots resolved, undecoded. -/
structure Reading where
  segments : List Text
  query : Option Text
  fragment : Option Text

/-- The text behind the first `://`. -/
def afterScheme : Text → Text
  | ':' :: '/' :: '/' :: rest => rest
  | _ :: rest => afterScheme rest
  | [] => []

def endsAuthority (c : Char) : Bool := c == '/' || c == '?' || c == '#'

def before (mark : Char) (cs : Text) : Text := cs.takeWhile fun c => decide (c ≠ mark)

def behind (mark : Char) (cs : Text) : Option Text :=
  if mark ∈ cs then some ((cs.dropWhile fun c => decide (c ≠ mark)).drop 1) else none

/-- Resolve the dots, with the segments so far reversed; above the top they are
dropped. -/
def resolve (out : List Text) : List Text → List Text
  | [] => out.reverse
  | segment :: rest =>
      if segment = ['.'] then resolve out rest
      else if segment = ['.', '.'] then resolve out.tail rest
      else resolve (segment :: out) rest

/-- What stands behind the authority. -/
def readLocal (text : Text) : Reading where
  segments := resolve [] ((before '?' (before '#' text)).splitOn '/').tail
  query := behind '?' (before '#' text)
  fragment := behind '#' text

def read (url : String) : Reading :=
  readLocal ((afterScheme url.toList).dropWhile fun c => !endsAuthority c)

/-- The part of a URL that a request carries. -/
def Reading.sent (reading : Reading) : List Text × Option Text :=
  (reading.segments, reading.query)

theorem before_of_not_mem {mark : Char} {text : Text} (plain : mark ∉ text) :
    before mark text = text := by
  apply List.takeWhile_eq_self_iff.mpr
  intro c hc
  have hne : c ≠ mark := fun h => plain (h ▸ hc)
  simpa using hne

theorem not_mem_before (mark : Char) (text : Text) : mark ∉ before mark text := by
  intro h
  simpa using List.mem_takeWhile_imp h

theorem before_sublist (mark : Char) (text : Text) : (before mark text).Sublist text :=
  List.takeWhile_sublist _

theorem behind_eq_none_iff {mark : Char} {text : Text} : behind mark text = none ↔ mark ∉ text := by
  unfold behind
  split <;> simp_all

/-- The pieces of a text are parts of it without the mark. -/
theorem mem_splitOn {mark : Char} {text piece : Text} (h : piece ∈ text.splitOn mark) :
    piece.Sublist text ∧ mark ∉ piece := by
  induction text generalizing piece with
  | nil =>
    rw [List.splitOn_nil, List.mem_singleton] at h
    subst h
    exact ⟨.slnil, by simp⟩
  | cons c rest ih =>
    rw [List.splitOn_cons_eq_if_modifyHead] at h
    split at h
    · rcases List.mem_cons.mp h with rfl | h
      · exact ⟨List.nil_sublist _, by simp⟩
      · exact ⟨(ih h).1.cons c, (ih h).2⟩
    next hc =>
      cases hpieces : rest.splitOn mark with
      | nil => exact absurd hpieces (List.splitOn_ne_nil mark rest)
      | cons first others =>
        rw [hpieces, List.modifyHead_cons, List.mem_cons] at h
        rcases h with rfl | h
        · have hfirst := ih (hpieces ▸ List.mem_cons_self)
          refine ⟨hfirst.1.cons_cons c, ?_⟩
          have hne : mark ≠ c := fun heq => hc (by simp [heq])
          simp [hne, hfirst.2]
        · have hothers := ih (hpieces ▸ List.mem_cons_of_mem _ h)
          exact ⟨hothers.1.cons c, hothers.2⟩

theorem mem_resolve {out pieces : List Text} {segment : Text} (h : segment ∈ resolve out pieces) :
    segment ∈ out ∨ segment ∈ pieces := by
  induction pieces generalizing out with
  | nil => exact .inl (List.mem_reverse.mp h)
  | cons piece pieces ih =>
    rw [resolve] at h
    split at h
    · rcases ih h with h | h
      · exact .inl h
      · exact .inr (List.mem_cons_of_mem _ h)
    · split at h
      · rcases ih h with h | h
        · exact .inl (List.mem_of_mem_tail h)
        · exact .inr (List.mem_cons_of_mem _ h)
      · rcases ih h with h | h
        · rcases List.mem_cons.mp h with rfl | h
          · exact .inr List.mem_cons_self
          · exact .inl h
        · exact .inr (List.mem_cons_of_mem _ h)

theorem length_resolve_le (out pieces : List Text) :
    (resolve out pieces).length ≤ out.length + pieces.length := by
  induction pieces generalizing out with
  | nil => simp [resolve]
  | cons piece pieces ih =>
    rw [resolve, List.length_cons]
    split
    · have h := ih out
      omega
    · split
      · have h := ih out.tail
        rw [List.length_tail] at h
        omega
      · have h := ih (piece :: out)
        rw [List.length_cons] at h
        omega

/-! ## Escapes -/

/-- The bytes of a segment; a `%` that opens no escape stands for itself. -/
def decoded : Text → List UInt8
  | '%' :: high :: low :: rest =>
      match IpText.digitValue 16 high, IpText.digitValue 16 low with
      | some h, some l => UInt8.ofNat (16 * h + l) :: decoded rest
      | _, _ => String.utf8EncodeChar '%' ++ decoded (high :: low :: rest)
  | c :: rest => String.utf8EncodeChar c ++ decoded rest
  | [] => []

/-- Some `%` is followed by two hexadecimal digits. -/
def escaped : Text → Bool
  | '%' :: high :: low :: rest =>
      ((IpText.digitValue 16 high).isSome && (IpText.digitValue 16 low).isSome) ||
        escaped (high :: low :: rest)
  | _ :: rest => escaped rest
  | [] => false

theorem decoded_plain {segment : Text} (plain : escaped segment = false) :
    decoded segment = Utf8.encode segment := by
  induction segment using decoded.induct with
  | case1 high low rest h l hh hl ih =>
    simp [escaped, hh, hl] at plain
  | case2 high low rest none ih =>
    simp only [escaped, Bool.or_eq_false_iff] at plain
    rw [decoded]
    split
    next h l hh hl => exact absurd hl (none h l hh)
    · rw [ih plain.2]
      rfl
  | case3 c rest other ih =>
    have hplain : escaped rest = false := by
      rw [escaped] at plain
      · exact plain
      · exact other
    rw [decoded, ih hplain]
    · rfl
    · exact other
  | case4 => rfl

theorem decoded_length (segment : Text) :
    (decoded segment).length + (if escaped segment then 1 else 0) ≤
      (Utf8.encode segment).length := by
  induction segment using decoded.induct with
  | case1 high low rest h l hh hl ih =>
    have digits : escaped ('%' :: high :: low :: rest) = true := by
      simp [escaped, hh, hl]
    have hhigh := Utf8.length_char_pos high
    have hlow := Utf8.length_char_pos low
    have hpercent := Utf8.length_char_pos '%'
    rw [decoded, hh, hl, if_pos digits]
    simp only [Utf8.encode_cons, List.length_append, List.length_cons]
    split at ih <;> omega
  | case2 high low rest none ih =>
    have digits : ((IpText.digitValue 16 high).isSome && (IpText.digitValue 16 low).isSome) =
        false := by
      cases hh : IpText.digitValue 16 high with
      | none => rfl
      | some h =>
        cases hl : IpText.digitValue 16 low with
        | none => rfl
        | some l => exact absurd hl (none h l hh)
    have hescaped : escaped ('%' :: high :: low :: rest) = escaped (high :: low :: rest) := by
      rw [escaped, digits, Bool.false_or]
    have hdecoded : decoded ('%' :: high :: low :: rest) =
        String.utf8EncodeChar '%' ++ decoded (high :: low :: rest) := by
      rw [decoded]
      split
      next h l hh hl => exact absurd hl (none h l hh)
      · rfl
    rw [hescaped, hdecoded, Utf8.encode_cons, List.length_append, List.length_append]
    omega
  | case3 c rest other ih =>
    have hescaped : escaped (c :: rest) = escaped rest := by
      rw [escaped]
      exact other
    have hdecoded : decoded (c :: rest) = String.utf8EncodeChar c ++ decoded rest := by
      rw [decoded]
      exact other
    rw [hescaped, hdecoded, Utf8.encode_cons, List.length_append, List.length_append]
    omega
  | case4 => simp [escaped, decoded]

/-- A segment names a text by the bytes it decodes to. -/
def Names (segment : Text) (name : String) : Prop := decoded segment = Utf8.encode name.toList

instance (segment : Text) (name : String) : Decidable (Names segment name) :=
  inferInstanceAs (Decidable (decoded segment = Utf8.encode name.toList))

theorem names_unique {segment : Text} {name other : String} (h : Names segment name)
    (h' : Names segment other) : name = other :=
  String.toList_inj.mp (Utf8.encode_injective (h.symm.trans h'))

theorem escaped_of_no_percent {segment : Text} (plain : '%' ∉ segment) :
    escaped segment = false := by
  induction segment with
  | nil => rfl
  | cons c rest ih =>
    have hc : c ≠ '%' := fun h => plain (h ▸ List.mem_cons_self)
    rw [escaped]
    · exact ih fun h => plain (List.mem_cons_of_mem _ h)
    · intro high low more hpercent _
      exact absurd hpercent hc

theorem names_plain {segment : Text} (plain : escaped segment = false) :
    Names segment (.ofList segment) := by
  unfold Names
  rw [String.toList_ofList]
  exact decoded_plain plain

theorem length_of_sublist {part whole : Text} (h : part.Sublist whole) :
    (Utf8.encode part).length + (whole.length - part.length) ≤ (Utf8.encode whole).length := by
  induction h with
  | slnil => simp
  | @cons part whole c h ih =>
    have hc := Utf8.length_char_pos c
    have hlength := h.length_le
    rw [Utf8.encode_cons, List.length_append, List.length_cons]
    omega
  | @cons_cons part whole c h ih =>
    rw [Utf8.encode_cons, Utf8.encode_cons, List.length_append, List.length_append,
      List.length_cons, List.length_cons]
    omega

/-- A part of a text names the text only if it is all of it and has no escape. -/
theorem names_part {segment : Text} {name : String} (h : Names segment name)
    (part : segment.Sublist name.toList) :
    segment = name.toList ∧ escaped segment = false := by
  have hdecoded := decoded_length segment
  have hlength := length_of_sublist part
  have hle := part.length_le
  rw [h] at hdecoded
  constructor
  · apply part.eq_of_length
    omega
  · cases hescaped : escaped segment with
    | false => rfl
    | true =>
      rw [hescaped, if_pos rfl] at hdecoded
      omega

/-- Neither empty nor a dot segment, and nothing in it that a URL gives a meaning. -/
def Literal (segment : Text) : Prop :=
  segment ≠ [] ∧ segment ≠ ['.'] ∧ segment ≠ ['.', '.'] ∧
    ∀ c ∈ segment, c ≠ '/' ∧ c ≠ '?' ∧ c ≠ '#' ∧ c ≠ '%'

instance (segment : Text) : Decidable (Literal segment) :=
  inferInstanceAs (Decidable (segment ≠ [] ∧ segment ≠ ['.'] ∧ segment ≠ ['.', '.'] ∧
    ∀ c ∈ segment, c ≠ '/' ∧ c ≠ '?' ∧ c ≠ '#' ∧ c ≠ '%'))

/-- A piece of a name, or a segment without a meaning, that names it is the name. -/
theorem segment_of_names {segment : Text} {name : String} (h : Names segment name)
    (origin : Literal segment ∨ segment.Sublist name.toList ∧ '/' ∉ segment) :
    segment = name.toList ∧ '/' ∉ name.toList ∧ escaped name.toList = false := by
  rcases origin with literal | ⟨part, noSlash⟩
  · have unescaped := escaped_of_no_percent fun percent => (literal.2.2.2 _ percent).2.2.2 rfl
    have own := names_unique h (names_plain unescaped)
    have noSlash : '/' ∉ segment := fun slash => (literal.2.2.2 _ slash).1 rfl
    rw [own, String.toList_ofList]
    exact ⟨rfl, noSlash, unescaped⟩
  · obtain ⟨same, unescaped⟩ := names_part h part
    rw [← same]
    exact ⟨rfl, noSlash, unescaped⟩

/-! ## Below a base -/

def joined (segments : List Text) : Text := segments.flatMap fun segment => '/' :: segment

/-- A URL that other URLs are written below. -/
structure Base where
  scheme : Text
  authority : Text
  segments : List Text
  schemePlain : ':' ∉ scheme
  authorityPlain : ∀ c ∈ authority, endsAuthority c = false
  literal : ∀ segment ∈ segments, Literal segment

theorem http_plain : ':' ∉ "http".toList := by
  decide

def Base.text (base : Base) : String :=
  .ofList (base.scheme ++ "://".toList ++ base.authority ++ joined base.segments)

theorem afterScheme_append {scheme : Text} (plain : ':' ∉ scheme) (rest : Text) :
    afterScheme (scheme ++ "://".toList ++ rest) = rest := by
  induction scheme with
  | nil => rfl
  | cons c scheme ih =>
    have hc : c ≠ ':' := fun h => plain (h ▸ List.mem_cons_self)
    have hrest : ':' ∉ scheme := fun h => plain (List.mem_cons_of_mem _ h)
    have step : afterScheme (c :: (scheme ++ "://".toList ++ rest)) =
        afterScheme (scheme ++ "://".toList ++ rest) := by
      rw [afterScheme]
      intro rest' heq
      exact absurd heq hc
    exact step.trans (ih hrest)

theorem dropWhile_authority {authority : Text} (plain : ∀ c ∈ authority, endsAuthority c = false)
    (rest : Text) :
    (authority ++ '/' :: rest).dropWhile (fun c => !endsAuthority c) = '/' :: rest := by
  rw [List.dropWhile_append_of_pos (by simpa using plain)]
  rfl

theorem not_mem_joined {segments : List Text} (literal : ∀ segment ∈ segments, Literal segment)
    {mark : Char} (hmark : mark = '?' ∨ mark = '#') : mark ∉ joined segments := by
  intro h
  obtain ⟨segment, hsegment, hc⟩ := List.mem_flatMap.mp h
  rcases List.mem_cons.mp hc with heq | hc
  · rcases hmark with rfl | rfl <;> cases heq
  · obtain ⟨_, question, hash, _⟩ := (literal segment hsegment).2.2.2 mark hc
    rcases hmark with rfl | rfl
    · exact question rfl
    · exact hash rfl

theorem before_append {mark : Char} {front : Text} (plain : mark ∉ front) (rest : Text) :
    before mark (front ++ rest) = front ++ before mark rest := by
  unfold before
  apply List.takeWhile_append_of_pos
  intro c hc
  have hne : c ≠ mark := fun h => plain (h ▸ hc)
  simpa using hne

theorem behind_append {mark : Char} {front : Text} (plain : mark ∉ front) (rest : Text) :
    behind mark (front ++ rest) = behind mark rest := by
  have hdrop : (front ++ rest).dropWhile (fun c => decide (c ≠ mark)) =
      rest.dropWhile fun c => decide (c ≠ mark) := by
    apply List.dropWhile_append_of_pos
    intro c hc
    have hne : c ≠ mark := fun h => plain (h ▸ hc)
    simpa using hne
  unfold behind
  simp only [List.mem_append, plain, false_or, hdrop]

theorem before_front_mark {mark : Char} {front : Text} (plain : mark ∉ front) (rest : Text) :
    before mark (front ++ mark :: rest) = front := by
  rw [before_append plain]
  simp [before]

theorem behind_front_mark {mark : Char} {front : Text} (plain : mark ∉ front) (rest : Text) :
    behind mark (front ++ mark :: rest) = some rest := by
  rw [behind_append plain]
  simp [behind]

/-- The first mark is in the front. -/
theorem before_of_mem {mark : Char} {front : Text} (cut : mark ∈ front) (rest : Text) :
    before mark (front ++ rest) = before mark front := by
  unfold before
  induction front with
  | nil => exact absurd cut List.not_mem_nil
  | cons c front ih =>
    by_cases hc : c = mark
    · simp [hc]
    · have inside : mark ∈ front := by
        rcases List.mem_cons.mp cut with h | h
        · exact absurd h.symm hc
        · exact h
      have tail := ih inside
      simp only [List.cons_append, List.takeWhile_cons, hc, ne_eq, not_false_eq_true,
        decide_true, if_true, tail]

theorem splitOn_joined {segments : List Text} (literal : ∀ segment ∈ segments, Literal segment)
    {first : Text} (hfirst : '/' ∉ first) (rest : Text) :
    (first ++ joined segments ++ '/' :: rest).splitOn '/' =
      first :: (segments ++ rest.splitOn '/') := by
  induction segments generalizing first with
  | nil =>
    rw [joined, List.flatMap_nil, List.append_nil,
      List.splitOn_append_cons_self_of_not_mem hfirst]
    rfl
  | cons segment segments ih =>
    have own : '/' ∉ segment := by
      intro h
      exact ((literal segment List.mem_cons_self).2.2.2 '/' h).1 rfl
    have others := ih (fun s hs => literal s (List.mem_cons_of_mem _ hs)) own
    have chars : first ++ joined (segment :: segments) ++ '/' :: rest =
        first ++ '/' :: (segment ++ joined segments ++ '/' :: rest) := by
      simp [joined]
    rw [chars, List.splitOn_append_cons_self_of_not_mem hfirst, others]
    rfl

theorem resolve_literal {segments : List Text} (literal : ∀ segment ∈ segments, Literal segment)
    (out rest : List Text) :
    resolve out (segments ++ rest) = resolve (segments.reverse ++ out) rest := by
  induction segments generalizing out with
  | nil => rfl
  | cons segment segments ih =>
    obtain ⟨_, dot, dots, _⟩ := literal segment List.mem_cons_self
    rw [List.cons_append, resolve, if_neg dot, if_neg dots,
      ih fun s hs => literal s (List.mem_cons_of_mem _ hs)]
    simp

/-- The reading of a text below a base, by the text. -/
theorem read_below (base : Base) {more : List Text} (literal : ∀ segment ∈ more, Literal segment)
    (tail : Text) :
    read (base.text ++ .ofList (joined more ++ '/' :: tail)) =
      { segments := resolve (base.segments ++ more).reverse
          ((before '?' (before '#' tail)).splitOn '/')
        query := behind '?' (before '#' tail)
        fragment := behind '#' tail } := by
  have all : ∀ segment ∈ base.segments ++ more, Literal segment := by
    intro segment h
    rcases List.mem_append.mp h with h | h
    · exact base.literal segment h
    · exact literal segment h
  have chars : (base.text ++ .ofList (joined more ++ '/' :: tail)).toList =
      base.scheme ++ "://".toList ++ (base.authority ++
        (joined (base.segments ++ more) ++ '/' :: tail)) := by
    simp [Base.text, joined]
  obtain ⟨rest, hrest⟩ : ∃ rest, joined (base.segments ++ more) ++ '/' :: tail = '/' :: rest := by
    cases base.segments ++ more with
    | nil => exact ⟨tail, rfl⟩
    | cons first others => exact ⟨_, rfl⟩
  have hlocal : (afterScheme (base.text ++ .ofList (joined more ++ '/' :: tail)).toList).dropWhile
      (fun c => !endsAuthority c) = joined (base.segments ++ more) ++ '/' :: tail := by
    rw [chars, afterScheme_append base.schemePlain, hrest,
      dropWhile_authority base.authorityPlain]
  have hash : '#' ∉ joined (base.segments ++ more) ++ ['/'] := by
    simpa using not_mem_joined all (.inr rfl)
  have question : '?' ∉ joined (base.segments ++ more) ++ ['/'] := by
    simpa using not_mem_joined all (.inl rfl)
  have assoc : ∀ text, joined (base.segments ++ more) ++ '/' :: text =
      joined (base.segments ++ more) ++ ['/'] ++ text := by
    intro text
    simp
  have hpath : before '?' (before '#' (joined (base.segments ++ more) ++ '/' :: tail)) =
      [] ++ joined (base.segments ++ more) ++ '/' :: before '?' (before '#' tail) := by
    rw [assoc, before_append hash, before_append question, List.nil_append, ← assoc]
  have hquery : behind '?' (before '#' (joined (base.segments ++ more) ++ '/' :: tail)) =
      behind '?' (before '#' tail) := by
    rw [assoc, before_append hash, behind_append question]
  have hfragment : behind '#' (joined (base.segments ++ more) ++ '/' :: tail) =
      behind '#' tail := by
    rw [assoc, behind_append hash]
  unfold read
  rw [hlocal]
  unfold readLocal
  rw [hpath, hquery, hfragment, splitOn_joined all (by simp), List.tail_cons,
    resolve_literal all, List.append_nil]

/-! ## Queries -/

/-- A `+` in a query is a space. -/
def spaced (text : Text) : Text := text.map fun c => if c = '+' then ' ' else c

/-- The bytes of a name and of its value; a piece without `=` is a name. -/
def pairOf (piece : Text) : List UInt8 × List UInt8 :=
  (decoded (spaced (before '=' piece)), decoded (spaced ((behind '=' piece).getD [])))

/-- The pairs of a query in order, its empty pieces left out. -/
def pairs (query : Text) : List (List UInt8 × List UInt8) :=
  ((query.splitOn '&').filter (· ≠ [])).map pairOf

def queryOf : List (Text × Text) → Text
  | [] => []
  | [field] => field.1 ++ '=' :: field.2
  | field :: rest => field.1 ++ '=' :: field.2 ++ '&' :: queryOf rest

theorem spaced_of_not_mem {text : Text} (plain : '+' ∉ text) : spaced text = text := by
  induction text with
  | nil => rfl
  | cons c rest ih =>
    have hc : c ≠ '+' := fun h => plain (h ▸ List.mem_cons_self)
    have hrest : '+' ∉ rest := fun h => plain (List.mem_cons_of_mem _ h)
    have tail : rest.map (fun c => if c = '+' then ' ' else c) = rest := ih hrest
    rw [spaced, List.map_cons, if_neg hc, tail]

theorem pairOf_field {name : Text} (plain : '=' ∉ name) (value : Text) :
    pairOf (name ++ '=' :: value) = (decoded (spaced name), decoded (spaced value)) := by
  rw [pairOf, before_front_mark plain, behind_front_mark plain, Option.getD_some]

theorem splitOn_queryOf {field : Text × Text} {fields : List (Text × Text)}
    (plain : ∀ f ∈ field :: fields, '&' ∉ f.1 ∧ '&' ∉ f.2) :
    (queryOf (field :: fields)).splitOn '&' =
      (field :: fields).map fun f => f.1 ++ '=' :: f.2 := by
  induction fields generalizing field with
  | nil =>
    have own := plain field List.mem_cons_self
    have whole : '&' ∉ field.1 ++ '=' :: field.2 := by
      simp [own.1, own.2]
    rw [queryOf, List.splitOn_eq_singleton whole]
    rfl
  | cons next fields ih =>
    have own := plain field List.mem_cons_self
    have whole : '&' ∉ field.1 ++ '=' :: field.2 := by
      simp [own.1, own.2]
    have chars : queryOf (field :: next :: fields) =
        (field.1 ++ '=' :: field.2) ++ '&' :: queryOf (next :: fields) := by
      simp [queryOf]
    rw [chars, List.splitOn_append_cons_self_of_not_mem whole,
      ih fun f h => plain f (List.mem_cons_of_mem _ h)]
    rfl

theorem pairs_queryOf {field : Text × Text} {fields : List (Text × Text)}
    (plain : ∀ f ∈ field :: fields, '=' ∉ f.1 ∧ '&' ∉ f.1 ∧ '&' ∉ f.2) :
    pairs (queryOf (field :: fields)) =
      (field :: fields).map fun f => (decoded (spaced f.1), decoded (spaced f.2)) := by
  have pieces := splitOn_queryOf fun f h => (plain f h).2
  have whole : ((field :: fields).map fun f => f.1 ++ '=' :: f.2).filter (· ≠ []) =
      (field :: fields).map fun f => f.1 ++ '=' :: f.2 := by
    apply List.filter_eq_self.mpr
    intro piece h
    obtain ⟨f, _, rfl⟩ := List.mem_map.mp h
    simp
  rw [pairs, pieces, whole, List.map_map]
  apply List.map_congr_left
  intro f h
  exact pairOf_field (plain f h).1 f.2

theorem mem_queryOf {fields : List (Text × Text)} {c : Char} (h : c ∈ queryOf fields) :
    c = '=' ∨ c = '&' ∨ ∃ field ∈ fields, c ∈ field.1 ∨ c ∈ field.2 := by
  induction fields using queryOf.induct with
  | case1 => exact absurd h List.not_mem_nil
  | case2 field =>
    rw [queryOf] at h
    simp only [List.mem_append, List.mem_cons] at h
    rcases h with h | h | h
    · exact .inr (.inr ⟨field, List.mem_cons_self, .inl h⟩)
    · exact .inl h
    · exact .inr (.inr ⟨field, List.mem_cons_self, .inr h⟩)
  | case3 field rest more ih =>
    rw [queryOf] at h
    · simp only [List.mem_append, List.mem_cons] at h
      rcases h with (h | h | h) | h | h
      · exact .inr (.inr ⟨field, List.mem_cons_self, .inl h⟩)
      · exact .inl h
      · exact .inr (.inr ⟨field, List.mem_cons_self, .inr h⟩)
      · exact .inr (.inl h)
      · rcases ih h with h | h | ⟨other, hother, h⟩
        · exact .inl h
        · exact .inr (.inl h)
        · exact .inr (.inr ⟨other, List.mem_cons_of_mem _ hother, h⟩)
    · exact more

/-- Nothing in it that a query gives a meaning. -/
def Value (text : Text) : Prop := ∀ c ∈ text, c ≠ '&' ∧ c ≠ '+' ∧ c ≠ '%' ∧ c ≠ '#'

theorem Value.decoded {text : Text} (value : Value text) :
    decoded (spaced text) = Utf8.encode text := by
  rw [spaced_of_not_mem fun h => (value _ h).2.1 rfl]
  exact decoded_plain (escaped_of_no_percent fun h => (value _ h).2.2.1 rfl)

theorem Value.append {front rest : Text} (hfront : Value front) (hrest : Value rest) :
    Value (front ++ rest) := by
  intro c h
  rcases List.mem_append.mp h with h | h
  · exact hfront c h
  · exact hrest c h

/-! ## Escaping -/

/-- A hexadecimal digit as encoders write it. -/
def hexDigit (d : Nat) : Char := d.digitChar.toUpper

def escapeByte (b : UInt8) : Text := ['%', hexDigit (b.toNat / 16), hexDigit (b.toNat % 16)]

/-- Every character that is not kept becomes the escapes of its bytes. -/
def escapeChar (keep : Char → Bool) (c : Char) : Text :=
  if keep c then [c] else (String.utf8EncodeChar c).flatMap escapeByte

def escape (keep : Char → Bool) (cs : Text) : Text := cs.flatMap (escapeChar keep)

theorem digitValue_hexDigit : ∀ d < 16, IpText.digitValue 16 (hexDigit d) = some d := by
  decide

theorem decoded_escapeByte (b : UInt8) (rest : Text) :
    decoded (escapeByte b ++ rest) = b :: decoded rest := by
  have hlt := b.toNat_lt
  have high := digitValue_hexDigit (b.toNat / 16) (by omega)
  have low := digitValue_hexDigit (b.toNat % 16) (by omega)
  have sum : 16 * (b.toNat / 16) + b.toNat % 16 = b.toNat := Nat.div_add_mod b.toNat 16
  simp only [escapeByte, List.cons_append, List.nil_append, decoded, high, low, sum,
    UInt8.ofNat_toNat]

theorem decoded_escapeBytes (bytes : List UInt8) (rest : Text) :
    decoded (bytes.flatMap escapeByte ++ rest) = bytes ++ decoded rest := by
  induction bytes with
  | nil => rfl
  | cons b bytes ih =>
    rw [List.flatMap_cons, List.append_assoc, decoded_escapeByte, ih, List.cons_append]

theorem decoded_cons {c : Char} (hc : c ≠ '%') (rest : Text) :
    decoded (c :: rest) = String.utf8EncodeChar c ++ decoded rest := by
  rw [decoded]
  intro _ _ _ h _
  exact hc h

/-- What is escaped with its `%` decodes to the text. -/
theorem decoded_escape {keep : Char → Bool} (percent : keep '%' = false) (cs : Text) :
    decoded (escape keep cs) = Utf8.encode cs := by
  induction cs with
  | nil => rfl
  | cons c cs ih =>
    have chars : escape keep (c :: cs) = escapeChar keep c ++ escape keep cs := List.flatMap_cons
    rw [chars, Utf8.encode_cons, ← ih, escapeChar]
    split
    next kept =>
      have hc : c ≠ '%' := by
        intro h
        rw [h, percent] at kept
        cases kept
      exact decoded_cons hc _
    · exact decoded_escapeBytes _ _

theorem mem_escapeByte {b : UInt8} {c : Char} (h : c ∈ escapeByte b) :
    c = '%' ∨ ∃ d < 16, c = hexDigit d := by
  have hlt := b.toNat_lt
  simp only [escapeByte, List.mem_cons, List.not_mem_nil, or_false] at h
  rcases h with h | h | h
  · exact .inl h
  · exact .inr ⟨b.toNat / 16, by omega, h⟩
  · exact .inr ⟨b.toNat % 16, by omega, h⟩

theorem mem_escape {keep : Char → Bool} {cs : Text} {c : Char} (h : c ∈ escape keep cs) :
    keep c = true ∨ c = '%' ∨ ∃ d < 16, c = hexDigit d := by
  obtain ⟨own, _, hc⟩ := List.mem_flatMap.mp h
  unfold escapeChar at hc
  split at hc
  next kept =>
    rw [List.mem_singleton.mp hc]
    exact .inl kept
  · obtain ⟨b, _, hc⟩ := List.mem_flatMap.mp hc
    exact .inr (mem_escapeByte hc)

theorem length_escapeByte (b : UInt8) : (escapeByte b).length = 3 := rfl

theorem length_escapeChar {keep : Char → Bool} {c : Char} (h : keep c = false) :
    3 ≤ (escapeChar keep c).length := by
  have pos := Utf8.length_char_pos c
  have triples : ∀ bytes : List UInt8, (bytes.flatMap escapeByte).length = 3 * bytes.length := by
    intro bytes
    induction bytes with
    | nil => rfl
    | cons b bytes ih =>
      rw [List.flatMap_cons, List.length_append, ih, length_escapeByte, List.length_cons]
      omega
  rw [escapeChar, h, if_neg Bool.false_ne_true, triples]
  omega

theorem length_escape_le (keep : Char → Bool) (cs : Text) :
    cs.length ≤ (escape keep cs).length := by
  induction cs with
  | nil => simp [escape]
  | cons c cs ih =>
    have chars : escape keep (c :: cs) = escapeChar keep c ++ escape keep cs := List.flatMap_cons
    rw [chars, List.length_append, List.length_cons]
    cases hkeep : keep c with
    | true =>
      rw [escapeChar, hkeep, if_pos rfl, List.length_singleton]
      omega
    | false =>
      have three := length_escapeChar hkeep
      omega

/-- A text is written as it is exactly if all of it is kept. -/
theorem escape_eq_self_iff (keep : Char → Bool) (cs : Text) :
    escape keep cs = cs ↔ ∀ c ∈ cs, keep c = true := by
  induction cs with
  | nil => simp [escape]
  | cons c cs ih =>
    have chars : escape keep (c :: cs) = escapeChar keep c ++ escape keep cs := List.flatMap_cons
    rw [chars, List.forall_mem_cons, ← ih]
    cases hkeep : keep c with
    | true => simp [escapeChar, hkeep]
    | false =>
      have three := length_escapeChar hkeep
      have more := length_escape_le keep cs
      constructor
      · intro same
        have hlength := congrArg List.length same
        rw [List.length_append, List.length_cons] at hlength
        omega
      · intro both
        cases both.1

/-! ## Origins -/

/-- A letter or digit of a host, or what joins them there. -/
def hostChar (c : Char) : Bool := c.isAlphanum || c ∈ ['-', '.', ':', '[', ']']

/-- A scheme, a host and perhaps a port. -/
structure Origin where
  scheme : Text
  host : Text
  schemePlain : ∀ c ∈ scheme, c.isAlphanum = true
  hostPlain : ∀ c ∈ host, hostChar c = true

theorem hostChar_ne {c mark : Char} (h : hostChar c = true) (hmark : hostChar mark = false) :
    c ≠ mark := by
  intro heq
  rw [heq, hmark] at h
  cases h

theorem hostChar_above {c : Char} (h : hostChar c = true) : 0x20 < c.toNat := by
  have low : ∀ n < 0x21, hostChar (Char.ofNat n) = false := by decide
  by_cases hc : c.toNat < 0x21
  · have none := low c.toNat hc
    rw [Char.ofNat_toNat, h] at none
    cases none
  · omega

theorem hostChar_inside {c : Char} (h : hostChar c = true) : endsAuthority c = false := by
  have slash : c ≠ '/' := hostChar_ne h (by decide)
  have question : c ≠ '?' := hostChar_ne h (by decide)
  have hash : c ≠ '#' := hostChar_ne h (by decide)
  simp [endsAuthority, slash, question, hash]

/-- The origin as what other URLs are written below. -/
def Origin.base (origin : Origin) : Base where
  scheme := origin.scheme
  authority := origin.host
  segments := []
  schemePlain := fun h => absurd (origin.schemePlain _ h) (by decide)
  authorityPlain := fun c h => hostChar_inside (origin.hostPlain c h)
  literal := fun _ h => absurd h List.not_mem_nil

theorem Origin.chars (origin : Origin) :
    origin.base.text.toList = origin.scheme ++ "://".toList ++ origin.host := by
  simp [Base.text, Origin.base, joined]

theorem Origin.value (origin : Origin) : Value origin.base.text.toList := by
  have host : ∀ c, hostChar c = true → c ≠ '&' ∧ c ≠ '+' ∧ c ≠ '%' ∧ c ≠ '#' := by
    intro c h
    exact ⟨hostChar_ne h (by decide), hostChar_ne h (by decide), hostChar_ne h (by decide),
      hostChar_ne h (by decide)⟩
  rw [origin.chars]
  refine .append (.append ?_ ?_) fun c h => host c (origin.hostPlain c h)
  · intro c h
    apply host
    rw [hostChar, origin.schemePlain c h, Bool.true_or]
  · unfold Value
    decide

end CompleteDeviceManagement.Library.Url
