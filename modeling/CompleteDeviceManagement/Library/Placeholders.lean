import CompleteDeviceManagement.Library.Sed

/-!
# Placeholders filled one after another

A text with marked places is filled name by name, each time wherever the mark of
the name is found. The result is what filling all places at once gives, in every
order, if no value makes a mark of another name together with what may stand
around it.
-/

set_option autoImplicit false

namespace CompleteDeviceManagement.Library.Placeholders
open CompleteDeviceManagement.Library.Sed

/-- Marks that open with a character, close with another, and have neither in between. -/
structure Marks (ν : Type) where
  opening : Char
  closing : Char
  inner : ν → Text
  differ : opening ≠ closing
  noOpening : ∀ n, opening ∉ inner n
  noClosing : ∀ n, closing ∉ inner n
  injective : ∀ m n, inner m = inner n → m = n

variable {ν : Type} (marks : Marks ν)

def Marks.mark (n : ν) : Text := marks.opening :: (marks.inner n ++ [marks.closing])

inductive Piece (ν : Type) where
  | lit (c : Char)
  | hole (n : ν)

def Piece.text (fill : ν → Text) : Piece ν → Text
  | .lit c => [c]
  | .hole n => fill n

def filled (fill : ν → Text) (pieces : List (Piece ν)) : Text := pieces.flatMap (Piece.text fill)

/-- The letters up to the first hole. -/
def firstRun : List (Piece ν) → Text
  | .lit c :: pieces => c :: firstRun pieces
  | _ => []

/-- Where the pieces hold the mark, it is that of a hole. -/
def Whole (mark : Text) : List (Piece ν) → Prop
  | [] => True
  | piece :: pieces => ¬ mark <+: firstRun (piece :: pieces) ∧ Whole mark pieces

def wholeDecidable (mark : Text) : (pieces : List (Piece ν)) → Decidable (Whole mark pieces)
  | [] => .isTrue trivial
  | _ :: pieces =>
      have := wholeDecidable mark pieces
      inferInstanceAs (Decidable (_ ∧ _))

instance (mark : Text) (pieces : List (Piece ν)) : Decidable (Whole mark pieces) :=
  wholeDecidable mark pieces

/-- Between a beginning and an end of the mark the value makes it. -/
def Makes (value mark : Text) : Prop :=
  ∃ before after, before <+: mark ∧ before ≠ mark ∧ after <:+ mark ∧ after ≠ mark ∧
    mark <:+: before ++ value ++ after

section Marks

variable {marks}

theorem mark_ne_nil (n : ν) : marks.mark n ≠ [] := by
  simp [Marks.mark]

/-- A mark opens only where it begins. -/
theorem not_opening {n : ν} {front rest : Text} (h : marks.mark n = front ++ rest)
    (nonempty : front ≠ []) : marks.opening ∉ rest := by
  cases front with
  | nil => exact absurd rfl nonempty
  | cons c front =>
    have behind : marks.inner n ++ [marks.closing] = front ++ rest := (List.cons.inj h).2
    intro opens
    have inside : marks.opening ∈ marks.inner n ++ [marks.closing] := by
      rw [behind]
      exact List.mem_append_right _ opens
    rcases List.mem_append.mp inside with h | h
    · exact marks.noOpening n h
    · exact marks.differ (List.mem_singleton.mp h)

/-- It closes only where it ends. -/
theorem not_closing {n : ν} {front rest : Text} (h : marks.mark n = front ++ rest)
    (nonempty : rest ≠ []) : marks.closing ∉ front := by
  intro closes
  have dropped : (marks.opening :: marks.inner n) = front ++ rest.dropLast := by
    have last := congrArg List.dropLast h
    rw [List.dropLast_append_of_ne_nil nonempty, Marks.mark, ← List.cons_append,
      List.dropLast_concat] at last
    exact last
  have inside : marks.closing ∈ marks.opening :: marks.inner n := by
    rw [dropped]
    exact List.mem_append_left _ closes
  rcases List.mem_cons.mp inside with h | h
  · exact marks.differ h.symm
  · exact marks.noClosing n h

theorem closing_not_mem {n : ν} {before : Text} (begins : before <+: marks.mark n)
    (proper : before ≠ marks.mark n) : marks.closing ∉ before := by
  obtain ⟨rest, split⟩ := begins
  refine not_closing split.symm ?_
  intro empty
  rw [empty, List.append_nil] at split
  exact proper split

theorem opening_not_mem {n : ν} {after : Text} (ends : after <:+ marks.mark n)
    (proper : after ≠ marks.mark n) : marks.opening ∉ after := by
  obtain ⟨front, split⟩ := ends
  refine not_opening split.symm ?_
  intro empty
  rw [empty, List.nil_append] at split
  exact proper split

/-- A value with a character that the mark has not, if it neither opens nor closes marks. -/
theorem not_makes {n : ν} {value : Text} {c : Char} (inside : c ∈ value)
    (foreign : c ∉ marks.mark n) (opened : marks.opening ∉ value)
    (closed : marks.closing ∉ value) : ¬ Makes value (marks.mark n) := by
  rintro ⟨before, after, begins, proper, ends, proper', s, t, split⟩
  obtain ⟨front, behind, rfl⟩ := List.append_of_mem inside
  have beforeOpen := closing_not_mem begins proper
  have afterClosed := opening_not_mem ends proper'
  rw [List.mem_append, List.mem_cons, not_or, not_or] at opened closed
  have split' : s ++ (marks.mark n ++ t) = (before ++ front) ++ c :: (behind ++ after) := by
    rw [← List.append_assoc, split]
    simp
  have opens : marks.opening ∈ marks.mark n := by simp [Marks.mark]
  have closes : marks.closing ∈ marks.mark n := by simp [Marks.mark]
  -- the mark ends before the character, or spans it, or begins behind it
  rcases List.append_eq_append_iff.mp split' with ⟨more, hfront, hmark⟩ | ⟨more, hs, hbehind⟩
  · rcases List.append_eq_append_iff.mp hmark with ⟨rest, hmore, -⟩ | ⟨rest, hspan, hrest⟩
    · have early : marks.closing ∈ before ++ front := by
        rw [hfront, hmore]
        simp [closes]
      exact (List.mem_append.mp early).elim beforeOpen closed.1
    · cases rest with
      | nil =>
        have early : marks.closing ∈ before ++ front := by
          rw [hfront, ← List.append_nil more, ← hspan]
          simp [closes]
        exact (List.mem_append.mp early).elim beforeOpen closed.1
      | cons d rest =>
        rw [(List.cons.inj hrest).1] at foreign
        apply foreign
        rw [hspan]
        simp
  · cases more with
    | nil =>
      rw [List.nil_append, Marks.mark, List.cons_append] at hbehind
      exact opened.2.1 (List.cons.inj hbehind).1.symm
    | cons d more =>
      have late : marks.opening ∈ behind ++ after := by
        rw [(List.cons.inj hbehind).2]
        simp [opens]
      exact (List.mem_append.mp late).elim opened.2.2 afterClosed

/-- Of two marks neither begins the other. -/
theorem eq_of_begins {m n : ν} {rest : Text} (h : marks.mark m <+: marks.mark n ++ rest) :
    m = n := by
  have begins : ∀ k (more : Text), (marks.mark k ++ more).tail.takeWhile (· ≠ marks.closing) =
      marks.inner k := by
    intro k more
    have plain : ∀ c ∈ marks.inner k, decide (c ≠ marks.closing) = true := by
      intro c hc
      rw [decide_eq_true_eq]
      intro same
      exact marks.noClosing k (same ▸ hc)
    rw [Marks.mark, List.cons_append, List.tail_cons, List.append_assoc,
      List.takeWhile_append_of_pos plain]
    simp
  obtain ⟨more, split⟩ := h
  apply marks.injective
  rw [← begins m more, split, begins n rest]

/-- No other mark begins inside a mark. -/
theorem not_begun_in_mark {n k : ν} (other : k ≠ n) {s rest : Text} (nonempty : s ≠ [])
    (suffix : s <:+ marks.mark k) : ¬ marks.mark n <+: s ++ rest := by
  intro begins
  obtain ⟨front, split⟩ := suffix
  have opens : marks.opening ∈ s := by
    cases s with
    | nil => exact absurd rfl nonempty
    | cons c s =>
      rw [List.cons_append, Marks.mark] at begins
      rw [(List.cons_prefix_cons.mp begins).1]
      exact List.mem_cons_self
  have front_nil : front = [] := by
    by_contra front_ne
    exact not_opening split.symm front_ne opens
  rw [front_nil, List.nil_append] at split
  rw [split] at begins
  exact other (eq_of_begins begins).symm

/-! ## Filling the places of one name -/

/-- A value of another name does not make the mark. -/
structure Apart (marks : Marks ν) (values : ν → Text) (n : ν) : Prop where
  values : ∀ k, k ≠ n → ¬ Makes (values k) (marks.mark n)

/-- Each place is still marked, or holds its value, and those of `n` are marked. -/
structure Stage (marks : Marks ν) (values fill : ν → Text) (n : ν) : Prop where
  each : ∀ k, fill k = marks.mark k ∨ fill k = values k
  marked : fill n = marks.mark n

section Step

variable {values fill : ν → Text} {n : ν}

theorem Apart.not_within (apart : Apart marks values n) {k : ν} (other : k ≠ n) :
    ¬ marks.mark n <:+: values k := by
  intro inside
  have nonempty : [] ≠ marks.mark n := (mark_ne_nil n).symm
  refine apart.values k other ⟨[], [], List.nil_prefix, nonempty, List.nil_suffix, nonempty, ?_⟩
  simpa using inside

/-- A rest of the mark does not go on into a value. -/
theorem Apart.not_continued (apart : Apart marks values n) {k : ν} (other : k ≠ n)
    {front q rest : Text} (split : marks.mark n = front ++ q) (front_ne : front ≠ [])
    (nonempty : q ≠ []) : ¬ q <+: values k ++ rest := by
  intro begins
  have front_mark : front ≠ marks.mark n := by
    intro same
    rw [← same] at split
    exact nonempty (List.self_eq_append_right.mp split)
  apply apart.values k other
  rcases prefix_append_cases begins with ⟨more, inside⟩ | ⟨c, more, whole, -⟩
  · refine ⟨front, [], ⟨q, split.symm⟩, front_mark, List.nil_suffix, (mark_ne_nil n).symm,
      [], more, ?_⟩
    rw [List.nil_append, List.append_nil, split, ← inside, List.append_assoc]
  · rw [whole, ← List.append_assoc] at split
    refine ⟨front, c :: more, ⟨values k ++ c :: more, ?_⟩, front_mark,
      ⟨front ++ values k, split.symm⟩, ?_, [], [], ?_⟩
    · rw [split, List.append_assoc]
    · intro same
      rw [← same] at split
      exact front_ne (List.append_eq_nil_iff.mp (List.self_eq_append_left.mp split)).1
    · rw [List.nil_append, List.append_nil, split]

/-- Nor does the mark begin in one. -/
theorem Apart.not_begun (apart : Apart marks values n) {k : ν} (other : k ≠ n)
    {s rest : Text} (nonempty : s ≠ []) (suffix : s <:+ values k) :
    ¬ marks.mark n <+: s ++ rest := by
  intro begins
  rcases prefix_append_cases begins with inside | ⟨c, more, split, -⟩
  · exact apart.not_within other (inside.isInfix.trans suffix.isInfix)
  · obtain ⟨front, whole⟩ := suffix
    refine apart.values k other ⟨[], c :: more, List.nil_prefix, (mark_ne_nil n).symm,
      ⟨s, split.symm⟩, ?_, front, [], ?_⟩
    · intro same
      rw [← same] at split
      exact nonempty (List.self_eq_append_left.mp split)
    · rw [List.nil_append, List.append_nil, ← whole, split, List.append_assoc]

/-- What goes on behind a beginning of the mark is literal. -/
theorem literal_run (apart : Apart marks values n) (stage : Stage marks values fill n)
    {pieces : List (Piece ν)} {front q : Text} (split : marks.mark n = front ++ q)
    (front_ne : front ≠ []) (begins : q <+: filled fill pieces) :
    q <+: firstRun pieces := by
  induction pieces generalizing front q with
  | nil => exact begins
  | cons piece pieces ih =>
    cases q with
    | nil => exact List.nil_prefix
    | cons c q =>
      cases piece with
      | lit d =>
        obtain ⟨same, later⟩ := List.cons_prefix_cons.mp begins
        have split' : marks.mark n = (front ++ [c]) ++ q := by rw [split]; simp
        exact List.cons_prefix_cons.mpr ⟨same, ih split' (by simp) later⟩
      | hole k =>
        exfalso
        have begins : c :: q <+: fill k ++ filled fill pieces := begins
        have unmarked : fill k ≠ marks.mark k := by
          intro marked
          rw [marked, Marks.mark, List.cons_append] at begins
          apply not_opening split front_ne
          rw [(List.cons_prefix_cons.mp begins).1]
          exact List.mem_cons_self
        have other : k ≠ n := by
          intro same
          rw [same] at unmarked
          exact unmarked stage.marked
        rcases stage.each k with marked | value
        · exact unmarked marked
        · rw [value] at begins
          exact apart.not_continued other split front_ne (by simp) begins

/-- A command for one name fills the places of that name and nothing else. -/
theorem replaceAll_filled [DecidableEq ν] (apart : Apart marks values n)
    (stage : Stage marks values fill n) {pieces : List (Piece ν)}
    (whole : Whole (marks.mark n) pieces) :
    replaceAll (marks.mark n) (values n) (filled fill pieces) =
      filled (Function.update fill n (values n)) pieces := by
  induction pieces with
  | nil => rfl
  | cons piece pieces ih =>
    have rest := ih whole.2
    cases piece with
    | lit c =>
      have none : ¬ marks.mark n <+: c :: filled fill pieces := by
        intro begins
        obtain ⟨same, later⟩ := List.cons_prefix_cons.mp begins
        have opened : marks.mark n = [marks.opening] ++ (marks.inner n ++ [marks.closing]) := rfl
        have run := literal_run apart stage opened (by simp) later
        exact whole.1 (List.cons_prefix_cons.mpr ⟨same, run⟩)
      exact (replaceAll_keep none).trans (congrArg _ rest)
    | hole k =>
      have unfold' : filled fill (.hole k :: pieces) = fill k ++ filled fill pieces := rfl
      have unfold'' : filled (Function.update fill n (values n)) (.hole k :: pieces) =
        Function.update fill n (values n) k ++
          filled (Function.update fill n (values n)) pieces := rfl
      rw [unfold', unfold'']
      by_cases same : k = n
      · rw [same, stage.marked, replaceAll_match (mark_ne_nil n), Function.update_self, rest]
      · rw [Function.update_of_ne same, replaceAll_front ?_, rest]
        intro s nonempty suffix begins
        rcases stage.each k with marked | value
        · rw [marked] at suffix
          exact not_begun_in_mark same nonempty suffix begins
        · rw [value] at suffix
          exact apart.not_begun same nonempty suffix begins

end Step

/-! ## Filling all places -/

/-- One command after another. -/
def fillEach (marks : Marks ν) (values : ν → Text) (order : List ν) (text : Text) : Text :=
  order.foldl (fun text n => replaceAll (marks.mark n) (values n) text) text

theorem filled_congr {fill fill' : ν → Text} {pieces : List (Piece ν)}
    (same : ∀ n, .hole n ∈ pieces → fill n = fill' n) :
    filled fill pieces = filled fill' pieces := by
  induction pieces with
  | nil => rfl
  | cons piece pieces ih =>
    have rest := ih fun n hn => same n (List.mem_cons_of_mem _ hn)
    have first : piece.text fill = piece.text fill' := by
      cases piece with
      | lit c => rfl
      | hole n => exact same n List.mem_cons_self
    exact (congrArg (· ++ filled fill pieces) first).trans (congrArg _ rest)

section Order

variable [DecidableEq ν] {values fill : ν → Text} {pieces : List (Piece ν)}

theorem fillEach_filled {order : List ν} (distinct : order.Nodup)
    (apart : ∀ n ∈ order, values n = marks.mark n ∨ Apart marks values n)
    (whole : ∀ n ∈ order, Whole (marks.mark n) pieces)
    (each : ∀ k, fill k = marks.mark k ∨ fill k = values k)
    (marked : ∀ n ∈ order, fill n = marks.mark n) :
    fillEach marks values order (filled fill pieces) =
      filled (fun k => if k ∈ order then values k else fill k) pieces := by
  induction order generalizing fill with
  | nil => exact filled_congr fun n _ => by simp
  | cons n order ih =>
    obtain ⟨absent, distinct⟩ := List.nodup_cons.mp distinct
    have here := marked n List.mem_cons_self
    have step : replaceAll (marks.mark n) (values n) (filled fill pieces) =
        filled (Function.update fill n (values n)) pieces := by
      rcases apart n List.mem_cons_self with own | apart
      · have unchanged : Function.update fill n (values n) = fill := by
          rw [own, ← here, Function.update_eq_self]
        rw [unchanged, own, replaceAll_self (mark_ne_nil n)]
      · exact replaceAll_filled apart ⟨each, here⟩ (whole n List.mem_cons_self)
    have each' : ∀ k, Function.update fill n (values n) k = marks.mark k ∨
        Function.update fill n (values n) k = values k := by
      intro k
      by_cases same : k = n
      · rw [same, Function.update_self]
        exact Or.inr rfl
      · rw [Function.update_of_ne same]
        exact each k
    have marked' : ∀ k ∈ order, Function.update fill n (values n) k = marks.mark k := by
      intro k hk
      have other : k ≠ n := fun same => absent (same ▸ hk)
      rw [Function.update_of_ne other]
      exact marked k (List.mem_cons_of_mem n hk)
    have run := ih distinct (fun k hk => apart k (List.mem_cons_of_mem n hk))
      (fun k hk => whole k (List.mem_cons_of_mem n hk)) each' marked'
    rw [fillEach, List.foldl_cons, step]
    refine run.trans (filled_congr fun k _ => ?_)
    by_cases same : k = n
    · rw [same, if_neg absent, Function.update_self, if_pos List.mem_cons_self]
    · simp [same]

/-- All places are filled at once, whatever the order. -/
theorem fillEach_all {order : List ν} (distinct : order.Nodup)
    (known : ∀ n, .hole n ∈ pieces → n ∈ order)
    (apart : ∀ n ∈ order, values n = marks.mark n ∨ Apart marks values n)
    (whole : ∀ n ∈ order, Whole (marks.mark n) pieces) :
    fillEach marks values order (filled marks.mark pieces) = filled values pieces := by
  rw [fillEach_filled distinct apart whole (fun k => Or.inl rfl) fun n _ => rfl]
  exact filled_congr fun n hn => if_pos (known n hn)

end Order

/-! ## One place between letters -/

/-- `front`, the place of `n`, `behind` -/
def between (front : Text) (n : ν) (behind : Text) : List (Piece ν) :=
  front.map .lit ++ .hole n :: behind.map .lit

theorem filled_lits (fill : ν → Text) (letters : Text) :
    filled fill (letters.map .lit) = letters := by
  induction letters with
  | nil => rfl
  | cons c letters ih => exact congrArg (c :: ·) ih

theorem filled_append (fill : ν → Text) (a b : List (Piece ν)) :
    filled fill (a ++ b) = filled fill a ++ filled fill b := List.flatMap_append

theorem filled_between (fill : ν → Text) (front : Text) (n : ν) (behind : Text) :
    filled fill (between front n behind) = front ++ (fill n ++ behind) := by
  have hole : filled fill (.hole n :: behind.map .lit) =
    fill n ++ filled fill (behind.map .lit) := rfl
  rw [between, filled_append, filled_lits, hole, filled_lits]

theorem firstRun_lits (letters : Text) (rest : List (Piece ν)) :
    firstRun (letters.map .lit ++ rest) = letters ++ firstRun rest := by
  induction letters with
  | nil => rfl
  | cons c letters ih => exact congrArg (c :: ·) ih

theorem whole_lits {mark : Text} {letters : Text} {rest : List (Piece ν)} (whole : Whole mark rest)
    (none : ∀ s, s ≠ [] → s <:+ letters → ¬ mark <+: s ++ firstRun rest) :
    Whole mark (letters.map .lit ++ rest) := by
  induction letters with
  | nil => exact whole
  | cons c letters ih =>
    constructor
    · have here := none (c :: letters) (by simp) (List.suffix_refl _)
      have run := firstRun_lits (c :: letters) rest
      rw [← run] at here
      exact here
    · exact ih fun s nonempty suffix => none s nonempty (suffix.trans (List.suffix_cons c letters))

/-- Letters without the mark before the place and behind it. -/
theorem whole_between {mark front behind : Text} (n : ν) (nonempty : mark ≠ [])
    (hfront : ¬ mark <:+: front) (hbehind : ¬ mark <:+: behind) :
    Whole mark (between front n behind) := by
  have tail : Whole mark (behind.map Piece.lit : List (Piece ν)) := by
    have nil : Whole mark ([] : List (Piece ν)) := trivial
    have none : ∀ s, s ≠ [] → s <:+ behind →
        ¬ mark <+: s ++ firstRun ([] : List (Piece ν)) := by
      intro s _ suffix begins
      have run : firstRun ([] : List (Piece ν)) = [] := rfl
      rw [run, List.append_nil] at begins
      exact hbehind (begins.isInfix.trans suffix.isInfix)
    have letters := whole_lits nil none
    rwa [List.append_nil] at letters
  have hole : Whole mark (.hole n :: behind.map .lit) := by
    refine ⟨?_, tail⟩
    intro begins
    exact nonempty (List.prefix_nil.mp begins)
  refine whole_lits hole ?_
  intro s _ suffix begins
  have run : firstRun (.hole n :: behind.map .lit) = [] := rfl
  rw [run, List.append_nil] at begins
  exact hfront (begins.isInfix.trans suffix.isInfix)

section Between

variable {front behind : Text} (closed : marks.closing ∉ front) (opened : marks.opening ∉ behind)
include closed

theorem not_begun_before (n k : ν) {s : Text} (nonempty : s ≠ []) (suffix : s <:+ front) :
    ¬ marks.mark k <+: s ++ (marks.mark n ++ behind) := by
  intro begins
  rcases prefix_append_cases begins with inside | ⟨c, more, split, later⟩
  · apply closed
    exact suffix.subset (inside.subset (by simp [Marks.mark]))
  · rw [Marks.mark, List.cons_append] at later
    apply not_opening split nonempty
    rw [(List.cons_prefix_cons.mp later).1]
    exact List.mem_cons_self

include opened

theorem replaceAll_here (n : ν) (new : Text) :
    replaceAll (marks.mark n) new (front ++ (marks.mark n ++ behind)) =
      front ++ (new ++ behind) := by
  have absent : ¬ marks.mark n <:+: behind := by
    intro inside
    exact opened (inside.subset (by simp [Marks.mark]))
  rw [replaceAll_front fun s nonempty suffix => not_begun_before closed n n nonempty suffix,
    replaceAll_match (mark_ne_nil n), replaceAll_absent absent]

theorem replaceAll_other {n k : ν} (other : n ≠ k) (new : Text) :
    replaceAll (marks.mark k) new (front ++ (marks.mark n ++ behind)) =
      front ++ (marks.mark n ++ behind) := by
  have absent : ¬ marks.mark k <:+: behind := by
    intro inside
    exact opened (inside.subset (by simp [Marks.mark]))
  rw [replaceAll_front fun s nonempty suffix => not_begun_before closed n k nonempty suffix,
    replaceAll_front fun s nonempty suffix => not_begun_in_mark other nonempty suffix,
    replaceAll_absent absent]

end Between

end Marks

end CompleteDeviceManagement.Library.Placeholders
