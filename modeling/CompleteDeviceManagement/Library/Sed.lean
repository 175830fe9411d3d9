import CompleteDeviceManagement.Library.Utf8
import Mathlib.Data.List.Infix

/-!
# Substitutions of sed

A stream editor applies commands `s|pattern|replacement|g` line by line. The
standard says what a replacement means in which a backslash stands before `&`,
a backslash, the delimiter or a digit; of other escapes, and of what an unescaped
delimiter lets through into the flags, nothing is said here.
-/

set_option autoImplicit false

namespace CompleteDeviceManagement.Library.Sed

abbrev Text := List Char

/-- A beginning of a text in two parts ends in the first part, or goes on. -/
theorem prefix_append_cases {p a b : Text} (h : p <+: a ++ b) :
    p <+: a ∨ ∃ c more, p = a ++ c :: more ∧ c :: more <+: b := by
  rcases List.prefix_or_prefix_of_prefix h (List.prefix_append a b) with inside | ⟨q, split⟩
  · exact Or.inl inside
  · cases q with
    | nil =>
      rw [← split, List.append_nil]
      exact Or.inl (List.prefix_refl a)
    | cons c more =>
      rw [← split, List.prefix_append_right_inj] at h
      exact Or.inr ⟨c, more, split.symm, h⟩

/-! ## Replacing -/

section Replacing

variable (pattern new : Text)

/-- The first characters are skipped: they belong to an occurrence. -/
def replaceFrom : Nat → Text → Text
  | _, [] => []
  | skipped + 1, _ :: rest => replaceFrom skipped rest
  | 0, c :: rest =>
      if pattern ≠ [] ∧ pattern <+: c :: rest then
        new ++ replaceFrom (pattern.length - 1) rest
      else c :: replaceFrom 0 rest

/-- Every occurrence from the left, each behind the one before. -/
def replaceAll (text : Text) : Text := replaceFrom pattern new 0 text

variable {pattern new}

theorem replaceFrom_drop (n : Nat) (text : Text) :
    replaceFrom pattern new n text = replaceAll pattern new (text.drop n) := by
  induction text generalizing n with
  | nil => simp [replaceFrom, replaceAll]
  | cons c rest ih =>
    cases n with
    | zero => rfl
    | succ n => rw [replaceFrom, ih, List.drop_succ_cons]

theorem replaceAll_match (nonempty : pattern ≠ []) (rest : Text) :
    replaceAll pattern new (pattern ++ rest) = new ++ replaceAll pattern new rest := by
  cases pattern with
  | nil => exact absurd rfl nonempty
  | cons c pattern =>
    have found : c :: pattern <+: c :: (pattern ++ rest) := ⟨rest, rfl⟩
    rw [List.cons_append, replaceAll, replaceFrom, if_pos ⟨nonempty, found⟩, replaceFrom_drop]
    simp

theorem replaceAll_keep {c : Char} {rest : Text} (none : ¬ pattern <+: c :: rest) :
    replaceAll pattern new (c :: rest) = c :: replaceAll pattern new rest := by
  rw [replaceAll, replaceFrom, if_neg fun h => none h.2]
  rfl

/-- A front in which no occurrence begins. -/
theorem replaceAll_front {front rest : Text}
    (none : ∀ s, s ≠ [] → s <:+ front → ¬ pattern <+: s ++ rest) :
    replaceAll pattern new (front ++ rest) = front ++ replaceAll pattern new rest := by
  induction front with
  | nil => rfl
  | cons c front ih =>
    have here := none (c :: front) (by simp) (List.suffix_refl _)
    rw [List.cons_append] at here ⊢
    rw [replaceAll_keep here, ih fun s nonempty suffix =>
      none s nonempty (suffix.trans (List.suffix_cons c front))]
    rfl

theorem replaceAll_absent {text : Text} (absent : ¬ pattern <:+: text) :
    replaceAll pattern new text = text := by
  have none : ∀ s, s ≠ [] → s <:+ text → ¬ pattern <+: s ++ [] := by
    intro s _ suffix found
    rw [List.append_nil] at found
    exact absent (found.isInfix.trans suffix.isInfix)
  have kept : replaceAll pattern new (text ++ []) = text ++ replaceAll pattern new [] :=
    replaceAll_front none
  rw [List.append_nil] at kept
  rw [kept]
  exact List.append_nil text

/-- The first character of the pattern is nowhere but in the one occurrence. -/
theorem replaceAll_once {c : Char} {p front rest : Text} (before : c ∉ front) (behind : c ∉ rest) :
    replaceAll (c :: p) new (front ++ (c :: p ++ rest)) = front ++ (new ++ rest) := by
  have none : ∀ s, s ≠ [] → s <:+ front → ¬ c :: p <+: s ++ (c :: p ++ rest) := by
    intro s nonempty suffix found
    cases s with
    | nil => exact nonempty rfl
    | cons d s =>
      obtain ⟨more, same⟩ := found
      obtain rfl : c = d := (List.cons.inj same).1
      exact before (suffix.subset List.mem_cons_self)
  have absent : ¬ c :: p <:+: rest := by
    intro found
    exact behind (found.subset List.mem_cons_self)
  rw [replaceAll_front none, replaceAll_match (List.cons_ne_nil c p), replaceAll_absent absent]

/-- Cases of a text by what comes first in it. -/
theorem cases_first {motive : Text → Prop} (nonempty : pattern ≠ []) (nil : motive [])
    (occurs : ∀ rest, motive rest → motive (pattern ++ rest))
    (keeps : ∀ c rest, ¬ pattern <+: c :: rest → motive rest → motive (c :: rest))
    (text : Text) : motive text := by
  have every : ∀ n, ∀ text : Text, text.length ≤ n → motive text := by
    intro n
    induction n with
    | zero =>
      intro text short
      rw [List.length_eq_zero_iff.mp (Nat.le_zero.mp short)]
      exact nil
    | succ n ih =>
      intro text short
      cases text with
      | nil => exact nil
      | cons c rest =>
        by_cases found : pattern <+: c :: rest
        · obtain ⟨behind, split⟩ := found
          have length := congrArg List.length split
          have positive := List.length_pos_of_ne_nil nonempty
          rw [List.length_append] at length
          rw [← split]
          exact occurs behind (ih behind (by omega))
        · exact keeps c rest found (ih rest (Nat.le_of_succ_le_succ short))
  exact every text.length text (Nat.le_refl _)

theorem replaceAll_self (nonempty : pattern ≠ []) (text : Text) :
    replaceAll pattern pattern text = text := by
  induction text using cases_first nonempty with
  | nil => rfl
  | occurs rest ih => rw [replaceAll_match nonempty, ih]
  | keeps c rest none ih => rw [replaceAll_keep none, ih]

variable (new) in
/-- Each occurrence changes the length by the same. -/
theorem length_replaceAll (nonempty : pattern ≠ []) (text : Text) :
    ∃ n, (replaceAll pattern new text).length + n * pattern.length =
      text.length + n * new.length ∧ (pattern <:+: text → 0 < n) := by
  induction text using cases_first nonempty with
  | nil =>
    refine ⟨0, by simp [replaceAll, replaceFrom], ?_⟩
    intro found
    exact absurd (List.infix_nil.mp found) nonempty
  | occurs rest ih =>
    obtain ⟨n, length, -⟩ := ih
    refine ⟨n + 1, ?_, fun _ => Nat.succ_pos n⟩
    rw [replaceAll_match nonempty, List.length_append, List.length_append, Nat.succ_mul,
      Nat.succ_mul]
    omega
  | keeps c rest none ih =>
    obtain ⟨n, length, found⟩ := ih
    refine ⟨n, ?_, ?_⟩
    · rw [replaceAll_keep none, List.length_cons, List.length_cons]
      omega
    · intro within
      rcases List.infix_cons_iff.mp within with here | later
      · exact absurd here none
      · exact found later

/-- Only a replacement by itself leaves a text as it is. -/
theorem eq_of_replaceAll_eq (nonempty : pattern ≠ []) {text : Text}
    (found : pattern <:+: text) (same : replaceAll pattern new text = text) : new = pattern := by
  have lengths : new.length = pattern.length := by
    obtain ⟨n, length, positive⟩ := length_replaceAll new nonempty text
    rw [same] at length
    exact (Nat.eq_of_mul_eq_mul_left (positive found) (Nat.add_left_cancel length)).symm
  induction text using cases_first nonempty with
  | nil => exact absurd (List.infix_nil.mp found) nonempty
  | occurs rest ih =>
    rw [replaceAll_match nonempty] at same
    exact List.append_inj_left same lengths
  | keeps c rest none ih =>
    rw [replaceAll_keep none] at same
    rcases List.infix_cons_iff.mp found with here | later
    · exact absurd here none
    · exact ih later (List.cons.inj same).2

theorem mem_replaceAll {c : Char} (nonempty : pattern ≠ []) {text : Text}
    (h : c ∈ replaceAll pattern new text) : c ∈ new ∨ c ∈ text := by
  induction text using cases_first nonempty with
  | nil => cases h
  | occurs rest ih =>
    rw [replaceAll_match nonempty] at h
    rcases List.mem_append.mp h with h | h
    · exact Or.inl h
    · exact (ih h).imp_right (List.mem_append_right _)
  | keeps d rest none ih =>
    rw [replaceAll_keep none] at h
    rcases List.mem_cons.mp h with h | h
    · exact Or.inr (h ▸ List.mem_cons_self)
    · exact (ih h).imp_right (List.mem_cons_of_mem d)

theorem replaceAll_char (c : Char) (new text : Text) :
    replaceAll [c] new text = text.flatMap fun d => if d = c then new else [d] := by
  induction text with
  | nil => rfl
  | cons d text ih =>
    rw [List.flatMap_cons, ← ih]
    by_cases same : d = c
    · rw [if_pos same, same]
      exact replaceAll_match (by simp) text
    · rw [if_neg same]
      refine replaceAll_keep ?_
      intro found
      exact same (List.cons_prefix_cons.mp found).1.symm

/-- A text that no occurrence spans is replaced on both sides of it. -/
theorem replaceAll_across {mark : Char} (nonempty : pattern ≠ []) (absent : mark ∉ pattern)
    (front behind : Text) : replaceAll pattern new (front ++ mark :: behind) =
      replaceAll pattern new front ++ mark :: replaceAll pattern new behind := by
  have none : ∀ rest : Text, ¬ pattern <+: mark :: rest := by
    rintro rest ⟨more, split⟩
    cases pattern with
    | nil => exact nonempty rfl
    | cons c pattern =>
      rw [List.cons_append] at split
      rw [(List.cons.inj split).1] at absent
      exact absent List.mem_cons_self
  induction front using cases_first nonempty with
  | nil => exact replaceAll_keep (none behind)
  | occurs rest ih =>
    rw [List.append_assoc, replaceAll_match nonempty, ih, replaceAll_match nonempty,
      List.append_assoc]
  | keeps c rest absent' ih =>
    have absent'' : ¬ pattern <+: c :: (rest ++ mark :: behind) := by
      intro found
      rw [← List.cons_append] at found
      rcases prefix_append_cases found with inside | ⟨c', more, split, begins⟩
      · exact absent' inside
      · apply absent
        rw [split, (List.cons_prefix_cons.mp begins).1]
        simp
    rw [List.cons_append, replaceAll_keep absent'', ih, replaceAll_keep absent']
    rfl

end Replacing

/-! ## Commands -/

inductive Part where
  | char (c : Char)
  | matched

/-- The command `s|pattern|parts|g`. -/
structure Subst where
  pattern : Text
  parts : List Part

/-- What is known of a program: it does this, or it is refused, or nothing. -/
inductive Outcome (α : Type) where
  | done (value : α)
  | refused
  | unspecified

/-- A pattern in which all characters stand for themselves. -/
def Literal (pattern : Text) : Prop :=
  pattern ≠ [] ∧ pattern.getLast? ≠ some '$' ∧
    ∀ c ∈ pattern, c ∉ ['\\', '[', ']', '.', '*', '^', '\n']

instance (pattern : Text) : Decidable (Literal pattern) := by
  unfold Literal
  infer_instance

def Part.text (pattern : Text) : Part → Text
  | .char c => [c]
  | .matched => pattern

def Subst.new (subst : Subst) : Text := subst.parts.flatMap (Part.text subst.pattern)

def Subst.apply (subst : Subst) (line : Text) : Text := replaceAll subst.pattern subst.new line

/-- A part in front of a replacement. -/
def Outcome.cons (part : Part) : Outcome (List Part × Text) → Outcome (List Part × Text)
  | .done (parts, rest) => .done (part :: parts, rest)
  | .refused => .refused
  | .unspecified => .unspecified

/-- A reference to a group the pattern does not have. -/
def Outcome.dangling : Outcome (List Part × Text) → Outcome (List Part × Text)
  | .unspecified => .unspecified
  | _ => .refused

/-- A replacement up to its delimiter, and what follows. -/
def replacement (delimiter : Char) : Text → Outcome (List Part × Text)
  | [] => .refused
  | '\\' :: [] => .refused
  | '\\' :: c :: rest =>
      if c = '&' ∨ c = '\\' ∨ c = delimiter then (replacement delimiter rest).cons (.char c)
      else if '1' ≤ c ∧ c ≤ '9' then (replacement delimiter rest).dangling
      else .unspecified
  | c :: rest =>
      if c = delimiter then .done ([], rest)
      else if c = '&' then (replacement delimiter rest).cons .matched
      else if c = '\n' then .unspecified
      else (replacement delimiter rest).cons (.char c)

/-- Where another command, a comment or a file name may begin. -/
def endsFlags (c : Char) : Bool := c ∈ [';', '#', '\x7d', 'w', '\r', '\n']

def isFlag (c : Char) : Bool := c.isDigit || c ∈ ['g', 'p', 'i', 'I', 'm', 'M', 'e', ' ', '\t']

/-- The first character that is no flag does not end them either. -/
def badFlags : Text → Bool
  | [] => false
  | c :: rest => if endsFlags c then false else if isFlag c then badFlags rest else true

/-- The pattern, the replacement, and the flag `g`. -/
def command (delimiter : Char) (pattern behind : Text) : Outcome Subst :=
  if Literal pattern then
    match replacement delimiter behind with
    | .done (parts, ['g']) => .done ⟨pattern, parts⟩
    | .done (_, flags) => if badFlags flags then .refused else .unspecified
    | .refused => .refused
    | .unspecified => .unspecified
  else .unspecified

def parse : Text → Outcome Subst
  | 's' :: delimiter :: rest =>
      match rest.dropWhile (· ≠ delimiter) with
      | [] => .refused
      | _ :: behind => command delimiter (rest.takeWhile (· ≠ delimiter)) behind
  | _ => .unspecified

/-- All expressions are read before the first line is. -/
def program : List Text → Outcome (List Subst)
  | [] => .done []
  | expression :: rest =>
      match parse expression, program rest with
      | .unspecified, _ => .unspecified
      | _, .unspecified => .unspecified
      | .done subst, .done substs => .done (subst :: substs)
      | _, _ => .refused

def edit (substs : List Subst) (line : Text) : Text :=
  substs.foldl (fun line subst => subst.apply line) line

def edited (substs : List Subst) (input : Text) : Text :=
  ['\n'].intercalate ((input.splitOn '\n').map (edit substs))

/-- An implementation, as far as it is specified; `none` is an error. -/
structure Editor where
  run : List Text → Text → Option Text
  done : ∀ expressions substs input, program expressions = .done substs →
    run expressions input = some (edited substs input)
  refused : ∀ expressions input, program expressions = .refused → run expressions input = none

/-- An editor that refuses what is not specified. -/
def Editor.strict : Editor where
  run := fun expressions input =>
    match program expressions with
    | .done substs => some (edited substs input)
    | _ => none
  done := by
    intro expressions substs input h
    rw [h]
  refused := by
    intro expressions input h
    rw [h]

/-! ## What a program does -/

theorem parse_command {delimiter : Char} {pattern : Text} (inside : delimiter ∉ pattern)
    (behind : Text) : parse ('s' :: delimiter :: (pattern ++ delimiter :: behind)) =
      command delimiter pattern behind := by
  have front : ∀ c ∈ pattern, decide (c ≠ delimiter) = true := by
    intro c hc
    rw [decide_eq_true_eq]
    intro same
    exact inside (same ▸ hc)
  have stop : decide (delimiter ≠ delimiter) = false := by simp
  rw [parse, List.dropWhile_append_of_pos front, List.takeWhile_append_of_pos front,
    List.dropWhile_cons_of_neg (by simp), List.takeWhile_cons_of_neg (by simp), List.append_nil]

/-- What can be found in a line. -/
def Subst.InLine (subst : Subst) : Prop := subst.pattern ≠ [] ∧ '\n' ∉ subst.pattern

theorem Literal.inLine {subst : Subst} (h : Literal subst.pattern) : subst.InLine :=
  ⟨h.1, fun newline => h.2.2 _ newline (by simp)⟩

theorem intercalate_cons_cons (mark : Char) (a b : Text) (rest : List Text) :
    [mark].intercalate (a :: b :: rest) = a ++ mark :: [mark].intercalate (b :: rest) := by
  simp [List.intercalate]

/-- A command finds its pattern in the text where it finds it in the lines. -/
theorem apply_lines {subst : Subst} (inLine : subst.InLine) (lines : List Text) :
    ['\n'].intercalate (lines.map subst.apply) = subst.apply (['\n'].intercalate lines) := by
  induction lines with
  | nil => rfl
  | cons first lines ih =>
    cases lines with
    | nil => simp [List.intercalate]
    | cons second lines =>
      rw [List.map_cons, List.map_cons, intercalate_cons_cons, intercalate_cons_cons,
        ← List.map_cons, ih, Subst.apply, Subst.apply, Subst.apply,
        replaceAll_across inLine.1 inLine.2]

theorem edit_lines {substs : List Subst} (inLine : ∀ subst ∈ substs, subst.InLine)
    (lines : List Text) :
    ['\n'].intercalate (lines.map (edit substs)) = edit substs (['\n'].intercalate lines) := by
  induction substs generalizing lines with
  | nil =>
    have same : edit [] = id := rfl
    rw [same, List.map_id]
    rfl
  | cons subst substs ih =>
    have first := apply_lines (inLine subst List.mem_cons_self) lines
    have more := ih (fun s hs => inLine s (List.mem_cons_of_mem _ hs)) (lines.map subst.apply)
    rw [List.map_map] at more
    exact more.trans (congrArg (edit substs) first)

/-- The lines need not be told apart. -/
theorem edited_eq {substs : List Subst} (inLine : ∀ subst ∈ substs, subst.InLine)
    (input : Text) : edited substs input = edit substs input := by
  rw [edited, edit_lines inLine, List.intercalate_splitOn]

theorem program_done {α : Type} {order : List α} {expression : α → Text} {subst : α → Subst}
    (h : ∀ a ∈ order, parse (expression a) = .done (subst a)) :
    program (order.map expression) = .done (order.map subst) := by
  induction order with
  | nil => rfl
  | cons a order ih =>
    have first := h a List.mem_cons_self
    have rest := ih fun b hb => h b (List.mem_cons_of_mem a hb)
    rw [List.map_cons, program, first, rest]
    rfl

theorem program_specified {expressions : List Text}
    (specified : ∀ e ∈ expressions, parse e ≠ .unspecified) :
    program expressions ≠ .unspecified := by
  induction expressions with
  | nil => simp [program]
  | cons e expressions ih =>
    have first := specified e List.mem_cons_self
    have rest := ih fun e' he => specified e' (List.mem_cons_of_mem e he)
    rw [program]
    split <;> simp_all

theorem program_refused {expressions : List Text}
    (specified : ∀ e ∈ expressions, parse e ≠ .unspecified)
    (refused : ∃ e ∈ expressions, parse e = .refused) : program expressions = .refused := by
  induction expressions with
  | nil =>
    obtain ⟨e, he, -⟩ := refused
    cases he
  | cons e expressions ih =>
    have first := specified e List.mem_cons_self
    have later : ∀ e' ∈ expressions, parse e' ≠ .unspecified :=
      fun e' he => specified e' (List.mem_cons_of_mem e he)
    have rest := program_specified later
    obtain ⟨e', he, hrefused⟩ := refused
    rw [program]
    rcases List.mem_cons.mp he with rfl | he
    · rw [hrefused]
      split <;> simp_all
    · rw [ih later ⟨e', he, hrefused⟩]
      split <;> simp_all

/-! ## Replacements -/

theorem cons_done {part : Part} {outcome : Outcome (List Part × Text)} {parts : List Part}
    {rest : Text} (h : outcome.cons part = .done (parts, rest)) :
    ∃ more, parts = part :: more ∧ outcome = .done (more, rest) := by
  cases outcome with
  | done value =>
    obtain ⟨more, rest'⟩ := value
    cases h
    exact ⟨more, rfl, rfl⟩
  | refused => cases h
  | unspecified => cases h

theorem dangling_not_done {outcome : Outcome (List Part × Text)} {value : List Part × Text} :
    outcome.dangling ≠ .done value := by
  cases outcome <;> simp [Outcome.dangling]

/-- Half of the backslashes at most are left. -/
theorem count_replacement {pattern : Text} (plain : '\\' ∉ pattern) {delimiter : Char}
    {text rest : Text} {parts : List Part}
    (h : replacement delimiter text = .done (parts, rest)) :
    2 * (parts.flatMap (Part.text pattern)).count '\\' ≤ text.count '\\' := by
  fun_induction replacement delimiter text generalizing parts rest with
  | case1 => cases h
  | case2 => cases h
  | case3 c text known ih =>
    obtain ⟨more, rfl, hmore⟩ := cons_done h
    have half := ih hmore
    simp only [List.flatMap_cons, Part.text, List.count_append, List.count_cons,
      List.count_nil] at half ⊢
    split <;> simp <;> omega
  | case4 c text unknown digit ih => exact absurd h dangling_not_done
  | case5 => cases h
  | case6 =>
    cases h
    simp
  | case7 text alone escape kept ih =>
    obtain ⟨more, rfl, hmore⟩ := cons_done h
    have half := ih hmore
    simp only [List.flatMap_cons, Part.text, List.count_append, List.count_eq_zero.mpr plain]
    rw [List.count_cons_of_ne (by decide)]
    omega
  | case8 => cases h
  | case9 c text alone escape kept matched line ih =>
    obtain ⟨more, rfl, hmore⟩ := cons_done h
    have half := ih hmore
    have letter : c ≠ '\\' := by
      intro same
      cases text with
      | nil => exact alone same rfl
      | cons d text => exact escape d text same rfl
    simp only [List.flatMap_cons, Part.text, List.count_append, List.count_cons_of_ne letter,
      List.count_nil]
    omega

/-- A character that is no backslash. -/
theorem replacement_cons {delimiter c : Char} (letter : c ≠ '\\') (text : Text) :
    replacement delimiter (c :: text) =
      if c = delimiter then .done ([], text)
      else if c = '&' then (replacement delimiter text).cons .matched
      else if c = '\n' then .unspecified
      else (replacement delimiter text).cons (.char c) := by
  rw [replacement]
  · intro same _
    exact letter same
  · intro _ _ same _
    exact letter same

/-- Without backslashes every character stands for itself, or is `&`. -/
theorem replacement_plain {delimiter : Char} (other : delimiter ≠ '\\') {value behind : Text}
    (plain : '\\' ∉ value) {parts : List Part}
    (h : replacement delimiter (value ++ delimiter :: behind) = .done (parts, behind)) :
    delimiter ∉ value ∧ parts = value.map fun c => if c = '&' then .matched else .char c := by
  induction value generalizing parts with
  | nil =>
    rw [List.nil_append, replacement_cons other, if_pos rfl] at h
    cases h
    exact ⟨List.not_mem_nil, rfl⟩
  | cons c value ih =>
    obtain ⟨letter, plain⟩ := not_or.mp (mt List.mem_cons.mpr plain)
    rw [List.cons_append, replacement_cons (Ne.symm letter)] at h
    split at h
    next same =>
      have lengths := congrArg (fun o => match o with
        | Outcome.done (_, rest) => rest.length
        | _ => 0) h
      simp at lengths
      omega
    next differs =>
      split at h
      next amp =>
        obtain ⟨more, rfl, hmore⟩ := cons_done h
        obtain ⟨absent, rest⟩ := ih plain hmore
        refine ⟨?_, by rw [rest, List.map_cons, if_pos amp]⟩
        rw [List.mem_cons]
        exact fun h => h.elim (fun same => differs same.symm) absent
      next letter' =>
        split at h
        · cases h
        · obtain ⟨more, rfl, hmore⟩ := cons_done h
          obtain ⟨absent, rest⟩ := ih plain hmore
          refine ⟨?_, by rw [rest, List.map_cons, if_neg letter']⟩
          rw [List.mem_cons]
          exact fun h => h.elim (fun same => differs same.symm) absent

theorem replacement_clean {delimiter : Char} (other : delimiter ≠ '\\') {value : Text}
    (clean : ∀ c ∈ value, c ≠ '\\' ∧ c ≠ '&' ∧ c ≠ delimiter ∧ c ≠ '\n') (behind : Text) :
    replacement delimiter (value ++ delimiter :: behind) = .done (value.map .char, behind) := by
  induction value with
  | nil => rw [List.nil_append, replacement_cons other, if_pos rfl, List.map_nil]
  | cons c value ih =>
    obtain ⟨letter, amp, differs, line⟩ := clean c List.mem_cons_self
    have rest := ih fun d hd => clean d (List.mem_cons_of_mem c hd)
    rw [List.cons_append, replacement_cons letter, if_neg differs, if_neg amp, if_neg line, rest]
    rfl

end CompleteDeviceManagement.Library.Sed
