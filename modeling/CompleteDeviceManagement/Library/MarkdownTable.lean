import Mathlib.Algebra.GroupWithZero.Nat

/-!
# Rows of a Markdown table

A row is cut at the pipes that have no backslash in front of them; an escaped pipe stays
in its cell without the backslash. So every pipe of a text either makes one more cell of
it or costs a backslash (`pieces_counts`).
-/

set_option autoImplicit false

namespace CompleteDeviceManagement.Library.MarkdownTable

abbrev Text := List Char

def isBlank (c : Char) : Bool := c == ' ' || c == '\t'

def trim (t : Text) : Text := ((t.dropWhile isBlank).reverse.dropWhile isBlank).reverse

/-- A text at its unescaped pipes. -/
def pieces : Text → List Text
  | [] => [[]]
  | '\\' :: '|' :: rest => (pieces rest).modifyHead ('|' :: ·)
  | '|' :: rest => [] :: pieces rest
  | c :: rest => (pieces rest).modifyHead (c :: ·)

def dropPipe : Text → Text
  | '|' :: rest => rest
  | other => other

/-- The cells of a row, which may have a pipe at each end. -/
def cells (row : Text) : List Text :=
  let parts := pieces (dropPipe (trim row))
  (if parts.getLast? = some [] then parts.dropLast else parts).map trim

/-! ## Pieces -/

theorem pieces_escaped (rest : Text) :
    pieces ('\\' :: '|' :: rest) = (pieces rest).modifyHead ('|' :: ·) := rfl

theorem pieces_pipe (rest : Text) : pieces ('|' :: rest) = [] :: pieces rest := rfl

theorem pieces_other {c : Char} {rest : Text} (pipe : c ≠ '|')
    (escape : c = '\\' → rest.head? ≠ some '|') :
    pieces (c :: rest) = (pieces rest).modifyHead (c :: ·) := by
  rw [pieces]
  · intro rest' backslash same
    rw [same] at escape
    exact escape backslash rfl
  · exact pipe

theorem pieces_ne_nil (t : Text) : pieces t ≠ [] := by
  fun_induction pieces t with
  | case1 => exact List.cons_ne_nil _ _
  | case2 rest ih => simpa using ih
  | case3 rest ih => exact List.cons_ne_nil _ _
  | case4 c rest _ _ ih => simpa using ih

theorem pieces_plain {t : Text} (plain : '|' ∉ t) : pieces t = [t] := by
  fun_induction pieces t with
  | case1 => rfl
  | case2 rest ih => exact absurd (by simp) plain
  | case3 rest ih => exact absurd List.mem_cons_self plain
  | case4 c rest _ _ ih =>
    rw [ih fun pipe => plain (List.mem_cons_of_mem c pipe)]
    rfl

theorem modifyHead_append {front : List Text} (h : front ≠ []) (back : List Text)
    (f : Text → Text) : (front ++ back).modifyHead f = front.modifyHead f ++ back := by
  cases front with
  | nil => exact absurd rfl h
  | cons a front => rfl

/-- A pipe behind a blank ends a piece. -/
theorem pieces_append (t rest : Text) :
    pieces (t ++ ' ' :: '|' :: rest) = pieces (t ++ [' ']) ++ pieces rest := by
  fun_induction pieces t with
  | case1 => rfl
  | case2 t ih =>
    rw [List.cons_append, List.cons_append, pieces_escaped, ih,
      modifyHead_append (pieces_ne_nil _), List.cons_append, List.cons_append, pieces_escaped]
  | case3 t ih =>
    rw [List.cons_append, pieces_pipe, ih]
    rfl
  | case4 c t escape pipe ih =>
    have later : ∀ more, c = '\\' → (t ++ ' ' :: more).head? ≠ some '|' := by
      intro more backslash first
      cases t with
      | nil => simp at first
      | cons d t =>
        have same : d = '|' := Option.some.inj first
        exact escape t backslash (by rw [same])
    rw [List.cons_append, pieces_other pipe (later _), ih, modifyHead_append (pieces_ne_nil _),
      List.cons_append, pieces_other pipe (later [])]

/-- Every pipe makes a piece or costs a backslash. -/
theorem pieces_counts (t : Text) :
    ((pieces t).map (List.count '\\')).sum + t.count '|' + 1 =
      t.count '\\' + (pieces t).length := by
  have head : ∀ {c : Char} {ps : List Text}, ps ≠ [] →
      ((ps.modifyHead (c :: ·)).map (List.count '\\')).sum =
        [c].count '\\' + (ps.map (List.count '\\')).sum := by
    intro c ps some
    cases ps with
    | nil => exact absurd rfl some
    | cons a ps =>
      simp only [List.modifyHead_cons, List.map_cons, List.sum_cons, List.count_cons,
        List.count_nil]
      omega
  fun_induction pieces t with
  | case1 => rfl
  | case2 rest ih =>
    rw [head (pieces_ne_nil rest), List.length_modifyHead]
    simp only [List.count_cons, List.count_nil] at ih ⊢
    have marks : ('|' == '\\') = false ∧ ('\\' == '|') = false := by decide
    simp only [marks.1, marks.2, beq_self_eq_true, if_true, Bool.false_eq_true, if_false]
    omega
  | case3 rest ih =>
    simp only [List.map_cons, List.sum_cons, List.count_nil, List.count_cons, List.length_cons]
    have mark : ('|' == '\\') = false := by decide
    simp only [mark, beq_self_eq_true, if_true, Bool.false_eq_true, if_false]
    omega
  | case4 c rest _ pipe ih =>
    have other : (c == '|') = false := beq_eq_false_iff_ne.mpr pipe
    rw [head (pieces_ne_nil rest), List.length_modifyHead]
    simp only [List.count_cons, List.count_nil, other, Bool.false_eq_true, if_false] at ih ⊢
    omega

/-! ## Trimmed texts -/

theorem count_dropWhile {c : Char} (kept : isBlank c = false) (t : Text) :
    (t.dropWhile isBlank).count c = t.count c := by
  induction t with
  | nil => rfl
  | cons d t ih =>
    cases blank : isBlank d with
    | true =>
      have other : (d == c) = false := by
        rw [beq_eq_false_iff_ne]
        rintro rfl
        rw [kept] at blank
        cases blank
      rw [List.dropWhile_cons_of_pos blank, ih, List.count_cons, other]
      rfl
    | false =>
      rw [List.dropWhile_cons_of_neg (by rw [blank]; exact Bool.false_ne_true)]

theorem count_trim {c : Char} (kept : isBlank c = false) (t : Text) :
    (trim t).count c = t.count c := by
  rw [trim, List.count_reverse, count_dropWhile kept, List.count_reverse, count_dropWhile kept]

/-- Nothing is trimmed between two other characters. -/
theorem trim_between {c d : Char} (first : isBlank c = false) (last : isBlank d = false)
    (t : Text) : trim (c :: (t ++ [d])) = c :: (t ++ [d]) := by
  have front : (c :: (t ++ [d])).dropWhile isBlank = c :: (t ++ [d]) :=
    List.dropWhile_cons_of_neg (by rw [first]; exact Bool.false_ne_true)
  have turned : (c :: (t ++ [d])).reverse = d :: (t.reverse ++ [c]) := by simp
  have back : (d :: (t.reverse ++ [c])).dropWhile isBlank = d :: (t.reverse ++ [c]) :=
    List.dropWhile_cons_of_neg (by rw [last]; exact Bool.false_ne_true)
  rw [trim, front, turned, back, ← turned, List.reverse_reverse]

theorem trim_blanks (p : Text) : trim (' ' :: (p ++ [' '])) = trim p := by
  have front : (' ' :: (p ++ [' '])).dropWhile isBlank = (p ++ [' ']).dropWhile isBlank :=
    List.dropWhile_cons_of_pos rfl
  rw [trim, trim, front, List.dropWhile_append]
  cases rest : p.dropWhile isBlank with
  | nil => rfl
  | cons c rest =>
    rw [List.isEmpty_cons, if_neg Bool.false_ne_true, List.reverse_append]
    rfl

/-! ## Rows -/

/-- A row with a blank on each side of every part. -/
def rowText (parts : List Text) : Text := '|' :: parts.flatMap fun p => ' ' :: (p ++ [' ', '|'])

/-- What a part of a row becomes: one cell if none of its pipes cuts it. -/
def partCells (p : Text) : List Text := (pieces (' ' :: (p ++ [' ']))).map trim

theorem pieces_parts (parts : List Text) :
    pieces (parts.flatMap fun p => ' ' :: (p ++ [' ', '|'])) =
      (parts.flatMap fun p => pieces (' ' :: (p ++ [' ']))) ++ [[]] := by
  induction parts with
  | nil => rfl
  | cons p parts ih =>
    have split : ' ' :: (p ++ [' ', '|']) ++ (parts.flatMap fun p => ' ' :: (p ++ [' ', '|'])) =
        (' ' :: p) ++ ' ' :: '|' :: parts.flatMap fun p => ' ' :: (p ++ [' ', '|']) := by
      simp
    rw [List.flatMap_cons, split, pieces_append, ih, List.flatMap_cons, List.append_assoc]
    rfl

theorem cells_rowText {parts : List Text} (some : parts ≠ []) :
    cells (rowText parts) = parts.flatMap partCells := by
  have ends : ∃ mid, rowText parts = '|' :: (mid ++ ['|']) := by
    refine ⟨(parts.dropLast.flatMap fun p => ' ' :: (p ++ [' ', '|'])) ++
      ' ' :: (parts.getLast some ++ [' ']), ?_⟩
    conv => lhs; rw [← List.dropLast_concat_getLast some]
    simp [rowText]
  obtain ⟨mid, ends⟩ := ends
  have trimmed : trim (rowText parts) = rowText parts := by
    rw [ends]
    exact trim_between (by decide) (by decide) mid
  have inner : dropPipe (trim (rowText parts)) =
      parts.flatMap fun p => ' ' :: (p ++ [' ', '|']) := by
    rw [trimmed]
    rfl
  unfold cells
  rw [inner, pieces_parts]
  dsimp only
  rw [List.getLast?_concat, if_pos rfl, List.dropLast_concat, List.map_flatMap]
  rfl

theorem count_blanks {c : Char} (kept : isBlank c = false) (p : Text) :
    (' ' :: (p ++ [' '])).count c = p.count c := by
  have other : (' ' == c) = false := by
    rw [beq_eq_false_iff_ne]
    rintro rfl
    exact absurd kept (by decide)
  simp [List.count_cons, other]

theorem partCells_ne_nil (p : Text) : partCells p ≠ [] := by
  simpa [partCells] using pieces_ne_nil (' ' :: (p ++ [' ']))

/-- A part without pipes is a cell, but for the blanks around it. -/
theorem partCells_plain {p : Text} (plain : '|' ∉ p) : partCells p = [trim p] := by
  have whole : '|' ∉ ' ' :: (p ++ [' ']) := by simp [plain]
  rw [partCells, pieces_plain whole, List.map_singleton, trim_blanks]

/-- In the one cell of a part, a backslash is missing for each pipe. -/
theorem count_partCells {p q : Text} (one : partCells p = [q]) :
    q.count '\\' + p.count '|' = p.count '\\' := by
  have counts := pieces_counts (' ' :: (p ++ [' ']))
  obtain ⟨piece, single⟩ : ∃ piece, pieces (' ' :: (p ++ [' '])) = [piece] := by
    have length := congrArg List.length one
    rw [partCells, List.length_map] at length
    exact List.length_eq_one_iff.mp length
  have cell : trim piece = q := by
    have same := one
    rw [partCells, single] at same
    exact List.head_eq_of_cons_eq same
  rw [single, count_blanks (by decide), count_blanks (by decide)] at counts
  rw [← cell, count_trim (by decide)]
  simp only [List.map_cons, List.map_nil, List.sum_cons, List.sum_nil, List.length_cons,
    List.length_nil] at counts
  omega

/-- As many cells as parts: each part is one cell. -/
theorem partCells_single {parts : List Text}
    (count : (parts.flatMap partCells).length = parts.length) :
    ∀ p ∈ parts, ∃ q, partCells p = [q] := by
  have atLeast : ∀ ps : List Text, ps.length ≤ (ps.flatMap partCells).length := by
    intro ps
    induction ps with
    | nil => exact Nat.le_refl 0
    | cons p ps ih =>
      have some := List.length_pos_iff.mpr (partCells_ne_nil p)
      rw [List.flatMap_cons, List.length_append, List.length_cons]
      omega
  induction parts with
  | nil => exact fun p none => absurd none List.not_mem_nil
  | cons p parts ih =>
    have some := List.length_pos_iff.mpr (partCells_ne_nil p)
    have rest := atLeast parts
    rw [List.flatMap_cons, List.length_append, List.length_cons] at count
    intro q hq
    rcases List.mem_cons.mp hq with rfl | hq
    · exact List.length_eq_one_iff.mp (by omega)
    · exact ih (by omega) q hq

end CompleteDeviceManagement.Library.MarkdownTable
