import Mathlib.Data.List.DropRight

/-!
# The last component of a path

`basename` drops the slashes at the end of a path and everything up to the last
slash that is left. What it prints is a given component exactly if the path is
that component, or ends in a slash and that component, with slashes behind it.
-/

set_option autoImplicit false

namespace CompleteDeviceManagement.Library.PosixPath

abbrev Text := List Char

def slashes (n : Nat) : Text := List.replicate n '/'

/-- `basename path`; of slashes alone one is left. -/
def basename (path : Text) : Text :=
  match path.rdropWhile (· == '/') with
  | [] => path.take 1
  | c :: stripped => (c :: stripped).rtakeWhile (· != '/')

/-! ## The slashes at the end -/

theorem stripped_split (path : Text) :
    ∃ n, path = path.rdropWhile (· == '/') ++ slashes n := by
  induction path using List.reverseRecOn with
  | nil => exact ⟨0, rfl⟩
  | append_singleton front c ih =>
    by_cases slash : c = '/'
    · subst slash
      obtain ⟨n, hn⟩ := ih
      refine ⟨n + 1, ?_⟩
      rw [List.rdropWhile_concat_pos _ _ _ (by decide), slashes, List.replicate_succ',
        ← List.append_assoc]
      rw [slashes] at hn
      rw [← hn]
    · refine ⟨0, ?_⟩
      rw [List.rdropWhile_concat_neg _ _ _ (by simpa using slash)]
      simp [slashes]

theorem stripped_slashes (front : Text) (n : Nat) :
    (front ++ slashes n).rdropWhile (· == '/') = front.rdropWhile (· == '/') := by
  induction n with
  | zero => simp [slashes]
  | succ n ih =>
    rw [slashes, List.replicate_succ', ← List.append_assoc,
      List.rdropWhile_concat_pos _ _ _ (by decide)]
    exact ih

variable {segment : Text}

/-- A component ends in no slash. -/
theorem stripped_segment (nonempty : segment ≠ []) (plain : '/' ∉ segment) (front : Text) :
    (front ++ segment).rdropWhile (· == '/') = front ++ segment := by
  rcases List.eq_nil_or_concat segment with rfl | ⟨start, c, rfl⟩
  · exact absurd rfl nonempty
  · have other : c ≠ '/' := by
      intro slash
      exact plain (by simp [slash])
    rw [List.concat_eq_append, ← List.append_assoc]
    exact List.rdropWhile_concat_neg _ _ _ (by simpa using other)

/-! ## The last component -/

theorem last_segment (plain : '/' ∉ segment) (front : Text) :
    (front ++ '/' :: segment).rtakeWhile (· != '/') = segment := by
  induction segment using List.reverseRecOn with
  | nil => exact List.rtakeWhile_concat_neg _ _ _ (by decide)
  | append_singleton start c ih =>
    have other : c ≠ '/' := by
      intro slash
      exact plain (by simp [slash])
    have rest : '/' ∉ start := fun member => plain (List.mem_append_left _ member)
    rw [← List.cons_append, ← List.append_assoc,
      List.rtakeWhile_concat_pos _ _ _ (by simpa using other), ih rest]

theorem last_only (plain : '/' ∉ segment) : segment.rtakeWhile (· != '/') = segment := by
  rw [List.rtakeWhile_eq_self_iff]
  intro c member
  have other : c ≠ '/' := fun slash => plain (slash ▸ member)
  simpa using other

/-- What stands before the last component is nothing, or ends in a slash. -/
theorem last_split (path : Text) :
    path = path.rtakeWhile (· != '/') ∨
      ∃ front, path = front ++ '/' :: path.rtakeWhile (· != '/') := by
  induction path using List.reverseRecOn with
  | nil => exact .inl rfl
  | append_singleton start c ih =>
    by_cases slash : c = '/'
    · subst slash
      rw [List.rtakeWhile_concat_neg _ _ _ (by decide)]
      exact .inr ⟨start, rfl⟩
    · rw [List.rtakeWhile_concat_pos _ _ _ (by simpa using slash)]
      rcases ih with whole | ⟨front, split⟩
      · exact .inl (by rw [← whole])
      · refine .inr ⟨front, ?_⟩
        rw [← List.cons_append, ← List.append_assoc, ← split]

/-! ## `basename` -/

theorem basename_of_stripped {path : Text} (some : path.rdropWhile (· == '/') ≠ []) :
    basename path = (path.rdropWhile (· == '/')).rtakeWhile (· != '/') := by
  unfold basename
  split
  next none => exact absurd none some
  next c stripped heq => rw [heq]

theorem basename_segment (nonempty : segment ≠ []) (plain : '/' ∉ segment) (front : Text)
    (n : Nat) : basename (front ++ '/' :: (segment ++ slashes n)) = segment := by
  have stripped : (front ++ '/' :: (segment ++ slashes n)).rdropWhile (· == '/') =
      front ++ '/' :: segment := by
    have inside := stripped_segment nonempty plain (front ++ ['/'])
    rw [← List.cons_append, ← List.append_assoc, stripped_slashes]
    simpa using inside
  rw [basename_of_stripped (by simp [stripped]), stripped, last_segment plain]

theorem basename_only (nonempty : segment ≠ []) (plain : '/' ∉ segment) (n : Nat) :
    basename (segment ++ slashes n) = segment := by
  have stripped : (segment ++ slashes n).rdropWhile (· == '/') = segment := by
    rw [stripped_slashes]
    exact stripped_segment nonempty plain []
  rw [basename_of_stripped (by rwa [stripped]), stripped, last_only plain]

theorem basename_eq_iff (nonempty : segment ≠ []) (plain : '/' ∉ segment) (path : Text) :
    basename path = segment ↔
      ∃ n, path = segment ++ slashes n ∨
        ∃ front, path = front ++ '/' :: (segment ++ slashes n) := by
  constructor
  · intro named
    obtain ⟨n, split⟩ := stripped_split path
    have some : path.rdropWhile (· == '/') ≠ [] := by
      intro none
      unfold basename at named
      rw [none] at named
      rw [none, List.nil_append] at split
      simp only [split, slashes, List.take_replicate] at named
      cases hmin : min 1 n with
      | zero => exact nonempty (by rw [← named, hmin]; rfl)
      | succ m => exact plain (by rw [← named, hmin]; simp)
    rw [basename_of_stripped some] at named
    refine ⟨n, ?_⟩
    rcases last_split (path.rdropWhile (· == '/')) with whole | ⟨front, before⟩
    · rw [named] at whole
      rw [whole] at split
      exact .inl split
    · rw [named] at before
      rw [before] at split
      exact .inr ⟨front, by simpa using split⟩
  · rintro ⟨n, rfl | ⟨front, rfl⟩⟩
    · exact basename_only nonempty plain n
    · exact basename_segment nonempty plain front n

/-! ## Paths that are not slashes alone -/

theorem stripped_ne_nil {path : Text} (some : ∃ c ∈ path, c ≠ '/') :
    path.rdropWhile (· == '/') ≠ [] := by
  intro none
  obtain ⟨c, member, other⟩ := some
  have slash := List.rdropWhile_eq_nil_iff.mp none c member
  exact other (by simpa using slash)

theorem basename_component {path : Text} (some : ∃ c ∈ path, c ≠ '/') :
    basename path ≠ [] ∧ '/' ∉ basename path := by
  have left := stripped_ne_nil some
  rw [basename_of_stripped left]
  constructor
  · intro none
    have last := List.rtakeWhile_eq_nil_iff.mp none left
    have other := List.rdropWhile_last_not (· == '/') path left
    simp only [bne_iff_ne, ne_eq, Decidable.not_not] at last
    exact other (by simpa using last)
  · intro member
    have other := List.mem_rtakeWhile_imp member
    simp at other

theorem mem_of_mem_basename {path : Text} (some : ∃ c ∈ path, c ≠ '/') {c : Char}
    (member : c ∈ basename path) : c ∈ path := by
  rw [basename_of_stripped (stripped_ne_nil some)] at member
  have inside := (List.rtakeWhile_suffix _ _).mem member
  exact (List.rdropWhile_prefix _ _).mem inside

/-- Only what stands behind a slash counts, if it is not slashes alone. -/
theorem basename_behind {path : Text} (some : ∃ c ∈ path, c ≠ '/') (front : Text) :
    basename (front ++ '/' :: path) = basename path := by
  obtain ⟨nonempty, plain⟩ := basename_component some
  obtain ⟨n, split⟩ := (basename_eq_iff nonempty plain path).mp rfl
  rw [basename_eq_iff nonempty plain]
  refine ⟨n, .inr ?_⟩
  rcases split with whole | ⟨before, split⟩
  · exact ⟨front, by rw [← whole]⟩
  · exact ⟨front ++ '/' :: before, by rw [List.append_assoc, List.cons_append, ← split]⟩

end CompleteDeviceManagement.Library.PosixPath
