import CompleteDeviceManagement.Library.Utf8
import Mathlib.Data.List.TakeWhile

/-!
# Configuration files in sections

A file is read line by line: from `#` on a line is comment, white space counts
nowhere, `[title]` opens a section and `name = value` goes to the last one.
Titles and names are read without regard to case. Text that is appended after a
complete file and opens a section of its own leaves the sections before it as
they are (`parse_append`).
-/

set_option autoImplicit false

namespace CompleteDeviceManagement.Library.Ini

structure Section where
  title : String
  members : List (String × String)
  deriving DecidableEq

inductive Line where
  | blank
  | header (title : String)
  | member (name value : String)
  deriving DecidableEq

def cleaned (line : List Char) : List Char :=
  (line.takeWhile fun c => decide (c ≠ '#')).filter fun c => !c.isWhitespace

def lowered (cs : List Char) : String := .ofList (cs.map Char.toLower)

/-- The text in front of the first `=`, and the text behind it. -/
def beforeEquals (cs : List Char) : List Char := cs.takeWhile fun c => decide (c ≠ '=')

def afterEquals (cs : List Char) : List Char := (cs.dropWhile fun c => decide (c ≠ '=')).drop 1

def readCleaned : List Char → Line
  | [] => .blank
  | '[' :: rest => .header (lowered (rest.takeWhile fun c => decide (c ≠ ']')))
  | cs => .member (lowered (beforeEquals cs)) (.ofList (afterEquals cs))

def readLine (line : List Char) : Line := readCleaned (cleaned line)

def addMember (name value : String) : List Section → List Section
  | [] => []
  | [last] => [{ last with members := last.members ++ [(name, value)] }]
  | first :: rest => first :: addMember name value rest

def addLine (sections : List Section) : Line → List Section
  | .blank => sections
  | .header title => sections ++ [⟨title, []⟩]
  | .member name value => addMember name value sections

def linesOf (text : String) : List Line := (text.toList.splitOn '\n').map readLine

def parse (text : String) : List Section := (linesOf text).foldl addLine []

namespace Section

/-- The values under `name`, in the order of the file. -/
def values (s : Section) (name : String) : List String :=
  (s.members.filter fun member => decide (member.1 = name)).map Prod.snd

end Section

/-! ## Appended text -/

theorem linesOf_append (conf rest : String) :
    linesOf (conf ++ "\n" ++ rest) = linesOf conf ++ linesOf rest := by
  have chars : (conf ++ "\n" ++ rest).toList = conf.toList ++ '\n' :: rest.toList := by
    simp
  unfold linesOf
  rw [chars, List.splitOn_append_cons_self, List.map_append]

theorem linesOf_line {line : String} (whole : '\n' ∉ line.toList) :
    linesOf line = [readLine line.toList] := by
  unfold linesOf
  rw [List.splitOn_eq_singleton whole, List.map_singleton]

theorem linesOf_cons {line rest : String} {first : Line} {others : List Line}
    (hline : linesOf line = [first]) (hrest : linesOf rest = others) :
    linesOf (line ++ "\n" ++ rest) = first :: others := by
  rw [linesOf_append, hline, hrest]
  rfl

theorem addMember_append (name value : String) (before : List Section) {sections : List Section}
    (nonempty : sections ≠ []) :
    addMember name value (before ++ sections) = before ++ addMember name value sections := by
  induction before with
  | nil => rfl
  | cons first before ih =>
    cases hrest : before ++ sections with
    | nil => exact absurd (List.append_eq_nil_iff.mp hrest).2 nonempty
    | cons next rest =>
      rw [hrest] at ih
      simp only [List.cons_append, hrest, addMember, ih]

theorem addMember_ne_nil {name value : String} {sections : List Section}
    (nonempty : sections ≠ []) : addMember name value sections ≠ [] := by
  cases sections with
  | nil => exact absurd rfl nonempty
  | cons first rest =>
    cases rest with
    | nil => simp [addMember]
    | cons next rest => simp [addMember]

theorem addLine_append (before : List Section) {sections : List Section}
    (nonempty : sections ≠ []) (line : Line) :
    addLine (before ++ sections) line = before ++ addLine sections line := by
  cases line with
  | blank => rfl
  | header title => exact List.append_assoc _ _ _
  | member name value => exact addMember_append name value before nonempty

theorem addLine_ne_nil {sections : List Section} (nonempty : sections ≠ []) (line : Line) :
    addLine sections line ≠ [] := by
  cases line with
  | blank => exact nonempty
  | header title => simp [addLine]
  | member name value => exact addMember_ne_nil nonempty

theorem foldl_addLine_append (before : List Section) (lines : List Line)
    {sections : List Section} (nonempty : sections ≠ []) :
    lines.foldl addLine (before ++ sections) = before ++ lines.foldl addLine sections := by
  induction lines generalizing sections with
  | nil => rfl
  | cons line lines ih =>
    simp only [List.foldl_cons]
    rw [addLine_append before nonempty]
    exact ih (addLine_ne_nil nonempty line)

/-- A text whose first line is a header is read in the same way behind any file. -/
theorem parse_append (conf : String) {rest title : String} {lines : List Line}
    (opens : linesOf rest = .header title :: lines) :
    parse (conf ++ "\n" ++ rest) = parse conf ++ parse rest := by
  unfold parse
  rw [linesOf_append, List.foldl_append, opens]
  have own : ([⟨title, []⟩] : List Section) ≠ [] := List.cons_ne_nil _ _
  exact foldl_addLine_append _ lines own

/-! ## Lines -/

theorem cleaned_comment (line : List Char) : cleaned ('#' :: line) = [] := by
  simp [cleaned]

/-- Cleaning is done from left to right, up to the first `#`. -/
theorem cleaned_append {front : List Char} (plain : '#' ∉ front) (rest : List Char) :
    cleaned (front ++ rest) = cleaned front ++ cleaned rest := by
  have open_ : ∀ c ∈ front, decide (c ≠ '#') = true := by
    intro c hc
    have hne : c ≠ '#' := fun h => plain (h ▸ hc)
    simpa using hne
  unfold cleaned
  rw [List.takeWhile_append_of_pos open_, List.takeWhile_eq_self_iff.mpr open_, List.filter_append]

/-- A text without `#` and without white space. -/
def Plain (cs : List Char) : Prop := ∀ c ∈ cs, c ≠ '#' ∧ c.isWhitespace = false

instance (cs : List Char) : Decidable (Plain cs) :=
  inferInstanceAs (Decidable (∀ c ∈ cs, c ≠ '#' ∧ c.isWhitespace = false))

theorem cleaned_eq_self_iff (cs : List Char) : cleaned cs = cs ↔ Plain cs := by
  constructor
  · intro same c hc
    rw [← same] at hc
    obtain ⟨taken, visible⟩ := List.mem_filter.mp hc
    have hne := List.mem_takeWhile_imp taken
    exact ⟨by simpa using hne, by simpa using visible⟩
  · intro plain
    have open_ : ∀ c ∈ cs, decide (c ≠ '#') = true := fun c hc => by simpa using (plain c hc).1
    have visible : ∀ c ∈ cs, (!c.isWhitespace) = true := fun c hc => by simp [(plain c hc).2]
    unfold cleaned
    rw [List.takeWhile_eq_self_iff.mpr open_, List.filter_eq_self.mpr visible]

/-- A line `name = value` whose name is plain. -/
theorem readCleaned_member {c : Char} {n : List Char} (value : List Char) (first : c ≠ '[')
    (unequal : '=' ∉ c :: n) :
    readCleaned (c :: n ++ '=' :: value) = .member (lowered (c :: n)) (.ofList value) := by
  have before : ∀ x ∈ c :: n, decide (x ≠ '=') = true := by
    intro x hx
    have hne : x ≠ '=' := fun h => unequal (h ▸ hx)
    simpa using hne
  have front : beforeEquals (c :: n ++ '=' :: value) = c :: n := by
    unfold beforeEquals
    rw [List.takeWhile_append_of_pos before]
    simp
  have back : afterEquals (c :: n ++ '=' :: value) = value := by
    unfold afterEquals
    rw [List.dropWhile_append_of_pos before]
    simp
  have member : readCleaned (c :: n ++ '=' :: value) =
      .member (lowered (beforeEquals (c :: n ++ '=' :: value)))
        (.ofList (afterEquals (c :: n ++ '=' :: value))) := by
    rw [List.cons_append]
    unfold readCleaned
    split
    · contradiction
    · rename_i rest heq
      exact absurd (List.cons.inj heq).1 first
    · rfl
  rw [member, front, back]

/-- A line as it is mostly written, with blanks around the `=`. -/
theorem readLine_member {c : Char} {n : List Char} (value : List Char) (first : c ≠ '[')
    (unequal : '=' ∉ c :: n) (plain : Plain (c :: n)) :
    readLine (c :: n ++ [' ', '=', ' '] ++ value) =
      .member (lowered (c :: n)) (.ofList (cleaned value)) := by
  have front : '#' ∉ c :: n ++ [' ', '=', ' '] := by
    intro hash
    rcases List.mem_append.mp hash with hash | hash
    · exact (plain '#' hash).1 rfl
    · exact absurd hash (by decide)
  have name : '#' ∉ c :: n := fun hash => (plain '#' hash).1 rfl
  have mark : cleaned [' ', '=', ' '] = ['='] := by decide
  rw [readLine, cleaned_append front, cleaned_append name, (cleaned_eq_self_iff _).mpr plain, mark,
    List.append_assoc]
  exact readCleaned_member (cleaned value) first unequal

/-! ## Lines that open no section -/

/-- The lines behind the first line break. -/
def laterLines (text : String) : List Line := ((text.toList.splitOn '\n').tail).map readLine

def Line.isHeader : Line → Bool
  | .header _ => true
  | _ => false

def Line.member? : Line → Option (String × String)
  | .member name value => some (name, value)
  | _ => none

/-- Text put in front goes to the first line. -/
theorem linesOf_front {front : String} (whole : '\n' ∉ front.toList) (text : String) :
    ∃ first, linesOf (front ++ text) = readLine (front.toList ++ first) :: laterLines text ∧
      first <+: text.toList := by
  have split : ∀ cs : List Char, ∃ first rest, cs.splitOn '\n' = first :: rest ∧
      (front.toList ++ cs).splitOn '\n' = (front.toList ++ first) :: rest ∧ first <+: cs := by
    intro cs
    by_cases hmem : '\n' ∈ cs
    · obtain ⟨first, rest, rfl, hfirst⟩ := List.eq_append_cons_of_mem hmem
      have joined : '\n' ∉ front.toList ++ first := by
        rw [List.mem_append]
        exact fun h => h.elim whole hfirst
      refine ⟨first, rest.splitOn '\n', List.splitOn_append_cons_self_of_not_mem hfirst _, ?_,
        List.prefix_append _ _⟩
      rw [← List.append_assoc, List.splitOn_append_cons_self_of_not_mem joined]
    · have joined : '\n' ∉ front.toList ++ cs := by
        rw [List.mem_append]
        exact fun h => h.elim whole hmem
      exact ⟨cs, [], List.splitOn_eq_singleton hmem, List.splitOn_eq_singleton joined,
        List.prefix_refl _⟩
  obtain ⟨first, rest, htext, hjoined, hprefix⟩ := split text.toList
  refine ⟨first, ?_, hprefix⟩
  unfold linesOf laterLines
  rw [String.toList_append, hjoined, htext]
  rfl

theorem addMember_length (name value : String) (sections : List Section) :
    (addMember name value sections).length = sections.length := by
  induction sections with
  | nil => rfl
  | cons first rest ih =>
    cases rest with
    | nil => rfl
    | cons next rest => simpa [addMember] using ih

theorem foldl_addLine_length (lines : List Line) (sections : List Section) :
    (lines.foldl addLine sections).length =
      sections.length + (lines.filter Line.isHeader).length := by
  induction lines generalizing sections with
  | nil => rfl
  | cons line lines ih =>
    rw [List.foldl_cons, ih]
    cases line with
    | blank => rfl
    | header title =>
      have hcount : ((Line.header title :: lines).filter Line.isHeader).length =
          (lines.filter Line.isHeader).length + 1 := rfl
      rw [hcount, addLine, List.length_append, List.length_singleton]
      omega
    | member name value => simp [addLine, addMember_length, Line.isHeader]

/-- Without a header every line goes to the section that is open. -/
theorem foldl_addLine_members {lines : List Line} (plain : ∀ line ∈ lines, line.isHeader = false)
    (s : Section) :
    lines.foldl addLine [s] =
      [{ s with members := s.members ++ lines.filterMap Line.member? }] := by
  induction lines generalizing s with
  | nil => simp
  | cons line lines ih =>
    have rest : ∀ line ∈ lines, line.isHeader = false :=
      fun line h => plain line (List.mem_cons_of_mem _ h)
    rw [List.foldl_cons]
    cases line with
    | blank => exact ih rest s
    | header title => cases plain (.header title) List.mem_cons_self
    | member name value =>
      have step : addLine [s] (.member name value) =
          [{ s with members := s.members ++ [(name, value)] }] := rfl
      rw [step, ih rest]
      simp [Line.member?]

/-! ## Values -/

/-- What is read of a line has no comment and no white space. -/
theorem plain_cleaned (line : List Char) : Plain (cleaned line) := by
  intro c hc
  obtain ⟨taken, visible⟩ := List.mem_filter.mp hc
  have hne := List.mem_takeWhile_imp taken
  exact ⟨by simpa using hne, by simpa using visible⟩

theorem plain_afterEquals {cs : List Char} (h : Plain cs) : Plain (afterEquals cs) := by
  intro c hc
  exact h c ((List.dropWhile_sublist _).subset (List.mem_of_mem_drop hc))

theorem plain_value {line : List Char} {name value : String}
    (h : readLine line = .member name value) : Plain value.toList := by
  have after : ∀ cs, Plain cs → readCleaned cs = .member name value → Plain value.toList := by
    intro cs plain hread
    unfold readCleaned at hread
    split at hread
    · cases hread
    · cases hread
    · cases hread
      rw [String.toList_ofList]
      exact plain_afterEquals plain
  exact after _ (plain_cleaned line) h

theorem plain_of_mem_lines {text name value : String} (h : Line.member name value ∈ linesOf text) :
    Plain value.toList := by
  obtain ⟨line, _, hline⟩ := List.mem_map.mp h
  exact plain_value hline

theorem mem_addMember {name value : String} {sections : List Section} {s : Section}
    {member : String × String} (hs : s ∈ addMember name value sections)
    (hmember : member ∈ s.members) :
    member = (name, value) ∨ ∃ s ∈ sections, member ∈ s.members := by
  induction sections with
  | nil => cases hs
  | cons first rest ih =>
    cases rest with
    | nil =>
      rw [addMember, List.mem_singleton] at hs
      subst hs
      rcases List.mem_append.mp hmember with hold | hnew
      · exact .inr ⟨first, List.mem_cons_self, hold⟩
      · exact .inl (List.mem_singleton.mp hnew)
    | cons next rest =>
      have step : addMember name value (first :: next :: rest) =
          first :: addMember name value (next :: rest) := rfl
      rw [step, List.mem_cons] at hs
      rcases hs with rfl | hs
      · exact .inr ⟨s, List.mem_cons_self, hmember⟩
      · rcases ih hs with heq | ⟨s', hs', hmem⟩
        · exact .inl heq
        · exact .inr ⟨s', List.mem_cons_of_mem _ hs', hmem⟩

/-- A member of a section was on a line. -/
theorem mem_foldl_addLine {lines : List Line} {sections : List Section} {s : Section}
    {name value : String} (hs : s ∈ lines.foldl addLine sections)
    (hmember : (name, value) ∈ s.members) :
    Line.member name value ∈ lines ∨ ∃ s ∈ sections, (name, value) ∈ s.members := by
  induction lines generalizing sections with
  | nil => exact .inr ⟨s, hs, hmember⟩
  | cons line lines ih =>
    rcases ih hs with hline | ⟨s', hs', hmem⟩
    · exact .inl (List.mem_cons_of_mem _ hline)
    · cases line with
      | blank => exact .inr ⟨s', hs', hmem⟩
      | header title =>
        rcases List.mem_append.mp hs' with hold | hnew
        · exact .inr ⟨s', hold, hmem⟩
        · rw [List.mem_singleton.mp hnew] at hmem
          cases hmem
      | member name' value' =>
        rcases mem_addMember hs' hmem with heq | hold
        · cases heq
          exact .inl List.mem_cons_self
        · exact .inr hold

theorem plain_of_mem_parse {text : String} {s : Section} {name value : String}
    (hs : s ∈ parse text) (hmember : (name, value) ∈ s.members) : Plain value.toList := by
  rcases mem_foldl_addLine hs hmember with hline | ⟨s', hs', _⟩
  · exact plain_of_mem_lines hline
  · cases hs'

end CompleteDeviceManagement.Library.Ini
