import CompleteDeviceManagement.Library.JsonTemplate
import CompleteDeviceManagement.Source.RealmTemplates

/-!
# What the realm templates become

The values are spliced into sed replacements as they are, and the expressions run
over what the ones before have written. The realm is the template's with the
values in it for values without `"`, `\`, `&`, `|` and control characters of which
none makes a placeholder of another variable.
-/

set_option autoImplicit false

namespace CompleteDeviceManagement.Guarantees.RealmTemplates
open CompleteDeviceManagement.Library CompleteDeviceManagement.Library.Placeholders
  CompleteDeviceManagement.Library.JsonTemplate CompleteDeviceManagement.Source.RealmTemplates
open CompleteDeviceManagement.Library.JsonText (Spells spells_plain parse_of_reads)
open CompleteDeviceManagement.Library.Sed (Editor Literal Part Subst replaceAll replacement)

/-! ## The placeholders of a stack -/

abbrev Known (stack : Stack) := { v : Variable // v ∈ substituted stack }

theorem names_plain (stack : Stack) :
    ∀ v ∈ substituted stack, ∀ c ∈ v.name.toList, c.isAlphanum = true ∨ c = '_' := by
  cases stack <;> decide +kernel

theorem name_injective {stack : Stack} (v w : Known stack) (h : v.val.name = w.val.name) :
    v = w := by
  have distinct : ∀ v ∈ substituted stack, ∀ w ∈ substituted stack, v.name = w.name → v = w := by
    cases stack <;> decide +kernel
  exact Subtype.ext (distinct v.val v.property w.val w.property h)

theorem not_in_name {stack : Stack} (v : Known stack) {c : Char}
    (other : c.isAlphanum = false ∧ c ≠ '_') : c ∉ v.val.name.toList := by
  intro inside
  rcases names_plain stack v.val v.property c inside with letter | line
  · rw [other.1] at letter
    cases letter
  · exact other.2 line

def marks (stack : Stack) : Marks (Known stack) where
  opening := '$'
  closing := '\x7d'
  inner v := '\x7b' :: v.val.name.toList
  differ := by decide
  noOpening := by
    intro v opens
    rcases List.mem_cons.mp opens with same | inside
    · exact absurd same (by decide)
    · exact not_in_name v (by decide) inside
  noClosing := by
    intro v closes
    rcases List.mem_cons.mp closes with same | inside
    · exact absurd same (by decide)
    · exact not_in_name v (by decide) inside
  injective := by
    intro v w same
    exact name_injective v w (String.toList_injective (List.cons.inj same).2)

theorem mark_eq {stack : Stack} (v : Known stack) :
    (marks stack).mark v = v.val.placeholder := rfl

theorem placeholder_ne_nil (v : Variable) : v.placeholder ≠ [] := by
  simp [Variable.placeholder]

theorem placeholder_letters {stack : Stack} (v : Known stack) :
    ∀ c ∈ v.val.placeholder, 32 ≤ c.toNat ∧ c ∉ ['"', '\\', '&', '|'] := by
  have letters : ∀ v ∈ substituted stack, ∀ c ∈ v.placeholder,
      32 ≤ c.toNat ∧ c ∉ ['"', '\\', '&', '|'] := by
    cases stack <;> decide +kernel
  exact letters v.val v.property

theorem placeholder_literal {stack : Stack} (v : Known stack) : Literal v.val.placeholder := by
  have literal : ∀ v ∈ substituted stack, Literal v.placeholder := by
    cases stack <;> decide +kernel
  exact literal v.val v.property

/-! ## What is asked of the templates and of the values -/

/-- A JSON text in which every placeholder of the stack is a place in a string. -/
structure Template (stack : Stack) where
  gap : Gap
  node : Node (Known stack)
  behind : Gap
  whole : ∀ v, Whole ((marks stack).mark v) (lits gap.text ++ (node.pieces ++ lits behind.text))

def Template.pieces {stack : Stack} (t : Template stack) : List (Piece (Known stack)) :=
  lits t.gap.text ++ (t.node.pieces ++ lits t.behind.text)

def Template.text {stack : Stack} (t : Template stack) : Sed.Text :=
  filled (fun v => v.val.placeholder) t.pieces

/-- All places filled at once. -/
def Template.json {stack : Stack} (t : Template stack) (env : Environment) : Json :=
  t.node.value fun v => v.val.value env

/-- Whatever sed writes for a template, with the expressions in any order, is its JSON
with the values in it. -/
def Faithful (sed : Editor) (stack : Stack) (env : Environment) : Prop :=
  ∀ template : Template stack, ∀ order, order.Perm (substituted stack) → ∀ out,
    renderWith sed order env template.text = some out →
      JsonText.parse (.ofList out) = some (template.json env)

/-- A character that sed and JSON leave as it is. -/
def Plain (c : Char) : Prop := 32 ≤ c.toNat ∧ c ∉ ['"', '\\', '&', '|']

structure Sound (stack : Stack) (env : Environment) : Prop where
  plain : ∀ v ∈ substituted stack, ∀ c ∈ v.value env, Plain c
  apart : ∀ v ∈ substituted stack, ∀ w ∈ substituted stack, v ≠ w →
    w.value env = w.placeholder ∨ ¬ Makes (v.value env) w.placeholder

/-- The standard says what the expressions mean, or that they are errors. -/
def Specified (stack : Stack) (env : Environment) : Prop :=
  ∀ v ∈ substituted stack, Sed.parse (v.expression env) ≠ .unspecified

def Refused (stack : Stack) (env : Environment) : Prop :=
  ∃ v ∈ substituted stack, Sed.parse (v.expression env) = .refused

/-! ## The program -/

/-- What the replacements consist of. -/
structure Program (stack : Stack) (env : Environment) where
  parts : Variable → List Part
  done : ∀ v ∈ substituted stack,
    replacement '|' (v.value env ++ '|' :: ['g']) = .done (parts v, ['g'])

variable {stack : Stack} {env : Environment}

def Program.new (program : Program stack env) (v : Variable) : Sed.Text :=
  (program.parts v).flatMap (Part.text v.placeholder)

def fill (new : Variable → Sed.Text) (order : List Variable) (text : Sed.Text) : Sed.Text :=
  order.foldl (fun text v => replaceAll v.placeholder (new v) text) text

theorem parse_expression {v : Variable} (known : v ∈ substituted stack) :
    Sed.parse (v.expression env) =
      Sed.command '|' v.placeholder (v.value env ++ '|' :: ['g']) := by
  have absent : '|' ∉ v.placeholder := by
    intro inside
    exact (placeholder_letters ⟨v, known⟩ '|' inside).2 (by decide)
  exact Sed.parse_command absent _

theorem Program.parse (program : Program stack env) {v : Variable}
    (known : v ∈ substituted stack) :
    Sed.parse (v.expression env) = .done ⟨v.placeholder, program.parts v⟩ := by
  rw [parse_expression known, Sed.command, if_pos (placeholder_literal ⟨v, known⟩),
    program.done v known]
  rfl

theorem exists_program (specified : Specified stack env) (accepted : ¬ Refused stack env) :
    Nonempty (Program stack env) := by
  have each : ∀ v ∈ substituted stack, ∃ parts,
      replacement '|' (v.value env ++ '|' :: ['g']) = .done (parts, ['g']) := by
    intro v known
    have known' := specified v known
    have accepted' : Sed.parse (v.expression env) ≠ .refused := fun h => accepted ⟨v, known, h⟩
    rw [parse_expression known, Sed.command, if_pos (placeholder_literal ⟨v, known⟩)]
      at known' accepted'
    cases hread : replacement '|' (v.value env ++ '|' :: ['g']) with
    | refused => simp [hread] at accepted'
    | unspecified => simp [hread] at known'
    | done read =>
      obtain ⟨parts, flags⟩ := read
      rw [hread] at known' accepted'
      split at known'
      next heq => exact ⟨_, heq⟩
      next => split at accepted' <;> simp_all
      all_goals simp_all
  choose! parts hparts using each
  exact ⟨⟨parts, hparts⟩⟩

theorem Program.rendered (program : Program stack env) (sed : Editor) {order : List Variable}
    (known : ∀ v ∈ order, v ∈ substituted stack) (text : Sed.Text) :
    renderWith sed order env text = some (fill program.new order text) := by
  have done := Sed.program_done fun v hv => program.parse (known v hv)
  have inLine : ∀ subst ∈ order.map fun v => (⟨v.placeholder, program.parts v⟩ : Subst),
      subst.InLine := by
    intro subst hsubst
    obtain ⟨v, hv, rfl⟩ := List.mem_map.mp hsubst
    exact Literal.inLine (placeholder_literal ⟨v, known v hv⟩)
  rw [renderWith, sed.done _ _ text done, Sed.edited_eq inLine, Sed.edit, List.foldl_map]
  rfl

theorem refused_silent (sed : Editor) (specified : Specified stack env)
    (refused : Refused stack env) {order : List Variable} (perm : order.Perm (substituted stack))
    (text : Sed.Text) : renderWith sed order env text = none := by
  obtain ⟨v, known, hv⟩ := refused
  refine sed.refused _ text (Sed.program_refused ?_ ⟨_, ?_, hv⟩)
  · intro e he
    obtain ⟨w, hw, rfl⟩ := List.mem_map.mp he
    exact specified w (perm.mem_iff.mp hw)
  · exact List.mem_map_of_mem (perm.mem_iff.mpr known)

/-! ## Sound values -/

theorem exists_known {order : List Variable} (perm : order.Perm (substituted stack)) :
    ∃ known : List (Known stack), known.map Subtype.val = order ∧ known.Nodup ∧
      ∀ v, v ∈ known := by
  have within : ∀ v ∈ order, v ∈ substituted stack := fun v hv => perm.mem_iff.mp hv
  have distinct : order.Nodup := by
    rw [perm.nodup_iff]
    cases stack <;> decide +kernel
  have values := List.attachWith_map_subtype_val within
  refine ⟨order.attachWith (· ∈ substituted stack) within, values, ?_, ?_⟩
  · rw [← values] at distinct
    exact distinct.of_map
  · intro v
    rw [List.mem_attachWith]
    exact perm.mem_iff.mpr v.property

def Sound.program (sound : Sound stack env) : Program stack env where
  parts v := (v.value env).map .char
  done := by
    intro v known
    refine Sed.replacement_clean (by decide) ?_ ['g']
    intro c hc
    obtain ⟨printable, letter⟩ := sound.plain v known c hc
    refine ⟨fun h => letter (by simp [h]), fun h => letter (by simp [h]),
      fun h => letter (by simp [h]), ?_⟩
    intro line
    rw [line] at printable
    exact absurd printable (by decide)

theorem Sound.specified (sound : Sound stack env) : Specified stack env := by
  intro v known h
  rw [sound.program.parse known] at h
  cases h

theorem Sound.new_eq (sound : Sound stack env) (v : Variable) :
    sound.program.new v = v.value env := by
  have letters : ∀ text : Sed.Text,
      (text.map Part.char).flatMap (Part.text v.placeholder) = text := by
    intro text
    induction text with
    | nil => rfl
    | cons c text ih => exact congrArg (c :: ·) ih
  exact letters (v.value env)

/-- The expressions fill all places, in every order. -/
theorem Sound.fill_eq (sound : Sound stack env) (template : Template stack)
    {order : List Variable} (perm : order.Perm (substituted stack)) :
    fill sound.program.new order template.text =
      filled (fun v => v.val.value env) template.pieces := by
  obtain ⟨known, rfl, distinct, all⟩ := exists_known perm
  have apart : ∀ v ∈ known, v.val.value env = (marks stack).mark v ∨
      Apart (marks stack) (fun v => v.val.value env) v := by
    intro v _
    by_cases own : v.val.value env = v.val.placeholder
    · exact Or.inl own
    · right
      constructor
      intro w other
      have different : w.val ≠ v.val := fun same => other (Subtype.ext same)
      exact (sound.apart w.val w.property v.val v.property different).resolve_left own
  have all := fillEach_all distinct (fun v _ => all v) apart fun v _ => template.whole v
  rw [fill, List.foldl_map]
  simp only [sound.new_eq]
  exact all

theorem Sound.reads (sound : Sound stack env) (template : Template stack) :
    JsonText.parse (.ofList (filled (fun v => v.val.value env) template.pieces)) =
      some (template.json env) := by
  have spelled : ∀ v : Known stack, Spells (v.val.value env) (v.val.value env) := by
    intro v
    refine spells_plain ?_
    intro c hc
    obtain ⟨printable, letter⟩ := sound.plain v.val v.property c hc
    exact ⟨printable, fun h => letter (by simp [h]), fun h => letter (by simp [h])⟩
  rw [Template.pieces, filled_append, filled_append, filled_letters, filled_letters]
  exact parse_of_reads (Node.reads spelled template.node) template.gap.space template.behind.space

theorem Sound.faithful (sound : Sound stack env) (sed : Editor) : Faithful sed stack env := by
  intro template order perm out hout
  rw [sound.program.rendered sed fun v hv => perm.mem_iff.mp hv] at hout
  cases hout
  rw [sound.fill_eq template perm]
  exact sound.reads template

/-- The loop ends, and every import is its template with all places filled. -/
theorem Sound.imports (sound : Sound stack env) (sed : Editor)
    (templates : List (String × Template stack)) :
    prepareImports sed stack env (templates.map fun t => (t.1, t.2.text)) =
      (templates.map fun t =>
        (destination t.1, filled (fun v => v.val.value env) t.2.pieces), true) := by
  induction templates with
  | nil => rfl
  | cons t templates ih =>
    have rendered := sound.program.rendered sed (fun v hv => hv) t.2.text
    rw [sound.fill_eq t.2 (List.Perm.refl _)] at rendered
    rw [List.map_cons, prepareImports, render, rendered, ih]
    rfl

/-! ## One place in a string -/

/-- Letters around a place that neither end a placeholder before it nor begin one behind. -/
structure Around where
  before : Sed.Text
  after : Sed.Text
  plainBefore : ∀ c ∈ before, Plain c
  plainAfter : ∀ c ∈ after, Plain c
  closed : '\x7d' ∉ before
  opened : '$' ∉ after

theorem spells_of_plain {text : Sed.Text} (plain : ∀ c ∈ text, Plain c) : Spells text text := by
  refine spells_plain ?_
  intro c hc
  obtain ⟨printable, letter⟩ := plain c hc
  exact ⟨printable, fun h => letter (by simp [h]), fun h => letter (by simp [h])⟩

/-- `"before${NAME}after"` -/
def Around.node (a : Around) (v : Known stack) : Node (Known stack) :=
  .string [.letters a.before a.before (spells_of_plain a.plainBefore), .hole v,
    .letters a.after a.after (spells_of_plain a.plainAfter)]

theorem Around.pieces (a : Around) (v : Known stack) :
    (a.node v).pieces = between ('"' :: a.before) v (a.after ++ ['"']) := by
  simp [Around.node, Node.pieces, quotedPieces, literalPieces, Inside.pieces, between, lits]

theorem Around.front_closed (a : Around) : '\x7d' ∉ '"' :: a.before := by
  rw [List.mem_cons, not_or]
  exact ⟨by decide, a.closed⟩

theorem Around.behind_opened (a : Around) : '$' ∉ a.after ++ ['"'] := by
  rw [List.mem_append, not_or]
  exact ⟨a.opened, by decide⟩

def Around.template (a : Around) (v : Known stack) : Template stack where
  gap := ⟨[], JsonText.Style.space_nil⟩
  node := a.node v
  behind := ⟨[], JsonText.Style.space_nil⟩
  whole := by
    intro w
    have front : ¬ (marks stack).mark w <:+: '"' :: a.before := by
      intro inside
      exact a.front_closed (inside.subset (by simp [Marks.mark, marks]))
    have behind : ¬ (marks stack).mark w <:+: a.after ++ ['"'] := by
      intro inside
      exact a.behind_opened (inside.subset (by simp [Marks.mark, marks]))
    have whole := whole_between v (mark_ne_nil w) front behind
    rw [← a.pieces] at whole
    simpa [lits] using whole

theorem Around.text (a : Around) (v : Known stack) : (a.template v).text =
    '"' :: a.before ++ (v.val.placeholder ++ (a.after ++ ['"'])) := by
  have pieces : (a.template v).pieces = between ('"' :: a.before) v (a.after ++ ['"']) := by
    rw [← a.pieces]
    simp [Template.pieces, Around.template, lits]
  rw [Template.text, pieces, filled_between]

theorem Around.json (a : Around) (v : Known stack) : (a.template v).json env =
    .str (.ofList (a.before ++ (v.val.value env ++ a.after))) := by
  simp [Template.json, Around.template, Around.node, Node.value, literalMeaning, Inside.meaning]

theorem fill_others {new : Variable → Sed.Text} {order : List Variable} {v : Known stack}
    (known : ∀ w ∈ order, w ∈ substituted stack) (absent : v.val ∉ order) {front behind : Sed.Text}
    (closed : '\x7d' ∉ front) (opened : '$' ∉ behind) :
    fill new order (front ++ (v.val.placeholder ++ behind)) =
      front ++ (v.val.placeholder ++ behind) := by
  induction order with
  | nil => rfl
  | cons w order ih =>
    obtain ⟨other, later⟩ := not_or.mp (mt List.mem_cons.mpr absent)
    let w' : Known stack := ⟨w, known w List.mem_cons_self⟩
    have different : v ≠ w' := fun same => other (congrArg Subtype.val same)
    have step : replaceAll ((marks stack).mark w') (new w)
        (front ++ ((marks stack).mark v ++ behind)) = front ++ ((marks stack).mark v ++ behind) :=
      replaceAll_other closed opened different (new w)
    have rest := ih (fun u hu => known u (List.mem_cons_of_mem w hu)) later
    exact (congrArg (fill new order) step).trans rest

/-- What a faithful program makes of one place, when its variable comes behind the others. -/
theorem Faithful.read {sed : Editor} (faithful : Faithful sed stack env)
    (program : Program stack env) (a : Around) (v : Known stack) {others rest : List Variable}
    (perm : (others ++ v.val :: rest).Perm (substituted stack)) :
    JsonText.parse (.ofList (fill program.new rest
        ('"' :: a.before ++ (program.new v.val ++ (a.after ++ ['"']))))) =
      some (.str (.ofList (a.before ++ (v.val.value env ++ a.after)))) := by
  have known : ∀ w ∈ others ++ v.val :: rest, w ∈ substituted stack :=
    fun w hw => perm.mem_iff.mp hw
  have distinct : (others ++ v.val :: rest).Nodup := by
    rw [perm.nodup_iff]
    cases stack <;> decide +kernel
  have absent : v.val ∉ others := by
    intro inside
    exact (List.nodup_append.mp distinct).2.2 _ inside _ List.mem_cons_self rfl
  have written := program.rendered sed known (a.template v).text
  have read := faithful (a.template v) _ perm _ written
  have front : fill program.new others
      ('"' :: a.before ++ (v.val.placeholder ++ (a.after ++ ['"']))) =
        '"' :: a.before ++ (v.val.placeholder ++ (a.after ++ ['"'])) :=
    fill_others (fun w hw => known w (List.mem_append_left _ hw)) absent a.front_closed
      a.behind_opened
  have here : replaceAll ((marks stack).mark v) (program.new v.val)
      ('"' :: a.before ++ ((marks stack).mark v ++ (a.after ++ ['"']))) =
        '"' :: a.before ++ (program.new v.val ++ (a.after ++ ['"'])) :=
    replaceAll_here a.front_closed a.behind_opened v (program.new v.val)
  rw [fill] at front
  rw [mark_eq] at here
  rw [a.json, a.text, fill, List.foldl_append, List.foldl_cons, front, here] at read
  exact read

/-! ## Values of a faithful program -/

/-- Read back, a value has at most half of its backslashes. -/
theorem Program.no_backslash (program : Program stack env) (v : Known stack)
    (read : JsonText.parse (.ofList ('"' :: (program.new v.val ++ ['"']))) =
      some (.str (.ofList (v.val.value env)))) :
    '\\' ∉ v.val.value env ∧ '\\' ∉ program.new v.val := by
  have plain : '\\' ∉ v.val.placeholder := by
    intro inside
    exact (placeholder_letters v _ inside).2 (by decide)
  have half := Sed.count_replacement plain (program.done v.val v.property)
  have kept := count_of_parse read
  have new_eq : (program.parts v.val).flatMap (Part.text v.val.placeholder) =
    program.new v.val := rfl
  rw [String.toList_ofList, List.count_append] at kept
  rw [List.count_append, new_eq] at half
  have quote : List.count '\\' ['"'] = 0 := by decide
  have flags : List.count '\\' ('|' :: ['g']) = 0 := by decide
  constructor
  · refine List.count_eq_zero.mp ?_
    omega
  · refine List.count_eq_zero.mp ?_
    omega

theorem no_ampersand {value pattern : Sed.Text} (absent : '&' ∉ pattern)
    (same : (value.map fun c => if c = '&' then Part.matched else .char c).flatMap
      (Part.text pattern) = value) : '&' ∉ value := by
  intro inside
  rw [← same, List.mem_flatMap] at inside
  obtain ⟨part, hpart, hc⟩ := inside
  obtain ⟨c, -, rfl⟩ := List.mem_map.mp hpart
  by_cases amp : c = '&'
  · rw [if_pos amp] at hc
    exact absent hc
  · rw [if_neg amp] at hc
    exact amp (List.mem_singleton.mp hc).symm

/-- Each value is put in as it is, and all of its characters are plain. -/
theorem Faithful.plain {sed : Editor} (faithful : Faithful sed stack env)
    (program : Program stack env) (v : Known stack) :
    program.new v.val = v.val.value env ∧ ∀ c ∈ v.val.value env, Plain c := by
  have none : ∀ c ∈ ([] : Sed.Text), Plain c := fun c hc => absurd hc List.not_mem_nil
  have perm : ((substituted stack).erase v.val ++ [v.val]).Perm (substituted stack) :=
    List.perm_append_comm.trans (List.perm_cons_erase v.property).symm
  have read : JsonText.parse (.ofList ('"' :: (program.new v.val ++ ['"']))) =
      some (.str (.ofList (v.val.value env))) := by
    have read := faithful.read program ⟨[], [], none, none, by simp, by simp⟩ v perm
    rw [List.nil_append, List.append_nil] at read
    exact read
  obtain ⟨value_plain, new_plain⟩ := program.no_backslash v read
  obtain ⟨absent, parts⟩ := Sed.replacement_plain (by decide) value_plain
    (program.done v.val v.property)
  obtain ⟨same, letters⟩ := eq_of_parse new_plain read
  rw [String.toList_ofList] at same
  have amp : '&' ∉ v.val.value env := by
    have no_amp : '&' ∉ v.val.placeholder := by
      intro inside
      exact (placeholder_letters v _ inside).2 (by decide)
    rw [Program.new, parts] at same
    exact no_ampersand no_amp same.symm
  rw [← same] at letters
  refine ⟨same.symm, ?_⟩
  intro c hc
  obtain ⟨printable, quote⟩ := letters c hc
  refine ⟨printable, ?_⟩
  simp only [List.mem_cons, List.not_mem_nil, or_false, not_or]
  exact ⟨quote, fun h => value_plain (h ▸ hc), fun h => amp (h ▸ hc), fun h => absent (h ▸ hc)⟩

theorem replaceAll_quoted (w : Known stack) (new text : Sed.Text) :
    replaceAll w.val.placeholder new ('"' :: (text ++ ['"'])) =
      '"' :: (replaceAll w.val.placeholder new text ++ ['"']) := by
  have nonempty := placeholder_ne_nil w.val
  have quote : '"' ∉ w.val.placeholder :=
    fun inside => (placeholder_letters w _ inside).2 (by decide)
  have front : replaceAll w.val.placeholder new ([] ++ '"' :: (text ++ ['"'])) =
      replaceAll w.val.placeholder new [] ++ '"' :: replaceAll w.val.placeholder new
        (text ++ '"' :: []) := Sed.replaceAll_across nonempty quote [] (text ++ ['"'])
  rw [Sed.replaceAll_across nonempty quote text []] at front
  exact front

/-- What makes a placeholder of a value can stand around it in a template. -/
theorem exists_around {w : Known stack} {value : Sed.Text}
    (makes : Makes value w.val.placeholder) :
    ∃ a : Around, w.val.placeholder <:+: a.before ++ value ++ a.after := by
  obtain ⟨before, after, begins, proper, ends, proper', found⟩ := makes
  have letters : ∀ c ∈ w.val.placeholder, Plain c := placeholder_letters w
  rw [← mark_eq w] at begins proper ends proper'
  have closed : '\x7d' ∉ before := closing_not_mem begins proper
  have opened : '$' ∉ after := opening_not_mem ends proper'
  exact ⟨⟨before, after, fun c hc => letters c (begins.subset hc),
    fun c hc => letters c (ends.subset hc), closed, opened⟩, found⟩

/-- A value that makes a placeholder between letters of the template is overwritten. -/
theorem Faithful.apart {sed : Editor} (faithful : Faithful sed stack env)
    (program : Program stack env) {v w : Known stack} (different : v ≠ w)
    (makes : Makes (v.val.value env) w.val.placeholder) :
    w.val.value env = w.val.placeholder := by
  obtain ⟨a, found⟩ := exists_around makes
  have nonempty := placeholder_ne_nil w.val
  have other : w.val ∈ (substituted stack).erase v.val := by
    refine (List.mem_erase_of_ne ?_).mpr w.property
    exact fun same => different (Subtype.ext same.symm)
  -- the expression of `w` runs right behind that of `v`
  have perm : ((((substituted stack).erase v.val).erase w.val) ++ v.val :: [w.val]).Perm
      (substituted stack) := by
    have behind : ((((substituted stack).erase v.val).erase w.val) ++ [v.val, w.val]).Perm
        ([v.val, w.val] ++ ((substituted stack).erase v.val).erase w.val) :=
      List.perm_append_comm
    exact behind.trans (((List.perm_cons_erase other).symm.cons v.val).trans
      (List.perm_cons_erase v.property).symm)
  obtain ⟨same_v, plain_v⟩ := faithful.plain program v
  obtain ⟨same_w, plain_w⟩ := faithful.plain program w
  have written : fill program.new [w.val]
      ('"' :: a.before ++ (program.new v.val ++ (a.after ++ ['"']))) =
        '"' :: (replaceAll w.val.placeholder (w.val.value env)
          (a.before ++ v.val.value env ++ a.after) ++ ['"']) := by
    rw [← replaceAll_quoted, fill, List.foldl_cons, List.foldl_nil, same_v, same_w]
    simp
  have read := faithful.read program a v perm
  rw [written] at read
  have plain : '\\' ∉ replaceAll w.val.placeholder (w.val.value env)
      (a.before ++ v.val.value env ++ a.after) := by
    intro inside
    have letters : ∀ c ∈ w.val.value env ++ (a.before ++ v.val.value env ++ a.after), Plain c := by
      simp only [List.mem_append]
      rintro c (value | (front | value) | behind)
      · exact plain_w c value
      · exact a.plainBefore c front
      · exact plain_v c value
      · exact a.plainAfter c behind
    exact (letters _ (List.mem_append.mpr (Sed.mem_replaceAll nonempty inside))).2 (by decide)
  obtain ⟨same, -⟩ := eq_of_parse plain read
  rw [String.toList_ofList, ← List.append_assoc] at same
  exact Sed.eq_of_replaceAll_eq nonempty found same.symm

theorem Faithful.sound {sed : Editor} (faithful : Faithful sed stack env)
    (program : Program stack env) : Sound stack env where
  plain v known := (faithful.plain program ⟨v, known⟩).2
  apart := by
    intro v known w known' different
    by_cases makes : Makes (v.value env) w.placeholder
    · left
      have different' : (⟨v, known⟩ : Known stack) ≠ ⟨w, known'⟩ :=
        fun same => different (congrArg Subtype.val same)
      exact faithful.apart program different' makes
    · exact Or.inr makes

/-- Every realm that can be written is the template's with the values in it: if sed refuses
the program, and else exactly if the values are sound. -/
theorem faithful_iff (sed : Editor) (stack : Stack) (env : Environment)
    (specified : Specified stack env) :
    Faithful sed stack env ↔ Refused stack env ∨ Sound stack env := by
  constructor
  · intro faithful
    by_cases refused : Refused stack env
    · exact Or.inl refused
    · obtain ⟨program⟩ := exists_program specified refused
      exact Or.inr (faithful.sound program)
  · rintro (refused | sound)
    · intro template order perm out hout
      rw [refused_silent sed specified refused perm] at hout
      cases hout
    · exact sound.faithful sed

/-! ## Examples of values -/

/-- Nothing is set. -/
def unset : Environment := fun _ => none

def withPassword (password : String) : Environment :=
  fun name => if name = "TENANT_ADMIN_PASSWORD" then some password.toList else none

/-- A value with a small letter is in no placeholder. -/
theorem defaults_sound : Sound .tenant unset where
  plain := by
    unfold Plain
    decide +kernel
  apart := by
    have foreign : ∀ v ∈ substituted .tenant, ∀ w ∈ substituted .tenant,
        (∃ c ∈ v.value unset, c ∉ w.placeholder) ∧ '$' ∉ v.value unset ∧
          '\x7d' ∉ v.value unset := by
      decide +kernel
    intro v hv w hw _
    obtain ⟨⟨c, inside, other⟩, opened, closed⟩ := foreign v hv w hw
    let w' : Known .tenant := ⟨w, hw⟩
    have other' : c ∉ (marks .tenant).mark w' := other
    exact Or.inr (not_makes inside other' opened closed)

theorem defaults_rendered : Specified .tenant unset ∧ Faithful Editor.strict .tenant unset := by
  have specified := defaults_sound.specified
  exact ⟨specified, (faithful_iff Editor.strict .tenant unset specified).mpr
    (Or.inr defaults_sound)⟩

/-- A member of a realm that holds the administrator's password. -/
def passwordTemplate : Template .tenant where
  gap := ⟨[], JsonText.Style.space_nil⟩
  node := .object ⟨[], JsonText.Style.space_nil⟩
    (.last [.letters "value".toList "value".toList (spells_plain (by decide))]
      ⟨[], JsonText.Style.space_nil⟩ ⟨[' '], JsonText.Style.space_one⟩
      (.string [.hole ⟨⟨"TENANT_ADMIN_PASSWORD", "changeme"⟩, by decide⟩])
      ⟨[], JsonText.Style.space_nil⟩)
  behind := ⟨[], JsonText.Style.space_nil⟩
  whole := by
    intro v
    have front : ¬ (marks .tenant).mark v <:+: "\x7b\"value\": \"".toList := by
      intro inside
      have closes : '\x7d' ∈ "\x7b\"value\": \"".toList :=
        inside.subset (by simp [Marks.mark, marks])
      exact absurd closes (by decide)
    have behind : ¬ (marks .tenant).mark v <:+: "\"\x7d".toList := by
      intro inside
      have opens : '$' ∈ "\"\x7d".toList := inside.subset (by simp [Marks.mark, marks])
      exact absurd opens (by decide)
    exact whole_between ⟨⟨"TENANT_ADMIN_PASSWORD", "changeme"⟩, by decide⟩ (mark_ne_nil v) front
      behind

def onlyText : Json → String
  | .obj [(_, .str text)] => text
  | _ => ""

/-- With the password `a&b` the realm has another one, and sed reports nothing. -/
theorem ampersand_password :
    render Editor.strict .tenant (withPassword "a&b") passwordTemplate.text =
        some "\x7b\"value\": \"a$\x7bTENANT_ADMIN_PASSWORD\x7db\"\x7d".toList ∧
      passwordTemplate.json (withPassword "a&b") = .obj [("value", .str "a&b")] ∧
      ¬ Faithful Editor.strict .tenant (withPassword "a&b") := by
  have rendered : render Editor.strict .tenant (withPassword "a&b") passwordTemplate.text =
      some "\x7b\"value\": \"a$\x7bTENANT_ADMIN_PASSWORD\x7db\"\x7d".toList := by
    decide +kernel
  have expected : passwordTemplate.json (withPassword "a&b") = .obj [("value", .str "a&b")] := by
    rfl
  refine ⟨rendered, expected, ?_⟩
  intro faithful
  have read := faithful passwordTemplate _ (List.Perm.refl _) _ rendered
  rw [expected] at read
  have password := congrArg (fun v => v.map onlyText) read
  exact absurd password (by decide +kernel)

end CompleteDeviceManagement.Guarantees.RealmTemplates
