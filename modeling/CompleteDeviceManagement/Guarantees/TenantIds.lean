import CompleteDeviceManagement.Guarantees.JoinContract

/-!
# Which tenant ids are accepted

The model of `prepare_tenant` declares a grammar, and both handlers look at the
id themselves with `isalnum` and `islower`. The two handlers and the grammar
agree on an id unless it is in the grammar without a letter, or passes
`isalnum` and `islower` without being in the grammar.
-/

set_option autoImplicit false

namespace CompleteDeviceManagement.Guarantees.TenantIds
open CompleteDeviceManagement.Library CompleteDeviceManagement.Source.Models
  CompleteDeviceManagement.Source.Runtime CompleteDeviceManagement.Source.AdminPortal
  CompleteDeviceManagement.Source.JoinStore CompleteDeviceManagement.Source.JoinKeyStore
  CompleteDeviceManagement.Source.JoinRouter CompleteDeviceManagement.Guarantees.JoinContract
open CompleteDeviceManagement.Library.Fallible

/-! ## Three languages -/

/-- A submission under the id is stored. -/
def SubmitAccepts (env : Env) (tenantId : String) : Prop :=
  ∀ payload, ∃ resp w',
    Proc.RunsTo (submitJoinRequest env tenantId payload).run World.empty (.ok resp) w'

/-- pydantic takes the id, and an admin gets a key for it. -/
def PrepareAccepts (env : Env) (tenantId : String) : Prop :=
  ∃ pattern : tenantIdPattern tenantId = true, ∀ displayName, ∃ resp w',
    Proc.RunsTo (prepareTenant env cdmAdmin ⟨tenantId, displayName, pattern⟩).run World.empty
      (.ok resp) w'

/-- The declared grammar. -/
def Declared (tenantId : String) : Prop :=
  ∃ first middle last, tenantId.toList = first :: (middle ++ [last]) ∧
    isSlugChar first = true ∧ isSlugChar last = true ∧
    (∀ c ∈ middle, isSlugChar c = true ∨ c = '-') ∧ middle.length ≤ 61

/-- `isalnum` refuses the id without its hyphens, or `islower` refuses it. -/
def Unfit (py : PyText) (tenantId : String) : Prop :=
  (∀ c ∈ tenantId.toList, c = '-') ∨ (∃ c ∈ tenantId.toList, c ≠ '-' ∧ py.isAlnum c = false) ∨
    (∃ c ∈ tenantId.toList, py.isUpper c = true ∨ py.isTitle c = true) ∨
    ∀ c ∈ tenantId.toList, py.isLower c = false

/-- In the grammar and with a letter, or outside of it and refused. -/
def Agreed (py : PyText) (tenantId : String) : Prop :=
  (Declared tenantId ∧ ∃ c ∈ tenantId.toList, Ascii.isLower c = true) ∨
    (¬ Declared tenantId ∧ Unfit py tenantId)

/-! ## What the code accepts -/

theorem submitAccepts_iff (env : Env) (tenantId : String) :
    SubmitAccepts env tenantId ↔ tenantIdOk env.py tenantId = true := by
  constructor
  · intro accepts
    by_contra refused
    obtain ⟨resp, w', hruns⟩ := accepts { displayName := "", subCaCsr := "", wgPubkey := "" }
    have hfails : submitJoinRequest env tenantId
        { displayName := "", subCaCsr := "", wgPubkey := "" } = fail badTenantId := by
      unfold submitJoinRequest
      rw [if_neg refused]
    rw [hfails] at hruns
    cases (Proc.RunsTo.unique hruns (Proc.RunsTo.ret _ World.empty)).1
  · intro ok payload
    unfold submitJoinRequest
    rw [if_pos ok]
    exact ⟨_, _, runsTo_bind (loadStore_runs rfl) (runsTo_bind (now_runs env World.empty)
      (runsTo_bind (saveStore_runs _ rfl) (Proc.RunsTo.ret _ _)))⟩

theorem guard_runs (env : Env) (w : World) :
    Proc.RunsTo (requireCdmAdmin env cdmAdmin).run w (.ok cdmAdmin.user) w := rfl

theorem prepareAccepts_iff (env : Env) (tenantId : String) :
    PrepareAccepts env tenantId ↔
      tenantIdPattern tenantId = true ∧ tenantIdOk env.py tenantId = true := by
  constructor
  · intro accepts
    obtain ⟨pattern, accepts⟩ := accepts
    refine ⟨pattern, ?_⟩
    by_contra refused
    obtain ⟨resp, w', hruns⟩ := accepts ""
    have hfails : Proc.RunsTo (prepareTenant env cdmAdmin ⟨tenantId, "", pattern⟩).run World.empty
        (.error badTenantId) World.empty := by
      refine runsTo_bind (guard_runs env World.empty) ?_
      rw [if_neg refused]
      exact Proc.RunsTo.ret _ _
    cases (Proc.RunsTo.unique hruns hfails).1
  · intro both
    obtain ⟨pattern, ok⟩ := both
    refine ⟨pattern, fun displayName => ?_⟩
    have hkey := createKey_runs env tenantId displayName (w := World.empty) rfl
    unfold prepareTenant
    simp only [ok, if_true]
    exact ⟨_, _, runsTo_bind (guard_runs env World.empty)
      (runsTo_bind hkey (runsTo_bind (now_runs env _) (Proc.RunsTo.ret _ _)))⟩

theorem declared_iff (tenantId : String) :
    Declared tenantId ↔ tenantIdPattern tenantId = true := by
  unfold tenantIdPattern
  constructor
  · intro declared
    obtain ⟨first, middle, last, htext, hfirst, hlast, hmiddle, hlength⟩ := declared
    have hreverse : (middle ++ [last]).reverse = last :: middle.reverse := by simp
    have hall : middle.reverse.all (fun m => isSlugChar m || m == '-') = true := by
      rw [List.all_eq_true]
      intro c hc
      simpa using hmiddle c (List.mem_reverse.mp hc)
    rw [htext]
    simp [hreverse, hfirst, hlast, hall, hlength]
  · intro accepted
    split at accepted
    · cases accepted
    next first rest htext =>
      split at accepted
      · cases accepted
      next last middle hreverse =>
        simp only [Bool.and_eq_true, decide_eq_true_eq, List.all_eq_true, Bool.or_eq_true,
          beq_iff_eq] at accepted
        obtain ⟨⟨⟨hfirst, hlast⟩, hmiddle⟩, hlength⟩ := accepted
        have hrest : rest = middle.reverse ++ [last] := by
          rw [← List.reverse_reverse rest, hreverse, List.reverse_cons]
        refine ⟨first, middle.reverse, last, by rw [htext, hrest], hfirst, hlast, ?_, ?_⟩
        · intro c hc
          exact hmiddle c (List.mem_reverse.mp hc)
        · simpa using hlength

theorem unhyphened_iff (cs : List Char) :
    cs.filter (· ≠ '-') = [] ↔ ∀ c ∈ cs, c = '-' := by
  rw [List.filter_eq_nil_iff]
  simp

theorem tenantIdOk_iff (py : PyText) (tenantId : String) :
    tenantIdOk py tenantId = true ↔
      (∃ c ∈ tenantId.toList, c ≠ '-') ∧
        (∀ c ∈ tenantId.toList, c ≠ '-' → py.isAlnum c = true) ∧
        (∀ c ∈ tenantId.toList, py.isUpper c = false ∧ py.isTitle c = false) ∧
        ∃ c ∈ tenantId.toList, py.isLower c = true := by
  have hsome : tenantId.toList.filter (· ≠ '-') ≠ [] ↔ ∃ c ∈ tenantId.toList, c ≠ '-' := by
    rw [Ne, unhyphened_iff]
    simp
  unfold tenantIdOk PyText.isalnum PyText.islower
  rw [String.toList_ofList]
  simp only [Bool.and_eq_true, decide_eq_true_eq, hsome, List.all_eq_true, List.any_eq_true,
    List.mem_filter, and_imp, and_assoc, Bool.not_eq_true', Bool.or_eq_false_iff]

theorem ok_iff_not_unfit (py : PyText) (tenantId : String) :
    tenantIdOk py tenantId = true ↔ ¬ Unfit py tenantId := by
  rw [tenantIdOk_iff]
  unfold Unfit
  constructor
  · intro ok unfit
    obtain ⟨⟨c, hc, hyphenless⟩, alnum, cased, d, hd, lower⟩ := ok
    rcases unfit with hyphens | ⟨e, he, hne, hother⟩ | ⟨e, he, hupper⟩ | none
    · exact hyphenless (hyphens c hc)
    · rw [alnum e he hne] at hother
      cases hother
    · rw [(cased e he).1, (cased e he).2] at hupper
      simp at hupper
    · rw [none d hd] at lower
      cases lower
  · intro fit
    simp only [not_or, not_forall, not_exists, not_and] at fit
    obtain ⟨⟨c, hc, hne⟩, alnum, cased, d, hd, lower⟩ := fit
    refine ⟨⟨c, hc, hne⟩, ?_, ?_, d, hd, by simpa using lower⟩
    · intro e he hne
      simpa using alnum e he hne
    · intro e he
      simpa using cased e he

/-! ## The ids of the grammar -/

theorem char_le_iff (a b : Char) : a ≤ b ↔ a.toNat ≤ b.toNat := by
  rw [Char.le_def, UInt32.le_iff_toNat_le]
  rfl

theorem slug_codes {c : Char} (h : isSlugChar c = true) :
    (97 ≤ c.toNat ∧ c.toNat ≤ 122) ∨ (48 ≤ c.toNat ∧ c.toNat ≤ 57) := by
  have hz : 'z'.toNat = 122 := rfl
  have ha : 'a'.toNat = 97 := rfl
  have h0 : '0'.toNat = 48 := rfl
  have h9 : '9'.toNat = 57 := rfl
  simpa only [isSlugChar, Ascii.isLower, Ascii.isDigit, Bool.or_eq_true, Bool.and_eq_true,
    decide_eq_true_eq, char_le_iff, ha, hz, h0, h9] using h

theorem slug_ascii {c : Char} (h : isSlugChar c = true ∨ c = '-') : c.toNat < 128 := by
  rcases h with h | rfl
  · have codes := slug_codes h
    omega
  · decide

theorem slug_not_upper {c : Char} (h : isSlugChar c = true ∨ c = '-') :
    Ascii.isUpper c = false := by
  have hA : 'A'.toNat = 65 := rfl
  have hZ : 'Z'.toNat = 90 := rfl
  rw [Ascii.isUpper, Bool.and_eq_false_iff, decide_eq_false_iff_not, decide_eq_false_iff_not,
    char_le_iff, char_le_iff, hA, hZ]
  rcases h with h | rfl
  · have codes := slug_codes h
    omega
  · decide

theorem slug_alnum {c : Char} (h : isSlugChar c = true) : Ascii.isAlnum c = true := by
  simp only [isSlugChar, Bool.or_eq_true] at h
  rcases h with hlower | hdigit
  · simp [Ascii.isAlnum, hlower]
  · simp [Ascii.isAlnum, hdigit]

theorem slug_ne_hyphen {c : Char} (h : isSlugChar c = true) : c ≠ '-' := by
  rintro rfl
  cases h

theorem chars_of_declared {tenantId : String} (declared : Declared tenantId) :
    (∃ c ∈ tenantId.toList, c ≠ '-') ∧
      ∀ c ∈ tenantId.toList, isSlugChar c = true ∨ c = '-' := by
  obtain ⟨first, middle, last, htext, hfirst, hlast, hmiddle, _⟩ := declared
  rw [htext]
  constructor
  · exact ⟨first, List.mem_cons_self, slug_ne_hyphen hfirst⟩
  · intro c hc
    rcases List.mem_cons.mp hc with rfl | hc
    · exact .inl hfirst
    · rcases List.mem_append.mp hc with hc | hc
      · exact hmiddle c hc
      · rw [List.mem_singleton.mp hc]
        exact .inl hlast

/-- In the grammar, the handlers only miss a letter. -/
theorem ok_iff_lettered (py : PyText) {tenantId : String} (declared : Declared tenantId) :
    tenantIdOk py tenantId = true ↔ ∃ c ∈ tenantId.toList, Ascii.isLower c = true := by
  obtain ⟨some, chars⟩ := chars_of_declared declared
  have lower : ∀ c ∈ tenantId.toList, py.isLower c = Ascii.isLower c :=
    fun c hc => py.lower_ascii c (slug_ascii (chars c hc))
  rw [tenantIdOk_iff]
  constructor
  · intro ok
    obtain ⟨_, _, _, c, hc, hlower⟩ := ok
    exact ⟨c, hc, (lower c hc).symm.trans hlower⟩
  · intro lettered
    obtain ⟨d, hd, hlower⟩ := lettered
    refine ⟨some, ?_, ?_, d, hd, (lower d hd).trans hlower⟩
    · intro c hc hne
      rw [py.alnum_ascii c (slug_ascii (chars c hc))]
      exact slug_alnum ((chars c hc).resolve_right hne)
    · intro c hc
      rw [py.upper_ascii c (slug_ascii (chars c hc)), py.title_ascii c (slug_ascii (chars c hc))]
      exact ⟨slug_not_upper (chars c hc), rfl⟩

/-- The two handlers and the declared grammar agree on an id exactly when it is in
the grammar and has a letter, or is outside of it and refused. -/
theorem one_grammar_iff (env : Env) (tenantId : String) :
    ((SubmitAccepts env tenantId ↔ PrepareAccepts env tenantId) ∧
      (PrepareAccepts env tenantId ↔ Declared tenantId)) ↔ Agreed env.py tenantId := by
  rw [submitAccepts_iff, prepareAccepts_iff, ← declared_iff]
  unfold Agreed
  by_cases declared : Declared tenantId
  · rw [← ok_iff_lettered env.py declared]
    simp [declared]
  · have hunfit := ok_iff_not_unfit env.py tenantId
    by_cases unfit : Unfit env.py tenantId
    · simp [declared, unfit, hunfit]
    · simp [declared, unfit, hunfit]

/-- Digits only: in the grammar, and refused by both handlers. -/
theorem one_grammar_digits : Declared "42" ∧ ¬ SubmitAccepts Env.counting "42" ∧
    ¬ PrepareAccepts Env.counting "42" := by
  refine ⟨(declared_iff "42").mpr (by decide), ?_, ?_⟩
  · rw [submitAccepts_iff]
    decide
  · rw [prepareAccepts_iff]
    decide

end CompleteDeviceManagement.Guarantees.TenantIds
