import CompleteDeviceManagement.Library.EventLoop
import CompleteDeviceManagement.Source.JoinKeyStore

/-!
# JOIN keys are single-use and never lost

Any number of `create_key` and `validate_and_consume` tasks on one event loop.
A call never finds the lock held, so it runs to its end in the section it is
first scheduled in; the invariant then relates the results the tasks returned
to the keys on file.
-/

set_option autoImplicit false

namespace CompleteDeviceManagement.Guarantees.JoinKeys
open CompleteDeviceManagement.Library CompleteDeviceManagement.Source.Models
  CompleteDeviceManagement.Source.Runtime CompleteDeviceManagement.Source.JoinKeyStore
open CompleteDeviceManagement.Library.Fallible CompleteDeviceManagement.Library.EventLoop

inductive KeyOp where
  | createKey (tenantId displayName : String)
  | validateAndConsume (key : String)

inductive KeyAnswer where
  | created (key : String)
  | consumed (entry : JoinKeyEntry)

abbrev KeyTask := Task KeyOp World HttpRequest HttpResult (Except Raised KeyAnswer)

abbrev KeyLoop := EventLoop KeyOp World HttpRequest HttpResult (Except Raised KeyAnswer)

def serveKeys (env : Env) : KeyOp → Proc World HttpRequest HttpResult (Except Raised KeyAnswer)
  | .createKey tenantId displayName => ExceptT.run do
      let key ← createKey env tenantId displayName
      pure (.created key)
  | .validateAndConsume key => ExceptT.run do
      let entry ← validateAndConsume env key
      pure (.consumed entry)

/-! ## Each call is one section -/

def Unlocked (w : World) : Prop := w.keyLocked = false

def effect (env : Env) : KeyOp → World → Except Raised KeyAnswer × World
  | .createKey tenantId displayName, w =>
      ((createKeyEffect env tenantId displayName w).1.map .created,
        (createKeyEffect env tenantId displayName w).2)
  | .validateAndConsume key, w =>
      ((validateEffect env key w).1.map .consumed, (validateEffect env key w).2)

theorem serveKeys_atomic (env : Env) : Atomic (serveKeys env) Unlocked (effect env) where
  runs op w h := by
    cases op with
    | createKey tenantId displayName =>
      exact runsTo_bind (createKey_runs env tenantId displayName h) (Proc.RunsTo.ret _ _)
    | validateAndConsume key =>
      have hruns := validateAndConsume_runs env key h
      simp only [serveKeys, effect, run_bind]
      refine Proc.RunsTo.bind hruns ?_
      cases (validateEffect env key w).1 with
      | error error => exact Proc.RunsTo.ret _ _
      | ok entry => exact Proc.RunsTo.ret _ _
  keeps op w h := by
    cases op with
    | createKey tenantId displayName => exact h
    | validateAndConsume key =>
      rcases validateEffect_cases env key w with ⟨-, _, -, he⟩ | ⟨_, -, -, -, he⟩ | ⟨_, -, -, -, he⟩
      · simp only [effect, he]
        exact h
      · simp only [effect, he]
        exact h
      · simp only [effect, he]
        exact h

/-! ## What is promised -/

/-- The task has returned `key` from `create_key`; `b` is the state it ran in,
so its reading of the clock was `env.clock b.ticks`. -/
def Created (t : KeyTask) (tenantId displayName key : String) (b : World) : Prop :=
  t.request = .createKey tenantId displayName ∧ t.begun = some b ∧
    t.proc = .ret (.ok (.created key))

/-- The task has returned `entry` from `validate_and_consume`; its first reading
of the clock, the one the expiry is checked against, was `env.clock b.ticks`. -/
def Consumed (t : KeyTask) (key : String) (entry : JoinKeyEntry) (b : World) : Prop :=
  t.request = .validateAndConsume key ∧ t.begun = some b ∧
    t.proc = .ret (.ok (.consumed entry))

/-- Issued before the start, or by a task that has returned. -/
def Issued (w0 : World) (c : KeyLoop) (key : String) : Prop :=
  (table w0).get? key ≠ none ∨
    ∃ t ∈ c.tasks, ∃ tenantId displayName b, Created t tenantId displayName key b

/-- `generate_join_key` never repeats a key already issued. -/
def FreshDraws (env : Env) (w0 : World) (c : KeyLoop) : Action KeyOp HttpResult → Prop
  | .arrive _ => True
  | .resume i _ => ∀ t tenantId displayName, c.tasks[i]? = some t → t.begun = none →
      t.request = .createKey tenantId displayName →
      ¬ Issued w0 c (joinKeyAt env c.state.choices)

/-- The step writes the file with one entry changed from open to expired. -/
def Expires (key : String) (w w' : World) : Prop :=
  ∃ entry, (table w).get? key = some entry ∧ entry.status = .open ∧
    w'.keys = some ((table w).set key { entry with status := .expired })

/-- The step writes the file with one open entry marked used. -/
def Consumes (key : String) (used : JoinKeyEntry) (w w' : World) : Prop :=
  ∃ entry usedAt, (table w).get? key = some entry ∧ entry.status = .open ∧
    used = usedEntry entry usedAt ∧ w'.keys = some ((table w).set key used)

/-- What a step of a `validate_and_consume` task does: nothing if the task has
already returned, else it returns, with the file unchanged up to `key`. -/
def FrameLaw (env : Env) (c : KeyLoop) (i : Nat) (t : KeyTask) (key : String)
    (answer : HttpResult) : Prop :=
  (t.begun ≠ none ∧ step (serveKeys env) c (.resume i answer) = c) ∨
    ∃ t', (step (serveKeys env) c (.resume i answer)).tasks = c.tasks.set i t' ∧
      ((∃ error, t'.proc = .ret (.error error) ∧
          ((step (serveKeys env) c (.resume i answer)).state.keys = c.state.keys ∨
            Expires key c.state (step (serveKeys env) c (.resume i answer)).state)) ∨
        ∃ used, t'.proc = .ret (.ok (.consumed used)) ∧
          Consumes key used c.state (step (serveKeys env) c (.resume i answer)).state)

structure SingleUse (env : Env) (c : KeyLoop) : Prop where
  once : ∀ (i j : Nat) (t t' : KeyTask) key entry entry' b b', c.tasks[i]? = some t →
    c.tasks[j]? = some t' → Consumed t key entry b → Consumed t' key entry' b' → i = j
  carries : ∀ t ∈ c.tasks, ∀ t' ∈ c.tasks, ∀ tenantId displayName key b entry b',
    Created t tenantId displayName key b → Consumed t' key entry b' →
    entry.tenantId = tenantId ∧ entry.displayName = displayName
  inTime : ∀ t ∈ c.tasks, ∀ t' ∈ c.tasks, ∀ tenantId displayName key b entry b',
    Created t tenantId displayName key b → Consumed t' key entry b' →
    (env.clock b'.ticks).micros ≤ ((env.clock b.ticks).addHours (7 * 24)).micros
  present : ∀ t ∈ c.tasks, ∀ tenantId displayName key b,
    Created t tenantId displayName key b → (table c.state).get? key ≠ none
  frame : ∀ i answer t key, c.tasks[i]? = some t → t.request = .validateAndConsume key →
    FrameLaw env c i t key answer

/-! ## The invariant -/

/-- `entry` is what `create_key` stored, but for its status and time of use. -/
def Records (env : Env) (entry : JoinKeyEntry) (tenantId displayName : String) (b : World) :
    Prop :=
  entry.tenantId = tenantId ∧ entry.displayName = displayName ∧
    entry.expiresAt = (env.clock b.ticks).addHours joinKeyTtlHours

/-- The results the tasks have returned, against the keys on file. -/
structure Ledger (env : Env) (w0 : World) (c : KeyLoop) : Prop where
  issued : ∀ key, (table c.state).get? key ≠ none → Issued w0 c key
  created : ∀ t ∈ c.tasks, ∀ tenantId displayName key b,
    Created t tenantId displayName key b →
    ∃ entry, (table c.state).get? key = some entry ∧ Records env entry tenantId displayName b
  consumed : ∀ t ∈ c.tasks, ∀ key entry b, Consumed t key entry b →
    (table c.state).get? key = some entry ∧ entry.status = .used ∧
      (env.clock b.ticks).micros ≤ entry.expiresAt.micros
  once : ∀ (i j : Nat) (t t' : KeyTask) key entry entry' b b', c.tasks[i]? = some t →
    c.tasks[j]? = some t' → Consumed t key entry b → Consumed t' key entry' b' → i = j

structure KeysOk (env : Env) (w0 : World) (c : KeyLoop) : Prop where
  unlocked : Unlocked c.state
  settled : ∀ t ∈ c.tasks, Settled (serveKeys env) t
  ledger : Ledger env w0 c

theorem ledger_start (env : Env) (w0 : World) : Ledger env w0 (start w0) where
  issued _ hkey := Or.inl hkey
  created := by simp [start]
  consumed := by simp [start]
  once := by simp [start]

section Replace

variable {env : Env} {w0 : World} {c : KeyLoop}

/-- A task that has begun keeps its place when another one moves. -/
theorem mem_set_of_begun {i : Nat} {t t' new : KeyTask} (hi : c.tasks[i]? = some t)
    (hb : t.begun = none) (ht' : t' ∈ c.tasks) (hb' : t'.begun ≠ none) :
    t' ∈ c.tasks.set i new := by
  obtain ⟨j, hj⟩ := List.mem_iff_getElem?.mp ht'
  have hne : i ≠ j := by
    intro he
    subst he
    rw [hi] at hj
    cases hj
    exact hb' hb
  apply List.mem_iff_getElem?.mpr
  exact ⟨j, by rw [List.getElem?_set_ne hne]; exact hj⟩

theorem Issued.set {i : Nat} {t new : KeyTask} {key : String} {w : World}
    (h : Issued w0 c key) (hi : c.tasks[i]? = some t) (hb : t.begun = none) :
    Issued w0 ⟨w, c.tasks.set i new⟩ key := by
  rcases h with initial | ⟨t', ht', tenantId, displayName, b, created⟩
  · exact Or.inl initial
  · have begun : t'.begun ≠ none := by
      rw [created.2.1]
      exact Option.some_ne_none b
    exact Or.inr ⟨t', mem_set_of_begun hi hb ht' begun, tenantId, displayName, b, created⟩

/-- The once-only part survives a step whose task returns no entry. -/
theorem Ledger.once_set (h : Ledger env w0 c) {i : Nat} {new : KeyTask}
    (fresh : ∀ key entry b, Consumed new key entry b →
      ∀ t' ∈ c.tasks, ∀ entry' b', ¬ Consumed t' key entry' b')
    (j k : Nat) (t t' : KeyTask) (key : String) (entry entry' : JoinKeyEntry) (b b' : World)
    (hj : (c.tasks.set i new)[j]? = some t) (hk : (c.tasks.set i new)[k]? = some t')
    (ht : Consumed t key entry b) (ht' : Consumed t' key entry' b') : j = k := by
  rw [List.getElem?_set] at hj hk
  by_cases hij : i = j
  · by_cases hik : i = k
    · exact hij.symm.trans hik
    · rw [if_neg hik] at hk
      rw [if_pos hij] at hj
      have hnew : t = new := by
        split at hj
        · exact (Option.some.inj hj).symm
        · cases hj
      subst hnew
      exact absurd ht' (fresh key entry b ht t' (List.mem_of_getElem? hk) entry' b')
  · rw [if_neg hij] at hj
    by_cases hik : i = k
    · rw [if_pos hik] at hk
      have hnew : t' = new := by
        split at hk
        · exact (Option.some.inj hk).symm
        · cases hk
      subst hnew
      exact absurd ht (fresh key entry' b' ht' t (List.mem_of_getElem? hj) entry b)
    · rw [if_neg hik] at hk
      exact h.once j k t t' key entry entry' b b' hj hk ht ht'

end Replace

/-! ## One step -/

section OneStep

variable {env : Env} {w0 : World} {c : KeyLoop} {i : Nat} {t : KeyTask}

theorem Ledger.arrive (h : Ledger env w0 c) (op : KeyOp) :
    Ledger env w0 { c with tasks := c.tasks ++ [⟨op, none, serveKeys env op⟩] } := by
  -- a task that has not begun has returned nothing
  have old : ∀ t' ∈ c.tasks ++ [⟨op, none, serveKeys env op⟩], t'.begun ≠ none →
      t' ∈ c.tasks := by
    intro t' ht' hb
    rcases List.mem_append.mp ht' with old | new
    · exact old
    · rw [List.mem_singleton] at new
      subst new
      exact absurd rfl hb
  have place : ∀ (j : Nat) (t' : KeyTask),
      (c.tasks ++ [⟨op, none, serveKeys env op⟩])[j]? = some t' → t'.begun ≠ none →
      c.tasks[j]? = some t' := by
    intro j t' hj hb
    rw [List.getElem?_append] at hj
    split at hj
    · exact hj
    · have := List.mem_of_getElem? hj
      rw [List.mem_singleton] at this
      subst this
      exact absurd rfl hb
  refine ⟨fun key hkey => ?_, fun t' ht' tenantId displayName key b created => ?_,
    fun t' ht' key entry b consumed => ?_,
    fun j k t1 t2 key entry entry' b b' hj hk h1 h2 => ?_⟩
  · rcases h.issued key hkey with initial | ⟨t', ht', rest⟩
    · exact Or.inl initial
    · exact Or.inr ⟨t', List.mem_append_left _ ht', rest⟩
  · exact h.created t' (old t' ht' (by simp [created.2.1])) tenantId displayName key b created
  · exact h.consumed t' (old t' ht' (by simp [consumed.2.1])) key entry b consumed
  · exact h.once j k t1 t2 key entry entry' b b' (place j t1 hj (by simp [h1.2.1]))
      (place k t2 hk (by simp [h2.2.1])) h1 h2

theorem Ledger.create (h : Ledger env w0 c) {tenantId displayName : String}
    (hi : c.tasks[i]? = some t) (hb : t.begun = none)
    (hq : t.request = .createKey tenantId displayName)
    (fresh : ¬ Issued w0 c (joinKeyAt env c.state.choices)) :
    Ledger env w0 ⟨(createKeyEffect env tenantId displayName c.state).2,
      c.tasks.set i ⟨t.request, some c.state,
        .ret (.ok (.created (joinKeyAt env c.state.choices)))⟩⟩ := by
  have absent : (table c.state).get? (joinKeyAt env c.state.choices) = none := by
    by_contra hkey
    exact fresh (h.issued _ hkey)
  have other : ∀ key entry, (table c.state).get? key = some entry →
      (table (createKeyEffect env tenantId displayName c.state).2).get? key = some entry := by
    intro key entry hkey
    have hne : key ≠ joinKeyAt env c.state.choices := by
      intro he
      rw [he, absent] at hkey
      cases hkey
    exact (Dict.get?_set_of_ne _ _ hne).trans hkey
  have position := (List.getElem?_eq_some_iff.mp hi).1
  refine ⟨fun key hkey => ?_, fun t' ht' tenantId' displayName' key b created => ?_,
    fun t' ht' key entry b consumed => ?_, h.once_set ?_⟩
  · by_cases he : key = joinKeyAt env c.state.choices
    · exact Or.inr ⟨_, List.mem_set position _, tenantId, displayName, c.state, hq, rfl, by rw [he]⟩
    · have hold : (table c.state).get? key ≠ none := by
        intro hnone
        exact hkey ((Dict.get?_set_of_ne _ _ he).trans hnone)
      exact (h.issued key hold).set hi hb
  · rcases List.mem_or_eq_of_mem_set ht' with old | new
    · obtain ⟨entry, hentry, records⟩ := h.created t' old _ _ _ _ created
      exact ⟨entry, other key entry hentry, records⟩
    · subst new
      obtain ⟨hq', hbegun, hproc⟩ := created
      cases hq.symm.trans hq'
      cases hbegun
      cases hproc
      exact ⟨_, Dict.get?_set_self _ _ _, rfl, rfl, rfl⟩
  · rcases List.mem_or_eq_of_mem_set ht' with old | new
    · obtain ⟨hentry, rest⟩ := h.consumed t' old key entry b consumed
      exact ⟨other key entry hentry, rest⟩
    · subst new
      cases hq.symm.trans consumed.1
  · intro key entry b consumed
    cases hq.symm.trans consumed.1

/-- A presentation that is refused before anything is written. -/
theorem Ledger.refused (h : Ledger env w0 c) {error : Raised} {w : World}
    (hi : c.tasks[i]? = some t) (hb : t.begun = none) (hw : table w = table c.state) :
    Ledger env w0 ⟨w, c.tasks.set i ⟨t.request, some c.state, .ret (.error error)⟩⟩ := by
  refine ⟨fun key' hkey => ?_, fun t' ht' tenantId displayName key' b created => ?_,
    fun t' ht' key' entry b consumed => ?_, h.once_set ?_⟩
  · exact (h.issued key' (by rwa [← hw])).set hi hb
  · rcases List.mem_or_eq_of_mem_set ht' with old | new
    · rw [hw]
      exact h.created t' old _ _ _ _ created
    · subst new
      cases created.2.2
  · rcases List.mem_or_eq_of_mem_set ht' with old | new
    · rw [hw]
      exact h.consumed t' old _ _ _ consumed
    · subst new
      cases consumed.2.2
  · intro key' entry b consumed
    cases consumed.2.2

/-- A presentation that rewrites the open entry of its key. -/
theorem Ledger.rewritten (h : Ledger env w0 c) {key : String} {entry : JoinKeyEntry}
    (entry' : JoinKeyEntry) {result : Except Raised KeyAnswer} {w : World}
    (hi : c.tasks[i]? = some t)
    (hb : t.begun = none) (hq : t.request = .validateAndConsume key)
    (stored : (table c.state).get? key = some entry) (isOpen : entry.status = .open)
    (same : entry'.tenantId = entry.tenantId ∧ entry'.displayName = entry.displayName ∧
      entry'.expiresAt = entry.expiresAt)
    (hw : table w = (table c.state).set key entry')
    (returned : ∀ used, result = .ok (.consumed used) → used = entry' ∧ used.status = .used ∧
      (env.clock c.state.ticks).micros ≤ used.expiresAt.micros)
    (consumes : ∀ created, result ≠ .ok (.created created)) :
    Ledger env w0 ⟨w, c.tasks.set i ⟨t.request, some c.state, .ret result⟩⟩ := by
  -- nobody has consumed this key before, since it is still open
  have unconsumed : ∀ t' ∈ c.tasks, ∀ used b, ¬ Consumed t' key used b := by
    intro t' ht' used b consumed
    obtain ⟨hused, hstatus, -⟩ := h.consumed t' ht' key used b consumed
    rw [stored] at hused
    cases hused
    rw [isOpen] at hstatus
    cases hstatus
  refine ⟨fun key' hkey => ?_, fun t' ht' tenantId displayName key' b created => ?_,
    fun t' ht' key' used b consumed => ?_, h.once_set ?_⟩
  · have hold : (table c.state).get? key' ≠ none := by
      intro hnone
      apply hkey
      have hne : key' ≠ key := by
        intro he
        rw [he, stored] at hnone
        cases hnone
      simp only [hw, Dict.get?_set_of_ne _ _ hne, hnone]
    exact (h.issued key' hold).set hi hb
  · rcases List.mem_or_eq_of_mem_set ht' with old | new
    · obtain ⟨found, hfound, records⟩ := h.created t' old _ _ _ _ created
      by_cases he : key' = key
      · rw [he, stored] at hfound
        cases hfound
        refine ⟨entry', ?_, ?_⟩
        · simp only [hw, he, Dict.get?_set_self]
        · obtain ⟨htenant, hdisplay, hexpires⟩ := records
          exact ⟨same.1.trans htenant, same.2.1.trans hdisplay, same.2.2.trans hexpires⟩
      · exact ⟨found, by simp only [hw, Dict.get?_set_of_ne _ _ he, hfound], records⟩
    · subst new
      have hresult := created.2.2
      simp only [Proc.ret.injEq] at hresult
      exact absurd hresult (consumes key')
  · rcases List.mem_or_eq_of_mem_set ht' with old | new
    · have hne : key' ≠ key := by
        intro he
        rw [he] at consumed
        exact unconsumed t' old used b consumed
      simp only [hw, Dict.get?_set_of_ne _ _ hne]
      exact h.consumed t' old _ _ _ consumed
    · subst new
      obtain ⟨hq', hbegun, hproc⟩ := consumed
      cases hq.symm.trans hq'
      cases hbegun
      simp only [Proc.ret.injEq] at hproc
      obtain ⟨hsame, hstatus, hclock⟩ := returned used hproc
      refine ⟨?_, hstatus, hclock⟩
      simp only [hw, Dict.get?_set_self, hsame]
  · intro key' used b consumed t' ht' used' b' consumed'
    cases hq.symm.trans consumed.1
    exact unconsumed t' ht' used' b' consumed'

/-- The effect of a task that had not begun keeps the ledger. -/
theorem Ledger.effect (h : Ledger env w0 c) (hi : c.tasks[i]? = some t) (hb : t.begun = none)
    (fresh : ∀ tenantId displayName, t.request = .createKey tenantId displayName →
      ¬ Issued w0 c (joinKeyAt env c.state.choices)) :
    Ledger env w0 ⟨(effect env t.request c.state).2,
      c.tasks.set i ⟨t.request, some c.state, .ret (effect env t.request c.state).1⟩⟩ := by
  cases hq : t.request with
  | createKey tenantId displayName =>
    have hnew := h.create hi hb hq (fresh tenantId displayName hq)
    rw [hq] at hnew
    exact hnew
  | validateAndConsume key =>
    rw [← hq]
    rcases validateEffect_cases env key c.state with
      ⟨-, error, -, he⟩ | ⟨entry, stored, isOpen, -, he⟩ | ⟨entry, stored, isOpen, inTime, he⟩
    · simp only [hq, JoinKeys.effect, he]
      rw [← hq]
      exact h.refused hi hb rfl
    · simp only [hq, JoinKeys.effect, he]
      rw [← hq]
      refine h.rewritten { entry with status := .expired } hi hb hq stored isOpen
        ⟨rfl, rfl, rfl⟩ rfl ?_ ?_
      · intro used hused
        cases hused
      · intro created hcreated
        cases hcreated
    · simp only [hq, JoinKeys.effect, he]
      rw [← hq]
      refine h.rewritten (usedEntry entry (env.clock (c.state.ticks + 1))) hi hb hq stored isOpen
        ⟨rfl, rfl, rfl⟩ rfl ?_ ?_
      · intro used hused
        cases hused
        exact ⟨rfl, rfl, inTime⟩
      · intro created hcreated
        cases hcreated

end OneStep

theorem step_keysOk {env : Env} {w0 : World} {c : KeyLoop} {action : Action KeyOp HttpResult}
    (h : KeysOk env w0 c) (fresh : FreshDraws env w0 c action) :
    KeysOk env w0 (step (serveKeys env) c action) := by
  have inOrder := (serveKeys_atomic env).step_settled h.unlocked h.settled action
  refine ⟨inOrder.1, inOrder.2, ?_⟩
  rcases (serveKeys_atomic env).step_cases h.unlocked h.settled action with
    ⟨op, -, hstep⟩ | ⟨i, answer, t, rfl, hi, hb, hstep⟩ | hstep
  · rw [hstep]
    exact h.ledger.arrive op
  · rw [hstep]
    exact h.ledger.effect hi hb fun tenantId displayName hq =>
      fresh t tenantId displayName hi hb hq
  · rw [hstep]
    exact h.ledger

theorem reaches_keysOk {env : Env} {w0 : World} (hw0 : Unlocked w0) {c : KeyLoop}
    (h : Reaches (serveKeys env) (FreshDraws env w0) (start w0) c) : KeysOk env w0 c := by
  apply h.invariant
  · exact ⟨hw0, by simp [start], ledger_start env w0⟩
  · intro c action hc fresh
    exact step_keysOk hc fresh

/-! ## Results -/

theorem KeysOk.frameLaw {env : Env} {w0 : World} {c : KeyLoop} (h : KeysOk env w0 c) {i : Nat}
    {t : KeyTask} {key : String} (answer : HttpResult) (hi : c.tasks[i]? = some t)
    (hq : t.request = .validateAndConsume key) : FrameLaw env c i t key answer := by
  have moved : step (serveKeys env) c (.resume i answer) =
      ⟨(runTask t answer c.state).2,
        c.tasks.set i ⟨t.request, some (t.begun.getD c.state), (runTask t answer c.state).1⟩⟩ := by
    simp only [step, hi]
  rcases (serveKeys_atomic env).runTask_settled (h.settled t (List.mem_of_getElem? hi)) answer
    h.unlocked with ⟨hb, hrun⟩ | ⟨b, value, hb, hproc, hrun⟩
  · refine Or.inr ⟨_, by rw [moved], ?_⟩
    rw [moved, hrun, hq]
    rcases validateEffect_cases env key c.state with
      ⟨-, error, -, he⟩ | ⟨entry, stored, isOpen, -, he⟩ | ⟨entry, stored, isOpen, -, he⟩
    · refine Or.inl ⟨.language error, ?_, Or.inl ?_⟩
      · simp only [effect, he]
        rfl
      · simp only [effect, he]
    · refine Or.inl ⟨.language (.valueError "JOIN key has expired."), ?_,
        Or.inr ⟨entry, stored, isOpen, ?_⟩⟩
      · simp only [effect, he]
        rfl
      · simp only [effect, he]
    · refine Or.inr ⟨usedEntry entry (env.clock (c.state.ticks + 1)), ?_, entry,
        env.clock (c.state.ticks + 1), stored, isOpen, rfl, ?_⟩
      · simp only [effect, he]
        rfl
      · simp only [effect, he]
  · refine Or.inl ⟨by simp [hb], ?_⟩
    have hsame : (⟨t.request, some b, .ret value⟩ : KeyTask) = t := by
      cases t
      simp only at hb hproc
      rw [hb, hproc]
    have hset : c.tasks.set i t = c.tasks := by
      obtain ⟨hlt, rfl⟩ := List.getElem?_eq_some_iff.mp hi
      exact List.set_getElem_self hlt
    rw [moved, hrun]
    simp [hb, hsame, hset]

/-- A key that was created and consumed: one entry on file, seen from both ends. -/
theorem Ledger.created_consumed {env : Env} {w0 : World} {c : KeyLoop} (h : Ledger env w0 c)
    {t t' : KeyTask} {tenantId displayName key : String} {b b' : World} {entry : JoinKeyEntry}
    (ht : t ∈ c.tasks) (ht' : t' ∈ c.tasks) (created : Created t tenantId displayName key b)
    (consumed : Consumed t' key entry b') :
    Records env entry tenantId displayName b ∧
      (env.clock b'.ticks).micros ≤ entry.expiresAt.micros := by
  obtain ⟨entry', hentry', records⟩ := h.created t ht _ _ _ _ created
  obtain ⟨hentry, -, inTime⟩ := h.consumed t' ht' _ _ _ consumed
  rw [hentry] at hentry'
  cases hentry'
  exact ⟨records, inTime⟩

/-- Every schedule of `create_key` and `validate_and_consume` calls, whatever
the clock reads and whatever was on file before. -/
theorem keys_single_use (env : Env) (w0 : World) (unlocked : w0.keyLocked = false) (c : KeyLoop)
    (h : Reaches (serveKeys env) (FreshDraws env w0) (start w0) c) : SingleUse env c := by
  have ok := reaches_keysOk unlocked h
  refine ⟨ok.ledger.once, ?_, ?_, ?_, ?_⟩
  · intro t ht t' ht' tenantId displayName key b entry b' created consumed
    obtain ⟨⟨htenant, hdisplay, -⟩, -⟩ := ok.ledger.created_consumed ht ht' created consumed
    exact ⟨htenant, hdisplay⟩
  · intro t ht t' ht' tenantId displayName key b entry b' created consumed
    obtain ⟨⟨-, -, hexpires⟩, inTime⟩ := ok.ledger.created_consumed ht ht' created consumed
    rw [hexpires] at inTime
    exact inTime
  · intro t ht tenantId displayName key b created
    obtain ⟨entry, hentry, -⟩ := ok.ledger.created t ht _ _ _ _ created
    rw [hentry]
    exact Option.some_ne_none entry
  · intro i answer t key hi hq
    exact ok.frameLaw answer hi hq

/-- A key is created and presented: it is still on file afterwards. -/
theorem keys_single_use_presented :
    (table (run (serveKeys Env.counting) (start World.empty)
      [.arrive (.createKey "acme" "Acme"), .resume 0 (.failure ""),
        .arrive (.validateAndConsume (joinKeyAt Env.counting 0)),
        .resume 1 (.failure "")]).state).get? (joinKeyAt Env.counting 0) ≠ none := by
  have arrived : Reaches (serveKeys Env.counting) (FreshDraws Env.counting World.empty)
      (start World.empty) _ :=
    Reaches.then Relation.ReflTransGen.refl (.arrive (.createKey "acme" "Acme")) trivial
  have created := arrived.then (.resume 0 (.failure "")) <| by
    intro t tenantId displayName hi hb hq issued
    rcases issued with initial | ⟨t', ht', _, _, b, finished⟩
    · exact initial rfl
    · cases List.mem_singleton.mp ht'
      cases finished.2.1
  have presented := (created.then
    (.arrive (.validateAndConsume (joinKeyAt Env.counting 0))) trivial).then
    (.resume 1 (.failure "")) (by
      intro t tenantId displayName hi hb hq
      cases Option.some.inj hi
      cases hq)
  exact (keys_single_use Env.counting World.empty rfl _ presented).present _
    List.mem_cons_self "acme" "Acme" _ World.empty ⟨rfl, rfl, rfl⟩

end CompleteDeviceManagement.Guarantees.JoinKeys
