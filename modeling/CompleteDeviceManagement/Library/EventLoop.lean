import CompleteDeviceManagement.Library.Process
import Mathlib.Data.List.Induction
import Mathlib.Data.Nat.Find

/-!
# An event loop of cooperative processes

Requests arrive at any time and become tasks; the scheduler resumes any task in
any order. A task that was suspended at an `await` continues with an answer of
the environment's choice. Each task remembers the request it serves and, as
ghost information, the shared state in which its first section started.

`Serves` collects what a handler owes per section, as a relation between the
state its first section started from, the state the section started from, the
state the section left and how it stopped. `StepOwes` is what that gives for
every step of every run.
-/

set_option autoImplicit false

namespace CompleteDeviceManagement.Library

structure Task (R σ Req Resp α : Type) where
  request : R
  begun : Option σ
  proc : Proc σ Req Resp α

structure EventLoop (R σ Req Resp α : Type) where
  state : σ
  tasks : List (Task R σ Req Resp α)

inductive Action (R Resp : Type) where
  | arrive (request : R)
  | resume (task : Nat) (answer : Resp)

namespace EventLoop

variable {R σ Req Resp α : Type}

def start (s : σ) : EventLoop R σ Req Resp α := ⟨s, []⟩

/-- One section of a task. A task that has not begun runs from its start; the
answer is only looked at by a task suspended at an `await`. -/
def runTask (t : Task R σ Req Resp α) (answer : Resp) (s : σ) : Proc σ Req Resp α × σ :=
  match t.begun with
  | none => t.proc.advance s
  | some _ => (t.proc.answered answer).advance s

def step (handler : R → Proc σ Req Resp α) (c : EventLoop R σ Req Resp α) :
    Action R Resp → EventLoop R σ Req Resp α
  | .arrive request => { c with tasks := c.tasks ++ [⟨request, none, handler request⟩] }
  | .resume i answer =>
      match c.tasks[i]? with
      | none => c
      | some t =>
          { state := (runTask t answer c.state).2
            tasks := c.tasks.set i
              ⟨t.request, some (t.begun.getD c.state), (runTask t answer c.state).1⟩ }

def run (handler : R → Proc σ Req Resp α) (c : EventLoop R σ Req Resp α)
    (actions : List (Action R Resp)) : EventLoop R σ Req Resp α :=
  actions.foldl (step handler) c

/-- One step of a run whose every action satisfies `allowed` in the state it
is taken in. -/
def Step (handler : R → Proc σ Req Resp α)
    (allowed : EventLoop R σ Req Resp α → Action R Resp → Prop)
    (c c' : EventLoop R σ Req Resp α) : Prop :=
  ∃ action, allowed c action ∧ c' = step handler c action

def Reaches (handler : R → Proc σ Req Resp α)
    (allowed : EventLoop R σ Req Resp α → Action R Resp → Prop) :
    EventLoop R σ Req Resp α → EventLoop R σ Req Resp α → Prop :=
  Relation.ReflTransGen (Step handler allowed)

theorem Reaches.mono {handler : R → Proc σ Req Resp α}
    {allowed allowed' : EventLoop R σ Req Resp α → Action R Resp → Prop}
    {c c' : EventLoop R σ Req Resp α} (h : Reaches handler allowed c c')
    (weaker : ∀ c action, allowed c action → allowed' c action) :
    Reaches handler allowed' c c' := by
  induction h with
  | refl => exact Relation.ReflTransGen.refl
  | tail _ hstep ih =>
    obtain ⟨action, ha, he⟩ := hstep
    exact Relation.ReflTransGen.tail ih ⟨action, weaker _ action ha, he⟩

theorem Reaches.then {handler : R → Proc σ Req Resp α}
    {allowed : EventLoop R σ Req Resp α → Action R Resp → Prop}
    {c c' : EventLoop R σ Req Resp α} (h : Reaches handler allowed c c')
    (action : Action R Resp) (ha : allowed c' action) :
    Reaches handler allowed c (step handler c' action) :=
  Relation.ReflTransGen.tail h ⟨action, ha, rfl⟩

theorem run_append (handler : R → Proc σ Req Resp α) (c : EventLoop R σ Req Resp α)
    (before rest : List (Action R Resp)) :
    run handler c (before ++ rest) = run handler (run handler c before) rest := by
  simp [run]

/-- Each action of the list is allowed in the state it is taken in. -/
def Each (handler : R → Proc σ Req Resp α)
    (allowed : EventLoop R σ Req Resp α → Action R Resp → Prop) (c : EventLoop R σ Req Resp α)
    (actions : List (Action R Resp)) : Prop :=
  ∀ before action rest, actions = before ++ action :: rest →
    allowed (run handler c before) action

theorem Each.of_append {handler : R → Proc σ Req Resp α}
    {allowed : EventLoop R σ Req Resp α → Action R Resp → Prop} {c : EventLoop R σ Req Resp α}
    {before rest : List (Action R Resp)} (h : Each handler allowed c (before ++ rest)) :
    Each handler allowed c before :=
  fun earlier action later split => h earlier action (later ++ rest) (by simp [split])

theorem Each.cons {handler : R → Proc σ Req Resp α}
    {allowed : EventLoop R σ Req Resp α → Action R Resp → Prop} {c : EventLoop R σ Req Resp α}
    {action : Action R Resp} {rest : List (Action R Resp)} (first : allowed c action)
    (h : Each handler allowed (step handler c action) rest) :
    Each handler allowed c (action :: rest) := by
  intro before a later split
  cases before with
  | nil =>
    obtain ⟨rfl, -⟩ := List.cons.inj split
    exact first
  | cons b before =>
    obtain ⟨rfl, split'⟩ := List.cons.inj split
    exact h before a later split'

/-- The invariant rule for an executed list of actions; the invariant may speak
of the actions taken so far. -/
theorem run_invariant {handler : R → Proc σ Req Resp α}
    {allowed : EventLoop R σ Req Resp α → Action R Resp → Prop} {c : EventLoop R σ Req Resp α}
    {P : List (Action R Resp) → EventLoop R σ Req Resp α → Prop} (initial : P [] c)
    (kept : ∀ before action, Each handler allowed c (before ++ [action]) →
      P before (run handler c before) →
      P (before ++ [action]) (step handler (run handler c before) action))
    {actions : List (Action R Resp)} (each : Each handler allowed c actions) :
    P actions (run handler c actions) := by
  induction actions using List.reverseRecOn with
  | nil => exact initial
  | append_singleton before action ih =>
    rw [run_append]
    exact kept before action each (ih each.of_append)

/-- An executed list of actions is a run, if each action was allowed. -/
theorem reaches_run {handler : R → Proc σ Req Resp α}
    {allowed : EventLoop R σ Req Resp α → Action R Resp → Prop}
    (c : EventLoop R σ Req Resp α) (actions : List (Action R Resp))
    (each : Each handler allowed c actions) :
    Reaches handler allowed c (run handler c actions) := by
  refine run_invariant (P := fun _ c' => Reaches handler allowed c c')
    Relation.ReflTransGen.refl (fun before action taken reached => ?_) each
  exact Relation.ReflTransGen.tail reached ⟨action, taken before action [] rfl, rfl⟩

/-- The invariant rule: what holds at the start and is kept by every allowed
step holds of every state reached. -/
theorem Reaches.invariant {handler : R → Proc σ Req Resp α}
    {allowed : EventLoop R σ Req Resp α → Action R Resp → Prop}
    {P : EventLoop R σ Req Resp α → Prop} {c c' : EventLoop R σ Req Resp α}
    (h : Reaches handler allowed c c') (initial : P c)
    (kept : ∀ c action, P c → allowed c action → P (step handler c action)) : P c' := by
  induction h with
  | refl => exact initial
  | tail _ hstep ih =>
    obtain ⟨action, ha, rfl⟩ := hstep
    exact kept _ action ih ha

/-- The state a task's first section started in is one that the run passed through. -/
theorem begun_of_run {handler : R → Proc σ Req Resp α} {s : σ} {actions : List (Action R Resp)}
    {t : Task R σ Req Resp α} {b : σ} (ht : t ∈ (run handler (start s) actions).tasks)
    (hb : t.begun = some b) :
    ∃ before rest, actions = before ++ rest ∧ b = (run handler (start s) before).state := by
  have each : Each handler (fun _ _ => True) (start s) actions := fun _ _ _ _ => trivial
  refine run_invariant (P := fun actions c => ∀ t ∈ c.tasks, ∀ b, t.begun = some b →
    ∃ before rest, actions = before ++ rest ∧ b = (run handler (start s) before).state)
    (fun t ht => by cases ht) ?_ each t ht b hb
  intro before action _ ih t ht b hb
  have earlier : ∀ t0 ∈ (run handler (start s) before).tasks, t0.begun = some b →
      ∃ first rest, before ++ [action] = first ++ rest ∧
        b = (run handler (start s) first).state := by
    intro t0 mem begun
    obtain ⟨first, rest, split, same⟩ := ih t0 mem b begun
    exact ⟨first, rest ++ [action], by simp [split], same⟩
  cases action with
  | arrive q =>
    rcases List.mem_append.mp ht with old | new
    · exact earlier t old hb
    · have : t = ⟨q, none, handler q⟩ := by simpa using new
      subst this
      cases hb
  | resume i answer =>
    cases hi : (run handler (start s) before).tasks[i]? with
    | none =>
      simp only [step, hi] at ht
      exact earlier t ht hb
    | some t0 =>
      simp only [step, hi] at ht
      rcases List.mem_or_eq_of_mem_set ht with old | new
      · exact earlier t old hb
      · subst new
        cases begun : t0.begun with
        | none =>
          refine ⟨before, [.resume i answer], rfl, ?_⟩
          simpa [begun] using hb.symm
        | some b0 =>
          apply earlier t0 (List.mem_of_getElem? hi)
          simpa [begun] using hb

/-! ## What each section of a task owes -/

/-- Every answer the environment gives is one it is assumed to give. -/
def Answers (answers : Req → Resp → Prop) (c : EventLoop R σ Req Resp α) :
    Action R Resp → Prop
  | .arrive _ => True
  | .resume i answer => ∀ t request next, c.tasks[i]? = some t → t.begun ≠ none →
      t.proc = .await request next → answers request answer

section Contract

variable (handler : R → Proc σ Req Resp α) (inv : σ → Prop) (answers : Req → Resp → Prop)
  (owes : R → σ → σ → σ → Proc.Stop Req α → Prop)

/-- What the handler of `q`, begun in state `b`, owes at a suspension. -/
abbrev owesSusp (q : R) (b s s' : σ) (request : Option Req) : Prop :=
  owes q b s s' (.suspended request)

/-- What it owes when it returns. -/
abbrev owesPost (q : R) (b s : σ) (value : α) (s' : σ) : Prop :=
  owes q b s s' (.returned value)

/-- Every handler, started wherever the others leave the state, owes `owes`
section by section, and every section leaves the invariant. -/
structure Serves : Prop where
  handles : ∀ q s, inv s →
    Proc.wp inv answers (owesSusp owes q s) (owesPost owes q s) (handler q) s s
  keeps : ∀ q b s s' stop, inv s → owes q b s s' stop → inv s'

def TaskOk (t : Task R σ Req Resp α) : Prop :=
  match t.begun with
  | none => t.proc = handler t.request
  | some b =>
      Proc.Parked inv answers (owesSusp owes t.request b) (owesPost owes t.request b) t.proc

def LoopOk (c : EventLoop R σ Req Resp α) : Prop :=
  inv c.state ∧ ∀ t ∈ c.tasks, TaskOk handler inv answers owes t

theorem loopOk_start {s : σ} (hs : inv s) :
    LoopOk handler inv answers owes (start s) :=
  ⟨hs, by simp [start]⟩

variable {handler inv answers owes}

/-- A scheduled task either has nothing to do (it has returned, or its lock is
still held) or pays what its section owes. -/
theorem Serves.runTask_owes (hs : Serves handler inv answers owes)
    {t : Task R σ Req Resp α} (answer : Resp) {s : σ}
    (ok : TaskOk handler inv answers owes t) (hinv : inv s)
    (allowed : t.begun ≠ none → ∀ request next, t.proc = .await request next →
      answers request answer) :
    TaskOk handler inv answers owes
        ⟨t.request, some (t.begun.getD s), (runTask t answer s).1⟩ ∧
      ((t.begun ≠ none ∧ runTask t answer s = (t.proc, s) ∧
          ∀ request, t.proc.stop ≠ .suspended (some request)) ∨
        owes t.request (t.begun.getD s) s (runTask t answer s).2
          (runTask t answer s).1.stop) := by
  rcases t with ⟨q, begun, p⟩
  -- a section that really runs: its weakest precondition pays at the stop
  have pays : ∀ (b : σ) (p' : Proc σ Req Resp α),
      Proc.wp inv answers (owesSusp owes q b) (owesPost owes q b) p' s s →
      Proc.Parked inv answers (owesSusp owes q b) (owesPost owes q b) (p'.advance s).1 ∧
        owes q b s (p'.advance s).2 (p'.advance s).1.stop := by
    intro b p' h
    obtain ⟨parked, paid⟩ := Proc.advance_wp p' h
    refine ⟨parked, ?_⟩
    cases hstop : (p'.advance s).1.stop with
    | returned value => simpa [hstop] using paid
    | suspended request => simpa [hstop] using paid
  cases begun with
  | none =>
    have hp : p = handler q := ok
    subst hp
    obtain ⟨parked, paid⟩ := pays s (handler q) (hs.handles q s hinv)
    exact ⟨parked, Or.inr paid⟩
  | some b =>
    have parked : Proc.Parked inv answers (owesSusp owes q b) (owesPost owes q b) p := ok
    cases p with
    | ret value => exact ⟨trivial, Or.inl ⟨by simp, rfl, by simp [Proc.stop]⟩⟩
    | sync update next => exact parked.elim
    | await request next =>
      obtain ⟨after, paid⟩ := pays b (next answer)
        (parked answer (allowed (by simp) request next rfl) s hinv)
      exact ⟨after, Or.inr paid⟩
    | block ready next =>
      cases hr : ready s with
      | false =>
        have idle : runTask (R := R) ⟨q, some b, .block ready next⟩ answer s =
            (.block ready next, s) := by
          simp [runTask, Proc.answered, Proc.advance, hr]
        rw [idle]
        exact ⟨parked, Or.inl ⟨by simp, rfl, by simp [Proc.stop]⟩⟩
      | true =>
        have runs : runTask (R := R) ⟨q, some b, .block ready next⟩ answer s =
            next.advance s := by
          simp [runTask, Proc.answered, Proc.advance, hr]
        rw [runs]
        obtain ⟨after, paid⟩ := pays b next (parked s hinv hr)
        exact ⟨after, Or.inr paid⟩

theorem Serves.step_ok (hs : Serves handler inv answers owes) {c : EventLoop R σ Req Resp α}
    (ok : LoopOk handler inv answers owes c) {action : Action R Resp}
    (ha : Answers answers c action) :
    LoopOk handler inv answers owes (step handler c action) := by
  cases action with
  | arrive q =>
    refine ⟨ok.1, fun t ht => ?_⟩
    rcases List.mem_append.mp ht with old | new
    · exact ok.2 t old
    · have : t = ⟨q, none, handler q⟩ := by simpa using new
      subst this
      rfl
  | resume i answer =>
    cases ht : c.tasks[i]? with
    | none => simpa [step, ht] using ok
    | some t =>
      obtain ⟨after, moved⟩ := hs.runTask_owes answer
        (ok.2 t (List.mem_of_getElem? ht)) ok.1 (fun hb request next hp =>
          ha t request next ht hb hp)
      simp only [step, ht]
      refine ⟨?_, fun t' ht' => ?_⟩
      · rcases moved with ⟨_, idle, _⟩ | paid
        · simpa [idle] using ok.1
        · exact hs.keeps _ _ _ _ _ ok.1 paid
      · rcases List.mem_or_eq_of_mem_set ht' with old | new
        · exact ok.2 t' old
        · simpa [new] using after

/-- Along every run the loop stays in order, so every section taken in it pays
what it owes. -/
theorem Serves.reaches_ok (hs : Serves handler inv answers owes)
    {allowed : EventLoop R σ Req Resp α → Action R Resp → Prop}
    (assumed : ∀ c action, allowed c action → Answers answers c action)
    {c c' : EventLoop R σ Req Resp α} (ok : LoopOk handler inv answers owes c)
    (h : Reaches handler allowed c c') : LoopOk handler inv answers owes c' :=
  h.invariant ok fun _ _ hc ha => hs.step_ok hc (assumed _ _ ha)

/-- The form used for one step of a run: which task moved, and what it owes. -/
theorem Serves.resume_owes (hs : Serves handler inv answers owes)
    {c : EventLoop R σ Req Resp α} (ok : LoopOk handler inv answers owes c)
    {i : Nat} {answer : Resp} {t : Task R σ Req Resp α} (ht : c.tasks[i]? = some t)
    (ha : Answers answers c (.resume i answer)) :
    (t.begun ≠ none ∧ runTask t answer c.state = (t.proc, c.state) ∧
        ∀ request, t.proc.stop ≠ .suspended (some request)) ∨
      owes t.request (t.begun.getD c.state) c.state (runTask t answer c.state).2
        (runTask t answer c.state).1.stop :=
  (hs.runTask_owes answer (ok.2 t (List.mem_of_getElem? ht)) ok.1 fun hb request next hp =>
    ha t request next ht hb hp).2

/-- A task that has returned has paid, in the section that returned. -/
theorem Serves.returned_owes (hs : Serves handler inv answers owes)
    {allowed : EventLoop R σ Req Resp α → Action R Resp → Prop}
    (assumed : ∀ c action, allowed c action → Answers answers c action) {s : σ} (hinv : inv s)
    {c : EventLoop R σ Req Resp α} (h : Reaches handler allowed (start s) c)
    {t : Task R σ Req Resp α} (ht : t ∈ c.tasks) {b : σ} (hb : t.begun = some b) {value : α}
    (hv : t.proc.stop = .returned value) :
    ∃ s s', owes t.request b s s' (.returned value) := by
  induction h generalizing t b value with
  | refl => cases ht
  | @tail mid last reached hstep ih =>
    obtain ⟨action, ha, rfl⟩ := hstep
    cases action with
    | arrive q =>
      rcases List.mem_append.mp ht with old | new
      · exact ih old hb hv
      · have fresh : t = ⟨q, none, handler q⟩ := by simpa using new
        subst fresh
        cases hb
    | resume i answer =>
      cases hi : mid.tasks[i]? with
      | none =>
        simp only [step, hi] at ht
        exact ih ht hb hv
      | some t0 =>
        simp only [step, hi] at ht
        rcases List.mem_or_eq_of_mem_set ht with old | new
        · exact ih old hb hv
        · subst new
          cases hb
          have ok := hs.reaches_ok assumed (loopOk_start _ _ _ _ hinv) reached
          rcases hs.resume_owes ok hi (assumed _ _ ha) with ⟨begun, idle, -⟩ | paid
          · obtain ⟨b0, hb0⟩ := Option.ne_none_iff_exists'.mp begun
            rw [idle] at hv
            rw [hb0]
            exact ih (List.mem_of_getElem? hi) hb0 hv
          · have hstop : (runTask t0 answer mid.state).1.stop = .returned value := hv
            rw [hstop] at paid
            exact ⟨_, _, paid⟩

/-! ### The answers given in a run -/

/-- In the run of `actions` from `s`, `result` is given to a task suspended at
`request`. -/
def Given (handler : R → Proc σ Req Resp α) (s : σ) (actions : List (Action R Resp))
    (request : Req) (result : Resp) : Prop :=
  ∃ before i rest t next, actions = before ++ .resume i result :: rest ∧
    (run handler (start s) before).tasks[i]? = some t ∧ t.begun ≠ none ∧
    t.proc = .await request next

theorem Given.append {handler : R → Proc σ Req Resp α} {s : σ}
    {actions : List (Action R Resp)} {request : Req} {result : Resp}
    (h : Given handler s actions request result) (later : List (Action R Resp)) :
    Given handler s (actions ++ later) request result := by
  obtain ⟨before, i, rest, t, next, split, at_i⟩ := h
  exact ⟨before, i, rest ++ later, t, next, by simp [split], at_i⟩

theorem answers_given {handler : R → Proc σ Req Resp α} {s : σ}
    {actions before rest : List (Action R Resp)} {action : Action R Resp}
    (split : actions = before ++ action :: rest) :
    Answers (Given handler s actions) (run handler (start s) before) action := by
  cases action with
  | arrive q => exact trivial
  | resume i result =>
    intro t request next ht hb hproc
    exact ⟨before, i, rest, t, next, split, ht, hb, hproc⟩

/-- Every prefix of a run is in order, with no more assumed of the environment
than what it answers in this run. -/
theorem Serves.run_ok {handler : R → Proc σ Req Resp α} {s : σ} {actions : List (Action R Resp)}
    (hs : Serves handler inv (Given handler s actions) owes) (initial : inv s)
    {before rest : List (Action R Resp)} (split : actions = before ++ rest) :
    LoopOk handler inv (Given handler s actions) owes (run handler (start s) before) := by
  induction before using List.reverseRecOn generalizing rest with
  | nil => exact loopOk_start _ _ _ _ initial
  | append_singleton before action ih =>
    have split' : actions = before ++ action :: rest := by simpa using split
    have stepped := hs.step_ok (ih split') (answers_given split')
    simpa [run] using stepped

end Contract

/-! ## Handlers that never give up the thread -/

section Atomic

variable {handler : R → Proc σ Req Resp α} {inv : σ → Prop} {effect : R → σ → α × σ}

/-- Started where `inv` holds, every handler runs to its end in one section,
with the result and the state that `effect` says, and `inv` holds again. -/
structure Atomic (handler : R → Proc σ Req Resp α) (inv : σ → Prop)
    (effect : R → σ → α × σ) : Prop where
  runs : ∀ q s, inv s → Proc.RunsTo (handler q) s (effect q s).1 (effect q s).2
  keeps : ∀ q s, inv s → inv (effect q s).2

/-- A task of an atomic loop has not begun, or has returned. -/
def Settled (handler : R → Proc σ Req Resp α) (t : Task R σ Req Resp α) : Prop :=
  match t.begun with
  | none => t.proc = handler t.request
  | some _ => ∃ value, t.proc = .ret value

/-- Scheduling a task takes its whole effect, or none if it has returned. -/
theorem Atomic.runTask_settled (ha : Atomic handler inv effect) {t : Task R σ Req Resp α}
    (ht : Settled handler t) (answer : Resp) {s : σ} (hs : inv s) :
    (t.begun = none ∧ runTask t answer s = (.ret (effect t.request s).1, (effect t.request s).2)) ∨
      ∃ b value, t.begun = some b ∧ t.proc = .ret value ∧
        runTask t answer s = (.ret value, s) := by
  unfold Settled at ht
  cases hb : t.begun with
  | none =>
    rw [hb] at ht
    have hproc : t.proc = handler t.request := ht
    refine Or.inl ⟨rfl, ?_⟩
    have hruns := ha.runs t.request s hs
    unfold Proc.RunsTo at hruns
    simp only [runTask, hb, hproc]
    exact hruns
  | some b =>
    rw [hb] at ht
    obtain ⟨value, hvalue⟩ := ht
    refine Or.inr ⟨b, value, rfl, hvalue, ?_⟩
    simp [runTask, hb, hvalue, Proc.answered, Proc.advance]

/-- One step of an atomic loop: a task arrives, or one takes its whole effect,
or nothing happens. -/
theorem Atomic.step_cases (ha : Atomic handler inv effect) {c : EventLoop R σ Req Resp α}
    (hs : inv c.state) (ht : ∀ t ∈ c.tasks, Settled handler t) (action : Action R Resp) :
    (∃ q, action = .arrive q ∧
      step handler c action = { c with tasks := c.tasks ++ [⟨q, none, handler q⟩] }) ∨
    (∃ i answer t, action = .resume i answer ∧ c.tasks[i]? = some t ∧ t.begun = none ∧
      step handler c action =
        { state := (effect t.request c.state).2
          tasks := c.tasks.set i
            ⟨t.request, some c.state, .ret (effect t.request c.state).1⟩ }) ∨
    step handler c action = c := by
  cases action with
  | arrive q => exact Or.inl ⟨q, rfl, rfl⟩
  | resume i answer =>
    cases hi : c.tasks[i]? with
    | none => exact Or.inr (Or.inr (by simp [step, hi]))
    | some t =>
      rcases ha.runTask_settled (ht t (List.mem_of_getElem? hi)) answer hs with
        ⟨hb, hrun⟩ | ⟨b, value, hb, hproc, hrun⟩
      · refine Or.inr (Or.inl ⟨i, answer, t, rfl, hi, hb, ?_⟩)
        simp [step, hi, hrun, hb]
      · refine Or.inr (Or.inr ?_)
        have hsame : (⟨t.request, some b, .ret value⟩ : Task R σ Req Resp α) = t := by
          cases t
          simp only at hb hproc
          rw [hb, hproc]
        have hset : c.tasks.set i t = c.tasks := by
          obtain ⟨hlt, rfl⟩ := List.getElem?_eq_some_iff.mp hi
          exact List.set_getElem_self hlt
        simp [step, hi, hrun, hb, hsame, hset]

theorem Atomic.step_settled (ha : Atomic handler inv effect) {c : EventLoop R σ Req Resp α}
    (hs : inv c.state) (ht : ∀ t ∈ c.tasks, Settled handler t) (action : Action R Resp) :
    inv (step handler c action).state ∧ ∀ t ∈ (step handler c action).tasks, Settled handler t := by
  rcases ha.step_cases hs ht action with ⟨q, -, hstep⟩ | ⟨i, answer, t, -, hi, -, hstep⟩ | hstep
  · rw [hstep]
    refine ⟨hs, fun t hmem => ?_⟩
    rcases List.mem_append.mp hmem with old | new
    · exact ht t old
    · have : t = ⟨q, none, handler q⟩ := by simpa using new
      subst this
      rfl
  · rw [hstep]
    refine ⟨ha.keeps _ _ hs, fun t' hmem => ?_⟩
    rcases List.mem_or_eq_of_mem_set hmem with old | new
    · exact ht t' old
    · subst new
      exact ⟨_, rfl⟩
  · rw [hstep]
    exact ⟨hs, ht⟩

end Atomic

/-! ## Infinite schedules -/

section Schedule

variable {handler : R → Proc σ Req Resp α}

/-- The loop after the first `n` actions of a schedule. -/
def after (handler : R → Proc σ Req Resp α) (c : EventLoop R σ Req Resp α)
    (schedule : Nat → Action R Resp) : Nat → EventLoop R σ Req Resp α
  | 0 => c
  | n + 1 => step handler (after handler c schedule n) (schedule n)

/-- Task `i` is scheduled again and again. -/
def KeepsResuming (schedule : Nat → Action R Resp) (i : Nat) : Prop :=
  ∀ n, ∃ m answer, n ≤ m ∧ schedule m = .resume i answer

def Returned (c : EventLoop R σ Req Resp α) (i : Nat) (value : α) : Prop :=
  ∃ t, c.tasks[i]? = some t ∧ t.begun ≠ none ∧ t.proc = .ret value

theorem reaches_after {allowed : EventLoop R σ Req Resp α → Action R Resp → Prop}
    {c : EventLoop R σ Req Resp α} {schedule : Nat → Action R Resp}
    (orderly : ∀ n, allowed (after handler c schedule n) (schedule n)) (n : Nat) :
    Reaches handler allowed c (after handler c schedule n) := by
  induction n with
  | zero => exact Relation.ReflTransGen.refl
  | succ n ih => exact ih.then (schedule n) (orderly n)

/-- Only its own actions move a task. -/
theorem step_other {c : EventLoop R σ Req Resp α} {action : Action R Resp} {i : Nat}
    {t : Task R σ Req Resp α} (ht : c.tasks[i]? = some t)
    (other : ∀ answer, action ≠ .resume i answer) :
    (step handler c action).tasks[i]? = some t := by
  cases action with
  | arrive q =>
    have inside : i < c.tasks.length := (List.getElem?_eq_some_iff.mp ht).1
    simp only [step]
    rw [List.getElem?_append_left inside, ht]
  | resume j answer =>
    have hne : j ≠ i := by
      rintro rfl
      exact other answer rfl
    cases hj : c.tasks[j]? with
    | none => simpa only [step, hj] using ht
    | some t' =>
      simp only [step, hj]
      rw [List.getElem?_set_ne hne, ht]

theorem first_resume {schedule : Nat → Action R Resp} {i : Nat} (again : KeepsResuming schedule i)
    (n : Nat) :
    ∃ m answer, n ≤ m ∧ schedule m = .resume i answer ∧
      ∀ k, n ≤ k → k < m → ∀ answer, schedule k ≠ .resume i answer := by
  classical
  have some_resume : ∃ m, n ≤ m ∧ ∃ answer, schedule m = .resume i answer := by
    obtain ⟨m, answer, hm, hresume⟩ := again n
    exact ⟨m, hm, answer, hresume⟩
  obtain ⟨hm, answer, hresume⟩ := Nat.find_spec some_resume
  refine ⟨Nat.find some_resume, answer, hm, hresume, ?_⟩
  intro k hk hbefore answer' hresume'
  exact Nat.find_min some_resume hbefore ⟨hk, answer', hresume'⟩

theorem untouched_until {c : EventLoop R σ Req Resp α} {schedule : Nat → Action R Resp} {i n : Nat}
    {t : Task R σ Req Resp α} (ht : (after handler c schedule n).tasks[i]? = some t) (m : Nat)
    (hm : n ≤ m) (others : ∀ k, n ≤ k → k < m → ∀ answer, schedule k ≠ .resume i answer) :
    (after handler c schedule m).tasks[i]? = some t := by
  induction m, hm using Nat.le_induction with
  | base => exact ht
  | succ m hm ih =>
    have earlier := ih fun k hk hlt => others k hk (by omega)
    exact step_other earlier (others m hm (by omega))

/-- The next time a task is scheduled. -/
theorem next_section {c : EventLoop R σ Req Resp α} {schedule : Nat → Action R Resp} {i n : Nat}
    {t : Task R σ Req Resp α} (again : KeepsResuming schedule i)
    (ht : (after handler c schedule n).tasks[i]? = some t) :
    ∃ m answer s b, (after handler c schedule (m + 1)).tasks[i]? =
      some ⟨t.request, some b, (runTask t answer s).1⟩ := by
  obtain ⟨m, answer, hm, hresume, others⟩ := first_resume again n
  have still := untouched_until ht m hm others
  have inside : i < (after handler c schedule m).tasks.length :=
    (List.getElem?_eq_some_iff.mp still).1
  refine ⟨m, answer, (after handler c schedule m).state,
    t.begun.getD (after handler c schedule m).state, ?_⟩
  simp only [after, hresume, step, still]
  rw [List.getElem?_set_self inside]

theorem advanced_returns {c : EventLoop R σ Req Resp α} {schedule : Nat → Action R Resp} {i : Nat}
    (again : KeepsResuming schedule i) {p : Proc σ Req Resp α} (free : Proc.Unblocked p) (s : σ)
    {n : Nat} {t : Task R σ Req Resp α} (ht : (after handler c schedule n).tasks[i]? = some t)
    (begun : t.begun ≠ none) (hproc : t.proc = (p.advance s).1) :
    ∃ m value, Returned (after handler c schedule m) i value := by
  induction p generalizing s n t with
  | ret value => exact ⟨n, value, t, ht, begun, hproc⟩
  | sync update next ih => exact ih s (free s).2 (update s) ht begun hproc
  | await request next ih =>
    obtain ⟨m, answer, s', b, hnext⟩ := next_section again ht
    obtain ⟨b', hb'⟩ := Option.ne_none_iff_exists'.mp begun
    refine ih answer (free.2 answer trivial) s' hnext (by simp) ?_
    simp [runTask, hb', hproc, Proc.advance, Proc.answered]
  | block ready next ih => exact free.elim

/-- A task that never waits for a lock returns, if it is scheduled again and
again; the induction is on what is left of it. -/
theorem returns_eventually {c : EventLoop R σ Req Resp α} {schedule : Nat → Action R Resp} {i : Nat}
    (again : KeepsResuming schedule i) {n : Nat} {t : Task R σ Req Resp α}
    (ht : (after handler c schedule n).tasks[i]? = some t) (fresh : t.begun = none)
    (free : Proc.Unblocked t.proc) : ∃ m value, Returned (after handler c schedule m) i value := by
  obtain ⟨m, answer, s, b, hnext⟩ := next_section again ht
  refine advanced_returns again free s hnext (by simp) ?_
  simp [runTask, fresh]

end Schedule

end EventLoop

end CompleteDeviceManagement.Library
