import CompleteDeviceManagement.Library.EventLoop
import CompleteDeviceManagement.Library.Fallible
import Mathlib.Algebra.GroupWithZero.Nat
import Mathlib.Data.List.Forall2

/-!
# Credits

A bound on what the tasks of an event loop add to a measure of the state. Each
request comes with a credit; whoever adds to the measure pays with it. Over a
whole run the measure and the credits not yet spent are at most the measure at
the start and the credits of the requests that arrived (`Reaches.solvent`).
-/

set_option autoImplicit false

namespace CompleteDeviceManagement.Library

namespace Proc

variable {σ Req Resp α β : Type}

section Spends

variable (measure : σ → Nat) (answers : Req → Resp → Prop)

/-- With this credit the process pays for all it adds to the measure, and what
is left of it when it returns is as `post` says. -/
def Spends (post : α → Nat → Prop) : Proc σ Req Resp α → Nat → Prop
  | .ret value, credit => post value credit
  | .sync update next, credit =>
      ∀ s, ∃ rest, measure (update s) + rest ≤ measure s + credit ∧ (next s).Spends post rest
  | .await request next, credit =>
      ∀ answer, answers request answer → (next answer).Spends post credit
  | .block _ next, credit => next.Spends post credit

variable {measure answers}

theorem Spends.bind {p : Proc σ Req Resp α} {f : α → Proc σ Req Resp β} {post : β → Nat → Prop}
    {credit : Nat}
    (h : Spends measure answers (fun value rest => Spends measure answers post (f value) rest)
      p credit) :
    Spends measure answers post (p.bind f) credit := by
  induction p generalizing credit with
  | ret value => exact h
  | sync update next ih =>
    intro s
    obtain ⟨rest, paid, hnext⟩ := h s
    exact ⟨rest, paid, ih s hnext⟩
  | await request next ih => exact fun answer ha => ih answer (h answer ha)
  | block ready next ih => exact ih h

theorem Spends.mono {p : Proc σ Req Resp α} {post post' : α → Nat → Prop} {credit : Nat}
    (h : Spends measure answers post p credit)
    (weaker : ∀ value rest, post value rest → post' value rest) :
    Spends measure answers post' p credit := by
  induction p generalizing credit with
  | ret value => exact weaker value credit h
  | sync update next ih =>
    intro s
    obtain ⟨rest, paid, hnext⟩ := h s
    exact ⟨rest, paid, ih s hnext⟩
  | await request next ih => exact fun answer ha => ih answer (h answer ha)
  | block ready next ih => exact ih h

/-- What adds nothing to the measure keeps the credit. -/
theorem Quiet.spends {calls : Req → Prop} {post : α → Prop} {p : Proc σ Req Resp α}
    (h : Quiet (fun s s' => measure s' ≤ measure s) calls answers post p) (credit : Nat) :
    Spends measure answers (fun value rest => rest = credit ∧ post value) p credit := by
  induction p with
  | ret value => exact ⟨rfl, h⟩
  | sync update next ih =>
    intro s
    have hkept := (h s).1
    exact ⟨credit, by omega, ih s (h s).2⟩
  | await request next ih => exact fun answer ha => ih answer (h.2 answer ha)
  | block ready next ih => exact h.elim

theorem Spends.advance {p : Proc σ Req Resp α} {post : α → Nat → Prop} {credit : Nat}
    (h : Spends measure answers post p credit) (s : σ) :
    ∃ rest, measure (p.advance s).2 + rest ≤ measure s + credit ∧
      Spends measure answers post (p.advance s).1 rest := by
  induction p generalizing credit s with
  | ret value => exact ⟨credit, Nat.le_refl _, h⟩
  | sync update next ih =>
    obtain ⟨rest, paid, hnext⟩ := h s
    obtain ⟨rest', paid', hrest⟩ := ih s hnext (update s)
    exact ⟨rest', by simp only [Proc.advance]; omega, hrest⟩
  | await request next ih => exact ⟨credit, Nat.le_refl _, h⟩
  | block ready next ih =>
    cases hr : ready s with
    | true =>
      simp only [Proc.advance, hr, if_true]
      exact ih h s
    | false =>
      simp only [Proc.advance, hr, Bool.false_eq_true, if_false]
      exact ⟨credit, Nat.le_refl _, h⟩

end Spends

end Proc

namespace Fallible

variable {σ Req Resp ε α β : Type} {measure : σ → Nat} {answers : Req → Resp → Prop}

theorem spends_bind {x : Fallible σ Req Resp ε α} {f : α → Fallible σ Req Resp ε β}
    {mid : Except ε α → Nat → Prop} {post : Except ε β → Nat → Prop} {credit : Nat}
    (hx : Proc.Spends measure answers mid x.run credit)
    (hok : ∀ value rest, mid (.ok value) rest → Proc.Spends measure answers post (f value).run rest)
    (herr : ∀ error rest, mid (.error error) rest → post (.error error) rest) :
    Proc.Spends measure answers post (x >>= f).run credit := by
  rw [run_bind]
  apply Proc.Spends.bind
  apply hx.mono
  intro result rest h
  cases result with
  | ok value => exact hok value rest h
  | error error => exact herr error rest h

theorem spends_attempt {catches : ε → Bool} {body : Fallible σ Req Resp ε α}
    {post : Except ε (Except ε α) → Nat → Prop} {credit : Nat}
    (h : Proc.Spends measure answers (fun result rest => post (caught catches result) rest)
      body.run credit) :
    Proc.Spends measure answers post (attempt catches body).run credit :=
  Proc.Spends.bind h

end Fallible

namespace EventLoop

variable {R σ Req Resp α : Type}

/-- The requests that have arrived, in order. -/
def arrived (c : EventLoop R σ Req Resp α) : List R := c.tasks.map Task.request

/-- Every task is answered as is assumed for the request it serves. -/
def AnswersFor (answers : R → Req → Resp → Prop) (c : EventLoop R σ Req Resp α) :
    Action R Resp → Prop
  | .arrive _ => True
  | .resume i answer => ∀ t request next, c.tasks[i]? = some t → t.begun ≠ none →
      t.proc = .await request next → answers t.request request answer

theorem arrived_resume (handler : R → Proc σ Req Resp α) (c : EventLoop R σ Req Resp α) (i : Nat)
    (answer : Resp) : arrived (step handler c (.resume i answer)) = arrived c := by
  cases ht : c.tasks[i]? with
  | none => simp [step, ht]
  | some t =>
    obtain ⟨hi, rfl⟩ := List.getElem?_eq_some_iff.mp ht
    simp only [step, ht, arrived, List.map_set]
    rw [← List.getElem_map Task.request (h := by simpa using hi), List.set_getElem_self]

theorem arrived_arrive (handler : R → Proc σ Req Resp α) (c : EventLoop R σ Req Resp α) (q : R) :
    arrived (step handler c (.arrive q)) = arrived c ++ [q] := by
  simp [step, arrived]

/-- A request may arrive, run up to its first `await` and be answered there,
with no other task in between. -/
theorem Reaches.answered_once {handler : R → Proc σ Req Resp α} {answers : R → Req → Resp → Prop}
    {c₀ c : EventLoop R σ Req Resp α} (h : Reaches handler (AnswersFor answers) c₀ c) {q : R}
    {request : Req} {next : Resp → Proc σ Req Resp α} {s : σ}
    (first : (handler q).advance c.state = (.await request next, s)) {answer : Resp}
    (given : answers q request answer) :
    ∃ c', Reaches handler (AnswersFor answers) c₀ c' ∧ arrived c' = arrived c ++ [q] ∧
      c'.state = ((next answer).advance s).2 := by
  have harrive := h.then (.arrive q) trivial
  generalize hc₁ : step handler c (.arrive q) = c₁ at harrive
  have htasks : c₁.tasks[c.tasks.length]? = some ⟨q, none, handler q⟩ := by simp [← hc₁, step]
  have hstate : c₁.state = c.state := by rw [← hc₁]; rfl
  have hbegin := harrive.then (.resume c.tasks.length answer) (by
    intro t request next ht hb
    rw [htasks] at ht
    cases ht
    exact absurd rfl hb)
  generalize hc₂ : step handler c₁ (.resume c.tasks.length answer) = c₂ at hbegin
  have hrun : runTask ⟨q, none, handler q⟩ answer c₁.state = (.await request next, s) := by
    rw [hstate]
    exact first
  have htasks₂ : c₂.tasks[c.tasks.length]? = some ⟨q, some c.state, .await request next⟩ := by
    have hlt := (List.getElem?_eq_some_iff.mp htasks).1
    rw [← hc₂]
    simp only [step, htasks]
    rw [List.getElem?_set_self hlt, hrun, hstate]
    rfl
  have hstate₂ : c₂.state = s := by simp [← hc₂, step, htasks, hrun]
  have hanswer := hbegin.then (.resume c.tasks.length answer) (by
    intro t request' next' ht _ hp
    rw [htasks₂] at ht
    cases ht
    cases hp
    exact given)
  refine ⟨_, hanswer, ?_, ?_⟩
  · rw [arrived_resume, ← hc₂, arrived_resume, ← hc₁, arrived_arrive]
  · simp [step, htasks₂, hstate₂, runTask, Proc.answered]

section Credit

variable {measure : σ → Nat} {answers : R → Req → Resp → Prop} {credit : R → Nat}

/-- A list of credits, one of them exchanged. -/
theorem exchanged {P : Task R σ Req Resp α → Nat → Prop} {ts : List (Task R σ Req Resp α)}
    {left : List Nat} (h : List.Forall₂ P ts left) {i : Nat} {t : Task R σ Req Resp α}
    (ht : ts[i]? = some t) :
    ∃ before, P t before ∧ ∀ t' after, P t' after →
      ∃ left', List.Forall₂ P (ts.set i t') left' ∧ left'.sum + before = left.sum + after := by
  induction h generalizing i with
  | nil => simp at ht
  | @cons t0 k ts left h0 hrest ih =>
    cases i with
    | zero =>
      obtain rfl : t0 = t := by simpa using ht
      refine ⟨k, h0, fun t' after h' => ⟨after :: left, .cons h' hrest, ?_⟩⟩
      simp only [List.sum_cons]
      omega
    | succ i =>
      obtain ⟨before, hbefore, hset⟩ := ih (i := i) (by simpa using ht)
      refine ⟨before, hbefore, fun t' after h' => ?_⟩
      obtain ⟨left', hleft, hsum⟩ := hset t' after h'
      refine ⟨k :: left', .cons h0 hleft, ?_⟩
      simp only [List.sum_cons]
      omega

/-- Some credits are left that pay for the rest of every task. -/
def Solvent (measure : σ → Nat) (answers : R → Req → Resp → Prop) (credit : R → Nat) (bound : Nat)
    (c : EventLoop R σ Req Resp α) : Prop :=
  ∃ left, List.Forall₂ (fun t k => t.proc.Spends measure (answers t.request)
      (fun _ _ => True) k) c.tasks left ∧
    measure c.state + left.sum ≤ bound + ((arrived c).map credit).sum

theorem Solvent.step {handler : R → Proc σ Req Resp α}
    (spends : ∀ q, (handler q).Spends measure (answers q) (fun _ _ => True) (credit q))
    {bound : Nat} {c : EventLoop R σ Req Resp α} (h : Solvent measure answers credit bound c)
    {action : Action R Resp} (allowed : AnswersFor answers c action) :
    Solvent measure answers credit bound (EventLoop.step handler c action) := by
  obtain ⟨left, hleft, hbound⟩ := h
  cases action with
  | arrive q =>
    refine ⟨left ++ [credit q], ?_, ?_⟩
    · exact List.rel_append hleft (.cons (spends q) .nil)
    · simp only [EventLoop.step, arrived, List.map_append, List.map_cons, List.map_nil,
        List.sum_append, List.sum_cons, List.sum_nil] at hbound ⊢
      omega
  | resume i answer =>
    have same := arrived_resume handler c i answer
    cases ht : c.tasks[i]? with
    | none =>
      simp only [EventLoop.step, ht]
      exact ⟨left, hleft, hbound⟩
    | some t =>
      obtain ⟨before, hbefore, hset⟩ := exchanged hleft ht
      have resumed : ∃ rest, measure (runTask t answer c.state).2 + rest ≤
          measure c.state + before ∧ (runTask t answer c.state).1.Spends measure
            (answers t.request) (fun _ _ => True) rest := by
        unfold runTask
        cases hb : t.begun with
        | none => exact hbefore.advance c.state
        | some b =>
          apply Proc.Spends.advance
          cases hp : t.proc with
          | await request next =>
            rw [hp] at hbefore
            exact hbefore answer (allowed t request next ht (by simp [hb]) hp)
          | ret value => trivial
          | sync update next => rw [hp] at hbefore; exact hbefore
          | block ready next => rw [hp] at hbefore; exact hbefore
      obtain ⟨rest, paid, hrest⟩ := resumed
      obtain ⟨left', hleft', hsum⟩ := hset
        ⟨t.request, some (t.begun.getD c.state), (runTask t answer c.state).1⟩ rest hrest
      unfold Solvent
      rw [same]
      simp only [EventLoop.step, ht]
      exact ⟨left', hleft', by omega⟩

theorem Reaches.solvent {handler : R → Proc σ Req Resp α}
    (spends : ∀ q, (handler q).Spends measure (answers q) (fun _ _ => True) (credit q)) {s : σ}
    {c : EventLoop R σ Req Resp α}
    (h : Reaches handler (AnswersFor answers) (start s) c) :
    measure c.state ≤ measure s + ((arrived c).map credit).sum := by
  have initial : Solvent measure answers credit (measure s)
      (start s : EventLoop R σ Req Resp α) := ⟨[], .nil, by simp [start, arrived]⟩
  obtain ⟨left, _, hbound⟩ := h.invariant initial fun c action hc ha => hc.step spends ha
  omega

end Credit

end EventLoop

end CompleteDeviceManagement.Library
