import Mathlib.Logic.Relation

/-!
# Cooperative processes

A process runs on a single thread over a shared state `σ`. Everything it does
between two suspension points is synchronous: no other process is scheduled
inside such a section. It gives up the thread at an `await` (an exchange with
the outside, answered by the environment) and at a `block` whose condition does
not hold (a lock somebody else holds).

`wp` is the weakest precondition of a process in the presence of others: it
speaks about one synchronous section at a time, remembers the state the section
started from, and asks for the next section from every state the other
processes can leave behind.
-/

set_option autoImplicit false

namespace CompleteDeviceManagement.Library

/-- `sync` reads the shared state and replaces it in one go; `block` continues
as soon as it is scheduled in a state that is `ready`. -/
inductive Proc (σ Req Resp α : Type) : Type where
  | ret (value : α)
  | sync (update : σ → σ) (next : σ → Proc σ Req Resp α)
  | await (request : Req) (next : Resp → Proc σ Req Resp α)
  | block (ready : σ → Bool) (next : Proc σ Req Resp α)

namespace Proc

variable {σ Req Resp α β γ : Type}

def bind : Proc σ Req Resp α → (α → Proc σ Req Resp β) → Proc σ Req Resp β
  | .ret value, f => f value
  | .sync update next, f => .sync update fun s => (next s).bind f
  | .await request next, f => .await request fun answer => (next answer).bind f
  | .block ready next, f => .block ready (next.bind f)

instance : Monad (Proc σ Req Resp) where
  pure := .ret
  bind := bind

@[simp] theorem pure_eq (value : α) : (pure value : Proc σ Req Resp α) = .ret value := rfl

@[simp] theorem bind_eq (p : Proc σ Req Resp α) (f : α → Proc σ Req Resp β) :
    p >>= f = p.bind f := rfl

@[simp] theorem ret_bind (value : α) (f : α → Proc σ Req Resp β) :
    (Proc.ret value : Proc σ Req Resp α).bind f = f value := rfl

@[simp] theorem sync_bind (update : σ → σ) (next : σ → Proc σ Req Resp α)
    (f : α → Proc σ Req Resp β) :
    (Proc.sync update next).bind f = .sync update fun s => (next s).bind f := rfl

@[simp] theorem await_bind (request : Req) (next : Resp → Proc σ Req Resp α)
    (f : α → Proc σ Req Resp β) :
    (Proc.await request next).bind f = .await request fun answer => (next answer).bind f := rfl

@[simp] theorem block_bind (ready : σ → Bool) (next : Proc σ Req Resp α)
    (f : α → Proc σ Req Resp β) :
    (Proc.block ready next).bind f = .block ready (next.bind f) := rfl

theorem bind_ret (p : Proc σ Req Resp α) : p.bind .ret = p := by
  induction p with
  | ret value => rfl
  | sync update next ih => simp [bind, ih]
  | await request next ih => simp [bind, ih]
  | block ready next ih => simp [bind, ih]

theorem bind_assoc (p : Proc σ Req Resp α) (f : α → Proc σ Req Resp β)
    (g : β → Proc σ Req Resp γ) : (p.bind f).bind g = p.bind fun value => (f value).bind g := by
  induction p with
  | ret value => rfl
  | sync update next ih => simp [bind, ih]
  | await request next ih => simp [bind, ih]
  | block ready next ih => simp [bind, ih]

instance : LawfulMonad (Proc σ Req Resp) :=
  LawfulMonad.mk' (Proc σ Req Resp) (fun p => bind_ret p) (fun _ _ => rfl)
    (fun p f g => bind_assoc p f g)

/-- Read the shared state. -/
def get : Proc σ Req Resp σ := .sync id .ret

/-- Change the shared state and keep the thread. -/
def modify (update : σ → σ) : Proc σ Req Resp Unit := .sync update fun _ => .ret ()

/-- Exchange with the environment: the only unconditional suspension point. -/
def call (request : Req) : Proc σ Req Resp Resp := .await request .ret

/-- Wait until the shared state satisfies `ready`; no suspension if it does. -/
def waitFor (ready : σ → Bool) : Proc σ Req Resp Unit := .block ready (.ret ())

/-! ## Running one section -/

/-- Run until the process returns or gives up the thread. -/
def advance : Proc σ Req Resp α → σ → Proc σ Req Resp α × σ
  | .ret value, s => (.ret value, s)
  | .sync update next, s => (next s).advance (update s)
  | .await request next, s => (.await request next, s)
  | .block ready next, s => if ready s then next.advance s else (.block ready next, s)

/-- Deliver the environment's answer to a process suspended at an `await`. -/
def answered (answer : Resp) : Proc σ Req Resp α → Proc σ Req Resp α
  | .await _ next => next answer
  | p => p

/-- How a section ended: with a value, or suspended at a request, or blocked. -/
inductive Stop (Req α : Type) : Type where
  | returned (value : α)
  | suspended (request : Option Req)

def stop : Proc σ Req Resp α → Stop Req α
  | .ret value => .returned value
  | .await request _ => .suspended (some request)
  | .sync _ _ => .suspended none
  | .block _ _ => .suspended none

/-- From `s` the process runs to its end without giving up the thread. -/
def RunsTo (p : Proc σ Req Resp α) (s : σ) (value : α) (s' : σ) : Prop :=
  p.advance s = (.ret value, s')

theorem RunsTo.ret (value : α) (s : σ) : RunsTo (.ret value : Proc σ Req Resp α) s value s := rfl

theorem RunsTo.unique {p : Proc σ Req Resp α} {s s' s'' : σ} {value value' : α}
    (h : RunsTo p s value s') (h' : RunsTo p s value' s'') : value = value' ∧ s' = s'' := by
  unfold RunsTo at h h'
  obtain ⟨hvalue, hstate⟩ := Prod.mk.inj (h.symm.trans h')
  cases hvalue
  exact ⟨rfl, hstate⟩

theorem RunsTo.bind {p : Proc σ Req Resp α} {f : α → Proc σ Req Resp β} {s s' s'' : σ}
    {value : α} {value' : β} (hp : RunsTo p s value s') (hf : RunsTo (f value) s' value' s'') :
    RunsTo (p.bind f) s value' s'' := by
  unfold RunsTo at hp hf ⊢
  induction p generalizing s with
  | ret v =>
    obtain ⟨hv, rfl⟩ := Prod.mk.inj hp
    cases hv
    exact hf
  | sync update next ih => exact ih s hp
  | await request next ih => cases (Prod.mk.inj hp).1
  | block ready next ih =>
    cases hr : ready s with
    | true =>
      simp only [advance, hr, if_true] at hp
      simp only [block_bind, advance, hr, if_true]
      exact ih hp
    | false =>
      simp only [advance, hr, Bool.false_eq_true, if_false] at hp
      cases (Prod.mk.inj hp).1

/-! ## Weakest preconditions among other processes -/

section Wp

/- `inv` is what holds whenever a section starts, `answers` is what is assumed
of the environment, and `susp` is owed at each suspension: it relates the state
at the start of the section, the state now, and the request made. -/
variable (inv : σ → Prop) (answers : Req → Resp → Prop) (susp : σ → σ → Option Req → Prop)

def wp (post : σ → α → σ → Prop) : Proc σ Req Resp α → σ → σ → Prop
  | .ret value, start, s => post start value s
  | .sync update next, start, s => (next s).wp post start (update s)
  | .await request next, start, s => susp start s (some request) ∧
      ∀ answer, answers request answer → ∀ s', inv s' → (next answer).wp post s' s'
  | .block ready next, start, s =>
      (ready s = true → next.wp post start s) ∧
      (ready s = false → susp start s none ∧
        ∀ s', inv s' → ready s' = true → next.wp post s' s')

variable {inv answers susp}

theorem RunsTo.wp_iff {p : Proc σ Req Resp α} {s s' : σ} {value : α}
    (h : RunsTo p s value s') (post : σ → α → σ → Prop) (start : σ) :
    wp inv answers susp post p start s ↔ post start value s' := by
  unfold RunsTo at h
  induction p generalizing s with
  | ret v =>
    obtain ⟨hv, rfl⟩ := Prod.mk.inj h
    cases hv
    exact Iff.rfl
  | sync update next ih => exact ih s h
  | await request next ih => cases (Prod.mk.inj h).1
  | block ready next ih =>
    cases hr : ready s with
    | true =>
      simp only [advance, hr, if_true] at h
      simp [wp, hr, ih h]
    | false =>
      simp only [advance, hr, Bool.false_eq_true, if_false] at h
      cases (Prod.mk.inj h).1

theorem wp_ret (post : σ → α → σ → Prop) (value : α) (start s : σ) :
    wp inv answers susp post (.ret value) start s ↔ post start value s := Iff.rfl

/-- Sequencing: the second process runs on in the section the first ended in. -/
theorem wp_bind (p : Proc σ Req Resp α) (f : α → Proc σ Req Resp β)
    (post : σ → β → σ → Prop) (start s : σ) :
    wp inv answers susp post (p.bind f) start s ↔
      wp inv answers susp (fun start value s => wp inv answers susp post (f value) start s)
        p start s := by
  induction p generalizing start s with
  | ret value => exact Iff.rfl
  | sync update next ih => exact ih s start (update s)
  | await request next ih =>
    simp only [bind, wp]
    constructor
    · rintro ⟨owed, rest⟩
      exact ⟨owed, fun answer ha s' hs => (ih answer s' s').mp (rest answer ha s' hs)⟩
    · rintro ⟨owed, rest⟩
      exact ⟨owed, fun answer ha s' hs => (ih answer s' s').mpr (rest answer ha s' hs)⟩
  | block ready next ih =>
    simp only [bind, wp, ih]

theorem wp_mono {post post' : σ → α → σ → Prop} (p : Proc σ Req Resp α) {start s : σ}
    (weaker : ∀ start value s, post start value s → post' start value s)
    (h : wp inv answers susp post p start s) : wp inv answers susp post' p start s := by
  induction p generalizing start s with
  | ret value => exact weaker start value s h
  | sync update next ih => exact ih s h
  | await request next ih =>
    exact ⟨h.1, fun answer ha s' hs => ih answer (h.2 answer ha s' hs)⟩
  | block ready next ih =>
    refine ⟨fun hr => ih (h.1 hr), fun hr => ⟨(h.2 hr).1, fun s' hs hr' => ?_⟩⟩
    exact ih ((h.2 hr).2 s' hs hr')

variable (inv answers susp) in
/-- What is known of a process while it is off the thread. -/
def Parked (post : σ → α → σ → Prop) : Proc σ Req Resp α → Prop
  | .ret _ => True
  | .sync _ _ => False
  | .await request next =>
      ∀ answer, answers request answer → ∀ s, inv s → wp inv answers susp post (next answer) s s
  | .block ready next =>
      ∀ s, inv s → ready s = true → wp inv answers susp post next s s

/-- Running a section delivers what the section owes, and leaves the rest of
the process ready to be resumed. -/
theorem advance_wp {post : σ → α → σ → Prop} (p : Proc σ Req Resp α) {start s : σ}
    (h : wp inv answers susp post p start s) :
    Parked inv answers susp post (p.advance s).1 ∧
      match (p.advance s).1.stop with
      | .returned value => post start value (p.advance s).2
      | .suspended request => susp start (p.advance s).2 request := by
  induction p generalizing s with
  | ret value => exact ⟨trivial, h⟩
  | sync update next ih => exact ih s h
  | await request next ih => exact ⟨h.2, h.1⟩
  | block ready next ih =>
    cases hr : ready s with
    | true =>
      simp only [advance, hr, if_true]
      exact ih (h.1 hr)
    | false =>
      simp only [advance, hr, Bool.false_eq_true, if_false, stop]
      exact ⟨(h.2 hr).2, (h.2 hr).1⟩

end Wp

/-! ## Processes that leave the interesting part of the state alone -/

section Quiet

variable (frame : σ → σ → Prop) (calls : Req → Prop) (answers : Req → Resp → Prop)

/-- Every synchronous step stays within `frame`, every request made satisfies
`calls`, and the value returned satisfies `post` if the environment answers as
assumed. A quiet process never waits for a lock. -/
def Quiet (post : α → Prop) : Proc σ Req Resp α → Prop
  | .ret value => post value
  | .sync update next => ∀ s, frame s (update s) ∧ (next s).Quiet post
  | .await request next => calls request ∧
      ∀ answer, answers request answer → (next answer).Quiet post
  | .block _ _ => False

variable {frame calls answers}

theorem Quiet.bind {p : Proc σ Req Resp α} {f : α → Proc σ Req Resp β} {post : β → Prop}
    (h : Quiet frame calls answers (fun value => Quiet frame calls answers post (f value)) p) :
    Quiet frame calls answers post (p.bind f) := by
  induction p with
  | ret value => exact h
  | sync update next ih => exact fun s => ⟨(h s).1, ih s (h s).2⟩
  | await request next ih => exact ⟨h.1, fun answer ha => ih answer (h.2 answer ha)⟩
  | block ready next ih => exact h.elim

theorem Quiet.mono {p : Proc σ Req Resp α} {post post' : α → Prop}
    (h : Quiet frame calls answers post p) (weaker : ∀ value, post value → post' value) :
    Quiet frame calls answers post' p := by
  induction p with
  | ret value => exact weaker value h
  | sync update next ih => exact fun s => ⟨(h s).1, ih s (h s).2⟩
  | await request next ih => exact ⟨h.1, fun answer ha => ih answer (h.2 answer ha)⟩
  | block ready next ih => exact h.elim

theorem Quiet.bind_of {p : Proc σ Req Resp α} {f : α → Proc σ Req Resp β}
    {mid : α → Prop} {post : β → Prop} (hp : Quiet frame calls answers mid p)
    (hf : ∀ value, mid value → Quiet frame calls answers post (f value)) :
    Quiet frame calls answers post (p.bind f) :=
  Quiet.bind (hp.mono hf)

/-- A quiet process in front of `f`: whatever the frame keeps (`held`) is kept
up to the point where `f` starts. -/
theorem Quiet.wp {inv : σ → Prop} {susp : σ → σ → Option Req → Prop}
    {held : σ → σ → Prop} {mid : α → Prop} {post : σ → α → σ → Prop}
    {p : Proc σ Req Resp α} (h : Quiet frame calls answers mid p)
    (keeps : ∀ start s s', held start s → frame s s' → held start s')
    (owed : ∀ start s request, held start s → calls request → susp start s (some request))
    (fresh : ∀ s, inv s → held s s)
    (done : ∀ start value s, held start s → mid value → post start value s)
    {start s : σ} (hs : held start s) :
    wp inv answers susp post p start s := by
  induction p generalizing start s with
  | ret value => exact done start value s hs h
  | sync update next ih => exact ih s (h s).2 (keeps start s _ hs (h s).1)
  | await request next ih =>
    exact ⟨owed start s request hs h.1,
      fun answer ha s' hs' => ih answer (h.2 answer ha) (fresh s' hs')⟩
  | block ready next ih => exact h.elim

/-- A process that waits for no lock. -/
abbrev Unblocked (p : Proc σ Req Resp α) : Prop :=
  Quiet (fun _ _ => True) (fun _ => True) (fun _ _ => True) (fun _ => True) p

theorem Unblocked.bind {p : Proc σ Req Resp α} {f : α → Proc σ Req Resp β} (hp : Unblocked p)
    (hf : ∀ value, Unblocked (f value)) : Unblocked (p.bind f) :=
  Quiet.bind_of hp fun value _ => hf value

/-- A quiet process waits for no lock, if it is quiet whatever it is answered. -/
theorem Quiet.unblocked {post : α → Prop} {p : Proc σ Req Resp α}
    (h : Quiet frame calls (fun _ _ => True) post p) : Unblocked p := by
  induction p with
  | ret value => trivial
  | sync update next ih => exact fun s => ⟨trivial, ih s (h s).2⟩
  | await request next ih => exact ⟨trivial, fun answer _ => ih answer (h.2 answer trivial)⟩
  | block ready next ih => exact h.elim

end Quiet

/- A precondition is used by its rules; unfolded it would be evaluated along the
whole process. -/
attribute [irreducible] wp

/-! ## A process with the loop to itself -/

/-- One complete run without other processes: `env n` is the answer to the
`n`-th request. The run lists each request with its answer. -/
structure Run (σ Req Resp α : Type) where
  trace : List (Req × Resp)
  state : σ
  value : Option α

/-- A process that blocks with the loop to itself never returns. -/
def solo (env : Nat → Resp) : Proc σ Req Resp α → Nat → σ → Run σ Req Resp α
  | .ret value, _, s => ⟨[], s, some value⟩
  | .sync update next, n, s => (next s).solo env n (update s)
  | .await request next, n, s =>
      let rest := (next (env n)).solo env (n + 1) s
      ⟨(request, env n) :: rest.trace, rest.state, rest.value⟩
  | .block ready next, n, s => if ready s then next.solo env n s else ⟨[], s, none⟩

/-- Sequential composition of solo runs: the second process continues where
the first returned. -/
theorem solo_bind (env : Nat → Resp) (p : Proc σ Req Resp α) (f : α → Proc σ Req Resp β)
    (n : Nat) (s : σ) :
    (p.bind f).solo env n s =
      match (p.solo env n s).value with
      | none => ⟨(p.solo env n s).trace, (p.solo env n s).state, none⟩
      | some value =>
          let rest := (f value).solo env (n + (p.solo env n s).trace.length) (p.solo env n s).state
          ⟨(p.solo env n s).trace ++ rest.trace, rest.state, rest.value⟩ := by
  induction p generalizing n s with
  | ret value => simp [solo]
  | sync update next ih => exact ih s n (update s)
  | await request next ih =>
    simp only [bind, solo, ih]
    cases ((next (env n)).solo env (n + 1) s).value with
    | none => rfl
    | some value => simp [Nat.add_assoc, Nat.add_comm 1]
  | block ready next ih =>
    cases hr : ready s with
    | true => simp only [bind, solo, hr, if_true, ih]
    | false => simp [bind, solo, hr]

/-- A part that runs to its end exchanges nothing. -/
theorem solo_of_runsTo {p : Proc σ Req Resp α} {f : α → Proc σ Req Resp β} {s s' : σ}
    {value : α} (h : RunsTo p s value s') (env : Nat → Resp) (n : Nat) :
    (p.bind f).solo env n s = (f value).solo env n s' := by
  unfold RunsTo at h
  induction p generalizing s with
  | ret v =>
    obtain ⟨hv, rfl⟩ := Prod.mk.inj h
    cases hv
    rfl
  | sync update next ih => exact ih s h
  | await request next ih => cases (Prod.mk.inj h).1
  | block ready next ih =>
    cases hr : ready s with
    | true =>
      simp only [advance, hr, if_true] at h
      simp only [block_bind, solo, hr, if_true]
      exact ih h
    | false =>
      simp only [advance, hr, Bool.false_eq_true, if_false] at h
      cases (Prod.mk.inj h).1

/-- A quiet process always returns when left alone; its value is justified by
the exchanges of its own run. -/
theorem Quiet.solo {frame : σ → σ → Prop} {calls : Req → Prop} {answers : Req → Resp → Prop}
    {post : α → Prop} {held : σ → Prop} {p : Proc σ Req Resp α} (env : Nat → Resp)
    (h : Quiet frame calls answers post p)
    (keeps : ∀ s s', held s → frame s s' → held s') (n : Nat) (s : σ) (hs : held s)
    (assumed : ∀ exchange ∈ (p.solo env n s).trace, answers exchange.1 exchange.2) :
    held (p.solo env n s).state ∧ (∀ exchange ∈ (p.solo env n s).trace, calls exchange.1) ∧
      ∃ value, (p.solo env n s).value = some value ∧ post value := by
  induction p generalizing n s with
  | ret value => exact ⟨hs, by simp [Proc.solo], value, rfl, h⟩
  | sync update next ih => exact ih s (h s).2 n _ (keeps s _ hs (h s).1) assumed
  | await request next ih =>
    simp only [Proc.solo, List.mem_cons, forall_eq_or_imp] at assumed ⊢
    obtain ⟨hstate, hcalls, hvalue⟩ := ih (env n) (h.2 _ assumed.1) (n + 1) s hs assumed.2
    exact ⟨hstate, ⟨h.1, hcalls⟩, hvalue⟩
  | block ready next ih => exact h.elim

end Proc

end CompleteDeviceManagement.Library
