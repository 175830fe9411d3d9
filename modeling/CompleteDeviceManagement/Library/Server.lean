import CompleteDeviceManagement.Library.EventLoop
import CompleteDeviceManagement.Library.Fallible

/-!
# Processes in front of a server

A process as part of a larger one (`within`), and a process whose requests go
to a server with a state of its own (`against`). The server is given by what it
does with a request and with the `fate` of the exchange, which the environment
chooses: whether the request arrives, and what becomes of the answer. Between
the moment the server has a request and the moment the client has the answer
other processes may run, so an exchange has two legs.

`leaves` is the precondition of a process with the loop to itself.
-/

set_option autoImplicit false

namespace CompleteDeviceManagement.Library

/-- The two suspensions of an exchange with a server. -/
inductive Leg (Req Resp : Type) where
  | request (request : Req)
  | answer (request : Req) (answer : Resp)

namespace Proc

variable {σ τ S Req Req' Resp Fate α β : Type}

/-! ## A process on a part of the state -/

def within (part : τ → σ) (put : σ → τ → τ) (inject : Req → Req') :
    Proc σ Req Resp α → Proc τ Req' Resp α
  | .ret value => .ret value
  | .sync update next =>
      .sync (fun t => put (update (part t)) t) fun t => (next (part t)).within part put inject
  | .await request next =>
      .await (inject request) fun answer => (next answer).within part put inject
  | .block ready next => .block (fun t => ready (part t)) (next.within part put inject)

theorem Quiet.within {frame : σ → σ → Prop} {calls : Req → Prop} {answers : Req → Resp → Prop}
    {post : α → Prop} {p : Proc σ Req Resp α} (h : Quiet frame calls answers post p)
    {part : τ → σ} {put : σ → τ → τ} {inject : Req → Req'} {frame' : τ → τ → Prop}
    {calls' : Req' → Prop} {answers' : Req' → Resp → Prop}
    (kept : ∀ t s, frame (part t) s → frame' t (put s t))
    (asked : ∀ request, calls request → calls' (inject request))
    (given : ∀ request answer, calls request → answers' (inject request) answer →
      answers request answer) :
    Quiet frame' calls' answers' post (p.within part put inject) := by
  induction p with
  | ret value => exact h
  | sync update next ih => exact fun t => ⟨kept t _ (h (part t)).1, ih (part t) (h (part t)).2⟩
  | await request next ih =>
    exact ⟨asked request h.1, fun answer ha => ih answer (h.2 answer (given request answer h.1 ha))⟩
  | block ready next ih => exact h.elim

/-! ## A process and its server -/

def against (serve : Req → Fate → S → Resp × S) :
    Proc σ Req Resp α → Proc (σ × S) (Leg Req Resp) Fate α
  | .ret value => .ret value
  | .sync update next =>
      .sync (fun c => (update c.1, c.2)) fun c => (next c.1).against serve
  | .await request next =>
      .await (.request request) fun fate =>
        .sync (fun c => (c.1, (serve request fate c.2).2)) fun c =>
          .await (.answer request (serve request fate c.2).1) fun _ =>
            (next (serve request fate c.2).1).against serve
  | .block ready next => .block (fun c => ready c.1) (next.against serve)

variable {serve : Req → Fate → S → Resp × S}

theorem against_bind (p : Proc σ Req Resp α) (f : α → Proc σ Req Resp β) :
    (p.bind f).against serve = (p.against serve).bind fun value => (f value).against serve := by
  induction p with
  | ret value => rfl
  | sync update next ih => simp only [bind, against, ih]
  | await request next ih => simp only [bind, against, ih]
  | block ready next ih => simp only [bind, against, ih]

theorem RunsTo.against {p : Proc σ Req Resp α} {s s' : σ} {value : α} (h : RunsTo p s value s')
    (t : S) : RunsTo (p.against serve) (s, t) value (s', t) := by
  unfold RunsTo at h ⊢
  induction p generalizing s with
  | ret v =>
    obtain ⟨hv, rfl⟩ := Prod.mk.inj h
    cases hv
    rfl
  | sync update next ih => exact ih s h
  | await request next ih => cases (Prod.mk.inj h).1
  | block ready next ih =>
    cases hr : ready s with
    | true =>
      simp only [advance, hr, if_true] at h
      simp only [Proc.against, advance, hr, if_true]
      exact ih h
    | false =>
      simp only [advance, hr, Bool.false_eq_true, if_false] at h
      cases (Prod.mk.inj h).1

/-- A quiet process in front of a server that does nothing remarkable with the
requests it makes. -/
theorem Quiet.against {frame : σ → σ → Prop} {calls : Req → Prop} {answers : Req → Resp → Prop}
    {post : α → Prop} {p : Proc σ Req Resp α} (h : Quiet frame calls answers post p)
    {frame' : σ × S → σ × S → Prop} {calls' : Leg Req Resp → Prop}
    {fates : Leg Req Resp → Fate → Prop}
    (kept : ∀ s s' t, frame s s' → frame' (s, t) (s', t))
    (asked : ∀ request, calls request → calls' (.request request))
    (told : ∀ request answer, calls request → calls' (.answer request answer))
    (served : ∀ request fate, calls request → fates (.request request) fate → ∀ s t,
      answers request (serve request fate t).1 ∧ frame' (s, t) (s, (serve request fate t).2)) :
    Quiet frame' calls' fates post (p.against serve) := by
  induction p with
  | ret value => exact h
  | sync update next ih =>
    exact fun c => ⟨kept c.1 _ c.2 (h c.1).1, ih c.1 (h c.1).2⟩
  | await request next ih =>
    refine ⟨asked request h.1, fun fate hf c => ?_⟩
    obtain ⟨given, moved⟩ := served request fate h.1 hf c.1 c.2
    exact ⟨moved, told request _ h.1, fun _ _ => ih _ (h.2 _ given)⟩
  | block ready next ih => exact h.elim

theorem Unblocked.within {p : Proc σ Req Resp α} (h : Unblocked p) {part : τ → σ}
    {put : σ → τ → τ} {inject : Req → Req'} : Unblocked (p.within part put inject) :=
  Quiet.within h (fun _ _ _ => trivial) (fun _ _ => trivial) fun _ _ _ _ => trivial

theorem Unblocked.against {p : Proc σ Req Resp α} (h : Unblocked p) :
    Unblocked (p.against serve) :=
  Quiet.against h (fun _ _ _ _ => trivial) (fun _ _ => trivial) (fun _ _ _ => trivial)
    fun _ _ _ _ _ _ => ⟨trivial, trivial⟩

/-! ## A process with the loop to itself -/

section Leaves

variable (answers : Req → Resp → Prop)

/-- Whatever it is answered, the process returns and leaves `post`. -/
def leaves (post : α → σ → Prop) : Proc σ Req Resp α → σ → Prop
  | .ret value, s => post value s
  | .sync update next, s => (next s).leaves post (update s)
  | .await request next, s =>
      ∀ answer, answers request answer → (next answer).leaves post s
  | .block ready next, s => ready s = true ∧ next.leaves post s

variable {answers}

theorem leaves_bind (p : Proc σ Req Resp α) (f : α → Proc σ Req Resp β) (post : β → σ → Prop)
    (s : σ) :
    leaves answers post (p.bind f) s ↔
      leaves answers (fun value s => leaves answers post (f value) s) p s := by
  induction p generalizing s with
  | ret value => exact Iff.rfl
  | sync update next ih => exact ih s (update s)
  | await request next ih =>
    simp only [bind, leaves]
    exact forall_congr' fun answer => imp_congr_right fun _ => ih answer s
  | block ready next ih =>
    simp only [bind, leaves]
    exact and_congr_right fun _ => ih s

theorem leaves_mono {post post' : α → σ → Prop} {p : Proc σ Req Resp α} {s : σ}
    (h : leaves answers post p s) (weaker : ∀ value s, post value s → post' value s) :
    leaves answers post' p s := by
  induction p generalizing s with
  | ret value => exact weaker value s h
  | sync update next ih => exact ih s h
  | await request next ih => exact fun answer ha => ih answer (h answer ha)
  | block ready next ih => exact ⟨h.1, ih h.2⟩

theorem RunsTo.leaves_iff {p : Proc σ Req Resp α} {s s' : σ} {value : α}
    (h : RunsTo p s value s') (post : α → σ → Prop) :
    leaves answers post p s ↔ post value s' := by
  unfold RunsTo at h
  induction p generalizing s with
  | ret v =>
    obtain ⟨hv, rfl⟩ := Prod.mk.inj h
    cases hv
    exact Iff.rfl
  | sync update next ih => exact ih s h
  | await request next ih => cases (Prod.mk.inj h).1
  | block ready next ih =>
    cases hr : ready s with
    | true =>
      simp only [advance, hr, if_true] at h
      simp only [leaves, hr, true_and]
      exact ih h
    | false =>
      simp only [advance, hr, Bool.false_eq_true, if_false] at h
      cases (Prod.mk.inj h).1

theorem Quiet.leaves {frame : σ → σ → Prop} {calls : Req → Prop} {mid : α → Prop}
    {p : Proc σ Req Resp α} (h : Quiet frame calls answers mid p) {held : σ → Prop}
    (keeps : ∀ s s', held s → frame s s' → held s') {s : σ} (hs : held s) :
    leaves answers (fun value s => mid value ∧ held s) p s := by
  induction p generalizing s with
  | ret value => exact ⟨h, hs⟩
  | sync update next ih => exact ih s (h s).2 (keeps s _ hs (h s).1)
  | await request next ih => exact fun answer ha => ih answer (h.2 answer ha) hs
  | block ready next ih => exact h.elim

/-- A run that was answered as assumed ends, and as the precondition says. -/
theorem leaves_solo {post : α → σ → Prop} {p : Proc σ Req Resp α} (env : Nat → Resp) {n : Nat}
    {s : σ} (h : leaves answers post p s)
    (assumed : ∀ exchange ∈ (p.solo env n s).trace, answers exchange.1 exchange.2) :
    ∃ value, (p.solo env n s).value = some value ∧ post value (p.solo env n s).state := by
  induction p generalizing n s with
  | ret v => exact ⟨v, rfl, h⟩
  | sync update next ih => exact ih s h assumed
  | await request next ih =>
    simp only [solo, List.mem_cons, forall_eq_or_imp] at assumed
    exact ih (env n) (h _ assumed.1) assumed.2
  | block ready next ih =>
    simp only [solo, h.1, if_true] at assumed ⊢
    exact ih h.2 assumed

end Leaves

/-- The answers of a solo run are those of its environment. -/
theorem answer_of_mem_trace (env : Nat → Resp) {p : Proc σ Req Resp α} {n : Nat} {s : σ}
    {exchange : Req × Resp} (h : exchange ∈ (p.solo env n s).trace) :
    ∃ i, exchange.2 = env i := by
  induction p generalizing n s with
  | ret v => cases h
  | sync update next ih => exact ih s h
  | await request next ih =>
    rcases List.mem_cons.mp h with rfl | h
    · exact ⟨n, rfl⟩
    · exact ih (env n) h
  | block ready next ih =>
    cases hr : ready s with
    | true =>
      simp only [solo, hr, if_true] at h
      exact ih h
    | false =>
      simp only [solo, hr, Bool.false_eq_true, if_false] at h
      cases h

end Proc

namespace Fallible

variable {σ Req Resp ε α β : Type} {answers : Req → Resp → Prop}

theorem leaves_bind_of {x : Fallible σ Req Resp ε α} {f : α → Fallible σ Req Resp ε β}
    {mid : Except ε α → σ → Prop} {post : Except ε β → σ → Prop} {s : σ}
    (hx : Proc.leaves answers mid x.run s)
    (hok : ∀ value s', mid (.ok value) s' → Proc.leaves answers post (f value).run s')
    (herr : ∀ error s', mid (.error error) s' → post (.error error) s') :
    Proc.leaves answers post (x >>= f).run s := by
  rw [run_bind, Proc.leaves_bind]
  refine Proc.leaves_mono hx ?_
  intro result s' h
  cases result with
  | ok value => exact hok value s' h
  | error error => exact herr error s' h

/-- What follows a part that runs to its end. -/
theorem leaves_after {x : Fallible σ Req Resp ε α} {f : α → Fallible σ Req Resp ε β}
    {post : Except ε β → σ → Prop} {s s' : σ} {result : Except ε α}
    (hx : Proc.RunsTo x.run s result s')
    (hf : Proc.leaves answers post (onward f result) s') :
    Proc.leaves answers post (x >>= f).run s := by
  rw [run_bind, Proc.leaves_bind, hx.leaves_iff]
  exact hf

end Fallible

end CompleteDeviceManagement.Library
