import CompleteDeviceManagement.Library.Fallible

/-!
# A process alone with a server

One complete run of a process whose requests are answered at once by a server
with a state of its own. No other process runs meanwhile, so a process that
blocks never returns.
-/

set_option autoImplicit false

namespace CompleteDeviceManagement.Library

namespace Proc

variable {σ S Req Resp α β : Type}

def session (serve : Req → S → Resp × S) : Proc σ Req Resp α → σ × S → Option (α × (σ × S))
  | .ret value, c => some (value, c)
  | .sync update next, c => (next c.1).session serve (update c.1, c.2)
  | .await request next, c =>
      (next (serve request c.2).1).session serve (c.1, (serve request c.2).2)
  | .block ready next, c => if ready c.1 then next.session serve c else none

variable {serve : Req → S → Resp × S}

theorem session_bind (p : Proc σ Req Resp α) (f : α → Proc σ Req Resp β) (c : σ × S) :
    (p.bind f).session serve c =
      (p.session serve c).bind fun ended => (f ended.1).session serve ended.2 := by
  induction p generalizing c with
  | ret value => rfl
  | sync update next ih => exact ih c.1 (update c.1, c.2)
  | await request next ih => exact ih _ (c.1, (serve request c.2).2)
  | block ready next ih =>
    cases hr : ready c.1 with
    | true => simp only [block_bind, session, hr, if_true, ih]
    | false => simp [session, hr]

/-- A part that asks nothing leaves the server alone. -/
theorem RunsTo.session {p : Proc σ Req Resp α} {s s' : σ} {value : α} (h : RunsTo p s value s')
    (t : S) : p.session serve (s, t) = some (value, (s', t)) := by
  unfold RunsTo at h
  induction p generalizing s with
  | ret v =>
    obtain ⟨hv, rfl⟩ := Prod.mk.inj h
    cases hv
    rfl
  | sync update next ih => exact ih s h
  | await request next ih => cases (Prod.mk.inj h).1
  | block ready next ih =>
    cases hr : ready s with
    | true =>
      simp only [advance, hr, if_true] at h
      simp only [Proc.session, hr, if_true]
      exact ih h
    | false =>
      simp only [advance, hr, Bool.false_eq_true, if_false] at h
      cases (Prod.mk.inj h).1

/-- A quiet process returns, and what its requests and its steps keep is kept. -/
theorem Quiet.session {frame : σ → σ → Prop} {calls : Req → Prop} {post : α → Prop}
    {held : σ × S → Prop} {p : Proc σ Req Resp α}
    (h : Quiet frame calls (fun _ _ => True) post p)
    (steps : ∀ s s' t, held (s, t) → frame s s' → held (s', t))
    (served : ∀ request s t, calls request → held (s, t) → held (s, (serve request t).2))
    {c : σ × S} (hc : held c) :
    ∃ value c', p.session serve c = some (value, c') ∧ post value ∧ held c' := by
  induction p generalizing c with
  | ret value => exact ⟨value, c, rfl, h, hc⟩
  | sync update next ih =>
    exact ih c.1 (h c.1).2 (steps c.1 (update c.1) c.2 hc (h c.1).1)
  | await request next ih =>
    exact ih _ (h.2 _ trivial) (served request c.1 c.2 h.1 hc)
  | block ready next ih => exact h.elim

variable (serve) in
/-- A process with a contract returns, alone with a server that answers as the
contract assumes: no section of it waits for a lock, and what the sections and
the requests keep of both states is kept. `held` is of the state in which a
section starts. -/
theorem wp_session {inv : σ → Prop} {answers : Req → Resp → Prop}
    {susp : σ → σ → Option Req → Prop} {post : σ → α → σ → Prop} (held : σ × S → Prop)
    (free : ∀ start s, ¬ susp start s none)
    (served : ∀ start s t request, held (start, t) → susp start s (some request) →
      inv s ∧ answers request (serve request t).1 ∧ held (s, (serve request t).2))
    {p : Proc σ Req Resp α} {start s : σ} {t : S} (h : wp inv answers susp post p start s)
    (hstart : held (start, t)) :
    ∃ value start' s' t', p.session serve (s, t) = some (value, (s', t')) ∧
      held (start', t') ∧ post start' value s' := by
  induction p generalizing start s t with
  | ret value =>
    rw [wp_ret] at h
    exact ⟨value, start, s, t, rfl, hstart, h⟩
  | sync update next ih =>
    rw [wp] at h
    exact ih s h hstart
  | await request next ih =>
    rw [wp] at h
    obtain ⟨hinv, given, kept⟩ := served start s t request hstart h.1
    exact ih _ (h.2 _ given s hinv) kept
  | block ready next ih =>
    rw [wp] at h
    cases hr : ready s with
    | true =>
      simp only [Proc.session, hr, if_true]
      exact ih (h.1 hr) hstart
    | false => exact absurd (h.2 hr).1 (free start s)

end Proc

namespace Fallible

variable {σ S Req Resp ε α β : Type} {serve : Req → S → Resp × S} {x : Fallible σ Req Resp ε α}
  {f : α → Fallible σ Req Resp ε β} {c c' : σ × S}

theorem session_then {value : α} (hx : x.run.session serve c = some (.ok value, c')) :
    (x >>= f).run.session serve c = (f value).run.session serve c' := by
  rw [run_bind, Proc.session_bind, hx]
  rfl

theorem session_raised {error : ε} (hx : x.run.session serve c = some (.error error, c')) :
    (x >>= f).run.session serve c = some (.error error, c') := by
  rw [run_bind, Proc.session_bind, hx]
  rfl

theorem session_attempt (catches : ε → Bool) {result : Except ε α}
    (hx : x.run.session serve c = some (result, c')) :
    (attempt catches x).run.session serve c = some (caught catches result, c') := by
  have hrun : (attempt catches x).run = x.run.bind fun result => .ret (caught catches result) :=
    rfl
  rw [hrun, Proc.session_bind, hx]
  rfl

end Fallible

end CompleteDeviceManagement.Library
