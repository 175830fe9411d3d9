import CompleteDeviceManagement.Library.Process

/-!
# Processes that raise

`Fallible` adds exceptions of a type `ε` to a process; `attempt` is the
`try`/`except` around a part of it. The rules are those of `Proc.wp` and
`Proc.Quiet` for a process that returns `Except`.
-/

set_option autoImplicit false

namespace CompleteDeviceManagement.Library

abbrev Fallible (σ Req Resp ε : Type) := ExceptT ε (Proc σ Req Resp)

namespace Fallible

variable {σ Req Resp ε α β : Type}

def fail (error : ε) : Fallible σ Req Resp ε α := ExceptT.mk (.ret (.error error))

def perform (p : Proc σ Req Resp α) : Fallible σ Req Resp ε α :=
  ExceptT.mk (p.bind fun value => .ret (.ok value))

def settled (result : Except ε α) : Fallible σ Req Resp ε α := ExceptT.mk (.ret result)

/-- What `attempt` makes of a result. -/
def caught (catches : ε → Bool) : Except ε α → Except ε (Except ε α)
  | .ok value => .ok (.ok value)
  | .error error => if catches error then .ok (.error error) else .error error

/-- Run `body`; an exception that `catches` accepts becomes a value. -/
def attempt (catches : ε → Bool) (body : Fallible σ Req Resp ε α) :
    Fallible σ Req Resp ε (Except ε α) :=
  ExceptT.mk (body.run.bind fun result => .ret (caught catches result))

/-- What follows a part that ended in `result`. -/
def onward (f : α → Fallible σ Req Resp ε β) : Except ε α → Proc σ Req Resp (Except ε β)
  | .ok value => (f value).run
  | .error error => .ret (.error error)

theorem run_bind (x : Fallible σ Req Resp ε α) (f : α → Fallible σ Req Resp ε β) :
    (x >>= f).run = x.run.bind (onward f) := by
  have h : ExceptT.bindCont f = onward f := by
    funext result
    cases result <;> rfl
  rw [← h]
  rfl

@[simp] theorem run_pure (value : α) :
    (pure value : Fallible σ Req Resp ε α).run = .ret (.ok value) := rfl

@[simp] theorem run_fail (error : ε) :
    (fail error : Fallible σ Req Resp ε α).run = .ret (.error error) := rfl

@[simp] theorem run_settled (result : Except ε α) :
    (settled result : Fallible σ Req Resp ε α).run = .ret result := rfl

@[simp] theorem onward_ok (f : α → Fallible σ Req Resp ε β) (value : α) :
    onward f (.ok value) = (f value).run := rfl

@[simp] theorem onward_error (f : α → Fallible σ Req Resp ε β) (error : ε) :
    onward f (.error error) = .ret (.error error) := rfl

theorem runsTo_bind {x : Fallible σ Req Resp ε α} {f : α → Fallible σ Req Resp ε β}
    {s s' s'' : σ} {value : α} {result : Except ε β} (hx : Proc.RunsTo x.run s (.ok value) s')
    (hf : Proc.RunsTo (f value).run s' result s'') :
    Proc.RunsTo (x >>= f).run s result s'' := by
  rw [run_bind]
  exact Proc.RunsTo.bind hx hf

theorem runsTo_attempt (catches : ε → Bool) {body : Fallible σ Req Resp ε α} {s s' : σ}
    {result : Except ε α} (h : Proc.RunsTo body.run s result s') :
    Proc.RunsTo (attempt catches body).run s (caught catches result) s' :=
  Proc.RunsTo.bind h (Proc.RunsTo.ret _ _)

theorem solo_of_runs {x : Fallible σ Req Resp ε α} {f : α → Fallible σ Req Resp ε β} {s s' : σ}
    {result : Except ε α} (hx : Proc.RunsTo x.run s result s') (env : Nat → Resp) (n : Nat) :
    (x >>= f).run.solo env n s = (onward f result).solo env n s' := by
  rw [run_bind]
  exact Proc.solo_of_runsTo hx env n

/-! ## Complete runs -/

section Solo

variable {x : Fallible σ Req Resp ε α} {f : α → Fallible σ Req Resp ε β} {env : Nat → Resp}
  {n : Nat} {s s' : σ} {trace : List (Req × Resp)}

theorem solo_then {value : α} (hx : x.run.solo env n s = ⟨trace, s', some (.ok value)⟩) :
    (x >>= f).run.solo env n s =
      ⟨trace ++ ((f value).run.solo env (n + trace.length) s').trace,
        ((f value).run.solo env (n + trace.length) s').state,
        ((f value).run.solo env (n + trace.length) s').value⟩ := by
  rw [run_bind, Proc.solo_bind, hx]
  rfl

theorem solo_raised {error : ε} (hx : x.run.solo env n s = ⟨trace, s', some (.error error)⟩) :
    (x >>= f).run.solo env n s = ⟨trace, s', some (.error error)⟩ := by
  rw [run_bind, Proc.solo_bind, hx]
  simp [Proc.solo]

theorem solo_attempt (catches : ε → Bool) {result : Except ε α}
    (hx : x.run.solo env n s = ⟨trace, s', some result⟩) :
    (attempt catches x).run.solo env n s = ⟨trace, s', some (caught catches result)⟩ := by
  have hrun : (attempt catches x).run = x.run.bind fun result => .ret (caught catches result) :=
    rfl
  rw [hrun, Proc.solo_bind, hx]
  simp [Proc.solo]

/-- A part that catches everything raises nothing. -/
theorem attempt_all_solo {result : Except ε (Except ε α)}
    (h : (attempt (fun _ => true) x).run.solo env n s = ⟨trace, s', some result⟩) :
    ∃ outcome, result = .ok outcome := by
  have hrun : (attempt (fun _ => true) x).run =
      x.run.bind fun outcome => .ret (.ok outcome) := by
    have hcaught : (caught fun _ => true : Except ε α → Except ε (Except ε α)) = .ok := by
      funext outcome
      cases outcome <;> rfl
    unfold attempt
    rw [hcaught]
    rfl
  rw [hrun, Proc.solo_bind] at h
  cases hx : (x.run.solo env n s).value with
  | none =>
    rw [hx] at h
    cases congrArg Proc.Run.value h
  | some outcome =>
    rw [hx] at h
    have hvalue := congrArg Proc.Run.value h
    cases hvalue
    exact ⟨outcome, rfl⟩

end Solo

/-! ## Weakest preconditions -/

section Wp

variable {inv : σ → Prop} {answers : Req → Resp → Prop} {susp : σ → σ → Option Req → Prop}

theorem wp_pure {post : σ → Except ε α → σ → Prop} {value : α} {start s : σ}
    (h : post start (.ok value) s) :
    Proc.wp inv answers susp post (pure value : Fallible σ Req Resp ε α).run start s :=
  (Proc.wp_ret _ _ _ _).mpr h

theorem wp_fail {post : σ → Except ε α → σ → Prop} {error : ε} {start s : σ}
    (h : post start (.error error) s) :
    Proc.wp inv answers susp post (fail error : Fallible σ Req Resp ε α).run start s :=
  (Proc.wp_ret _ _ _ _).mpr h

theorem wp_onward_error {f : α → Fallible σ Req Resp ε β} {post : σ → Except ε β → σ → Prop}
    {error : ε} {start s : σ} (h : post start (.error error) s) :
    Proc.wp inv answers susp post (onward f (.error error)) start s :=
  (Proc.wp_ret _ _ _ _).mpr h

theorem wp_bind (x : Fallible σ Req Resp ε α) (f : α → Fallible σ Req Resp ε β)
    (post : σ → Except ε β → σ → Prop) (start s : σ) :
    Proc.wp inv answers susp post (x >>= f).run start s ↔
      Proc.wp inv answers susp
        (fun start result s => Proc.wp inv answers susp post (onward f result) start s)
        x.run start s := by
  rw [run_bind, Proc.wp_bind]

/-- Sequencing after a part with a known contract. -/
theorem wp_bind_of {x : Fallible σ Req Resp ε α} {f : α → Fallible σ Req Resp ε β}
    {mid : σ → Except ε α → σ → Prop} {post : σ → Except ε β → σ → Prop} {start s : σ}
    (hx : Proc.wp inv answers susp mid x.run start s)
    (hok : ∀ start value s, mid start (.ok value) s →
      Proc.wp inv answers susp post (f value).run start s)
    (herr : ∀ start error s, mid start (.error error) s → post start (.error error) s) :
    Proc.wp inv answers susp post (x >>= f).run start s := by
  rw [wp_bind]
  refine Proc.wp_mono x.run (fun start result s h => ?_) hx
  cases result with
  | ok value => exact hok start value s h
  | error error => exact wp_onward_error (herr start error s h)

/-- Sequencing after a part that runs to its end. -/
theorem wp_of_runs {x : Fallible σ Req Resp ε α} {f : α → Fallible σ Req Resp ε β}
    {post : σ → Except ε β → σ → Prop} {start s s' : σ} {result : Except ε α}
    (hx : Proc.RunsTo x.run s result s')
    (hf : Proc.wp inv answers susp post (onward f result) start s') :
    Proc.wp inv answers susp post (x >>= f).run start s := by
  rw [wp_bind]
  exact (hx.wp_iff _ _).mpr hf

end Wp

/-! ## Quiet parts -/

section Quiet

variable {frame : σ → σ → Prop} {calls : Req → Prop} {answers : Req → Resp → Prop}

theorem quiet_bind_of {x : Fallible σ Req Resp ε α} {f : α → Fallible σ Req Resp ε β}
    {mid : Except ε α → Prop} {post : Except ε β → Prop}
    (hx : Proc.Quiet frame calls answers mid x.run)
    (hok : ∀ value, mid (.ok value) → Proc.Quiet frame calls answers post (f value).run)
    (herr : ∀ error, mid (.error error) → post (.error error)) :
    Proc.Quiet frame calls answers post (x >>= f).run := by
  rw [run_bind]
  refine Proc.Quiet.bind_of hx fun result h => ?_
  cases result with
  | ok value => exact hok value h
  | error error => exact herr error h

theorem quiet_attempt {catches : ε → Bool} {body : Fallible σ Req Resp ε α}
    {mid : Except ε α → Prop} {post : Except ε (Except ε α) → Prop}
    (hbody : Proc.Quiet frame calls answers mid body.run)
    (hok : ∀ value, mid (.ok value) → post (.ok (.ok value)))
    (hcaught : ∀ error, mid (.error error) → catches error = true → post (.ok (.error error)))
    (hraised : ∀ error, mid (.error error) → catches error = false → post (.error error)) :
    Proc.Quiet frame calls answers post (attempt catches body).run := by
  unfold attempt
  refine Proc.Quiet.bind_of hbody fun result h => ?_
  cases result with
  | ok value => exact hok value h
  | error error =>
    cases hc : catches error with
    | true => simpa [Proc.Quiet, caught, hc] using hcaught error h hc
    | false => simpa [Proc.Quiet, caught, hc] using hraised error h hc

end Quiet

end Fallible

end CompleteDeviceManagement.Library
