import CompleteDeviceManagement.Library.Server

/-!
# How a process ends, outcome by outcome

A complete run in which an exchange may also raise something that the process
catches nowhere (`finish`). A part of a process is judged by the outcomes of its
exchanges: they are usable, or the part ends in an error that is reported, or
in one that escapes. In a sequence the first outcome that is not usable decides
(`ends_bind`).
-/

set_option autoImplicit false

namespace CompleteDeviceManagement.Library

namespace Proc

variable {σ τ Req Req' Resp α β : Type}

/-- One complete run; without an outcome the exchange raises through the process. -/
def finish (outcomes : Nat → Option Resp) : Proc σ Req Resp α → Nat → σ → Option (α × Nat × σ)
  | .ret value, n, s => some (value, n, s)
  | .sync update next, n, s => (next s).finish outcomes n (update s)
  | .await _ next, n, s =>
      match outcomes n with
      | some answer => (next answer).finish outcomes (n + 1) s
      | none => none
  | .block ready next, n, s => if ready s then next.finish outcomes n s else none

variable {outcomes : Nat → Option Resp}

theorem finish_bind (p : Proc σ Req Resp α) (f : α → Proc σ Req Resp β) (n : Nat) (s : σ) :
    (p.bind f).finish outcomes n s =
      (p.finish outcomes n s).bind fun ended =>
        (f ended.1).finish outcomes ended.2.1 ended.2.2 := by
  induction p generalizing n s with
  | ret value => rfl
  | sync update next ih => exact ih s n (update s)
  | await request next ih =>
    simp only [bind, finish]
    cases outcomes n with
    | none => rfl
    | some answer => exact ih answer (n + 1) s
  | block ready next ih =>
    simp only [bind, finish, ih]
    cases ready s <;> rfl

/-- Where every exchange has an answer this is the complete run. -/
theorem finish_answered (answers : Nat → Resp) (p : Proc σ Req Resp α) (n : Nat) (s : σ) :
    (p.finish (fun i => some (answers i)) n s).map Prod.fst = (p.solo answers n s).value := by
  induction p generalizing n s with
  | ret value => rfl
  | sync update next ih => exact ih s n (update s)
  | await request next ih => exact ih (answers n) (n + 1) s
  | block ready next ih =>
    simp only [finish, solo]
    cases ready s with
    | true => exact ih n s
    | false => rfl

/-- A process on a part of the state. -/
theorem finish_within (part : τ → σ) (put : σ → τ → τ) (inject : Req → Req')
    (part_put : ∀ s t, part (put s t) = s) (put_put : ∀ s s' t, put s' (put s t) = put s' t)
    (put_part : ∀ t, put (part t) t = t) (p : Proc σ Req Resp α) (n : Nat) (t : τ) :
    (p.within part put inject).finish outcomes n t =
      (p.finish outcomes n (part t)).map fun ended => (ended.1, ended.2.1, put ended.2.2 t) := by
  induction p generalizing n t with
  | ret value => simp [within, finish, put_part]
  | sync update next ih => simp [within, finish, ih, part_put, put_put]
  | await request next ih =>
    simp only [within, finish]
    cases outcomes n with
    | none => rfl
    | some answer => exact ih answer (n + 1) t
  | block ready next ih =>
    simp only [within, finish]
    cases ready (part t) with
    | true => exact ih n t
    | false => rfl

end Proc

/-- What an outcome is to the code that gets it. -/
inductive Verdict where
  | usable
  | reported
  | escapes
  deriving DecidableEq

namespace Verdict

/-- The first verdict that is not `usable`. -/
def andThen : Verdict → Verdict → Verdict
  | .usable, next => next
  | first, _ => first

@[simp] theorem usable_andThen (v : Verdict) : andThen .usable v = v := rfl

@[simp] theorem reported_andThen (v : Verdict) : andThen .reported v = .reported := rfl

@[simp] theorem escapes_andThen (v : Verdict) : andThen .escapes v = .escapes := rfl

@[simp] theorem andThen_usable (v : Verdict) : v.andThen .usable = v := by
  cases v <;> rfl

theorem andThen_assoc (u v w : Verdict) : (u.andThen v).andThen w = u.andThen (v.andThen w) := by
  cases u <;> rfl

end Verdict

namespace Fallible

variable {σ Req Resp ε ε' α β : Type} {outcomes : Nat → Option Resp}

theorem finish_call (request : Req) (f : Resp → Fallible σ Req Resp ε α) (n : Nat) (s : σ) :
    (perform (Proc.call request) >>= f).run.finish outcomes n s =
      match outcomes n with
      | some answer => (f answer).run.finish outcomes (n + 1) s
      | none => none := by
  have hrun : (perform (Proc.call request) >>= f).run =
      .await request fun answer => (f answer).run := rfl
  rw [hrun, Proc.finish]

/-- A `try` that catches everything hands the result on as it is. -/
theorem run_attempt_all (body : Fallible σ Req Resp ε α)
    (f : Except ε α → Fallible σ Req Resp ε β) :
    (attempt (fun _ => true) body >>= f).run = body.run.bind fun result => (f result).run := by
  rw [run_bind]
  refine (Proc.bind_assoc _ _ _).trans (congrArg _ (funext fun result => ?_))
  cases result <;> rfl

section Ends

variable (reports escapes : ε → Prop)

/-- The result is what the verdict says. -/
def Ends (post : α → Nat → σ → Prop) : Verdict → Option (Except ε α × Nat × σ) → Prop
  | .usable, result => ∃ value n s, result = some (.ok value, n, s) ∧ post value n s
  | .reported, result => ∃ error n s, result = some (.error error, n, s) ∧ reports error
  | .escapes, result => ∀ ended, result = some ended →
      ∃ error, ended.1 = .error error ∧ escapes error

variable {reports escapes} {post : α → Nat → σ → Prop} {n : Nat} {s : σ}

theorem ends_ok {value : α} (h : post value n s) :
    Ends reports escapes post .usable (some (.ok value, n, s)) := ⟨value, n, s, rfl, h⟩

theorem ends_reported {error : ε} (h : reports error) :
    Ends reports escapes post .reported (some (.error error, n, s)) := ⟨error, n, s, rfl, h⟩

theorem ends_escapes {error : ε} (h : escapes error) :
    Ends reports escapes post .escapes (some (.error error, n, s)) := by
  intro ended hended
  cases hended
  exact ⟨error, rfl, h⟩

theorem ends_none : Ends reports escapes post .escapes none := by
  intro ended hended
  cases hended

theorem ends_bind {x : Fallible σ Req Resp ε α} {f : α → Fallible σ Req Resp ε β}
    {mid : α → Nat → σ → Prop} {post : β → Nat → σ → Prop} {first second : Verdict}
    (hx : Ends reports escapes mid first (x.run.finish outcomes n s))
    (hf : ∀ value n' s', mid value n' s' →
      Ends reports escapes post second ((f value).run.finish outcomes n' s')) :
    Ends reports escapes post (first.andThen second) ((x >>= f).run.finish outcomes n s) := by
  rw [run_bind, Proc.finish_bind]
  cases first with
  | usable =>
    obtain ⟨value, n', s', hvalue, hmid⟩ := hx
    rw [hvalue]
    exact hf value n' s' hmid
  | reported =>
    obtain ⟨error, n', s', hvalue, herror⟩ := hx
    rw [hvalue]
    exact ⟨error, n', s', rfl, herror⟩
  | escapes =>
    cases hresult : x.run.finish outcomes n s with
    | none => exact ends_none
    | some ended =>
      obtain ⟨error, hended, herror⟩ := hx ended hresult
      obtain ⟨result, n', s'⟩ := ended
      obtain rfl : result = .error error := hended
      exact ends_escapes herror

theorem Ends.mono {post' : α → Nat → σ → Prop} {v : Verdict}
    {result : Option (Except ε α × Nat × σ)} (h : Ends reports escapes post v result)
    (weaker : ∀ value n s, post value n s → post' value n s) :
    Ends reports escapes post' v result := by
  cases v with
  | usable =>
    obtain ⟨value, n, s, hresult, hpost⟩ := h
    exact ⟨value, n, s, hresult, weaker value n s hpost⟩
  | reported => exact h
  | escapes => exact h

/-- The same result with other names for its errors and another state. -/
theorem Ends.map {reports' escapes' : ε' → Prop} {τ : Type} {post' : α → Nat → τ → Prop}
    {v : Verdict} {result : Option (Except ε α × Nat × σ)} (h : Ends reports escapes post v result)
    (rename : ε → ε') (place : σ → τ) (hreports : ∀ error, reports error → reports' (rename error))
    (hescapes : ∀ error, escapes error → escapes' (rename error))
    (hpost : ∀ value n s, post value n s → post' value n (place s)) :
    Ends reports' escapes' post' v
      (result.map fun ended => (ended.1.mapError rename, ended.2.1, place ended.2.2)) := by
  cases v with
  | usable =>
    obtain ⟨value, n, s, rfl, hvalue⟩ := h
    exact ends_ok (hpost value n s hvalue)
  | reported =>
    obtain ⟨error, n, s, rfl, herror⟩ := h
    exact ends_reported (hreports error herror)
  | escapes =>
    cases result with
    | none => exact ends_none
    | some ended =>
      obtain ⟨error, hended, herror⟩ := h ended rfl
      obtain ⟨value, n, s⟩ := ended
      obtain rfl : value = .error error := hended
      exact ends_escapes (hescapes error herror)

/-- What follows a `try`: an error that escapes its body is one it does not
catch; what becomes of the others is up to `handle`. -/
theorem ends_attempt {reports' escapes' : ε → Prop} {catches : ε → Bool}
    {body : Fallible σ Req Resp ε α} {handle : Except ε α → Fallible σ Req Resp ε β}
    {post' : β → Nat → σ → Prop} {v : Verdict}
    (hbody : Ends reports escapes post v (body.run.finish outcomes n s))
    (hok : ∀ value n' s', post value n' s' → Ends reports' escapes' post' .usable
      ((handle (.ok value)).run.finish outcomes n' s'))
    (hreported : ∀ error n' s', reports error → Ends reports' escapes' post' .reported
      ((onward handle (caught catches (.error error))).finish outcomes n' s'))
    (hescapes : ∀ error, escapes error → catches error = false ∧ escapes' error) :
    Ends reports' escapes' post' v ((attempt catches body >>= handle).run.finish outcomes n s) := by
  have hrun : (attempt catches body >>= handle).run =
      body.run.bind fun result => onward handle (caught catches result) := by
    rw [run_bind]
    exact Proc.bind_assoc _ _ _
  rw [hrun, Proc.finish_bind]
  cases v with
  | usable =>
    obtain ⟨value, n', s', hvalue, hmid⟩ := hbody
    rw [hvalue]
    exact hok value n' s' hmid
  | reported =>
    obtain ⟨error, n', s', hvalue, herror⟩ := hbody
    rw [hvalue]
    exact hreported error n' s' herror
  | escapes =>
    cases hresult : body.run.finish outcomes n s with
    | none => exact ends_none
    | some ended =>
      obtain ⟨error, hended, herror⟩ := hbody ended hresult
      obtain ⟨result, n', s'⟩ := ended
      obtain rfl : result = .error error := hended
      obtain ⟨uncaught, escaped⟩ := hescapes error herror
      have hcase : (caught catches (.error error) : Except ε (Except ε α)) = .error error := by
        simp [caught, uncaught]
      rw [Option.bind_some, hcase]
      exact ends_escapes escaped

variable (reports) in
/-- The process came to its end, and if it raised, what is reported. -/
def Fine (result : Option (Except ε α)) : Prop :=
  ∃ ended, result = some ended ∧ ∀ error, ended = .error error → reports error

@[simp] theorem fine_ok (value : α) : Fine reports (some (.ok value)) :=
  ⟨_, rfl, fun error h => by cases h⟩

@[simp] theorem fine_error (error : ε) :
    Fine reports (some (.error error : Except ε α)) ↔ reports error := by
  constructor
  · intro fine
    obtain ⟨ended, hended, hreports⟩ := fine
    exact hreports error (Option.some.inj hended).symm
  · intro h
    refine ⟨_, rfl, fun error' heq => ?_⟩
    cases heq
    exact h

@[simp] theorem not_fine_none : ¬ Fine reports (none : Option (Except ε α)) := by
  intro fine
  obtain ⟨ended, hended, _⟩ := fine
  cases hended

/-- The verdict says whether an error escapes. -/
theorem Ends.fine_iff {v : Verdict} {result : Option (Except ε α × Nat × σ)}
    (h : Ends reports escapes post v result) (apart : ∀ error, reports error → ¬ escapes error) :
    Fine reports (result.map Prod.fst) ↔ v ≠ .escapes := by
  cases v with
  | usable =>
    obtain ⟨value, n, s, rfl, _⟩ := h
    simp
  | reported =>
    obtain ⟨error, n, s, rfl, hreports⟩ := h
    simpa using hreports
  | escapes =>
    refine iff_of_false (fun fine => ?_) fun different => different rfl
    obtain ⟨ended, hended, hreports⟩ := fine
    obtain ⟨full, hfull, rfl⟩ := Option.map_eq_some_iff.mp hended
    obtain ⟨error, herror, hescapes⟩ := h full hfull
    exact apart error (hreports error herror) hescapes

end Ends

end Fallible

end CompleteDeviceManagement.Library
