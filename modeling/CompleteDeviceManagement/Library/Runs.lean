import Mathlib.Data.List.Basic

/-!
# Laws of every step of a run

A machine takes inputs one after the other. Two laws about a state and an input
hold of every step of a run alike, if they agree wherever an invariant holds and
a step that obeys the law keeps the invariant.
-/

set_option autoImplicit false

namespace CompleteDeviceManagement.Library.Runs

variable {σ ι : Type} (next : σ → ι → σ)

def run (s : σ) (inputs : List ι) : σ := inputs.foldl next s

/-- The law holds of each input in the state it finds. -/
def EveryStep (law : σ → ι → Prop) : σ → List ι → Prop
  | _, [] => True
  | s, input :: rest => law s input ∧ EveryStep law (next s input) rest

variable {next}

theorem everyStep_iff {law : σ → ι → Prop} (s : σ) (inputs : List ι) :
    EveryStep next law s inputs ↔
      ∀ before input after, inputs = before ++ input :: after →
        law (run next s before) input := by
  induction inputs generalizing s with
  | nil => simp [EveryStep]
  | cons input rest ih =>
    rw [EveryStep, ih]
    constructor
    · intro h before input' after split
      cases before with
      | nil =>
        cases split
        exact h.1
      | cons first before =>
        cases split
        exact h.2 before input' after rfl
    · intro h
      refine ⟨h [] input rest rfl, ?_⟩
      intro before input' after split
      exact h (input :: before) input' after (by rw [split, List.cons_append])

theorem everyStep_congr {law law' : σ → ι → Prop} {inv : σ → Prop}
    (agree : ∀ s input, inv s → (law s input ↔ law' s input))
    (keeps : ∀ s input, inv s → law' s input → inv (next s input)) {s : σ} (start : inv s)
    (inputs : List ι) : EveryStep next law s inputs ↔ EveryStep next law' s inputs := by
  induction inputs generalizing s with
  | nil => rfl
  | cons input rest ih =>
    rw [EveryStep, EveryStep, agree s input start]
    constructor
    · intro h
      exact ⟨h.1, (ih (keeps s input start h.1)).mp h.2⟩
    · intro h
      exact ⟨h.1, (ih (keeps s input start h.1)).mpr h.2⟩

end CompleteDeviceManagement.Library.Runs
