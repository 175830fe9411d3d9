import Mathlib.Data.List.Induction

/-!
# A relay that buffers until its far side opens

Messages pushed before the far side is open wait in a buffer; opening flushes
the buffer in order; afterwards messages pass straight through. The two paths
swap roles exactly once, and no order, loss or duplicate is visible from the
outside: what was delivered and what still waits is what was pushed.
-/

set_option autoImplicit false

namespace CompleteDeviceManagement.Library

structure Relay (μ : Type) where
  opened : Bool
  waiting : List μ
  delivered : List μ

namespace Relay

variable {μ : Type}

inductive Input (μ : Type) where
  | push (m : μ)
  | openUp

def init : Relay μ := ⟨false, [], []⟩

def step (r : Relay μ) : Input μ → Relay μ
  | .push m =>
      if r.opened then { r with delivered := r.delivered ++ [m] }
      else { r with waiting := r.waiting ++ [m] }
  | .openUp => ⟨true, [], r.delivered ++ r.waiting⟩

def pushed : List (Input μ) → List μ
  | [] => []
  | .push m :: rest => m :: pushed rest
  | .openUp :: rest => pushed rest

theorem pushed_append (xs ys : List (Input μ)) : pushed (xs ++ ys) = pushed xs ++ pushed ys := by
  induction xs with
  | nil => rfl
  | cons x xs ih => cases x <;> simp [pushed, ih]

/-- The relay after pushing `sent`: a closed relay has delivered nothing, an
open one holds nothing back, and together the two lists are what was pushed. -/
structure Carries (r : Relay μ) (sent : List μ) : Prop where
  conserved : r.delivered ++ r.waiting = sent
  closed : r.opened = false → r.delivered = []
  flushed : r.opened = true → r.waiting = []

theorem init_carries : Carries (init : Relay μ) [] :=
  ⟨rfl, fun _ => rfl, fun h => by cases h⟩

theorem step_carries {r : Relay μ} {sent : List μ} (h : Carries r sent) (input : Input μ) :
    Carries (r.step input) (sent ++ pushed [input]) := by
  obtain ⟨conserved, closed, flushed⟩ := h
  cases input with
  | push m =>
    cases ho : r.opened with
    | true =>
      have hw := flushed ho
      refine ⟨?_, ?_, ?_⟩
      · simp only [step, ho, if_true, pushed]
        rw [hw, List.append_nil] at conserved ⊢
        rw [conserved]
      · intro hc
        simp [step, ho] at hc
      · intro _
        simpa [step, ho] using hw
    | false =>
      have hd := closed ho
      refine ⟨?_, ?_, ?_⟩
      · simp only [step, ho, Bool.false_eq_true, if_false, pushed]
        rw [← List.append_assoc, conserved]
      · intro _
        simpa [step, ho] using hd
      · intro hc
        simp [step, ho] at hc
  | openUp =>
    refine ⟨?_, ?_, fun _ => rfl⟩
    · simp [step, pushed, conserved]
    · intro hc
      cases hc

theorem run_carries (inputs : List (Input μ)) :
    Carries (inputs.foldl step init) (pushed inputs) := by
  induction inputs using List.reverseRecOn with
  | nil => exact init_carries
  | append_singleton inputs input ih =>
    rw [List.foldl_append, pushed_append]
    exact step_carries ih input

end Relay

end CompleteDeviceManagement.Library
