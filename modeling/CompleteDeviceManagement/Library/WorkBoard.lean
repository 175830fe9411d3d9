import Mathlib.Data.List.Nodup
import Mathlib.Logic.Relation

/-!
# One worker at a board of jobs

Jobs are put on a board, never one twice. A worker with empty hands takes an open
job, does it or puts it back, and strikes what it has done off the board before
it takes the next one. It remembers nothing, and no job is done twice
(`Reaches.done_once`): a job that is done and still open is the one in its hands.
-/

set_option autoImplicit false

namespace CompleteDeviceManagement.Library.WorkBoard

variable {α : Type}

inductive Hands (α : Type) where
  | empty
  | holding (job : α)
  | finished (job : α)

/-- The jobs ever put up, those still open, what was done in order, and what the
worker holds. -/
structure Board (α : Type) where
  seen : List α
  opened : List α
  done : List α
  hands : Hands α

def blank : Board α := ⟨[], [], [], .empty⟩

inductive Step : Board α → Board α → Prop
  | putUp {b : Board α} (job : α) (fresh : job ∉ b.seen) :
      Step b { b with seen := job :: b.seen, opened := job :: b.opened }
  | take {b : Board α} (job : α) (free : b.hands = .empty) (isOpen : job ∈ b.opened) :
      Step b { b with hands := .holding job }
  | putBack {b : Board α} (job : α) (held : b.hands = .holding job) :
      Step b { b with hands := .empty }
  | work {b : Board α} (job : α) (held : b.hands = .holding job) :
      Step b { b with done := b.done ++ [job], hands := .finished job }
  | strike {b : Board α} (job : α) (left : List α) (held : b.hands = .finished job)
      (fewer : left ⊆ b.opened) (gone : job ∉ left) :
      Step b { b with opened := left, hands := .empty }

def Reaches : Board α → Board α → Prop := Relation.ReflTransGen Step

structure Orderly (b : Board α) : Prop where
  known : b.opened ⊆ b.seen
  past : b.done ⊆ b.seen
  once : b.done.Nodup
  pending : ∀ job ∈ b.done, job ∈ b.opened → b.hands = .finished job
  held : ∀ job, b.hands = .holding job → job ∈ b.seen ∧ job ∉ b.done

theorem blank_orderly : Orderly (blank : Board α) where
  known := List.Subset.refl _
  past := List.Subset.refl _
  once := List.nodup_nil
  pending := fun _ member => by cases member
  held := fun _ held => by cases held

/-- What every step keeps; a taken job is not done, since done and open it would
be in the worker's hands already. -/
theorem step_orderly {b b' : Board α} (h : Orderly b) (step : Step b b') : Orderly b' := by
  cases step with
  | putUp job fresh =>
    refine ⟨?_, ?_, h.once, ?_, ?_⟩
    · exact List.cons_subset_cons job h.known
    · exact List.subset_cons_of_subset job h.past
    · intro other worked isOpen
      rcases List.mem_cons.mp isOpen with rfl | isOpen
      · exact absurd (h.past worked) fresh
      · exact h.pending other worked isOpen
    · intro other held
      exact ⟨List.mem_cons_of_mem job (h.held other held).1, (h.held other held).2⟩
  | take job free isOpen =>
    have undone : job ∉ b.done := by
      intro worked
      have finished := h.pending job worked isOpen
      rw [free] at finished
      cases finished
    refine ⟨h.known, h.past, h.once, ?_, ?_⟩
    · intro other worked otherOpen
      have finished := h.pending other worked otherOpen
      rw [free] at finished
      cases finished
    · intro other held
      cases held
      exact ⟨h.known isOpen, undone⟩
  | putBack job held =>
    refine ⟨h.known, h.past, h.once, ?_, ?_⟩
    · intro other worked isOpen
      have finished := h.pending other worked isOpen
      rw [held] at finished
      cases finished
    · intro other empty
      cases empty
  | work job held =>
    obtain ⟨seen, undone⟩ := h.held job held
    refine ⟨h.known, ?_, ?_, ?_, ?_⟩
    · exact List.append_subset.mpr ⟨h.past, by simpa using seen⟩
    · rw [← List.concat_eq_append]
      exact List.Nodup.concat undone h.once
    · intro other worked isOpen
      rcases List.mem_append.mp worked with worked | new
      · have finished := h.pending other worked isOpen
        rw [held] at finished
        cases finished
      · rw [List.mem_singleton] at new
        rw [new]
    · intro other holding
      cases holding
  | strike job left held fewer gone =>
    refine ⟨fun other member => h.known (fewer member), h.past, h.once, ?_, ?_⟩
    · intro other worked isOpen
      have finished := h.pending other worked (fewer isOpen)
      rw [held] at finished
      cases finished
      exact absurd isOpen gone
    · intro other empty
      cases empty

theorem Reaches.orderly {b : Board α} (reached : Reaches blank b) : Orderly b := by
  induction reached with
  | refl => exact blank_orderly
  | tail _ step ih => exact step_orderly ih step

theorem Reaches.done_once {b : Board α} (reached : Reaches blank b) : b.done.Nodup :=
  reached.orderly.once

end CompleteDeviceManagement.Library.WorkBoard
