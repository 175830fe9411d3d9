import Mathlib.Logic.Relation

/-!
# Scripts that can end at any command

A script runs its commands in order, and ends early where one fails or it is
killed. Started again it begins anew, unless a test at its head finds that there
is nothing left to do. Others change the state meanwhile. An outline gives each
command what holds before it, and `idle` what holds between two runs
(`Outline.reaches`).
-/

set_option autoImplicit false

namespace CompleteDeviceManagement.Library

/-- `during` is what a command may do before it is through, any number of times. -/
structure Script (σ : Type) where
  skip : σ → Prop
  enter : σ → σ
  commands : List ((σ → σ → Prop) × (σ → σ → Prop))

namespace Script

variable {σ : Type}

def during (script : Script σ) (n : Nat) (s s' : σ) : Prop :=
  ∃ c, script.commands[n]? = some c ∧ c.1 s s'

def done (script : Script σ) (n : Nat) (s s' : σ) : Prop :=
  ∃ c, script.commands[n]? = some c ∧ c.2 s s'

/-- The place behind command `n`; none behind the last. -/
def after (script : Script σ) (n : Nat) : Option Nat :=
  if n + 1 < script.commands.length then some (n + 1) else none

/-- The state, and the command the script is at. -/
inductive Step (script : Script σ) (outside : σ → σ → Prop) :
    σ × Option Nat → σ × Option Nat → Prop
  | start {s : σ} (todo : ¬ script.skip s) :
      Step script outside (s, none) (script.enter s, some 0)
  | during {s s' : σ} {n : Nat} (acts : script.during n s s') :
      Step script outside (s, some n) (s', some n)
  | done {s s' : σ} {n : Nat} (ends : script.done n s s') :
      Step script outside (s, some n) (s', script.after n)
  | quit {s : σ} {n : Nat} : Step script outside (s, some n) (s, none)
  | outside {s s' : σ} {place : Option Nat} (moves : outside s s') :
      Step script outside (s, place) (s', place)

def Reaches (script : Script σ) (outside : σ → σ → Prop) :
    σ × Option Nat → σ × Option Nat → Prop :=
  Relation.ReflTransGen (Step script outside)

/-- What holds between two runs, and at each command. -/
structure Outline (script : Script σ) (outside : σ → σ → Prop) where
  idle : σ → Prop
  before : Nat → σ → Prop
  starts : ∀ s, idle s → ¬ script.skip s → before 0 (script.enter s)
  acts : ∀ n s s', before n s → script.during n s s' → before n s'
  ends : ∀ n s s', before n s → script.done n s s' → before (n + 1) s'
  last : ∀ s, before script.commands.length s → idle s
  quits : ∀ n s, before n s → idle s
  idles : ∀ s s', idle s → outside s s' → idle s'
  moves : ∀ n s s', before n s → outside s s' → before n s'

variable {script : Script σ} {outside : σ → σ → Prop}

def Outline.Holds (outline : Outline script outside) : σ × Option Nat → Prop
  | (s, none) => outline.idle s
  | (s, some n) => outline.before n s

theorem Outline.step (outline : Outline script outside) {p q : σ × Option Nat}
    (holds : outline.Holds p) (step : Step script outside p q) : outline.Holds q := by
  cases step with
  | start todo => exact outline.starts _ holds todo
  | during acts => exact outline.acts _ _ _ holds acts
  | @done s s' n ends =>
    have next := outline.ends n s s' holds ends
    unfold after
    split
    · exact next
    next final =>
      -- a command that is through is one of the script
      obtain ⟨c, found, _⟩ := ends
      obtain ⟨inside, _⟩ := List.getElem?_eq_some_iff.mp found
      have length : n + 1 = script.commands.length := by omega
      rw [length] at next
      exact outline.last s' next
  | quit => exact outline.quits _ _ holds
  | @outside s s' place moves =>
    cases place with
    | none => exact outline.idles _ _ holds moves
    | some n => exact outline.moves n _ _ holds moves

theorem Outline.reaches (outline : Outline script outside) {p q : σ × Option Nat}
    (holds : outline.Holds p) (run : Reaches script outside p q) : outline.Holds q := by
  induction run with
  | refl => exact holds
  | tail _ step ih => exact outline.step ih step

end Script

end CompleteDeviceManagement.Library
