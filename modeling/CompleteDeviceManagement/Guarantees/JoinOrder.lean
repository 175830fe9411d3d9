import CompleteDeviceManagement.Guarantees.JoinContract
import CompleteDeviceManagement.Library.DatetimeOrder
import CompleteDeviceManagement.Source.AdminDashboard

/-!
# The order of JOIN requests

The requests are sorted by the texts of their instants. Up to the year 9999 these compare
as the instants do, so the newest one is listed first.
-/

set_option autoImplicit false

namespace CompleteDeviceManagement.Guarantees.JoinOrder
open CompleteDeviceManagement.Library CompleteDeviceManagement.Source.Models
  CompleteDeviceManagement.Source.Runtime CompleteDeviceManagement.Source.AdminPortal
  CompleteDeviceManagement.Source.JoinStore CompleteDeviceManagement.Source.JoinRouter
  CompleteDeviceManagement.Source.AdminDashboard
open CompleteDeviceManagement.Guarantees.JoinContract (stranger submitJoinRequest_runs)
open CompleteDeviceManagement.Library.Fallible

/-! ## Sorting -/

def NewestFirst (listed : List JoinEntry) : Prop :=
  listed.Pairwise fun e e' => e'.requestedAt.micros ≤ e.requestedAt.micros

def AllInRange (requests : List JoinEntry) : Prop := ∀ e ∈ requests, e.requestedAt.InRange

theorem byRequestedAt_perm (requests : List JoinEntry) : (byRequestedAt requests).Perm requests :=
  List.mergeSort_perm requests _

theorem byRequestedAt_newestFirst {requests : List JoinEntry} (range : AllInRange requests) :
    NewestFirst (byRequestedAt requests) := by
  have sorted : (byRequestedAt requests).Pairwise fun e e' =>
      decide (e'.requestedAt.isoformat ≤ e.requestedAt.isoformat) = true := by
    refine List.pairwise_mergeSort ?_ ?_ requests
    · intro a b c ab bc
      simp only [decide_eq_true_eq] at ab bc ⊢
      exact String.le_trans bc ab
    · intro a b
      simp only [Bool.or_eq_true, decide_eq_true_eq]
      exact String.le_total _ _
  have member : ∀ e ∈ byRequestedAt requests, e.requestedAt.InRange := fun e he =>
    range e ((byRequestedAt_perm requests).mem_iff.mp he)
  refine List.Pairwise.imp_of_mem ?_ sorted
  intro e e' he he' texts
  rw [decide_eq_true_eq] at texts
  by_contra newer
  have less := (Datetime.isoformat_lt_iff (member e he) (member e' he')).mpr
    (Nat.lt_of_not_le newer)
  exact absurd less (String.not_lt.mpr texts)

/-! ## Stores -/

/-- What submissions make of an empty store, whoever sends them and whatever they answer. -/
inductive Built (env : Env) : World → Prop where
  | empty : Built env World.empty
  | submitted {v w : World} {tenantId : String} {payload : JoinRequestPayload}
      {result : Except Raised SubmitResponse} (before : Built env v)
      (run : Proc.RunsTo (submitJoinRequest env tenantId payload).run v result w) : Built env w

section Submissions

variable {env : Env} (clock : ∀ n, (env.clock n).InRange)
include clock

/-- A submission stores an instant of the clock or nothing. -/
theorem submitted_range {v w : World} {tenantId : String} {payload : JoinRequestPayload}
    {result : Except Raised SubmitResponse} (free : v.storeLocked = false)
    (range : AllInRange (entries v).values)
    (run : Proc.RunsTo (submitJoinRequest env tenantId payload).run v result w) :
    w.storeLocked = false ∧ AllInRange (entries w).values := by
  rcases submitJoinRequest_runs free run with ⟨-, -, rfl⟩ | ⟨-, -, rfl⟩
  · exact ⟨free, range⟩
  · refine ⟨free, ?_⟩
    intro e he
    obtain ⟨key, stored⟩ := (Dict.mem_values_iff _ e).mp he
    have stored : ((entries v).set tenantId
        (pendingEntry tenantId payload (env.clock v.ticks))).get? key = some e := stored
    rw [Dict.get?_set] at stored
    split at stored
    · cases stored
      exact clock v.ticks
    · exact range e ((Dict.mem_values_iff _ e).mpr ⟨key, stored⟩)

theorem built_range {w : World} (built : Built env w) :
    w.storeLocked = false ∧ AllInRange (entries w).values := by
  induction built with
  | empty =>
    refine ⟨rfl, ?_⟩
    intro e he
    cases he
  | submitted before run ih => exact submitted_range clock ih.1 ih.2 run

end Submissions

/-! ## The two lists -/

section Lists

variable {w : World} (free : w.storeLocked = false)
include free

theorem listJoinRequests_runs {caller : Caller} {user : Option Json}
    (guard : getCdmAdmin caller = .ok user) :
    Proc.RunsTo (listJoinRequests caller).run w (.ok (byRequestedAt (entries w).values)) w := by
  unfold listJoinRequests
  rw [guard]
  refine runsTo_bind (Proc.RunsTo.ret _ _) ?_
  exact runsTo_bind (loadStore_runs free) (Proc.RunsTo.ret _ _)

theorem joinRequests_runs :
    Proc.RunsTo joinRequests.run w (.ok (byRequestedAt (entries w).values)) w := by
  unfold joinRequests
  have sorted : Proc.RunsTo (do
        let joinStore ← loadStore
        pure (byRequestedAt joinStore.values) : App (List JoinEntry)).run w
      (.ok (byRequestedAt (entries w).values)) w :=
    runsTo_bind (loadStore_runs free) (Proc.RunsTo.ret _ _)
  exact runsTo_bind (runsTo_attempt (fun _ => true) sorted) (Proc.RunsTo.ret _ _)

/-- The dashboard of an admin, loaded when the store is as in `w`. -/
theorem adminDashboard_value {α : Type} {caller : Caller} {user : Json} {aggregated : App α}
    {ans : Nat → HttpResult} {n : Nat} {v : World} {trace : List (HttpRequest × HttpResult)}
    {state : α} (guard : getCdmAdmin caller = .ok (some user))
    (loaded : aggregated.run.solo ans n v = ⟨trace, w, some (.ok state)⟩) :
    ((adminDashboard caller aggregated).run.solo ans n v).value =
      some (.ok (some (state, byRequestedAt (entries w).values))) := by
  have guarded : Proc.RunsTo (language (getCdmAdmin caller)).run v (.ok (some user)) v := by
    rw [guard]
    exact Proc.RunsTo.ret _ _
  unfold adminDashboard
  rw [solo_of_runs guarded, onward_ok]
  dsimp only
  rw [solo_then loaded, solo_of_runs (joinRequests_runs free), onward_ok]
  rfl

end Lists

/-- Texts and instants are in the same order, and both lists have each entry of the store
once, those of later instants first. -/
theorem join_requests_newest_first {env : Env} (clock : ∀ n, (env.clock n).InRange) {w : World}
    (built : Built env w) :
    (∀ t t' : Datetime, t.InRange → t'.InRange →
      (t.isoformat < t'.isoformat ↔ t.micros < t'.micros)) ∧
    AllInRange (entries w).values ∧
    (∀ caller user, getCdmAdmin caller = .ok user → ∃ listed,
      Proc.RunsTo (listJoinRequests caller).run w (.ok listed) w ∧
      listed.Perm (entries w).values ∧ NewestFirst listed) ∧
    ∀ (α : Type) caller user (aggregated : App α) (ans : Nat → HttpResult) n v trace state,
      getCdmAdmin caller = .ok (some user) →
      aggregated.run.solo ans n v = ⟨trace, w, some (.ok state)⟩ → ∃ listed,
        ((adminDashboard caller aggregated).run.solo ans n v).value =
          some (.ok (some (state, listed))) ∧
        listed.Perm (entries w).values ∧ NewestFirst listed := by
  obtain ⟨free, range⟩ := built_range clock built
  have sorted := byRequestedAt_newestFirst range
  have perm := byRequestedAt_perm (entries w).values
  refine ⟨?_, range, ?_, ?_⟩
  · intro t t' inRange inRange'
    exact Datetime.isoformat_lt_iff inRange inRange'
  · intro caller user guard
    exact ⟨_, listJoinRequests_runs free guard, perm, sorted⟩
  · intro α caller user aggregated ans n v trace state guard loaded
    exact ⟨_, adminDashboard_value free guard loaded, perm, sorted⟩

/-! ## Two requests -/

/-- A whole second first, then the microseconds after it. -/
def secondEnv : Env :=
  { Env.counting with clock := fun n => ⟨63892281600000000 + n % 1000000⟩ }

def request (name : String) : JoinRequestPayload :=
  { displayName := name, subCaCsr := "csr", wgPubkey := "" }

def firstWorld : World :=
  { World.empty with
    ticks := 1
    requests := some (Dict.empty.set "acme"
      (pendingEntry "acme" (request "Acme") (secondEnv.clock 0))) }

def secondWorld : World :=
  { firstWorld with
    ticks := 2
    requests := some ((entries firstWorld).set "beta"
      (pendingEntry "beta" (request "Beta") (secondEnv.clock 1))) }

theorem secondEnv_inRange (n : Nat) : (secondEnv.clock n).InRange := by
  have day : (63892281600000000 + n % 1000000) / 86400000000 = 739494 := by omega
  have year : (Datetime.ymd 739494).1 ≤ 9999 := by decide
  have same := congrArg (fun day => (Datetime.ymd day).1) day
  exact Nat.le_trans (Nat.le_of_eq same) year

theorem secondWorld_built : Built secondEnv secondWorld := by
  have acme : tenantIdOk secondEnv.py "acme" = true := by decide
  have beta : tenantIdOk secondEnv.py "beta" = true := by decide
  have first : Proc.RunsTo (submitJoinRequest secondEnv "acme" (request "Acme")).run World.empty
      (.ok { tenantId := "acme", pollUrl := "/portal/admin/tenants/acme/join-status" })
      firstWorld := by
    unfold submitJoinRequest
    rw [if_pos acme]
    rfl
  have second : Proc.RunsTo (submitJoinRequest secondEnv "beta" (request "Beta")).run firstWorld
      (.ok { tenantId := "beta", pollUrl := "/portal/admin/tenants/beta/join-status" })
      secondWorld := by
    unfold submitJoinRequest
    rw [if_pos beta]
    rfl
  exact .submitted (.submitted .empty first) second

theorem two_requests_newest_first : ∃ listed,
    Proc.RunsTo (listJoinRequests stranger).run secondWorld (.ok listed) secondWorld ∧
    listed.Perm (entries secondWorld).values ∧ NewestFirst listed :=
  (join_requests_newest_first secondEnv_inRange secondWorld_built).2.2.1 stranger none rfl

end CompleteDeviceManagement.Guarantees.JoinOrder
