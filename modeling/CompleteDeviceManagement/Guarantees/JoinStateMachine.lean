import CompleteDeviceManagement.Guarantees.JoinContract

/-!
# The state machine of a JOIN request

Which moves of a stored status the tasks of the service make, in any order of
their sections. `approve_join_request` checks the status when it starts and
saves after its HTTP exchanges without checking again: as long as every save
finds the request still pending, only the intended moves happen.
-/

set_option autoImplicit false

namespace CompleteDeviceManagement.Guarantees.JoinStateMachine
open CompleteDeviceManagement.Library CompleteDeviceManagement.Source.Models
  CompleteDeviceManagement.Source.Runtime CompleteDeviceManagement.Source.AdminPortal
  CompleteDeviceManagement.Source.JoinStore CompleteDeviceManagement.Source.JoinRouter
  CompleteDeviceManagement.Source.Service CompleteDeviceManagement.Guarantees.Provisioning
  CompleteDeviceManagement.Guarantees.JoinContract
open CompleteDeviceManagement.Library.EventLoop

/-! ## The intended moves -/

inductive Move : Option JoinStatus → Option JoinStatus → Prop where
  | submitted : Move none (some .pending)
  | resubmitted : Move (some .pending) (some .pending)
  | reopened : Move (some .rejected) (some .pending)
  | approved : Move (some .pending) (some .approved)
  | rejected : Move (some .pending) (some .rejected)
  | rejectedAgain : Move (some .rejected) (some .rejected)

/-- An entry stays as it is, or its status makes a move; there is none from
`approved`. -/
def AllowedMove (before after : Option JoinEntry) : Prop :=
  after = before ∨ Move (before.map JoinEntry.status) (after.map JoinEntry.status)

def statusOf (c : JoinLoop) (tenantId : String) : Option JoinStatus :=
  ((entries c.state).get? tenantId).map JoinEntry.status

/-- The step in which an approval saves finds the request of its tenant pending. -/
def SavesPending (c : JoinLoop) : JoinAction → Prop
  | .arrive _ => True
  | .resume i result => ∀ t tenantId reply, c.tasks[i]? = some t →
      t.request.endpoint = .approveJoinRequest tenantId →
      (runTask t result c.state).1.stop = .returned (.approved reply) →
      statusOf c tenantId = some .pending

/-- No assumption on what the other services answer. -/
def anyAnswer (_ : HttpRequest) (_ : HttpResult) : Prop := True

theorem answers_any (c : JoinLoop) (action : JoinAction) : Answers anyAnswer c action := by
  cases action with
  | arrive q => exact trivial
  | resume i result => exact fun _ _ _ _ _ _ => trivial

/-! ## One step -/

theorem entries_set {w w' : World} {tenantId : String} {entry : JoinEntry}
    (requests : w'.requests = some ((entries w).set tenantId entry)) (other : String) :
    (entries w').get? other = if other = tenantId then some entry else (entries w).get? other := by
  have hset : entries w' = (entries w).set tenantId entry := by
    simp only [entries, requests, Option.getD_some]
  rw [hset, Dict.get?_set]

/-- A write to the entry of one tenant moves that entry only. -/
theorem allowed_of_set {w w' : World} {tenantId : String} {entry : JoinEntry}
    (requests : w'.requests = some ((entries w).set tenantId entry))
    (move : Move (((entries w).get? tenantId).map JoinEntry.status) (some entry.status))
    (other : String) : AllowedMove ((entries w).get? other) ((entries w').get? other) := by
  rw [entries_set requests]
  by_cases he : other = tenantId
  · rw [if_pos he, he]
    exact Or.inr move
  · rw [if_neg he]
    exact Or.inl rfl

theorem move_to_pending {before : Option JoinStatus} (unapproved : before ≠ some .approved) :
    Move before (some .pending) := by
  cases before with
  | none => exact .submitted
  | some status =>
    cases status with
    | pending => exact .resubmitted
    | approved => exact absurd rfl unapproved
    | rejected => exact .reopened

theorem move_to_rejected {before : JoinStatus} (unapproved : before ≠ .approved) :
    Move (some before) (some .rejected) := by
  cases before with
  | pending => exact .rejected
  | approved => exact absurd rfl unapproved
  | rejected => exact .rejectedAgain

/-- Every write but that of an approval makes an intended move by itself. -/
theorem writes_allowed {env : Env} {answers : HttpRequest → HttpResult → Prop} {q : Request}
    {b s s' : World} {stop : Proc.Stop HttpRequest Reply}
    (h : Writes env answers q b s s' stop)
    (saves : ∀ tenantId reply, q.endpoint = .approveJoinRequest tenantId →
      stop = .returned (.approved reply) →
      ((entries s).get? tenantId).map JoinEntry.status = some .pending)
    (other : String) : AllowedMove ((entries s).get? other) ((entries s').get? other) := by
  have unchanged : s'.requests = s.requests →
      AllowedMove ((entries s).get? other) ((entries s').get? other) := by
    intro requests
    refine Or.inl ?_
    simp only [entries, requests]
  cases h with
  | nothing same => exact unchanged same.requests
  | keyIssued issuedAt hq admitted requests keys => exact unchanged requests
  | keyExpired hq first stored isOpen requests keys => exact unchanged requests
  | keyUsed hq first presented requests keys => exact unchanged requests
  | submitted hq accepted unapproved keys requests =>
    exact allowed_of_set requests (move_to_pending unapproved) other
  | approved hq begun pending current bundle keys requests =>
    refine allowed_of_set requests ?_ other
    rw [saves _ _ hq rfl]
    exact .approved
  | rejected hq current unapproved keys requests =>
    refine allowed_of_set requests ?_ other
    rw [current]
    exact move_to_rejected unapproved

theorem step_allowed {env : Env} {c : JoinLoop} (ok : JoinOk env anyAnswer c)
    {action : JoinAction} (saves : SavesPending c action) (tenantId : String) :
    AllowedMove ((entries c.state).get? tenantId)
      ((entries (step (serve env) c action).state).get? tenantId) := by
  rcases step_owes ok (answers_any c action) with same | ⟨i, result, t, rfl, hi, hstate, owes⟩
  · rw [same]
    exact Or.inl rfl
  · rw [hstate]
    refine writes_allowed owes.writes (fun tenantId' reply hq hstop => ?_) tenantId
    exact saves t tenantId' reply hi hq hstop

/-! ## Runs -/

theorem ok_of_reaches {env : Env} {c c' : JoinLoop} (ok : JoinOk env anyAnswer c)
    (h : Reaches (serve env) SavesPending c c') : JoinOk env anyAnswer c' :=
  (serve_serves env anyAnswer).reaches_ok (fun c action _ => answers_any c action) ok h

theorem frozen {env : Env} {c c' : JoinLoop} (ok : JoinOk env anyAnswer c)
    (h : Reaches (serve env) SavesPending c c') {tenantId : String} {entry : JoinEntry}
    (hentry : (entries c.state).get? tenantId = some entry) (happroved : entry.status = .approved) :
    (entries c'.state).get? tenantId = some entry := by
  induction h with
  | refl => exact hentry
  | @tail mid last reached hstep ih =>
    obtain ⟨action, saves, rfl⟩ := hstep
    rcases step_allowed (ok_of_reaches ok reached) saves tenantId with same | move
    · rw [same, ih]
    · rw [ih] at move
      simp only [Option.map_some, happroved] at move
      cases move

/-- Between a rejection and an approval the request was pending again. -/
theorem reopened_between {env : Env} {c c' : JoinLoop} (ok : JoinOk env anyAnswer c)
    (h : Reaches (serve env) SavesPending c c') {tenantId : String}
    (hrejected : statusOf c tenantId = some .rejected) :
    statusOf c' tenantId = some .rejected ∨
      ∃ mid, Reaches (serve env) SavesPending c mid ∧ Reaches (serve env) SavesPending mid c' ∧
        statusOf mid tenantId = some .pending := by
  induction h with
  | refl => exact Or.inl hrejected
  | @tail mid last reached hstep ih =>
    obtain ⟨action, saves, rfl⟩ := hstep
    have stepped : Reaches (serve env) SavesPending mid (step (serve env) mid action) :=
      Reaches.then Relation.ReflTransGen.refl action saves
    rcases ih with still | ⟨pending, before, after, hpending⟩
    · rcases step_allowed (ok_of_reaches ok reached) saves tenantId with same | move
      · refine Or.inl ?_
        unfold statusOf at still ⊢
        rw [same, still]
      · unfold statusOf at still
        rw [still] at move
        generalize hstatus : ((entries (step (serve env) mid action).state).get? tenantId).map
          JoinEntry.status = status at move
        cases move with
        | reopened => exact Or.inr ⟨_, reached.tail ⟨action, saves, rfl⟩, .refl, hstatus⟩
        | rejectedAgain => exact Or.inl hstatus
    · exact Or.inr ⟨pending, before, after.trans stepped, hpending⟩

/-- What holds in a state `c` that a run reaches, of its next step and of every
continuation. -/
structure Lawful (env : Env) (c : JoinLoop) : Prop where
  moves : ∀ action tenantId, SavesPending c action →
    AllowedMove ((entries c.state).get? tenantId)
      ((entries (step (serve env) c action).state).get? tenantId)
  frozen : ∀ c' tenantId entry, Reaches (serve env) SavesPending c c' →
    (entries c.state).get? tenantId = some entry → entry.status = .approved →
    (entries c'.state).get? tenantId = some entry
  reopened : ∀ c' tenantId, Reaches (serve env) SavesPending c c' →
    statusOf c tenantId = some .rejected → statusOf c' tenantId = some .approved →
    ∃ mid, Reaches (serve env) SavesPending c mid ∧ Reaches (serve env) SavesPending mid c' ∧
      statusOf mid tenantId = some .pending

/-- A rejection in the window of an approval that has checked the status and is
suspended at its first exchange; the other exchanges fail. -/
def window : List JoinAction :=
  [.arrive (submission "csr"), .resume 0 unreachable,
    .arrive ⟨cdmAdmin, .approveJoinRequest "acme"⟩, .resume 1 unreachable,
    .arrive ⟨cdmAdmin, .rejectJoinRequest "acme" ""⟩, .resume 2 unreachable,
    .resume 1 noProvisioners, .resume 1 unreachable]

end CompleteDeviceManagement.Guarantees.JoinStateMachine
