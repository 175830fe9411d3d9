import CompleteDeviceManagement.Guarantees.CertificateAgreement

/-!
# Who may provision a tenant

Runs of the service from empty files, with any callers. `_require_cdm_admin`
raises when it refuses; `_get_cdm_admin` returns `None`, and
`list_join_requests`, `approve_join_request` and `reject_join_request` do not
look at what it returns. As long as only admins have these three served, every
call to a signer, a broker or a realm, and every decision about a request, goes
back to an admin.
-/

set_option autoImplicit false

namespace CompleteDeviceManagement.Guarantees.JoinAuthorization
open CompleteDeviceManagement.Library CompleteDeviceManagement.Source.Models
  CompleteDeviceManagement.Source.Runtime CompleteDeviceManagement.Source.AdminPortal
  CompleteDeviceManagement.Source.JoinStore CompleteDeviceManagement.Source.JoinKeyStore
  CompleteDeviceManagement.Source.JoinRouter CompleteDeviceManagement.Source.Service
  CompleteDeviceManagement.Guarantees.Provisioning CompleteDeviceManagement.Guarantees.JoinContract
  CompleteDeviceManagement.Guarantees.JoinStateMachine
  CompleteDeviceManagement.Guarantees.CertificateAgreement
open CompleteDeviceManagement.Library.EventLoop

/-- The service after `actions`, from empty files. -/
abbrev after (env : Env) (actions : List JoinAction) : JoinLoop :=
  run (serve env) (start World.empty) actions

/-- What the other services have answered in the run of `actions`. -/
abbrev given (env : Env) (actions : List JoinAction) : HttpRequest → HttpResult → Prop :=
  Given (serve env) World.empty actions

/-! ## Authorised runs -/

/-- The endpoints whose documentation says "CDM admin only". -/
def CdmAdminOnly : Endpoint → Prop
  | .prepareTenant _ => True
  | .listJoinRequests => True
  | .approveJoinRequest _ => True
  | .rejectJoinRequest _ _ => True
  | _ => False

/-- The session is that of an admin; `prepare_tenant` takes a bearer token too. -/
def Entitled (env : Env) (answers : HttpRequest → HttpResult → Prop) (q : Request) : Prop :=
  SessionAdmin q.caller ∨
    ((∃ body, q.endpoint = .prepareTenant body) ∧ BearerAdmin env answers q.caller)

/-- A `prepare_tenant` for `tenantId`, by an entitled caller, has returned `key`. -/
def IssuedByPrepare (env : Env) (actions : List JoinAction) (key tenantId : String) : Prop :=
  ∃ before i result rest t body reply, actions = before ++ .resume i result :: rest ∧
    (after env before).tasks[i]? = some t ∧ t.request.endpoint = .prepareTenant body ∧
    body.tenantId = tenantId ∧ Entitled env (given env (before ++ [.resume i result])) t.request ∧
    (runTask t result (after env before).state).1.stop = .returned (.prepared reply) ∧
    reply.joinKey = key

/-- After `actions`, `q` may make this call. Its first section began in `b`. -/
def MayCall (env : Env) (actions : List JoinAction) (q : Request) (b : World)
    (request : HttpRequest) : Prop :=
  match q.endpoint with
  | .prepareTenant _ => ∃ token, request = .keycloakUserinfo env.settings.keycloakUrl token
  | .joinHandshake _ => ∃ entry, Presented env q.caller b entry ∧
      IssuedByPrepare env actions (presentedKey env q.caller) entry.tenantId ∧
      ProvisioningCall env entry.tenantId request
  | .approveJoinRequest tenantId => SessionAdmin q.caller ∧ ProvisioningCall env tenantId request
  | .createTenant _ => SessionAdmin q.caller
  | .deleteTenant _ => SessionAdmin q.caller
  | _ => False

/-- What holds of `action`, taken after `actions`. -/
structure StepAuthorised (env : Env) (actions : List JoinAction) (action : JoinAction) : Prop where
  calls : ∀ i result t request, action = .resume i result →
    (after env actions).tasks[i]? = some t →
    (runTask t result (after env actions).state).1.stop = .suspended (some request) →
    MayCall env actions t.request (t.begun.getD (after env actions).state) request
  /-- A request stops being pending by the approval or the rejection of an admin. -/
  decided : ∀ tenantId, statusOf (after env actions) tenantId = some .pending →
    statusOf (step (serve env) (after env actions) action) tenantId ≠ some .pending →
    ∃ i result t, action = .resume i result ∧ (after env actions).tasks[i]? = some t ∧
      SessionAdmin t.request.caller ∧
      (t.request.endpoint = .approveJoinRequest tenantId ∨
        ∃ reason, t.request.endpoint = .rejectJoinRequest tenantId reason)
  unchanged : ∀ i result t, action = .resume i result →
    (after env actions).tasks[i]? = some t → CdmAdminOnly t.request.endpoint →
    ¬ Entitled env (given env (actions ++ [action])) t.request →
    SameFiles (after env actions).state (step (serve env) (after env actions) action).state

structure RunAuthorised (env : Env) (actions : List JoinAction) : Prop where
  steps : ∀ before action rest, actions = before ++ action :: rest →
    StepAuthorised env before action
  refused : ∀ t ∈ (after env actions).tasks, CdmAdminOnly t.request.endpoint →
    ¬ Entitled env (given env actions) t.request → t.begun ≠ none →
    ∀ reply, t.proc.stop = .returned reply → reply.statusCode ∈ [401, 403]

/-! ## When the guards decide -/

/-- The handlers that call `_get_cdm_admin` and drop what it returns. -/
def DropsGuard : Endpoint → Prop
  | .listJoinRequests => True
  | .approveJoinRequest _ => True
  | .rejectJoinRequest _ _ => True
  | _ => False

/-- Keycloak answers the question about a token, and the roles in a token that
it accepts can be read. -/
def Readable (env : Env) (token : String) (result : HttpResult) : Prop :=
  ∃ r, result = .response r ∧ (r.isSuccess = true → ∀ claims, tokenClaims env token = some claims →
    ∃ admitted, (claimedRoles claims >>= fun roles => roles.meets adminRoles) = .ok admitted)

structure Guarded (env : Env) (t : JoinTask) (result : HttpResult) : Prop where
  admin : DropsGuard t.request.endpoint → SessionAdmin t.request.caller
  session : ∀ body, t.request.endpoint = .prepareTenant body →
    ∃ user, getCdmAdmin t.request.caller = .ok user
  token : ∀ base token next, t.begun ≠ none → t.proc = .await (.keycloakUserinfo base token) next →
    Readable env token result

def GuardedStep (env : Env) (c : JoinLoop) : JoinAction → Prop
  | .arrive _ => True
  | .resume i result => ∀ t, c.tasks[i]? = some t → Guarded env t result

abbrev GuardedRun (env : Env) (actions : List JoinAction) : Prop :=
  Each (serve env) (GuardedStep env) (start World.empty) actions

/-! ## What a scheduled task owes -/

theorem bearerAdmin_mono {env : Env} {answers answers' : HttpRequest → HttpResult → Prop}
    {caller : Caller} (h : BearerAdmin env answers caller)
    (weaker : ∀ request result, answers request result → answers' request result) :
    BearerAdmin env answers' caller := by
  obtain ⟨token, base, r, claims, roles, htoken, answered, verdict⟩ := h
  exact ⟨token, base, r, claims, roles, htoken, weaker _ _ answered, verdict⟩

theorem Entitled.append {env : Env} {actions : List JoinAction} {q : Request}
    (h : Entitled env (given env actions) q) (later : List JoinAction) :
    Entitled env (given env (actions ++ later)) q := by
  rcases h with session | ⟨prepare, bearer⟩
  · exact Or.inl session
  · exact Or.inr ⟨prepare, bearerAdmin_mono bearer fun _ _ answered => answered.append later⟩

theorem IssuedByPrepare.append {env : Env} {actions : List JoinAction} {key tenantId : String}
    (h : IssuedByPrepare env actions key tenantId) (later : List JoinAction) :
    IssuedByPrepare env (actions ++ later) key tenantId := by
  obtain ⟨before, i, result, rest, t, body, reply, split, issued⟩ := h
  exact ⟨before, i, result, rest ++ later, t, body, reply, by simp [split], issued⟩

theorem free_empty : Free World.empty := ⟨rfl, rfl⟩

/-! ## The keys on file -/

/-- A key of a tenant that is on file was on file before, or is the one a
`prepare_tenant` for the tenant returns. -/
theorem key_written {env : Env} {answers : HttpRequest → HttpResult → Prop} {q : Request}
    {b s s' : World} {stop : Proc.Stop HttpRequest Reply} (h : Writes env answers q b s s' stop)
    {key : String} {entry : JoinKeyEntry} (stored : (table s').get? key = some entry) :
    (∃ old, (table s).get? key = some old ∧ old.tenantId = entry.tenantId) ∨
      ∃ body reply, q.endpoint = .prepareTenant body ∧ body.tenantId = entry.tenantId ∧
        Admitted env answers q.caller ∧ stop = .returned (.prepared reply) ∧
        reply.joinKey = key := by
  have unchanged : s'.keys = s.keys →
      ∃ old, (table s).get? key = some old ∧ old.tenantId = entry.tenantId := by
    intro keys
    have same : table s' = table s := by simp only [table, keys]
    exact ⟨entry, same ▸ stored, rfl⟩
  -- a write to a key that is on file keeps its tenant
  have rewritten : ∀ written (was is : JoinKeyEntry), s'.keys = some ((table s).set written is) →
      (table s).get? written = some was → was.tenantId = is.tenantId →
      ∃ old, (table s).get? key = some old ∧ old.tenantId = entry.tenantId := by
    intro written was is keys present tenant
    have set : table s' = (table s).set written is := by
      simp only [table, keys, Option.getD_some]
    rw [set, Dict.get?_set] at stored
    split at stored
    next same =>
      cases stored
      exact ⟨was, same ▸ present, tenant⟩
    · exact ⟨entry, stored, rfl⟩
  cases h with
  | nothing same => exact Or.inl (unchanged same.keys)
  | @keyIssued body issuedAt reply hq admitted requests keys =>
    have set : table s' = (table s).set reply.joinKey
        (openEntry reply.joinKey body.tenantId body.displayName issuedAt) := by
      simp only [table, keys, Option.getD_some]
    rw [set, Dict.get?_set] at stored
    split at stored
    next same =>
      cases stored
      exact Or.inr ⟨body, reply, hq, rfl, admitted, rfl, same.symm⟩
    · exact Or.inl ⟨entry, stored, rfl⟩
  | @keyExpired payload was detail hq first present isOpen requests keys =>
    exact Or.inl (rewritten _ was _ keys present rfl)
  | @keyUsed payload was usedAt stop hq first presented requests keys =>
    subst first
    exact Or.inl (rewritten _ was (usedEntry was usedAt) keys presented.stored rfl)
  | submitted hq accepted unapproved keys requests => exact Or.inl (unchanged keys)
  | approved hq begun pending current bundle keys requests => exact Or.inl (unchanged keys)
  | rejected hq current unapproved keys requests => exact Or.inl (unchanged keys)

/-- Every key on file was issued by a `prepare_tenant` for its tenant. -/
theorem keys_issued (env : Env) (actions : List JoinAction) :
    ∀ key entry, (table (after env actions).state).get? key = some entry →
      IssuedByPrepare env actions key entry.tenantId := by
  have each : Each (serve env) (fun _ _ => True) (start World.empty) actions :=
    fun _ _ _ _ => trivial
  refine run_invariant (P := fun actions c => ∀ key entry, (table c.state).get? key = some entry →
    IssuedByPrepare env actions key entry.tenantId)
    (fun key entry stored => by cases stored) ?_ each
  intro before action _ ih key entry stored
  have earlier : (table (after env before).state).get? key = some entry →
      IssuedByPrepare env (before ++ [action]) key entry.tenantId :=
    fun old => (ih key entry old).append [action]
  cases action with
  | arrive q => exact earlier stored
  | resume i result =>
    cases hi : (after env before).tasks[i]? with
    | none =>
      change (table (step (serve env) (after env before) (.resume i result)).state).get? key = _
        at stored
      simp only [step, hi] at stored
      exact earlier stored
    | some t =>
      change (table (step (serve env) (after env before) (.resume i result)).state).get? key = _
        at stored
      simp only [step, hi] at stored
      rcases resumed_owes free_empty hi result with ⟨-, idle, -⟩ | owes
      · rw [idle] at stored
        exact earlier stored
      · rcases key_written owes.writes stored with ⟨old, present, tenant⟩ |
          ⟨body, reply, hq, tenant, admitted, hstop, hkey⟩
        · rw [← tenant]
          exact (ih key old present).append [.resume i result]
        · refine ⟨before, i, result, [], t, body, reply, rfl, hi, hq, tenant, ?_, hstop, hkey⟩
          rcases admitted with session | bearer
          · exact Or.inl session
          · exact Or.inr ⟨⟨body, hq⟩, bearer⟩

/-- So was every key that a handshake presents. -/
theorem presented_issued {env : Env} {actions : List JoinAction} {i : Nat} {t : JoinTask}
    (hi : (after env actions).tasks[i]? = some t) {entry : JoinKeyEntry}
    (presented : Presented env t.request.caller (t.begun.getD (after env actions).state) entry) :
    IssuedByPrepare env actions (presentedKey env t.request.caller) entry.tenantId := by
  have stored := presented.stored
  cases begun : t.begun with
  | none =>
    rw [begun] at stored
    exact keys_issued env actions _ entry stored
  | some b =>
    obtain ⟨before, rest, rfl, rfl⟩ := begun_of_run (List.mem_of_getElem? hi) begun
    rw [begun] at stored
    exact (keys_issued env before _ entry stored).append rest

/-! ## Each step of a guarded run -/

section Guarded

variable {env : Env} {actions : List JoinAction}

/-- In a guarded run, the guard of `prepare_tenant` lets pass or refuses. -/
theorem not_undecided (guarded : GuardedRun env actions) {i : Nat} {result : HttpResult}
    {before rest : List JoinAction} (split : actions = before ++ .resume i result :: rest)
    {t : JoinTask} (hi : (after env before).tasks[i]? = some t) {body : TenantPrepareRequest}
    (hq : t.request.endpoint = .prepareTenant body) :
    ¬ Undecided env (given env actions) t.request.caller := by
  rintro (⟨error, raises⟩ | ⟨token, base, htoken, unreachable⟩)
  · obtain ⟨user, decides⟩ := (guarded before _ rest split t hi).session body hq
    rw [raises] at decides
    cases decides
  · have readable : ∀ answer, given env actions (.keycloakUserinfo base token) answer →
        Readable env token answer := by
      intro answer answered
      obtain ⟨before', j, rest', t', next, split', hj, begun, hproc⟩ := answered
      exact (guarded before' _ rest' split' t' hj).token base token next begun hproc
    rcases unreachable with
      ⟨text, answered⟩ | ⟨r, claims, error, answered, success, hclaims, raises⟩
    · obtain ⟨r, hr, -⟩ := readable _ answered
      cases hr
    · obtain ⟨r', hr, reads⟩ := readable _ answered
      cases hr
      obtain ⟨admitted, decides⟩ := reads success claims hclaims
      rw [raises] at decides
      cases decides

theorem mayCall_of_asks {q : Request} {b : World} {request : HttpRequest}
    (asks : Asks env q b request) (admin : DropsGuard q.endpoint → SessionAdmin q.caller)
    (issued : ∀ entry, Presented env q.caller b entry →
      IssuedByPrepare env actions (presentedKey env q.caller) entry.tenantId) :
    MayCall env actions q b request := by
  obtain ⟨caller, endpoint⟩ := q
  cases endpoint with
  | prepareTenant body =>
    obtain ⟨token, -, hrequest⟩ := asks
    exact ⟨token, hrequest⟩
  | joinHandshake payload =>
    obtain ⟨entry, presented, provisioning⟩ := asks
    exact ⟨entry, presented, issued entry presented, provisioning⟩
  | approveJoinRequest tenantId => exact ⟨admin trivial, asks.2⟩
  | createTenant body => exact asks.1
  | deleteTenant realmId => exact asks.1.1
  | submitJoinRequest tenantId payload => exact asks
  | listJoinRequests => exact asks
  | rejectJoinRequest tenantId reason => exact asks
  | getJoinStatus tenantId => exact asks

/-- Only approving and rejecting make a pending request anything else. -/
theorem decided_by {answers : HttpRequest → HttpResult → Prop} {q : Request} {b s s' : World}
    {stop : Proc.Stop HttpRequest Reply} (h : Writes env answers q b s s' stop) {tenantId : String}
    (pending : ((entries s).get? tenantId).map JoinEntry.status = some .pending)
    (moved : ((entries s').get? tenantId).map JoinEntry.status ≠ some .pending) :
    q.endpoint = .approveJoinRequest tenantId ∨
      ∃ reason, q.endpoint = .rejectJoinRequest tenantId reason := by
  have unchanged : s'.requests ≠ s.requests := by
    intro requests
    apply moved
    simp only [entries, requests] at pending ⊢
    exact pending
  have written : ∀ other (entry : JoinEntry), s'.requests = some ((entries s).set other entry) →
      tenantId = other := by
    intro other entry requests
    by_contra different
    rw [entries_set requests, if_neg different] at moved
    exact moved pending
  cases h with
  | nothing same => exact absurd same.requests unchanged
  | keyIssued issuedAt hq admitted requests keys => exact absurd requests unchanged
  | keyExpired hq first stored isOpen requests keys => exact absurd requests unchanged
  | keyUsed hq first presented requests keys => exact absurd requests unchanged
  | submitted hq accepted unapproved keys requests =>
    have same := written _ _ requests
    rw [entries_set requests, if_pos same] at moved
    exact absurd rfl moved
  | approved hq begun waiting current bundle keys requests =>
    rw [written _ _ requests]
    exact Or.inl hq
  | @rejected other reason stored rejectedAt reply hq current unapproved keys requests =>
    rw [written _ _ requests]
    exact Or.inr ⟨reason, hq⟩

/-- A task that is not entitled writes nothing. -/
theorem same_of_not_entitled {answers : HttpRequest → HttpResult → Prop} {q : Request}
    {b s s' : World} {stop : Proc.Stop HttpRequest Reply} (h : Writes env answers q b s s' stop)
    (only : CdmAdminOnly q.endpoint) (admin : DropsGuard q.endpoint → SessionAdmin q.caller)
    (refused : ¬ Entitled env answers q) : SameFiles s s' := by
  cases h with
  | nothing same => exact same
  | @keyIssued body issuedAt reply hq admitted requests keys =>
    rcases admitted with session | bearer
    · exact absurd (Or.inl session) refused
    · exact absurd (Or.inr ⟨⟨body, hq⟩, bearer⟩) refused
  | keyExpired hq first stored isOpen requests keys =>
    rw [hq] at only
    exact only.elim
  | keyUsed hq first presented requests keys =>
    rw [hq] at only
    exact only.elim
  | submitted hq accepted unapproved keys requests =>
    rw [hq] at only
    exact only.elim
  | approved hq begun pending current bundle keys requests =>
    rw [hq] at admin
    exact absurd (Or.inl (admin trivial)) refused
  | rejected hq current unapproved keys requests =>
    rw [hq] at admin
    exact absurd (Or.inl (admin trivial)) refused

theorem step_authorised {action : JoinAction} {rest : List JoinAction} {before : List JoinAction}
    (guarded : GuardedRun env actions) (split : actions = before ++ action :: rest) :
    StepAuthorised env before action where
  calls := by
    intro i result t request haction hi hstop
    subst haction
    rcases resumed_owes free_empty hi result with ⟨-, idle, silent⟩ | owes
    · rw [idle] at hstop
      exact absurd hstop (silent request)
    · obtain ⟨r, hr, asks⟩ := owes.asks _ hstop
      cases hr
      exact mayCall_of_asks asks (guarded before _ rest split t hi).admin
        fun entry presented => presented_issued hi presented
  decided := by
    intro tenantId pending moved
    cases action with
    | arrive q => exact absurd pending moved
    | resume i result =>
      cases hi : (after env before).tasks[i]? with
      | none =>
        simp only [step, hi] at moved
        exact absurd pending moved
      | some t =>
        simp only [statusOf, step, hi] at moved
        rcases resumed_owes free_empty hi result with ⟨-, idle, -⟩ | owes
        · rw [idle] at moved
          exact absurd pending moved
        · have endpoint := decided_by owes.writes pending moved
          refine ⟨i, result, t, rfl, hi, ?_, endpoint⟩
          apply (guarded before _ rest split t hi).admin
          rcases endpoint with approval | ⟨reason, rejection⟩
          · rw [approval]
            exact trivial
          · rw [rejection]
            exact trivial
  unchanged := by
    intro i result t haction hi only refused
    subst haction
    simp only [step, hi]
    rcases resumed_owes free_empty hi result with ⟨-, idle, -⟩ | owes
    · rw [idle]
      exact .refl _
    · exact same_of_not_entitled owes.writes only (guarded before _ rest split t hi).admin refused

/-! ## Runs -/

/-- A caller that is not entitled has got a 401 or a 403, if a reply at all. -/
theorem reply_of_not_entitled (guarded : GuardedRun env actions) {i : Nat} {result : HttpResult}
    {before : List JoinAction} (split : actions = before ++ [.resume i result]) {t : JoinTask}
    (hi : (after env before).tasks[i]? = some t) (only : CdmAdminOnly t.request.endpoint)
    (refused : ¬ Entitled env (given env actions) t.request) {b s s' : World}
    {stop : Proc.Stop HttpRequest Reply} (owes : Owes env (given env actions) t.request b s s' stop)
    {reply : Reply} (hstop : stop = .returned reply) : reply.statusCode ∈ [401, 403] := by
  have admin := (guarded before _ [] split t hi).admin
  have replies := owes.replies reply hstop
  cases hq : t.request.endpoint with
  | prepareTenant body =>
    rw [Replies, hq] at replies
    rcases replies with (session | bearer) | verdict | undecided
    · exact absurd (Or.inl session) refused
    · exact absurd (Or.inr ⟨⟨body, hq⟩, bearer⟩) refused
    · exact verdict
    · exact absurd undecided (not_undecided guarded split hi hq)
  | listJoinRequests =>
    rw [hq] at admin
    exact absurd (Or.inl (admin trivial)) refused
  | approveJoinRequest tenantId =>
    rw [hq] at admin
    exact absurd (Or.inl (admin trivial)) refused
  | rejectJoinRequest tenantId reason =>
    rw [hq] at admin
    exact absurd (Or.inl (admin trivial)) refused
  | joinHandshake payload =>
    rw [hq] at only
    exact only.elim
  | submitJoinRequest tenantId payload =>
    rw [hq] at only
    exact only.elim
  | getJoinStatus tenantId =>
    rw [hq] at only
    exact only.elim
  | createTenant body =>
    rw [hq] at only
    exact only.elim
  | deleteTenant realmId =>
    rw [hq] at only
    exact only.elim

theorem refusals (guarded : GuardedRun env actions) :
    ∀ t ∈ (after env actions).tasks, CdmAdminOnly t.request.endpoint →
      ¬ Entitled env (given env actions) t.request → t.begun ≠ none →
      ∀ reply, t.proc.stop = .returned reply → reply.statusCode ∈ [401, 403] := by
  refine run_invariant (P := fun actions c => ∀ t ∈ c.tasks, CdmAdminOnly t.request.endpoint →
    ¬ Entitled env (given env actions) t.request → t.begun ≠ none →
    ∀ reply, t.proc.stop = .returned reply → reply.statusCode ∈ [401, 403])
    (fun t mem => by cases mem) ?_ guarded
  intro before action taken ih t mem only refused begun reply hstop
  have earlier : ∀ t0 ∈ (after env before).tasks, t0.request = t.request → t0.begun ≠ none →
      t0.proc.stop = .returned reply → reply.statusCode ∈ [401, 403] := by
    intro t0 mem0 hrequest begun0 hstop0
    refine ih t0 mem0 (hrequest ▸ only) (fun entitled => refused ?_) begun0 reply hstop0
    rw [← hrequest]
    exact entitled.append [action]
  cases action with
  | arrive q =>
    rcases List.mem_append.mp mem with old | new
    · exact earlier t old rfl begun hstop
    · have fresh : t = ⟨q, none, serve env q⟩ := by simpa using new
      subst fresh
      exact absurd rfl begun
  | resume i result =>
    change t ∈ (step (serve env) (after env before) (.resume i result)).tasks at mem
    cases hi : (after env before).tasks[i]? with
    | none =>
      simp only [step, hi] at mem
      exact earlier t mem rfl begun hstop
    | some t0 =>
      simp only [step, hi] at mem
      rcases List.mem_or_eq_of_mem_set mem with old | new
      · exact earlier t old rfl begun hstop
      · subst new
        rcases resumed_owes free_empty hi result with ⟨begun0, idle, -⟩ | owes
        · rw [idle] at hstop
          exact earlier t0 (List.mem_of_getElem? hi) rfl begun0 hstop
        · exact reply_of_not_entitled taken rfl hi only refused owes hstop

end Guarded

/-- Every run in which only admins have the unguarded endpoints served, and in
which `_require_cdm_admin` never raises by accident. -/
theorem runs_authorised (env : Env) (actions : List JoinAction)
    (guarded : GuardedRun env actions) : RunAuthorised env actions where
  steps _ _ _ split := step_authorised guarded split
  refused := refusals guarded

/-- An admin rejects a request; a stranger asks for a key. -/
theorem runs_authorised_rejection :
    RunAuthorised Env.counting
      [.arrive (submission "csr"), .resume 0 unreachable,
        .arrive ⟨cdmAdmin, .rejectJoinRequest "acme" ""⟩, .resume 1 unreachable,
        .arrive ⟨stranger, .prepareTenant ⟨"acme", "Acme", by decide⟩⟩, .resume 2 unreachable] := by
  have first : ∀ {q : Request} {p : Proc World HttpRequest HttpResult Reply} {result : HttpResult},
      (DropsGuard q.endpoint → SessionAdmin q.caller) →
      (∃ user, getCdmAdmin q.caller = .ok user) → Guarded Env.counting ⟨q, none, p⟩ result := by
    intro q p result admin session
    exact ⟨admin, fun _ _ => session, fun _ _ _ begun => absurd rfl begun⟩
  apply runs_authorised
  refine .cons trivial (.cons (fun t hi => ?_) (.cons trivial (.cons (fun t hi => ?_)
    (.cons trivial (.cons (fun t hi => ?_) ?_)))))
  · cases Option.some.inj hi
    exact first (fun drops => drops.elim) ⟨none, rfl⟩
  · cases Option.some.inj hi
    exact first (fun _ => ⟨_, rfl⟩) ⟨_, rfl⟩
  · cases Option.some.inj hi
    exact first (fun drops => drops.elim) ⟨none, rfl⟩
  · intro before action rest split
    simp at split

/-- An approval by a stranger, up to its last exchange. -/
def takenOver : List JoinAction :=
  [.arrive (submission "csr"), .resume 0 unreachable,
    .arrive ⟨stranger, .approveJoinRequest "acme"⟩, .resume 1 unreachable, .resume 1 signer,
    .resume 1 (certificate "csr"), .resume 1 unreachable]

/-- It signs, provisions and approves. -/
theorem approved_by_stranger :
    ¬ RunAuthorised Env.counting (takenOver ++ [.resume 1 unreachable]) := by
  intro authorised
  have pending : statusOf (after Env.counting takenOver) "acme" = some .pending := by
    decide +kernel
  have approved : statusOf (step (serve Env.counting) (after Env.counting takenOver)
      (.resume 1 unreachable)) "acme" = some .approved := by decide +kernel
  have anonymous : ((after Env.counting takenOver).tasks[1]?).map
      (fun t => t.request.caller.user.truthy) = some false := by decide +kernel
  have moved : statusOf (step (serve Env.counting) (after Env.counting takenOver)
      (.resume 1 unreachable)) "acme" ≠ some .pending := by
    rw [approved]
    decide
  obtain ⟨i, result, t, haction, hi, ⟨user, session⟩, -⟩ :=
    (authorised.steps takenOver _ [] rfl).decided "acme" pending moved
  cases haction
  rw [hi] at anonymous
  have falsy : t.request.caller.user.truthy = false := Option.some.inj anonymous
  simp [getCdmAdmin, falsy] at session

end CompleteDeviceManagement.Guarantees.JoinAuthorization
