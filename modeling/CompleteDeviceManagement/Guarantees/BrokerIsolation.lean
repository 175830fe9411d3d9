import CompleteDeviceManagement.Guarantees.JoinContract

/-!
# Tenants on the broker

The portal calls a tenant's user and vhost by its realm; the JOIN flow calls the
vhost by the tenant and the user after it, with a suffix. Both write into the
one namespace that holds the platform's accounts, whose names neither checks. As
long as no operation names one of these, tenants are apart from each other and
from the platform.

The broker carries out calls that were sent, in any order and any number of
times.
-/

set_option autoImplicit false

namespace CompleteDeviceManagement.Guarantees.BrokerIsolation
open CompleteDeviceManagement.Library CompleteDeviceManagement.Source.Models
  CompleteDeviceManagement.Source.Runtime CompleteDeviceManagement.Source.RabbitMq
  CompleteDeviceManagement.Source.AdminPortal CompleteDeviceManagement.Source.JoinStore
  CompleteDeviceManagement.Source.JoinRouter CompleteDeviceManagement.Source.Service
  CompleteDeviceManagement.Guarantees.Provisioning CompleteDeviceManagement.Guarantees.JoinContract
open CompleteDeviceManagement.Library.EventLoop

/-! ## What a call leaves alone -/

def NamesUser (user : String) : RabbitCall → Prop
  | .putUser name _ _ => name = user
  | .deleteUser name => name = user
  | .putPermissions name _ _ _ _ => name = user
  | _ => False

def NamesVhost (vhost : String) : RabbitCall → Prop
  | .putVhost name _ => name = vhost
  | .deleteVhost name => name = vhost
  | .putPermissions _ name _ _ _ => name = vhost
  | _ => False

section Frame

variable {broker : Broker} {call : RabbitCall} {user vhost : String}

theorem users_frame (other : ¬ NamesUser user call) :
    (broker.apply call).users.get? user = broker.users.get? user := by
  cases call with
  | putVhost name description => rfl
  | deleteVhost name => rfl
  | putUser name password tags =>
    simp only [Broker.apply]
    exact Dict.get?_set_of_ne _ _ fun same => other same.symm
  | deleteUser name =>
    simp only [Broker.apply, Dict.get?_erase]
    rw [if_neg fun same => other same.symm]
  | putPermissions name host configure write read =>
    simp only [Broker.apply]
    split <;> rfl

theorem vhosts_frame (other : ¬ NamesVhost vhost call) :
    (broker.apply call).vhosts.get? vhost = broker.vhosts.get? vhost := by
  cases call with
  | putVhost name description =>
    simp only [Broker.apply]
    exact Dict.get?_set_of_ne _ _ fun same => other same.symm
  | deleteVhost name =>
    simp only [Broker.apply, Dict.get?_erase]
    rw [if_neg fun same => other same.symm]
  | putUser name password tags => rfl
  | deleteUser name => rfl
  | putPermissions name host configure write read =>
    simp only [Broker.apply]
    split <;> rfl

theorem permissions_frame (otherUser : ¬ NamesUser user call)
    (otherVhost : ¬ NamesVhost vhost call) :
    (broker.apply call).permissions.get? (user, vhost) = broker.permissions.get? (user, vhost) := by
  cases call with
  | putVhost name description => rfl
  | deleteVhost name =>
    have kept : vhost ≠ name := fun same => otherVhost same.symm
    simp [Broker.apply, Dict.get?_filterKeys, kept]
  | putUser name password tags => rfl
  | deleteUser name =>
    have kept : user ≠ name := fun same => otherUser same.symm
    simp [Broker.apply, Dict.get?_filterKeys, kept]
  | putPermissions name host configure write read =>
    simp only [Broker.apply]
    split
    · refine Dict.get?_set_of_ne _ _ fun same => otherUser ?_
      exact (congrArg Prod.fst same).symm
    · rfl

/-- A permission was there before, or the call grants it. -/
theorem permission_granted
    (present : (broker.apply call).permissions.get? (user, vhost) ≠ none) :
    broker.permissions.get? (user, vhost) ≠ none ∨
      ∃ configure write read, call = .putPermissions user vhost configure write read := by
  cases call with
  | putVhost name description => exact Or.inl present
  | deleteVhost name =>
    refine Or.inl fun absent => present ?_
    simp [Broker.apply, Dict.get?_filterKeys, absent]
  | putUser name password tags => exact Or.inl present
  | deleteUser name =>
    refine Or.inl fun absent => present ?_
    simp [Broker.apply, Dict.get?_filterKeys, absent]
  | putPermissions name host configure write read =>
    simp only [Broker.apply] at present
    split at present
    · rw [Dict.get?_set] at present
      split at present
      next same =>
        cases same
        exact Or.inr ⟨configure, write, read, rfl⟩
      · exact Or.inl present
    · exact Or.inl present

end Frame

/-! ## Operations -/

/-- The request, begun in the state, goes on to set up the user and the vhost of
the tenant. -/
inductive Onboards (env : Env) : Request → World → String → String → Prop where
  | handshake {caller : Caller} {payload : JoinHandshakePayload} {b : World}
      {entry : JoinKeyEntry} (presented : Presented env caller b entry) :
      Onboards env ⟨caller, .joinHandshake payload⟩ b (mqttUser entry.tenantId) entry.tenantId
  | approval {caller : Caller} {tenantId : String} {b : World} {entry : JoinEntry}
      (stored : (entries b).get? tenantId = some entry) (pending : entry.status = .pending) :
      Onboards env ⟨caller, .approveJoinRequest tenantId⟩ b (mqttUser tenantId) tenantId
  | realm {caller : Caller} {body : Except String Json} {b : World} {realmId : String}
      (admin : SessionAdmin caller) (requested : RequestedRealm env body realmId)
      (identifier : env.py.isidentifier realmId = true) (unprotected : realmId ∉ protectedRealms) :
      Onboards env ⟨caller, .createTenant body⟩ b realmId realmId

/-- The request goes on to remove the user and the vhost of the tenant. -/
inductive Offboards : Request → String → Prop where
  | realm {caller : Caller} {realmId : String} (admin : SessionAdmin caller)
      (unprotected : realmId ∉ protectedRealms) : Offboards ⟨caller, .deleteTenant realmId⟩ realmId

/-- The call to the broker that a section ends with. -/
def brokerCall : Proc.Stop HttpRequest Reply → Option RabbitCall
  | .suspended (some (.rabbitmq _ _ _ call)) => some call
  | _ => none

section Runs

variable (env : Env) (w0 : World) (actions : List JoinAction)

/-- In the run of `actions` from `w0`, `q`, begun in `b`, sends `call`. -/
def Sent (q : Request) (b : World) (call : RabbitCall) : Prop :=
  ∃ before i result rest t, actions = before ++ .resume i result :: rest ∧
    (run (serve env) (start w0) before).tasks[i]? = some t ∧
    brokerCall (runTask t result (run (serve env) (start w0) before).state).1.stop = some call ∧
    q = t.request ∧ b = t.begun.getD (run (serve env) (start w0) before).state

/-- Calls that the broker can have carried out. -/
def Carried (calls : List RabbitCall) : Prop := ∀ call ∈ calls, ∃ q b, Sent env w0 actions q b call

def UserOf (user tenant : String) : Prop :=
  ∃ q b password tags owner, Sent env w0 actions q b (.putUser user password tags) ∧
    Onboards env q b owner tenant

def VhostOf (vhost tenant : String) : Prop :=
  ∃ q b description owner, Sent env w0 actions q b (.putVhost vhost description) ∧
    Onboards env q b owner tenant

/-- The broker after a run, which began as `initial`. -/
structure Isolated (adminUser : String) (initial broker : Broker) : Prop where
  /-- Every user that is created is created for a tenant. -/
  owned : ∀ q b user password tags, Sent env w0 actions q b (.putUser user password tags) →
    ∃ tenant, UserOf env w0 actions user tenant
  confined : ∀ user tenant vhost, UserOf env w0 actions user tenant →
    broker.permissions.get? (user, vhost) ≠ none → vhost = tenant ∧ vhost ∉ platformVhosts
  usersApart : ∀ user tenant tenant', UserOf env w0 actions user tenant →
    UserOf env w0 actions user tenant' → tenant = tenant'
  vhostsApart : ∀ vhost tenant tenant', VhostOf env w0 actions vhost tenant →
    VhostOf env w0 actions vhost tenant' → tenant = tenant'
  users : ∀ user ∈ platformUsers adminUser, broker.users.get? user = initial.users.get? user
  vhosts : ∀ vhost ∈ platformVhosts, broker.vhosts.get? vhost = initial.vhosts.get? vhost
  permissions : ∀ user vhost, user ∈ platformUsers adminUser ∨ vhost ∈ platformVhosts →
    broker.permissions.get? (user, vhost) = initial.permissions.get? (user, vhost)

end Runs

/-- No operation that goes through names an account of the platform. -/
structure Apart (env : Env) (adminUser : String) (q : Request) (b : World) : Prop where
  onboarding : ∀ user tenant, Onboards env q b user tenant →
    user ∉ platformUsers adminUser ∧ tenant ∉ platformVhosts
  offboarding : ∀ tenant, Offboards q tenant →
    tenant ∉ platformUsers adminUser ∧ tenant ∉ platformVhosts

def ApartStep (env : Env) (adminUser : String) (c : JoinLoop) : JoinAction → Prop
  | .arrive _ => True
  | .resume i _ => ∀ t, c.tasks[i]? = some t → Apart env adminUser t.request (t.begun.getD c.state)

/-! ## Accounts -/

/-- The two schemes by which a tenant's user is named. -/
def Account (py : PyText) (user tenant : String) : Prop :=
  user = mqttUser tenant ∨ (user = tenant ∧ py.isidentifier tenant = true)

theorem mqttUser_injective {tenant tenant' : String} (h : mqttUser tenant = mqttUser tenant') :
    tenant = tenant' := by
  have letters := congrArg String.toList h
  simp only [mqttUser, String.toList_append] at letters
  exact String.toList_injective (List.append_cancel_right letters)

theorem hyphen_mem_mqttUser (tenant : String) : '-' ∈ (mqttUser tenant).toList := by
  simp only [mqttUser, String.toList_append]
  exact List.mem_append_right _ (by decide)

/-- The schemes never meet: an identifier has no hyphen. -/
theorem account_unique {py : PyText} {user tenant tenant' : String} (h : Account py user tenant)
    (h' : Account py user tenant') : tenant = tenant' := by
  rcases h with bridge | ⟨realm, identifier⟩
  · rcases h' with bridge' | ⟨realm', identifier'⟩
    · exact mqttUser_injective (bridge.symm.trans bridge')
    · have hyphen := hyphen_mem_mqttUser tenant
      rw [← bridge, realm'] at hyphen
      exact absurd hyphen (py.hyphen_not_mem_identifier identifier')
  · rcases h' with bridge' | ⟨realm', identifier'⟩
    · have hyphen := hyphen_mem_mqttUser tenant'
      rw [← bridge', realm] at hyphen
      exact absurd hyphen (py.hyphen_not_mem_identifier identifier)
    · exact realm.symm.trans realm'

theorem onboards_account {env : Env} {q : Request} {b : World} {user tenant : String}
    (h : Onboards env q b user tenant) : Account env.py user tenant := by
  cases h with
  | handshake presented => exact Or.inl rfl
  | approval stored pending => exact Or.inl rfl
  | realm admin requested identifier unprotected => exact Or.inr ⟨rfl, identifier⟩

theorem requestedRealm_unique {env : Env} {body : Except String Json} {realmId realmId' : String}
    (h : RequestedRealm env body realmId) (h' : RequestedRealm env body realmId') :
    realmId = realmId' := by
  obtain ⟨value, text, hbody, htext, rfl⟩ := h
  obtain ⟨value', text', hbody', htext', rfl⟩ := h'
  rw [hbody] at hbody'
  cases hbody'
  rw [htext] at htext'
  cases htext'
  rfl

/-- A request sets up one tenant. -/
theorem onboards_unique {env : Env} {q : Request} {b : World} {user user' tenant tenant' : String}
    (h : Onboards env q b user tenant) (h' : Onboards env q b user' tenant') :
    user = user' ∧ tenant = tenant' := by
  cases h with
  | handshake presented =>
    cases h' with
    | handshake presented' =>
      have stored := presented.stored
      rw [presented'.stored] at stored
      cases stored
      exact ⟨rfl, rfl⟩
  | approval stored pending =>
    cases h' with
    | approval stored' pending' => exact ⟨rfl, rfl⟩
  | realm admin requested identifier unprotected =>
    cases h' with
    | realm admin' requested' identifier' unprotected' =>
      have same := requestedRealm_unique requested requested'
      exact ⟨same, same⟩

/-- Every call to the broker is part of an operation on one tenant. -/
theorem asks_operation {env : Env} {q : Request} {b : World} {base admin password : String}
    {call : RabbitCall} (asks : Asks env q b (.rabbitmq base admin password call)) :
    (∃ user tenant, Onboards env q b user tenant ∧ SetsUp user tenant call) ∨
      ∃ tenant, Offboards q tenant ∧ TakesDown tenant call := by
  obtain ⟨caller, endpoint⟩ := q
  cases endpoint with
  | joinHandshake payload =>
    obtain ⟨entry, presented, setsUp⟩ := asks
    exact Or.inl ⟨_, _, .handshake presented, setsUp⟩
  | approveJoinRequest tenantId =>
    obtain ⟨⟨entry, stored, pending⟩, setsUp⟩ := asks
    exact Or.inl ⟨_, _, .approval stored pending, setsUp⟩
  | createTenant body =>
    obtain ⟨session, realmId, ⟨requested, identifier, unprotected⟩, setsUp⟩ := asks
    exact Or.inl ⟨_, _, .realm session requested identifier unprotected, setsUp⟩
  | deleteTenant realmId =>
    obtain ⟨⟨session, unprotected⟩, takesDown⟩ := asks
    exact Or.inr ⟨_, .realm session unprotected, takesDown⟩
  | prepareTenant body =>
    obtain ⟨token, -, userinfo⟩ := asks
    cases userinfo
  | submitJoinRequest tenantId payload => exact asks.elim
  | listJoinRequests => exact asks.elim
  | rejectJoinRequest tenantId reason => exact asks.elim
  | getJoinStatus tenantId => exact asks.elim

/-! ## What a broker keeps -/

/-- A call that names no account of the platform, and gives a tenant's user
permissions on no vhost but the tenant's. -/
structure Harmless (py : PyText) (adminUser : String) (call : RabbitCall) : Prop where
  user : ∀ user, NamesUser user call → user ∉ platformUsers adminUser
  vhost : ∀ vhost, NamesVhost vhost call → vhost ∉ platformVhosts
  grant : ∀ user vhost configure write read,
    call = .putPermissions user vhost configure write read → Account py user vhost

/-- A permission that a harmless call can have granted. -/
structure Granted (py : PyText) (adminUser user vhost : String) : Prop where
  account : Account py user vhost
  user : user ∉ platformUsers adminUser
  vhost : vhost ∉ platformVhosts

/-- The platform's accounts are as at the start; a permission is the platform's
or was granted to a tenant's user on the tenant's vhost. -/
structure Kept (py : PyText) (adminUser : String) (initial broker : Broker) : Prop where
  users : ∀ user ∈ platformUsers adminUser, broker.users.get? user = initial.users.get? user
  vhosts : ∀ vhost ∈ platformVhosts, broker.vhosts.get? vhost = initial.vhosts.get? vhost
  permissions : ∀ user ∈ platformUsers adminUser, ∀ vhost ∈ platformVhosts,
    broker.permissions.get? (user, vhost) = initial.permissions.get? (user, vhost)
  granted : ∀ user vhost, broker.permissions.get? (user, vhost) ≠ none →
    (user ∈ platformUsers adminUser ∧ vhost ∈ platformVhosts) ∨ Granted py adminUser user vhost

theorem setsUp_harmless {py : PyText} {adminUser user vhost : String} {call : RabbitCall}
    (h : SetsUp user vhost call) (account : Account py user vhost)
    (apart : user ∉ platformUsers adminUser ∧ vhost ∉ platformVhosts) :
    Harmless py adminUser call := by
  cases call with
  | putVhost name description =>
    cases h
    refine ⟨fun _ named => named.elim, fun vhost named => ?_, fun _ _ _ _ _ grant => by cases grant⟩
    exact named ▸ apart.2
  | putUser name password tags =>
    obtain ⟨rfl, -⟩ := h
    refine ⟨fun user named => ?_, fun _ named => named.elim, fun _ _ _ _ _ grant => by cases grant⟩
    exact named ▸ apart.1
  | putPermissions name host configure write read =>
    obtain ⟨rfl, rfl⟩ := h
    refine ⟨fun user named => named ▸ apart.1, fun vhost named => named ▸ apart.2,
      fun user vhost configure' write' read' grant => ?_⟩
    cases grant
    exact account
  | deleteVhost name => exact h.elim
  | deleteUser name => exact h.elim

theorem takesDown_harmless {py : PyText} {adminUser tenant : String} {call : RabbitCall}
    (h : TakesDown tenant call)
    (apart : tenant ∉ platformUsers adminUser ∧ tenant ∉ platformVhosts) :
    Harmless py adminUser call := by
  cases call with
  | deleteVhost name =>
    cases h
    refine ⟨fun _ named => named.elim, fun vhost named => ?_, fun _ _ _ _ _ grant => by cases grant⟩
    exact named ▸ apart.2
  | deleteUser name =>
    cases h
    refine ⟨fun user named => ?_, fun _ named => named.elim, fun _ _ _ _ _ grant => by cases grant⟩
    exact named ▸ apart.1
  | putVhost name description => exact h.elim
  | putUser name password tags => exact h.elim
  | putPermissions name host configure write read => exact h.elim

theorem kept_apply {py : PyText} {adminUser : String} {initial broker : Broker}
    (h : Kept py adminUser initial broker) {call : RabbitCall}
    (harmless : Harmless py adminUser call) : Kept py adminUser initial (broker.apply call) where
  users := by
    intro user platform
    rw [users_frame fun named => harmless.user user named platform]
    exact h.users user platform
  vhosts := by
    intro vhost platform
    rw [vhosts_frame fun named => harmless.vhost vhost named platform]
    exact h.vhosts vhost platform
  permissions := by
    intro user platformUser vhost platformVhost
    rw [permissions_frame (fun named => harmless.user user named platformUser)
      fun named => harmless.vhost vhost named platformVhost]
    exact h.permissions user platformUser vhost platformVhost
  granted := by
    intro user vhost present
    rcases permission_granted present with before | ⟨configure, write, read, rfl⟩
    · exact h.granted user vhost before
    · exact Or.inr ⟨harmless.grant _ _ _ _ _ rfl, harmless.user user rfl, harmless.vhost vhost rfl⟩

theorem kept_calls {py : PyText} {adminUser : String} {initial : Broker} (calls : List RabbitCall)
    (harmless : ∀ call ∈ calls, Harmless py adminUser call) {broker : Broker}
    (h : Kept py adminUser initial broker) :
    Kept py adminUser initial (calls.foldl Broker.apply broker) := by
  induction calls generalizing broker with
  | nil => exact h
  | cons call rest ih =>
    apply ih (fun later mem => harmless later (List.mem_cons_of_mem call mem))
    exact kept_apply h (harmless call List.mem_cons_self)

theorem kept_platform (py : PyText) (adminUser adminPassword : String) :
    Kept py adminUser (.platform adminUser adminPassword)
      (.platform adminUser adminPassword) where
  users _ _ := rfl
  vhosts _ _ := rfl
  permissions _ _ _ _ := rfl
  granted := by
    intro user vhost present
    refine Or.inl ?_
    simp only [Broker.platform, Dict.get?_set] at present
    simp only [platformUsers, platformVhosts, List.mem_cons, List.not_mem_nil, or_false]
    split at present
    next pair => exact ⟨Or.inr (Or.inr (Prod.mk.inj pair).1), Or.inr (Prod.mk.inj pair).2⟩
    split at present
    next pair => exact ⟨Or.inr (Or.inl (Prod.mk.inj pair).1), Or.inr (Prod.mk.inj pair).2⟩
    split at present
    next pair => exact ⟨Or.inl (Prod.mk.inj pair).1, Or.inr (Prod.mk.inj pair).2⟩
    split at present
    next pair => exact ⟨Or.inl (Prod.mk.inj pair).1, Or.inl (Prod.mk.inj pair).2⟩
    exact absurd rfl present

/-! ## Runs -/

section Sending

variable {env : Env} {w0 : World} {actions : List JoinAction} {q : Request} {b : World}
  {call : RabbitCall} {adminUser : String}

theorem sent_operation (free : Free w0) (sent : Sent env w0 actions q b call) :
    (∃ user tenant, Onboards env q b user tenant ∧ SetsUp user tenant call) ∨
      ∃ tenant, Offboards q tenant ∧ TakesDown tenant call := by
  obtain ⟨before, i, result, rest, t, split, hi, hcall, rfl, rfl⟩ := sent
  unfold brokerCall at hcall
  split at hcall
  next base admin password call' hstop =>
    cases hcall
    rcases resumed_owes free hi result with ⟨-, idle, silent⟩ | owes
    · rw [idle] at hstop
      exact absurd hstop (silent _)
    · obtain ⟨request, hrequest, asks⟩ := owes.asks _ hstop
      cases hrequest
      exact asks_operation asks
  · cases hcall

theorem sent_apart (sent : Sent env w0 actions q b call)
    (apart : Each (serve env) (ApartStep env adminUser) (start w0) actions) :
    Apart env adminUser q b := by
  obtain ⟨before, i, result, rest, t, split, hi, hcall, rfl, rfl⟩ := sent
  exact apart before _ rest split t hi

theorem sent_harmless (free : Free w0) (sent : Sent env w0 actions q b call)
    (apart : Each (serve env) (ApartStep env adminUser) (start w0) actions) :
    Harmless env.py adminUser call := by
  have unnamed := sent_apart sent apart
  rcases sent_operation free sent with ⟨user, tenant, onboards, setsUp⟩ |
    ⟨tenant, offboards, takesDown⟩
  · exact setsUp_harmless setsUp (onboards_account onboards)
      (unnamed.onboarding user tenant onboards)
  · exact takesDown_harmless takesDown (unnamed.offboarding tenant offboards)

/-- The user that is created for a tenant is the one its scheme names. -/
theorem userOf_onboards (free : Free w0) {user tenant : String}
    (h : UserOf env w0 actions user tenant) :
    ∃ q b call, Sent env w0 actions q b call ∧ Onboards env q b user tenant := by
  obtain ⟨q, b, password, tags, owner, sent, onboards⟩ := h
  rcases sent_operation free sent with ⟨user', tenant', onboards', setsUp⟩ | ⟨_, _, takesDown⟩
  · obtain ⟨rfl, -⟩ := setsUp
    obtain ⟨rfl, rfl⟩ := onboards_unique onboards onboards'
    exact ⟨q, b, _, sent, onboards⟩
  · exact takesDown.elim

theorem vhostOf_eq (free : Free w0) {vhost tenant : String}
    (h : VhostOf env w0 actions vhost tenant) : vhost = tenant := by
  obtain ⟨q, b, description, owner, sent, onboards⟩ := h
  rcases sent_operation free sent with ⟨user', tenant', onboards', setsUp⟩ | ⟨_, _, takesDown⟩
  · rw [(onboards_unique onboards onboards').2]
    exact setsUp
  · exact takesDown.elim

end Sending

theorem permission_of_kept {py : PyText} {adminUser adminPassword : String} {broker : Broker}
    (kept : Kept py adminUser (.platform adminUser adminPassword) broker) {user vhost : String}
    (platform : user ∈ platformUsers adminUser ∨ vhost ∈ platformVhosts) :
    broker.permissions.get? (user, vhost) =
      (Broker.platform adminUser adminPassword).permissions.get? (user, vhost) := by
  by_cases both : user ∈ platformUsers adminUser ∧ vhost ∈ platformVhosts
  · exact kept.permissions user both.1 vhost both.2
  · have none_of : ∀ broker', Kept py adminUser (.platform adminUser adminPassword) broker' →
        broker'.permissions.get? (user, vhost) = none := by
      intro broker' kept'
      by_contra present
      rcases kept'.granted user vhost present with its | granted
      · exact both its
      · rcases platform with platformUser | platformVhost
        · exact granted.user platformUser
        · exact granted.vhost platformVhost
    rw [none_of broker kept, none_of _ (kept_platform py adminUser adminPassword)]

/-- Every run whose operations name no account of the platform, and every broker
that has carried out calls of it. -/
theorem tenants_isolated (env : Env) (adminUser adminPassword : String) (w0 : World)
    (free : Free w0) (actions : List JoinAction)
    (apart : Each (serve env) (ApartStep env adminUser) (start w0) actions)
    (calls : List RabbitCall) (carried : Carried env w0 actions calls) :
    Isolated env w0 actions adminUser (.platform adminUser adminPassword)
      (calls.foldl Broker.apply (.platform adminUser adminPassword)) := by
  have harmless : ∀ call ∈ calls, Harmless env.py adminUser call := by
    intro call mem
    obtain ⟨q, b, sent⟩ := carried call mem
    exact sent_harmless free sent apart
  have kept := kept_calls calls harmless (kept_platform env.py adminUser adminPassword)
  refine ⟨?_, ?_, ?_, ?_, kept.users, kept.vhosts, ?_⟩
  · intro q b user password tags sent
    rcases sent_operation free sent with ⟨owner, tenant, onboards, setsUp⟩ | ⟨_, _, takesDown⟩
    · exact ⟨tenant, q, b, password, tags, owner, sent, onboards⟩
    · exact takesDown.elim
  · intro user tenant vhost created present
    obtain ⟨q, b, call, sent, onboards⟩ := userOf_onboards free created
    have unnamed := (sent_apart sent apart).onboarding user tenant onboards
    rcases kept.granted user vhost present with platform | granted
    · exact absurd platform.1 unnamed.1
    · exact ⟨account_unique granted.account (onboards_account onboards), granted.vhost⟩
  · intro user tenant tenant' created created'
    obtain ⟨q, b, call, sent, onboards⟩ := userOf_onboards free created
    obtain ⟨q', b', call', sent', onboards'⟩ := userOf_onboards free created'
    exact account_unique (onboards_account onboards) (onboards_account onboards')
  · intro vhost tenant tenant' created created'
    exact (vhostOf_eq free created).symm.trans (vhostOf_eq free created')
  · intro user vhost platform
    exact permission_of_kept kept platform

/-! ## Two realms -/

def noContent : HttpResult := .response { status := 204, text := "", json := .error "" }

def realmRequest (realmId : String) : Request :=
  ⟨cdmAdmin, .createTenant (.ok (.obj [("realm_id", .str realmId)]))⟩

/-- `create_tenant`, up to the answer to its `create_vhost`; Keycloak is down. -/
def realmRun (realmId : String) : List JoinAction :=
  [.arrive (realmRequest realmId), .resume 0 unreachable, .resume 0 unreachable,
    .resume 0 noContent]

theorem sent_of_section {env : Env} {w0 : World} {before rest : List JoinAction} {i : Nat}
    {result : HttpResult} {call : RabbitCall}
    (h : ((run (serve env) (start w0) before).tasks[i]?).bind (fun t =>
      brokerCall (runTask t result (run (serve env) (start w0) before).state).1.stop) = some call) :
    ∃ q b, Sent env w0 (before ++ .resume i result :: rest) q b call := by
  obtain ⟨t, hi, hcall⟩ := Option.bind_eq_some_iff.mp h
  exact ⟨t.request, _, before, i, result, rest, t, rfl, hi, hcall, rfl, rfl⟩

theorem apart_realmRequest {env : Env} {b : World} {realmId : String}
    (requested : RequestedRealm env (.ok (.obj [("realm_id", .str realmId)])) realmId)
    (unnamed : realmId ∉ platformUsers "admin" ∧ realmId ∉ platformVhosts) :
    Apart env "admin" (realmRequest realmId) b where
  onboarding := by
    intro user tenant onboards
    cases onboards with
    | realm admin requested' identifier unprotected =>
      rw [requestedRealm_unique requested' requested]
      exact unnamed
  offboarding := by
    intro tenant offboards
    cases offboards

/-- A tenant with a name of its own. -/
theorem tenants_isolated_acme :
    Isolated Env.counting World.empty (realmRun "acme") "admin" (.platform "admin" "changeme")
      (Broker.apply (.platform "admin" "changeme") (.putVhost "acme" "Tenant vHost: acme")) := by
  have requested : RequestedRealm Env.counting (.ok (.obj [("realm_id", .str "acme")])) "acme" :=
    ⟨_, "acme", rfl, by decide +kernel, by decide +kernel⟩
  have unnamed : ∀ b, Apart Env.counting "admin" (realmRequest "acme") b :=
    fun b => apart_realmRequest requested (by decide)
  have apart : Each (serve Env.counting) (ApartStep Env.counting "admin") (start World.empty)
      (realmRun "acme") := by
    refine .cons trivial (.cons (fun t hi => ?_) (.cons (fun t hi => ?_)
      (.cons (fun t hi => ?_) ?_)))
    · cases Option.some.inj hi
      exact unnamed _
    · cases Option.some.inj hi
      exact unnamed _
    · cases Option.some.inj hi
      exact unnamed _
    · intro before action rest split
      simp at split
  have free : Free World.empty := ⟨rfl, rfl⟩
  have sent : ∃ q b, Sent Env.counting World.empty
      ([.arrive (realmRequest "acme"), .resume 0 unreachable] ++
        .resume 0 unreachable :: [.resume 0 noContent]) q b
      (.putVhost "acme" "Tenant vHost: acme") := sent_of_section (by decide +kernel)
  refine tenants_isolated Env.counting "admin" "changeme" World.empty free _ apart
    [.putVhost "acme" "Tenant vHost: acme"] fun call mem => ?_
  rw [List.mem_singleton.mp mem]
  exact sent

/-- `create_tenant` accepts `telegraf`, and gives that user a password. -/
theorem platform_user_overwritten :
    ∃ calls, Carried Env.counting World.empty (realmRun "telegraf") calls ∧
      ¬ Isolated Env.counting World.empty (realmRun "telegraf") "admin"
        (.platform "admin" "changeme")
        (calls.foldl Broker.apply (.platform "admin" "changeme")) := by
  have sent : ∃ q b, Sent Env.counting World.empty
      ([.arrive (realmRequest "telegraf"), .resume 0 unreachable, .resume 0 unreachable] ++
        .resume 0 noContent :: []) q b (.putUser "telegraf" "yzABCDEFGHIJKLMNOPQRSTUV" "none") :=
    sent_of_section (by decide +kernel)
  refine ⟨[.putUser "telegraf" "yzABCDEFGHIJKLMNOPQRSTUV" "none"], fun call mem => ?_,
    fun isolated => ?_⟩
  · rw [List.mem_singleton.mp mem]
    exact sent
  · have same := isolated.users "telegraf" (by decide)
    exact absurd same (by decide +kernel)

end CompleteDeviceManagement.Guarantees.BrokerIsolation
