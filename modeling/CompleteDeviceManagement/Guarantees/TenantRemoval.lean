import CompleteDeviceManagement.Guarantees.BrokerIsolation
import CompleteDeviceManagement.Guarantees.TenantCreation

/-!
# What removing a tenant leaves behind

`delete_tenant` removes the realm, the vhost and the user that `create_tenant`
made. The other five operations also make a user of the bridge, a federation
client, a provisioner, JOIN keys and a JOIN request, and nothing removes these.
-/

set_option autoImplicit false

namespace CompleteDeviceManagement.Guarantees.TenantRemoval
open CompleteDeviceManagement.Library CompleteDeviceManagement.Source.Models
  CompleteDeviceManagement.Source.Runtime CompleteDeviceManagement.Source.RabbitMq
  CompleteDeviceManagement.Source.StepCa CompleteDeviceManagement.Source.AdminPortal
  CompleteDeviceManagement.Source.JoinStore CompleteDeviceManagement.Source.JoinKeyStore
  CompleteDeviceManagement.Source.JoinRouter CompleteDeviceManagement.Source.Service
open CompleteDeviceManagement.Guarantees.Provisioning
  CompleteDeviceManagement.Guarantees.JoinContract
  CompleteDeviceManagement.Guarantees.PlatformServices
open CompleteDeviceManagement.Guarantees.BrokerIsolation (NamesUser users_frame permission_granted)
open CompleteDeviceManagement.Guarantees.DeviceCalls (Fate)
open CompleteDeviceManagement.Guarantees.TenantCreation (carriedOut undisturbed Ends ends_pure
  ends_language ends_served token_served rabbit_served)
open CompleteDeviceManagement.Library.Fallible
open CompleteDeviceManagement.Library.EventLoop (owesSusp)

/-! ## Histories -/

inductive Operation where
  | request (q : Request)
  | addOidcProvisioner (caller : Caller) (realmId : String) (body : Except String Json)

/-- The services, how many exchanges there have been with them, and the requests
that were carried out. -/
structure Outside where
  services : Services
  exchanges : Nat
  arrived : List HttpRequest

def Outside.begin (s : Services) : Outside := ⟨s, 0, []⟩

section Histories

variable (env : Env) (fate : Nat → Fate) (t : String)

/-- The `n`-th exchange has the fate `fate n`. -/
def Outside.serve (request : HttpRequest) (o : Outside) : HttpResult × Outside :=
  ((exchanged request (fate o.exchanges) o.services).1,
    { services := (exchanged request (fate o.exchanges) o.services).2
      exchanges := o.exchanges + 1
      arrived := o.arrived ++ if carriedOut (fate o.exchanges) then [request] else [] })

def operate : Operation → Proc World HttpRequest HttpResult Unit
  | .request q => (serve env q).bind fun _ => .ret ()
  | .addOidcProvisioner caller realmId body =>
      (addOidcProvisioner env caller realmId body).run.bind fun _ => .ret ()

/-- One operation by itself; one that waits for a lock stays where it is. -/
def perform (c : World × Outside) (operation : Operation) : World × Outside :=
  (((operate env operation).session (Outside.serve fate) c).map Prod.snd).getD c

def history (operations : List Operation) (c : World × Outside) : World × Outside :=
  operations.foldl (perform env fate) c

/-- One of the six operations, on the tenant. -/
def Concerns (w : World) : Operation → Prop
  | .addOidcProvisioner _ realmId _ => realmId = t
  | .request ⟨_, .createTenant body⟩ => ∀ realmId, RequestedRealm env body realmId → realmId = t
  | .request ⟨_, .prepareTenant body⟩ => body.tenantId = t
  | .request ⟨caller, .joinHandshake _⟩ =>
      ∀ entry, (table w).get? (presentedKey env caller) = some entry → entry.tenantId = t
  | .request ⟨_, .submitJoinRequest tenantId _⟩ => tenantId = t
  | .request ⟨_, .approveJoinRequest tenantId⟩ => tenantId = t
  | .request _ => False

def Concerned : List Operation → World × Outside → Prop
  | [], _ => True
  | operation :: rest, c =>
      Concerns env t c.1 operation ∧ Concerned rest (perform env fate c operation)

end Histories

/-! ## What is there of a tenant -/

section Tenants

variable (t : String)

def federationClient : String := "cdm-federation-" ++ t

def oidcProvisioner : String := t ++ "-keycloak"

/-- Nothing is there of the tenant. -/
structure Fresh (w : World) (s : Services) : Prop where
  realm : s.keycloak.realms.get? t = none
  vhost : s.broker.vhosts.get? t = none
  user : s.broker.users.get? t = none
  bridge : s.broker.users.get? (mqttUser t) = none
  permissions : ∀ user, s.broker.permissions.get? (user, t) = none
  client : federationClient t ∉ s.keycloak.clients
  provisioner : oidcProvisioner t ∉ s.provisioners
  keys : ∀ key entry, (table w).get? key = some entry → entry.tenantId = t →
    entry.status ≠ .open
  request : (entries w).get? t = none

/-- The key file without the open keys of the tenant, the request file without
its request. -/
def forgetFiles (w : World) : World :=
  { w with
    requests := w.requests.map fun d => d.erase t
    keys := w.keys.map fun d => d.filterKeys fun key =>
      !(d.get? key).any fun entry => entry.tenantId = t && entry.status = .open }

def forgetServices (s : Services) : Services where
  keycloak :=
    { s.keycloak with
      realms := s.keycloak.realms.erase t
      clients := s.keycloak.clients.filter (· ≠ federationClient t) }
  broker :=
    { users := (s.broker.users.erase t).erase (mqttUser t)
      vhosts := s.broker.vhosts.erase t
      permissions := s.broker.permissions.filterKeys (·.2 ≠ t) }
  provisioners := s.provisioners.filter (· ≠ oidcProvisioner t)

def createsBridge : HttpRequest → Bool
  | .rabbitmq _ _ _ (.putUser name _ _) => name = mqttUser t
  | _ => false

def createsClient : HttpRequest → Bool
  | .keycloakCreateClient _ _ payload => textOf (member "clientId" payload) = federationClient t
  | _ => false

def createsProvisioner : HttpRequest → Bool
  | .stepCaAddProvisioner _ _ payload => textOf (member "name" payload) = oidcProvisioner t
  | _ => false

/-- The request grants the user permissions on the tenant's vhost. -/
def Grants (user : String) : HttpRequest → Prop
  | .rabbitmq _ _ _ (.putPermissions name vhost _ _ _) => name = user ∧ vhost = t
  | _ => False

/-- Nothing is left, and any operations go on as if the tenant had never been. -/
structure Undone (env : Env) (arrived : List HttpRequest) (w : World) (s : Services) : Prop where
  fresh : Fresh t w s
  granted : ∀ user, (∃ request ∈ arrived, Grants t user request) →
    s.broker.users.get? user = none
  again : ∀ fate operations, history env fate operations (w, .begin s) =
    history env fate operations (forgetFiles t w, .begin (forgetServices t s))

def Submits (env : Env) (operation : Operation) : Prop :=
  tenantIdOk env.py t = true ∧
    ∃ caller payload, operation = .request ⟨caller, .submitJoinRequest t payload⟩

/-- What the history has made is what the removal knows. -/
structure Removable (env : Env) (operations : List Operation) (ended : World × Outside) : Prop where
  bridge : ended.2.arrived.any (createsBridge t) = false
  client : ended.2.arrived.any (createsClient t) = false
  provisioner : ended.2.arrived.any (createsProvisioner t) = false
  submissions : ∀ operation ∈ operations, ¬ Submits t env operation
  keys : ∀ key entry, (table ended.1).get? key = some entry → entry.tenantId = t →
    entry.status ≠ .open

end Tenants

/-! ## One request -/

section Requests

variable {env : Env} {t : String}

/-- The requests of `add_oidc_provisioner`. -/
def ProvisionerCall (t : String) : HttpRequest → Prop
  | .stepCaProvisioners _ => True
  | .stepCaAddProvisioner _ _ payload => payload.item "name" = .ok (.str (oidcProvisioner t))
  | _ => False

/-- The requests of the operations on a tenant. -/
inductive TenantCall (env : Env) (t : String) (request : HttpRequest) : Prop
  | guard (token : String) (h : request = .keycloakUserinfo env.settings.keycloakUrl token)
  | provisioning (h : ProvisioningCall env t request)
  | onboarding (h : OnboardingCall t request)
  | provisioner (h : ProvisionerCall t request)

/-- A call to the broker sets up one of the two users of the tenant. -/
theorem setsUp_of_tenantCall {base user password : String} {call : RabbitCall}
    (h : TenantCall env t (.rabbitmq base user password call)) :
    SetsUp (mqttUser t) t call ∨ SetsUp t t call := by
  cases h with
  | guard token h => cases h
  | provisioning h => exact .inl h
  | onboarding h => exact .inr h
  | provisioner h => exact h.elim

@[simp] theorem inRealm_clients (kc : Keycloak) (realm : String) (act : Realm → Response × Realm) :
    (kc.inRealm realm act).2.clients = kc.clients := by
  unfold Keycloak.inRealm
  split <;> rfl

theorem clients_serve (s : Services) (request : HttpRequest) :
    federationClient t ∈ (s.serve request).2.keycloak.clients ↔
      federationClient t ∈ s.keycloak.clients ∨ createsClient t request = true := by
  cases request with
  | keycloakCreateClient base token payload =>
    simp only [Services.serve, Keycloak.serve, createsClient, decide_eq_true_eq]
    split
    next there =>
      constructor
      · exact .inl
      · rintro (present | same)
        · exact present
        · rw [← same]
          exact there
    next => rw [List.mem_append, List.mem_singleton, eq_comm (a := federationClient t)]
  | keycloakCreateRealm base token payload =>
    simp only [Services.serve, Keycloak.serve, createsClient]
    split <;> simp
  | keycloakDeleteRealm base token realm =>
    simp only [Services.serve, Keycloak.serve, createsClient]
    split <;> simp
  | stepCaAddProvisioner base token payload =>
    simp only [Services.serve, createsClient]
    split <;> simp
  | _ => simp [Services.serve, Keycloak.serve, createsClient]

theorem provisioners_serve (s : Services) (request : HttpRequest) :
    oidcProvisioner t ∈ (s.serve request).2.provisioners ↔
      oidcProvisioner t ∈ s.provisioners ∨ createsProvisioner t request = true := by
  cases request with
  | stepCaAddProvisioner base token payload =>
    simp only [Services.serve, createsProvisioner, decide_eq_true_eq]
    split
    next there =>
      constructor
      · exact .inl
      · rintro (present | same)
        · exact present
        · rw [← same]
          exact there
    next => rw [List.mem_append, List.mem_singleton, eq_comm (a := oidcProvisioner t)]
  | _ => simp [Services.serve, createsProvisioner]

theorem bridge_serve (s : Services) {request : HttpRequest} (h : TenantCall env t request) :
    ((s.serve request).2.broker.users.get? (mqttUser t)).isSome = true ↔
      (s.broker.users.get? (mqttUser t)).isSome = true ∨ createsBridge t request = true := by
  cases request with
  | rabbitmq base user password call =>
    simp only [Services.serve]
    by_cases names : NamesUser (mqttUser t) call
    · cases call with
      | putUser name password tags =>
        have same : name = mqttUser t := names
        simp [Broker.apply, createsBridge, same]
      | deleteUser name => rcases setsUp_of_tenantCall h with h | h <;> exact h.elim
      | putPermissions name vhost configure write read =>
        simp only [Broker.apply, createsBridge]
        split <;> simp
      | _ => exact names.elim
    · rw [users_frame names]
      cases call with
      | putUser name password tags =>
        have other : name ≠ mqttUser t := names
        simp [createsBridge, other]
      | _ => simp [createsBridge]
  | stepCaAddProvisioner base token payload =>
    simp only [Services.serve, createsBridge]
    split <;> simp
  | _ => simp [Services.serve, createsBridge]

theorem permission_serve (s : Services) (request : HttpRequest) (user : String)
    (present : (s.serve request).2.broker.permissions.get? (user, t) ≠ none) :
    s.broker.permissions.get? (user, t) ≠ none ∨ Grants t user request := by
  cases request with
  | rabbitmq base admin password call =>
    rcases permission_granted present with before | ⟨configure, write, read, rfl⟩
    · exact .inl before
    · exact .inr ⟨rfl, rfl⟩
  | stepCaAddProvisioner base token payload =>
    left
    simp only [Services.serve] at present
    split at present <;> exact present
  | _ => exact .inl present

theorem grants_of_tenantCall {user : String} {request : HttpRequest}
    (h : TenantCall env t request) (grants : Grants t user request) :
    user = t ∨ user = mqttUser t := by
  cases request with
  | rabbitmq base admin password call =>
    cases call with
    | putPermissions name vhost configure write read =>
      obtain ⟨rfl, -⟩ := grants
      rcases setsUp_of_tenantCall h with ⟨same, -⟩ | ⟨same, -⟩
      · exact .inr same
      · exact .inl same
    | _ => exact grants.elim
  | _ => exact grants.elim

/-- What is there of the tenant, by the requests that were carried out. -/
structure Traced (env : Env) (t : String) (o : Outside) : Prop where
  calls : ∀ request ∈ o.arrived, TenantCall env t request
  bridge : (o.services.broker.users.get? (mqttUser t)).isSome = true ↔
    o.arrived.any (createsBridge t) = true
  client : federationClient t ∈ o.services.keycloak.clients ↔
    o.arrived.any (createsClient t) = true
  provisioner : oidcProvisioner t ∈ o.services.provisioners ↔
    o.arrived.any (createsProvisioner t) = true
  permissions : ∀ user, o.services.broker.permissions.get? (user, t) ≠ none →
    ∃ request ∈ o.arrived, Grants t user request

theorem traced_begin {w : World} {s : Services} (fresh : Fresh t w s) :
    Traced env t (.begin s) where
  calls := by simp [Outside.begin]
  bridge := by simp [Outside.begin, fresh.bridge]
  client := by simp [Outside.begin, fresh.client]
  provisioner := by simp [Outside.begin, fresh.provisioner]
  permissions := fun user present => absurd (fresh.permissions user) present

/-- An exchange is carried out, or leaves everything but the count. -/
theorem outside_serve_cases (fate : Nat → Fate) (request : HttpRequest) (o : Outside) :
    ((Outside.serve fate request o).2.services = (o.services.serve request).2 ∧
      (Outside.serve fate request o).2.arrived = o.arrived ++ [request]) ∨
    ((Outside.serve fate request o).2.services = o.services ∧
      (Outside.serve fate request o).2.arrived = o.arrived) := by
  unfold Outside.serve exchanged
  cases fate o.exchanges with
  | served => exact .inl ⟨rfl, rfl⟩
  | «instead» reached result =>
    cases reached with
    | true => exact .inl ⟨rfl, rfl⟩
    | false => exact .inr ⟨rfl, List.append_nil _⟩

theorem traced_serve {o : Outside} {request : HttpRequest} (fate : Nat → Fate)
    (h : Traced env t o) (call : TenantCall env t request) :
    Traced env t (Outside.serve fate request o).2 := by
  rcases outside_serve_cases fate request o with ⟨services, arrived⟩ | ⟨services, arrived⟩
  · constructor
    · intro request' hrequest'
      rw [arrived, List.mem_append, List.mem_singleton] at hrequest'
      rcases hrequest' with before | rfl
      · exact h.calls request' before
      · exact call
    · rw [services, arrived, bridge_serve o.services call, h.bridge]
      simp
    · rw [services, arrived, clients_serve, h.client]
      simp
    · rw [services, arrived, provisioners_serve, h.provisioner]
      simp
    · intro user present
      rw [services] at present
      rw [arrived]
      rcases permission_serve o.services request user present with before | grants
      · obtain ⟨earlier, hearlier, grants⟩ := h.permissions user before
        exact ⟨earlier, List.mem_append_left _ hearlier, grants⟩
      · exact ⟨request, List.mem_append_right _ List.mem_cons_self, grants⟩
  · constructor
    · rw [arrived]
      exact h.calls
    · rw [services, arrived]
      exact h.bridge
    · rw [services, arrived]
      exact h.client
    · rw [services, arrived]
      exact h.provisioner
    · rw [services, arrived]
      exact h.permissions

end Requests

/-! ## One operation -/

section Operations

variable {env : Env} {t : String} {fate : Nat → Fate} {submitted : Prop} {c : World × Outside}

/-- A state that a history on the tenant has led to; `submitted` says whether a
submission was among its operations. -/
structure Course (env : Env) (t : String) (submitted : Prop) (c : World × Outside) : Prop where
  free : Free c.1
  traced : Traced env t c.2
  entry : (entries c.1).get? t ≠ none ↔ submitted

theorem asks_tenantCall {q : Request} {b : World} {request : HttpRequest}
    (concerns : Concerns env t b (.request q)) (asks : Asks env q b request) :
    TenantCall env t request := by
  obtain ⟨caller, endpoint⟩ := q
  cases endpoint with
  | prepareTenant body =>
    obtain ⟨token, -, h⟩ := asks
    exact .guard token h
  | joinHandshake payload =>
    obtain ⟨entry, presented, call⟩ := asks
    rw [concerns entry presented.stored] at call
    exact .provisioning call
  | approveJoinRequest tenantId =>
    obtain ⟨-, call⟩ := asks
    have same : tenantId = t := concerns
    rw [same] at call
    exact .provisioning call
  | createTenant body =>
    obtain ⟨-, realmId, ⟨requested, -, -⟩, call⟩ := asks
    rw [concerns realmId requested] at call
    exact .onboarding call
  | deleteTenant realmId => exact concerns.elim
  | submitJoinRequest tenantId payload => exact asks.elim
  | listJoinRequests => exact asks.elim
  | rejectJoinRequest tenantId reason => exact asks.elim
  | getJoinStatus tenantId => exact asks.elim

theorem stays_iff {d : JoinStore} {tenantId : String} {stored entry : JoinEntry}
    (current : d.get? tenantId = some stored) :
    (d.set tenantId entry).get? t ≠ none ↔ d.get? t ≠ none := by
  rw [Dict.get?_set]
  split
  next same =>
    rw [same, current]
    simp
  · rfl

/-- No section but that of a submission adds a request, and none removes one. -/
theorem writes_entry {answers : HttpRequest → HttpResult → Prop} {q : Request} {b s s' : World}
    {stop : Proc.Stop HttpRequest Reply} (h : Writes env answers q b s s' stop)
    (other : ∀ tenantId payload, q.endpoint ≠ .submitJoinRequest tenantId payload) :
    (entries s').get? t ≠ none ↔ (entries s).get? t ≠ none := by
  cases h with
  | nothing same => rw [same.entries]
  | keyIssued _ _ _ requests _ => simp only [entries, requests]
  | keyExpired _ _ _ _ requests _ => simp only [entries, requests]
  | keyUsed _ _ _ requests _ => simp only [entries, requests]
  | submitted hq _ _ _ _ => exact absurd hq (other _ _)
  | approved _ _ _ current _ _ requests =>
    rw [entries, requests]
    exact stays_iff current
  | rejected _ current _ _ requests =>
    rw [entries, requests]
    exact stays_iff current

theorem request_course {q : Request} (course : Course env t submitted c)
    (concerns : Concerns env t c.1 (.request q))
    (other : ∀ tenantId payload, q.endpoint ≠ .submitJoinRequest tenantId payload) :
    ∃ reply c', (serve env q).session (Outside.serve fate) c = some (reply, c') ∧
      Course env t submitted c' := by
  have contract := (serve_serves env fun _ _ => True).handles q c.1 course.free
  have waits : ∀ start s, ¬ owesSusp (Owes env fun _ _ => True) q c.1 start s none := by
    intro start s owes
    obtain ⟨r, hr, -⟩ := owes.asks none rfl
    cases hr
  have kept : ∀ {start s : World} {o : Outside} {stop : Proc.Stop HttpRequest Reply},
      Course env t submitted (start, o) → Owes env (fun _ _ => True) q c.1 start s stop →
      Course env t submitted (s, o) := fun held owes =>
    ⟨owes.free, held.traced, (writes_entry owes.writes other).trans held.entry⟩
  obtain ⟨reply, start', s', o', hsession, held, owes⟩ :=
    Proc.wp_session (Outside.serve fate) (Course env t submitted) waits
      (fun start s o request held owes => by
        obtain ⟨r, hr, asks⟩ := owes.asks (some request) rfl
        cases hr
        have now := kept held owes
        exact ⟨owes.free, trivial, now.free,
          traced_serve fate now.traced (asks_tenantCall concerns asks), now.entry⟩)
      contract course
  exact ⟨reply, (s', o'), hsession, kept held owes⟩

/-- After a submission the request is there, unless the tenant's name is refused. -/
theorem submission_stores {w : World} (free : Free w) (caller : Caller)
    (payload : JoinRequestPayload) :
    Proc.wp Free (fun _ _ => True) (fun _ _ _ => False)
      (fun _ _ w' => Free w' ∧ ((entries w').get? t ≠ none ↔
        (entries w).get? t ≠ none ∨ tenantIdOk env.py t = true))
      (serve env ⟨caller, .submitJoinRequest t payload⟩) w w := by
  refine serve_wp rfl ?_
  unfold submitJoinRequest
  split
  next accepted =>
    refine wp_of_runs (loadStore_runs free.store) ?_
    rw [onward_ok]
    split
    next approved =>
      have there : (entries w).get? t ≠ none := by
        intro absent
        rw [absent] at approved
        cases approved
      exact wp_fail ⟨free, by simp [accepted, there]⟩
    next unapproved =>
      refine wp_of_runs (now_runs env w) ?_
      refine wp_of_runs (saveStore_runs _ free.store) ?_
      exact wp_pure ⟨⟨free.store, free.key⟩, by simp [entries, accepted]⟩
  next refused => exact wp_fail ⟨free, by simp [refused]⟩

theorem submission_course (course : Course env t submitted c) (caller : Caller)
    (payload : JoinRequestPayload) :
    ∃ reply c', (serve env ⟨caller, .submitJoinRequest t payload⟩).session (Outside.serve fate) c =
        some (reply, c') ∧
      Course env t (submitted ∨ tenantIdOk env.py t = true) c' := by
  obtain ⟨reply, _, w', o', hsession, traced, free, entry⟩ :=
    Proc.wp_session (Outside.serve fate) (fun d => Traced env t d.2) (fun _ _ h => h)
      (fun _ _ _ _ _ h => h.elim) (submission_stores course.free caller payload) course.traced
  exact ⟨reply, (w', o'), hsession, free, traced, entry.trans (or_congr_left course.entry)⟩

theorem oidcPayload_name (name clientId clientSecret configurationEndpoint : String)
    (adminEmails : Json) :
    (StepCAAdminClient.oidcPayload name clientId clientSecret configurationEndpoint
      adminEmails).item "name" = .ok (.str name) := rfl

theorem addOidcProvisioner_calm (caller : Caller) (body : Except String Json) :
    Calm (ProvisionerCall t) (fun _ _ => True) anyResult
      (addOidcProvisioner env caller t body) := by
  have added : ∀ clientId clientSecret endpoint adminEmails,
      Calm (ProvisionerCall t) (fun _ _ => True) anyResult
        ((stepCaAdmin env.settings).addOidcProvisioner env (t ++ "-keycloak") clientId
          clientSecret endpoint adminEmails) := by
    intro clientId clientSecret endpoint adminEmails
    have token : Calm (ProvisionerCall t) (fun _ _ => True) anyResult
        ((stepCaAdmin env.settings).makeAdminToken env) := by
      apply (loadKey_calm trivial).andThen
      intro key
      apply (calm_now env).andThen
      intro now
      apply (calm_package _).andThen
      intro _
      exact calm_pure trivial
    apply token.andThen
    intro adminToken
    refine Calm.ask (oidcPayload_name _ _ _ _ _) ?_
    intro resp
    split
    · exact calm_decoded_any resp
    · exact calm_fail trivial
  apply (calm_language_any _).andThen
  intro user
  cases user with
  | none => exact calm_pure trivial
  | some user =>
    cases body with
    | error text => exact calm_pure trivial
    | ok value =>
      apply (calm_language_any _).andThen
      intro clientId
      apply (calm_language_any _).andThen
      intro clientSecret
      apply (calm_language_any _).andThen
      intro adminEmails
      apply (calm_attempt_any _ (added _ _ _ _)).andThen
      intro outcome
      cases outcome with
      | ok result => exact calm_pure trivial
      | error exc => exact calm_pure trivial

theorem provisioner_course (course : Course env t submitted c) (caller : Caller)
    (body : Except String Json) :
    ∃ result c', (addOidcProvisioner env caller t body).run.session (Outside.serve fate) c =
        some (result, c') ∧ Course env t submitted c' := by
  have steps : ∀ (w w' : World) (o : Outside), Course env t submitted (w, o) →
      Undisturbed w w' → Course env t submitted (w', o) := by
    intro w w' o held quiet
    refine ⟨held.free.undisturbed quiet, held.traced, ?_⟩
    rw [quiet.files.entries]
    exact held.entry
  have served : ∀ (request : HttpRequest) (w : World) (o : Outside), ProvisionerCall t request →
      Course env t submitted (w, o) →
      Course env t submitted (w, (Outside.serve fate request o).2) :=
    fun request w o call held =>
      ⟨held.free, traced_serve fate held.traced (.provisioner call), held.entry⟩
  obtain ⟨result, c', hsession, -, kept⟩ :=
    (addOidcProvisioner_calm caller body).session steps served course
  exact ⟨result, c', hsession, kept⟩

theorem perform_eq {operation : Operation} {c' : World × Outside}
    (h : (operate env operation).session (Outside.serve fate) c = some ((), c')) :
    perform env fate c operation = c' := by
  rw [perform, h]
  rfl

theorem Course.same {submitted' : Prop} (course : Course env t submitted c)
    (same : submitted ↔ submitted') : Course env t submitted' c :=
  ⟨course.free, course.traced, course.entry.trans same⟩

/-- Every operation on the tenant comes to its end. -/
theorem perform_course {operation : Operation} (course : Course env t submitted c)
    (concerns : Concerns env t c.1 operation) :
    ∃ c', (operate env operation).session (Outside.serve fate) c = some ((), c') ∧
      Course env t (submitted ∨ Submits t env operation) c' := by
  cases operation with
  | addOidcProvisioner caller realmId body =>
    have same : realmId = t := concerns
    subst same
    obtain ⟨result, c', hsession, kept⟩ := provisioner_course course caller body
    refine ⟨c', ?_, kept.same ?_⟩
    · rw [operate, Proc.session_bind, hsession]
      rfl
    · simp [Submits]
  | request q =>
    obtain ⟨caller, endpoint⟩ := q
    by_cases submits : ∃ tenantId payload, endpoint = .submitJoinRequest tenantId payload
    · obtain ⟨tenantId, payload, rfl⟩ := submits
      have same : tenantId = t := concerns
      subst same
      obtain ⟨reply, c', hsession, kept⟩ := submission_course course caller payload
      refine ⟨c', ?_, kept.same ?_⟩
      · rw [operate, Proc.session_bind, hsession]
        rfl
      · simp [Submits]
    · have other : ∀ tenantId payload, endpoint ≠ .submitJoinRequest tenantId payload :=
        fun tenantId payload same => submits ⟨tenantId, payload, same⟩
      obtain ⟨reply, c', hsession, kept⟩ := request_course course concerns other
      refine ⟨c', ?_, kept.same ?_⟩
      · rw [operate, Proc.session_bind, hsession]
        rfl
      · simp [Submits, other]

theorem history_course (operations : List Operation) (course : Course env t submitted c)
    (concerned : Concerned env fate t operations c) :
    Course env t (submitted ∨ ∃ operation ∈ operations, Submits t env operation)
      (history env fate operations c) := by
  induction operations generalizing submitted c with
  | nil => exact course.same (by simp)
  | cons operation rest ih =>
    obtain ⟨concerns, later⟩ := concerned
    obtain ⟨c', hsession, next⟩ := perform_course course concerns
    rw [perform_eq hsession] at later
    have ended := ih next later
    rw [← perform_eq hsession] at ended
    exact ended.same (by simp [or_assoc])

theorem course_begin {w : World} {s : Services} (free : Free w) (fresh : Fresh t w s) :
    Course env t False (w, .begin s) :=
  ⟨free, traced_begin fresh, by simp [fresh.request]⟩

end Operations

/-! ## The removal -/

section Removal

variable {env : Env} {t : String}

/-- The services after a removal. -/
def withoutTenant (t : String) (s : Services) : Services :=
  { s with
    keycloak := (s.keycloak.serve (.keycloakDeleteRealm "" "" t)).2
    broker := (s.broker.apply (.deleteVhost t)).apply (.deleteUser t) }

theorem deleteRealm_status (s : Services) (base token : String) :
    (s.serve (.keycloakDeleteRealm base token t)).1.status ∈ [204, 404] := by
  simp only [Services.serve, Keycloak.serve]
  split <;> simp [bare]

theorem deletion_status (s : Services) (name : String) :
    status s.broker (.deleteVhost name) ∈ [204, 404] ∧
      status s.broker (.deleteUser name) ∈ [204, 404] := by
  simp only [status]
  constructor <;> split <;> simp

theorem ends_attempt {α : Type} {o : TenantCreation.Outcomes} {x : App α} {s s' : Services}
    {result : Except Raised α} (catches : Raised → Bool) (hx : Ends o x s result s') :
    Ends o (attempt catches x) s (caught catches result) s' :=
  fun w => session_attempt catches (hx w)

variable (env t) in
theorem offboard_ends (s : Services) :
    ∃ deleted, Ends undisturbed (offboardTenant env t) s (.ok deleted) (withoutTenant t s) := by
  have realm : Ends undisturbed (deleteKeycloakRealm env t) s (.ok ())
      { s with keycloak := (s.keycloak.serve (.keycloakDeleteRealm "" "" t)).2 } := by
    refine (token_served s rfl).then ?_
    have sent := ends_served (o := undisturbed) (s := s)
      (.keycloakDeleteRealm env.settings.keycloakUrl "admin-token" t) rfl
    refine sent.then ?_
    rw [if_pos (deleteRealm_status s _ _)]
    exact ends_pure () _
  have broker : ∀ s' : Services, Ends undisturbed ((rabbitmq env.settings).deprovisionTenant t) s'
      (.ok ()) { s' with broker := (s'.broker.apply (.deleteVhost t)).apply (.deleteUser t) } := by
    intro s'
    exact (rabbit_served rfl (deletion_status s' t).1).then
      (rabbit_served rfl (deletion_status _ t).2)
  have caught_realm := ends_attempt (fun _ => true) realm
  have caught_broker := ends_attempt Raised.isRabbitMqError (broker
    { s with keycloak := (s.keycloak.serve (.keycloakDeleteRealm "" "" t)).2 })
  exact ⟨_, caught_realm.then (caught_broker.then (ends_pure _ _))⟩

/-- A removal that goes through was not refused, and leaves the files alone. -/
theorem removal_effect {caller : Caller} {w w' : World} {s s' : Services} {deleted : TenantDeleted}
    (removed : (deleteTenant env caller t).run.session undisturbed.server (w, s) =
      some (.ok (.ok deleted), (w', s'))) :
    w' = w ∧ s' = withoutTenant t s := by
  unfold deleteTenant at removed
  have guard := ends_language (o := undisturbed) (getCdmAdmin caller) s
  cases admin : getCdmAdmin caller with
  | error error =>
    rw [admin] at guard removed
    rw [session_raised (guard w)] at removed
    cases removed
  | ok user =>
    rw [admin] at guard removed
    rw [session_then (guard w)] at removed
    cases user with
    | none => cases removed
    | some user =>
      dsimp only at removed
      split at removed
      · cases removed
      · obtain ⟨deleted', offboarded⟩ := offboard_ends env t s
        rw [session_then (offboarded w)] at removed
        cases removed
        exact ⟨rfl, rfl⟩

/-- An admin's removal of a tenant that is not protected goes through. -/
theorem removal_runs {caller : Caller} {user : Json} (admin : getCdmAdmin caller = .ok (some user))
    (unprotected : t ∉ protectedRealms) (w : World) (s : Services) :
    ∃ deleted, (deleteTenant env caller t).run.session undisturbed.server (w, s) =
      some (.ok (.ok deleted), (w, withoutTenant t s)) := by
  obtain ⟨deleted, offboarded⟩ := offboard_ends env t s
  have guard := ends_language (o := undisturbed) (getCdmAdmin caller) s
  rw [admin] at guard
  refine ⟨deleted, ?_⟩
  unfold deleteTenant
  rw [admin, session_then (guard w)]
  dsimp only
  rw [if_neg unprotected, session_then (offboarded w)]
  rfl

theorem mqttUser_ne (t : String) : mqttUser t ≠ t := by
  intro same
  have length := congrArg (fun s => s.toList.length) same
  simp [mqttUser] at length

section Without

variable (t) (s : Services)

theorem without_realm : (withoutTenant t s).keycloak.realms.get? t = none := by
  simp only [withoutTenant, Keycloak.serve]
  split
  next absent => exact absent
  next => rw [Dict.get?_erase, if_pos rfl]

theorem without_vhost : (withoutTenant t s).broker.vhosts.get? t = none := by
  simp only [withoutTenant, Broker.apply, Dict.get?_erase, if_true]

theorem without_user : (withoutTenant t s).broker.users.get? t = none := by
  simp only [withoutTenant, Broker.apply, Dict.get?_erase, if_true]

theorem without_bridge : (withoutTenant t s).broker.users.get? (mqttUser t) =
    s.broker.users.get? (mqttUser t) := by
  simp only [withoutTenant, Broker.apply, Dict.get?_erase, if_neg (mqttUser_ne t)]

theorem without_permissions (user : String) :
    (withoutTenant t s).broker.permissions.get? (user, t) = none := by
  simp [withoutTenant, Broker.apply, Dict.get?_filterKeys]

theorem without_clients : (withoutTenant t s).keycloak.clients = s.keycloak.clients := by
  simp only [withoutTenant, Keycloak.serve]
  split <;> rfl

end Without

theorem forgetFiles_fresh {w : World} {s : Services} (fresh : Fresh t w s) :
    forgetFiles t w = w := by
  have requests : w.requests.map (fun d => d.erase t) = w.requests := by
    cases hrequests : w.requests with
    | none => rfl
    | some d =>
      have absent := fresh.request
      rw [entries, hrequests] at absent
      rw [Option.map_some, Dict.erase_of_absent d absent]
  have keys : w.keys.map (fun d => d.filterKeys fun key =>
      !(d.get? key).any fun entry => entry.tenantId = t && entry.status = .open) = w.keys := by
    cases hkeys : w.keys with
    | none => rfl
    | some d =>
      rw [Option.map_some, Dict.filterKeys_of_all d]
      intro key entry stored
      have closed := fresh.keys key entry
      rw [table, hkeys] at closed
      have notOpen := closed stored
      rw [stored]
      simpa [← imp_iff_not_or] using notOpen
  unfold forgetFiles
  rw [requests, keys]

theorem forgetServices_fresh {w : World} {s : Services} (fresh : Fresh t w s) :
    forgetServices t s = s := by
  have users : (s.broker.users.erase t).erase (mqttUser t) = s.broker.users := by
    rw [Dict.erase_of_absent _ fresh.user, Dict.erase_of_absent _ fresh.bridge]
  have permissions : s.broker.permissions.filterKeys (·.2 ≠ t) = s.broker.permissions := by
    apply Dict.filterKeys_of_all
    intro pair permission stored
    have other : pair.2 ≠ t := by
      intro same
      have absent := fresh.permissions pair.1
      rw [← same] at absent
      exact absurd (stored.symm.trans absent) (by simp)
    simpa using other
  have clients : s.keycloak.clients.filter (· ≠ federationClient t) = s.keycloak.clients := by
    apply List.filter_eq_self.mpr
    intro client hclient
    have other : client ≠ federationClient t := fun same => fresh.client (same ▸ hclient)
    simpa using other
  have provisioners : s.provisioners.filter (· ≠ oidcProvisioner t) = s.provisioners := by
    apply List.filter_eq_self.mpr
    intro name hname
    have other : name ≠ oidcProvisioner t := fun same => fresh.provisioner (same ▸ hname)
    simpa using other
  unfold forgetServices
  rw [Dict.erase_of_absent _ fresh.realm, users, Dict.erase_of_absent _ fresh.vhost, permissions,
    clients, provisioners]

end Removal

/-- After any history on a tenant that was not there, a removal whose calls all
succeed undoes it exactly if the history has made nothing that the removal does
not know. -/
theorem removal_undoes_iff (env : Env) (t : String) (fate : Nat → Fate)
    (operations : List Operation) (caller : Caller) {w w' : World} {s s' : Services}
    {ended : World × Outside} {deleted : TenantDeleted} (free : Free w) (fresh : Fresh t w s)
    (concerned : Concerned env fate t operations (w, .begin s))
    (run : history env fate operations (w, .begin s) = ended)
    (removed : (deleteTenant env caller t).run.session undisturbed.server
      (ended.1, ended.2.services) = some (.ok (.ok deleted), (w', s'))) :
    Undone t env ended.2.arrived w' s' ↔ Removable t env operations ended := by
  have course := history_course operations (course_begin free fresh) concerned
  rw [run] at course
  obtain ⟨rfl, rfl⟩ := removal_effect removed
  have bridge := without_bridge t ended.2.services
  have clients := without_clients t ended.2.services
  constructor
  · intro undone
    have fresh' := undone.fresh
    have noBridge := fresh'.bridge
    have noClient := fresh'.client
    rw [bridge] at noBridge
    rw [clients] at noClient
    constructor
    · rw [← Bool.not_eq_true, ← course.traced.bridge, noBridge]
      simp
    · rw [← Bool.not_eq_true, ← course.traced.client]
      exact noClient
    · rw [← Bool.not_eq_true, ← course.traced.provisioner]
      exact fresh'.provisioner
    · intro operation member submits
      exact course.entry.mpr (.inr ⟨operation, member, submits⟩) fresh'.request
    · exact fresh'.keys
  · intro removable
    have noBridge : ended.2.services.broker.users.get? (mqttUser t) = none := by
      rw [← Option.not_isSome_iff_eq_none, course.traced.bridge, removable.bridge]
      simp
    have noRequest : (entries ended.1).get? t = none := by
      by_contra there
      rcases course.entry.mp there with impossible | ⟨operation, member, submits⟩
      · exact impossible
      · exact removable.submissions operation member submits
    have fresh' : Fresh t ended.1 (withoutTenant t ended.2.services) := by
      constructor
      · exact without_realm t _
      · exact without_vhost t _
      · exact without_user t _
      · rw [bridge]
        exact noBridge
      · exact without_permissions t _
      · rw [clients, course.traced.client, removable.client]
        simp
      · rw [show (withoutTenant t ended.2.services).provisioners = ended.2.services.provisioners
          from rfl, course.traced.provisioner, removable.provisioner]
        simp
      · exact removable.keys
      · exact noRequest
    constructor
    · exact fresh'
    · rintro user ⟨request, arrived, grants⟩
      rcases grants_of_tenantCall (course.traced.calls request arrived) grants with rfl | rfl
      · exact fresh'.user
      · exact fresh'.bridge
    · intro fate' operations'
      rw [forgetFiles_fresh fresh', forgetServices_fresh fresh']

/-! ## Two histories -/

open CompleteDeviceManagement.Guarantees.TenantCreation (acmeBody bareServices)

theorem bare_fresh : Fresh "acme" World.empty bareServices where
  realm := rfl
  vhost := by decide +kernel
  user := by decide +kernel
  bridge := by decide +kernel
  permissions := by simp [bareServices, Broker.platform, Dict.get?_set]
  client := by simp [bareServices]
  provisioner := by simp [bareServices]
  keys := by simp [table, World.empty]
  request := rfl

theorem empty_free : Free World.empty := ⟨rfl, rfl⟩

def creation : List Operation := [.request ⟨cdmAdmin, .createTenant (.ok acmeBody)⟩]

def created : World × Outside :=
  history Env.counting (fun _ => .served) creation (World.empty, .begin bareServices)

theorem creation_concerned : Concerned Env.counting (fun _ => .served) "acme" creation
    (World.empty, .begin bareServices) := by
  refine ⟨?_, trivial⟩
  rintro realmId ⟨value, text, hvalue, htext, rfl⟩
  cases hvalue
  have read : textMember Env.counting acmeBody "realm_id" "" = .ok "acme" := by decide +kernel
  rw [read] at htext
  cases htext
  decide +kernel

theorem created_removable : Removable "acme" Env.counting creation created where
  bridge := by decide +kernel
  client := by decide +kernel
  provisioner := by decide +kernel
  submissions := by simp [creation, Submits]
  keys := by
    have unused : created.1.keys.isNone = true := by decide +kernel
    simp [table, Option.isNone_iff_eq_none.mp unused]

/-- A tenant that was only created is undone. -/
theorem created_tenant_undone : ∃ deleted w' s',
    (deleteTenant Env.counting cdmAdmin "acme").run.session undisturbed.server
      (created.1, created.2.services) = some (.ok (.ok deleted), (w', s')) ∧
    Undone "acme" Env.counting created.2.arrived w' s' := by
  obtain ⟨deleted, removed⟩ := removal_runs (rfl : getCdmAdmin cdmAdmin = .ok (some cdmAdmin.user))
    (by decide : "acme" ∉ protectedRealms) created.1 created.2.services
  exact ⟨deleted, _, _, removed, (removal_undoes_iff Env.counting "acme" (fun _ => .served) creation
    cdmAdmin empty_free bare_fresh creation_concerned rfl removed).mpr created_removable⟩

def approval : List Operation :=
  [.request (submission "csr"), .request ⟨cdmAdmin, .approveJoinRequest "acme"⟩]

/-- step-ca lists no provisioner; everything else is served. -/
def withoutSigner (n : Nat) : Fate := if n = 0 then .instead true noProvisioners else .served

def approved : World × Outside :=
  history Env.counting withoutSigner approval (World.empty, .begin bareServices)

/-- The user of the bridge of an approved tenant outlives the tenant. -/
theorem approved_tenant_remains : Fresh "acme" World.empty bareServices ∧
    Concerned Env.counting withoutSigner "acme" approval (World.empty, .begin bareServices) ∧
    ∃ deleted w' s',
      (deleteTenant Env.counting cdmAdmin "acme").run.session undisturbed.server
        (approved.1, approved.2.services) = some (.ok (.ok deleted), (w', s')) ∧
      ¬ Undone "acme" Env.counting approved.2.arrived w' s' := by
  refine ⟨bare_fresh, ⟨rfl, rfl, trivial⟩, ?_⟩
  obtain ⟨deleted, removed⟩ := removal_runs (rfl : getCdmAdmin cdmAdmin = .ok (some cdmAdmin.user))
    (by decide : "acme" ∉ protectedRealms) approved.1 approved.2.services
  refine ⟨deleted, _, _, removed, ?_⟩
  intro undone
  have absent := undone.fresh.bridge
  rw [without_bridge] at absent
  have present : (approved.2.services.broker.users.get? "acme-mqtt-bridge").isSome = true := by
    decide +kernel
  have named : mqttUser "acme" = "acme-mqtt-bridge" := by decide +kernel
  rw [named] at absent
  rw [absent] at present
  cases present

end CompleteDeviceManagement.Guarantees.TenantRemoval
