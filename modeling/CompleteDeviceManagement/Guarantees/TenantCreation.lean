import CompleteDeviceManagement.Guarantees.JoinContract
import CompleteDeviceManagement.Guarantees.PlatformServices

/-!
# When `create_tenant` reports the truth

`create_tenant` takes a 409 from Keycloak for success, does not look at the
answers to the role lookup and the role assignment, and catches no transport
error of RabbitMQ. What it reports about Keycloak is true unless one of these
shows, and it answers with its JSON unless RabbitMQ cannot be reached.
-/

set_option autoImplicit false

namespace CompleteDeviceManagement.Guarantees.TenantCreation
open CompleteDeviceManagement.Library CompleteDeviceManagement.Source.Runtime
  CompleteDeviceManagement.Source.RabbitMq CompleteDeviceManagement.Source.AdminPortal
  CompleteDeviceManagement.Guarantees.JoinContract
  CompleteDeviceManagement.Guarantees.PlatformServices
open CompleteDeviceManagement.Guarantees.DeviceCalls (Fate Failed)
open CompleteDeviceManagement.Library.Fallible

/-! ## The outcomes of the calls -/

/-- The calls of `create_tenant`, each of which it makes at most once. -/
inductive Step where
  | token
  | realm
  | clients
  | mappers
  | addMapper
  | user
  | roles
  | assign
  | vhost
  | account
  | permissions
  | other
  deriving DecidableEq

def stepOf : HttpRequest → Step
  | .keycloakAdminToken _ _ _ => .token
  | .keycloakCreateRealm _ _ _ => .realm
  | .keycloakClients _ _ _ _ => .clients
  | .keycloakMappers _ _ _ _ => .mappers
  | .keycloakAddMapper _ _ _ _ _ => .addMapper
  | .keycloakCreateUser _ _ _ _ => .user
  | .keycloakRoles _ _ _ => .roles
  | .keycloakAssignRoles _ _ _ _ _ => .assign
  | .rabbitmq _ _ _ (.putVhost _ _) => .vhost
  | .rabbitmq _ _ _ (.putUser _ _ _) => .account
  | .rabbitmq _ _ _ (.putPermissions _ _ _ _ _) => .permissions
  | _ => .other

/-- What becomes of each call: it is served, or an error status or a connection
error comes instead, whether or not it was carried out. -/
structure Outcomes where
  fate : Step → Fate
  failed : ∀ step reached result, fate step = .instead reached result → Failed result

def Outcomes.server (o : Outcomes) (request : HttpRequest) (s : Services) :
    HttpResult × Services := exchanged request (o.fate (stepOf request)) s

/-- A connection error. -/
def Dropped (fate : Fate) : Prop := ∃ reached text, fate = .instead reached (.failure text)

/-- An error status. -/
def Refused (fate : Fate) : Prop := ∃ reached r, fate = .instead reached (.response r)

def carriedOut : Fate → Bool
  | .served => true
  | .instead reached _ => reached

/-! ## What is promised -/

/-- What an accepted request asks for. -/
structure Tenant where
  realmId : String
  displayName : String
  adminEmail : String
  adminUser : String

structure Accepted (env : Env) (caller : Caller) (body : Except String Json) (t : Tenant) :
    Prop where
  admin : SessionAdmin caller
  read : ∃ value text, body = .ok value ∧ textMember env value "realm_id" "" = .ok text ∧
    t.realmId = env.py.lower text ∧
    textMember env value "display_name" t.realmId = .ok t.displayName ∧
    textMember env value "admin_email" ("admin@" ++ t.realmId ++ ".local") = .ok t.adminEmail ∧
    textMember env value "admin_user" (t.realmId ++ "-admin") = .ok t.adminUser
  named : t.realmId ≠ ""
  identifier : env.py.isidentifier t.realmId = true
  unprotected : t.realmId ∉ protectedRealms

/-- The first password that the call draws. -/
def freshPassword (env : Env) (w : World) : String :=
  .ofList (chosen env passwordAlphabet w.choices 24)

/-- The realm has the user, with this password and the role `cdm-admin`. -/
def Administers (kc : Keycloak) (realmId username password : String) : Prop :=
  ∃ realm user, kc.realms.get? realmId = some realm ∧ realm.users.get? username = some user ∧
    user.password = some password ∧ "cdm-admin" ∈ user.roles

/-- The vhost and its user are there, with this password and full permissions. -/
def Hosts (broker : Broker) (realmId password : String) : Prop :=
  (broker.vhosts.get? realmId).isSome = true ∧
    (∃ tags, broker.users.get? realmId = some ⟨some password, tags⟩) ∧
    broker.permissions.get? (realmId, realmId) = some everything

/-- `create_tenant` answers with its JSON, which has the password that was drawn,
and both results are there if and only if what they say is so. -/
def Truthful (env : Env) (t : Tenant) (w : World)
    (answer : Except Raised (Except Refusal TenantCreated)) (after : Services) : Prop :=
  ∃ created, answer = .ok (.ok created) ∧ created.adminPassword = freshPassword env w ∧
    (created.results.get? "keycloak" = some "created" ↔
      Administers after.keycloak t.realmId t.adminUser created.adminPassword) ∧
    (created.results.get? "rabbitmq" = some "created" ↔
      ∃ password, created.results.get? "rabbitmq_password" = some password ∧
        Hosts after.broker t.realmId password)

/-! ## The condition -/

section Condition

variable (env : Env) (t : Tenant) (o : Outcomes) (s : Services)

/-- The realm once its POST has been made: the one there was, or a new one. -/
def realmThen : Option Realm :=
  match s.keycloak.realms.get? t.realmId with
  | some found => some found
  | none =>
      if carriedOut (o.fate .realm) then
        some (newRealm (realmPayload env t.realmId t.displayName) (toString s.keycloak.issued))
      else none

/-- The POST of the realm is served, or answered 409 for some other reason. -/
def RealmPasses : Prop :=
  o.fate .realm = .served ∨
    ∃ reached r, o.fate .realm = .instead reached (.response r) ∧ r.status = 409

/-- No connection error while the account console of this realm is looked after. -/
def ConsolePasses (found : Option Realm) : Prop :=
  ¬ Dropped (o.fate .clients) ∧
    ∀ realm id, o.fate .clients = .served → found = some realm →
      realm.accountConsole = some id → ¬ Dropped (o.fate .mappers) ∧
        ((o.fate .mappers = .served → ∀ m ∈ realm.mappers, m.audience ≠ some "account") →
          ¬ Dropped (o.fate .addMapper))

/-- The run gets to the POST of the user. -/
def Arrives : Prop :=
  o.fate .token = .served ∧ RealmPasses o ∧ ConsolePasses o (realmThen env t o s)

/-- The POST of the user is answered 409. -/
def FindsConflict : Prop :=
  (o.fate .user = .served ∧ ∃ realm, realmThen env t o s = some realm ∧
      realm.conflicts t.adminUser t.adminEmail = true) ∨
    ∃ reached r, o.fate .user = .instead reached (.response r) ∧ r.status = 409

/-- The POST of the user is answered 201, in this realm. -/
def Creates (realm : Realm) : Prop :=
  o.fate .user = .served ∧ realmThen env t o s = some realm ∧
    realm.conflicts t.adminUser t.adminEmail = false

/-- The ways in which the report about Keycloak is wrong, for a password. -/
inductive Misreported (password : String) : Prop where
  /-- "exists" is taken for success, and it is not this administrator -/
  | conflict (arrives : Arrives env t o s) (found : FindsConflict env t o s)
      (without : ¬ Administers s.keycloak t.realmId t.adminUser password)
  /-- the role is not among what the lookup is answered -/
  | roleless {realm : Realm} (arrives : Arrives env t o s) (creates : Creates env t o s realm)
      (unknown : Refused (o.fate .roles) ∨
        o.fate .roles = .served ∧ "cdm-admin" ∉ realm.roles)
  /-- the assignment is refused, or made and then not known to be made -/
  | assignment {realm : Realm} (arrives : Arrives env t o s) (creates : Creates env t o s realm)
      (known : o.fate .roles = .served ∧ "cdm-admin" ∈ realm.roles)
      (wrong : (∃ r, o.fate .assign = .instead false (.response r)) ∨
        ∃ text, o.fate .assign = .instead true (.failure text))
  /-- the administrator was there before with just this password -/
  | unreported (holds : Administers s.keycloak t.realmId t.adminUser password)
      (silent : ¬ (Arrives env t o s ∧ FindsConflict env t o s))

/-- A call to RabbitMQ that is made ends in a connection error. -/
def BrokerDropped : Prop :=
  Dropped (o.fate .vhost) ∨ (o.fate .vhost = .served ∧ Dropped (o.fate .account)) ∨
    (o.fate .vhost = .served ∧ o.fate .account = .served ∧ Dropped (o.fate .permissions))

end Condition

/-! ## Parts of a run -/

section Ends

variable {α β : Type} {o : Outcomes}

/-- In front of the services the part ends so, wherever the process is. -/
def Ends (o : Outcomes) (x : App α) (s : Services) (result : Except Raised α) (s' : Services) :
    Prop :=
  ∀ w, x.run.session o.server (w, s) = some (result, (w, s'))

theorem Ends.then {x : App α} {f : α → App β} {s s' s'' : Services} {value : α}
    {result : Except Raised β} (hx : Ends o x s (.ok value) s')
    (hf : Ends o (f value) s' result s'') : Ends o (x >>= f) s result s'' := by
  intro w
  rw [session_then (hx w)]
  exact hf w

theorem Ends.raised {x : App α} (f : α → App β) {s s' : Services} {error : Raised}
    (hx : Ends o x s (.error error) s') : Ends o (x >>= f) s (.error error) s' :=
  fun w => session_raised (hx w)

/-- The part raises something. -/
def Fails (o : Outcomes) (x : App α) (s s' : Services) : Prop :=
  ∃ error, Ends o x s (.error error) s'

theorem Fails.bind {x : App α} {s s' : Services} (hx : Fails o x s s') (f : α → App β) :
    Fails o (x >>= f) s s' := by
  obtain ⟨error, hx⟩ := hx
  exact ⟨error, hx.raised f⟩

theorem Ends.fails {x : App α} {f : α → App β} {s s' s'' : Services} {value : α}
    (hx : Ends o x s (.ok value) s') (hf : Fails o (f value) s' s'') :
    Fails o (x >>= f) s s'' := by
  obtain ⟨error, hf⟩ := hf
  exact ⟨error, hx.then hf⟩

theorem ends_pure (value : α) (s : Services) : Ends o (pure value) s (.ok value) s :=
  fun _ => rfl

theorem fails_fail (error : Raised) (s : Services) : Fails o (fail error : App α) s s :=
  ⟨error, fun _ => rfl⟩

theorem ends_language (result : Except PyError α) (s : Services) :
    Ends o (language result) s (result.mapError .language) s :=
  fun _ => rfl

theorem ends_decoded (r : Response) (s : Services) :
    Ends o r.decoded s (r.json.mapError .jsonDecodeError) s :=
  fun _ => rfl

/-- What an exchange gives the code after it. -/
def received : HttpResult → Except Raised Response
  | .response r => .ok r
  | .failure text => .error (.requestError text)

theorem ends_exchange (request : HttpRequest) (s : Services) :
    Ends o (exchange request) s (received (o.server request s).1) (o.server request s).2 := by
  intro w
  have hrun : (exchange request).run = .await request fun answer => .ret (received answer) := by
    unfold exchange
    rw [run_bind]
    simp only [perform, Proc.call, ExceptT.run_mk, Proc.await_bind, Proc.ret_bind]
    congr 1
    funext answer
    cases answer <;> rfl
  rw [hrun]
  rfl

end Ends

/-! ## The services -/

section Stages

variable {env : Env} {t : Tenant} {o : Outcomes}

theorem server_served (request : HttpRequest) {s : Services}
    (served : o.fate (stepOf request) = .served) :
    o.server request s = (.response (s.serve request).1, (s.serve request).2) := by
  unfold Outcomes.server exchanged
  rw [served]

theorem server_instead (request : HttpRequest) {s : Services} {reached : Bool}
    {result : HttpResult} (instead : o.fate (stepOf request) = .instead reached result) :
    o.server request s = (result, if reached then (s.serve request).2 else s) := by
  unfold Outcomes.server exchanged
  rw [instead]

theorem ends_served (request : HttpRequest) {s : Services}
    (served : o.fate (stepOf request) = .served) :
    Ends o (exchange request) s (.ok (s.serve request).1) (s.serve request).2 := by
  have h := ends_exchange (o := o) request s
  rw [server_served request served] at h
  exact h

theorem ends_instead (request : HttpRequest) {s : Services} {reached : Bool}
    {result : HttpResult} (instead : o.fate (stepOf request) = .instead reached result) :
    Ends o (exchange request) s (received result)
      (if reached then (s.serve request).2 else s) := by
  have h := ends_exchange (o := o) request s
  rw [server_instead request instead] at h
  exact h

/-- An error status is none of those that mean success. -/
theorem refused_status {step : Step} {reached : Bool} {r : Response}
    (instead : o.fate step = .instead reached (.response r)) : r.isSuccess = false :=
  o.failed step reached (.response r) instead

/-! ### The token -/

theorem token_served (s : Services) (served : o.fate .token = .served) :
    Ends o (kcAdminToken env) s (.ok "admin-token") s :=
  (ends_served (.keycloakAdminToken _ _ _) served).then
    ((ends_decoded _ s).then ((ends_language _ s).then (ends_pure _ s)))

theorem token_fails (s : Services) (other : o.fate .token ≠ .served) :
    Fails o (kcAdminToken env) s s := by
  cases hfate : o.fate .token with
  | served => exact absurd hfate other
  | instead reached result =>
    have hexchange := ends_instead (s := s) (.keycloakAdminToken env.settings.keycloakUrl
      env.settings.keycloakAdminUser env.settings.keycloakAdminPassword) hfate
    have same : (if reached then (s.serve (.keycloakAdminToken env.settings.keycloakUrl
        env.settings.keycloakAdminUser env.settings.keycloakAdminPassword)).2 else s) = s := by
      cases reached <;> rfl
    rw [same] at hexchange
    cases result with
    | failure text => exact Fails.bind ⟨_, hexchange⟩ _
    | response r =>
      apply Ends.fails hexchange
      rw [if_neg (by simp [refused_status hfate])]
      exact fails_fail _ s

/-! ### What the calls leave alone -/

/-- The users and the roles of a realm. -/
def accounts (kc : Keycloak) (name : String) : Option (Dict String KeycloakUser × List String) :=
  (kc.realms.get? name).map fun realm => (realm.users, realm.roles)

/-- RabbitMQ and all users and roles are as they were. -/
structure Alike (s s' : Services) : Prop where
  broker : s'.broker = s.broker
  accounts : ∀ name, accounts s'.keycloak name = accounts s.keycloak name

theorem Alike.refl (s : Services) : Alike s s := ⟨rfl, fun _ => rfl⟩

theorem Alike.trans {s s' s'' : Services} (h : Alike s s') (h' : Alike s' s'') : Alike s s'' :=
  ⟨h'.broker.trans h.broker, fun name => (h'.accounts name).trans (h.accounts name)⟩

theorem administers_iff (kc : Keycloak) (realmId username password : String) :
    Administers kc realmId username password ↔
      ∃ users roles user, accounts kc realmId = some (users, roles) ∧
        users.get? username = some user ∧ user.password = some password ∧
        "cdm-admin" ∈ user.roles := by
  constructor
  · rintro ⟨realm, user, hrealm, huser, hpassword, hrole⟩
    refine ⟨realm.users, realm.roles, user, ?_, huser, hpassword, hrole⟩
    rw [accounts, hrealm]
    rfl
  · rintro ⟨users, roles, user, haccounts, huser, hpassword, hrole⟩
    obtain ⟨realm, hrealm, heq⟩ := Option.map_eq_some_iff.mp haccounts
    cases heq
    exact ⟨realm, user, hrealm, huser, hpassword, hrole⟩

theorem Alike.administers {s s' : Services} (h : Alike s s') (realmId username password : String) :
    Administers s'.keycloak realmId username password ↔
      Administers s.keycloak realmId username password := by
  rw [administers_iff, administers_iff, h.accounts]

theorem accounts_inRealm (kc : Keycloak) (realm : String) {act : Realm → Response × Realm}
    (kept : ∀ r, (act r).2.users = r.users ∧ (act r).2.roles = r.roles) (name : String) :
    accounts (kc.inRealm realm act).2 name = accounts kc name := by
  unfold Keycloak.inRealm accounts
  cases hrealm : kc.realms.get? realm with
  | none => rfl
  | some found =>
    obtain ⟨husers, hroles⟩ := kept found
    simp only [Dict.get?_set]
    split
    next hname =>
      subst hname
      simp [hrealm, husers, hroles]
    · rfl

/-- The requests about the account console. -/
def AsksConsole : HttpRequest → Prop
  | .keycloakClients _ _ _ _ => True
  | .keycloakMappers _ _ _ _ => True
  | .keycloakAddMapper _ _ _ _ _ => True
  | .keycloakRoles _ _ _ => True
  | _ => False

theorem alike_serve {request : HttpRequest} (asks : AsksConsole request) (s : Services) :
    Alike s (s.serve request).2 := by
  cases request with
  | keycloakClients base token realm client =>
    exact ⟨rfl, accounts_inRealm _ _ fun _ => ⟨rfl, rfl⟩⟩
  | keycloakMappers base token realm client =>
    refine ⟨rfl, accounts_inRealm _ _ fun r => ?_⟩
    split <;> exact ⟨rfl, rfl⟩
  | keycloakAddMapper base token realm client payload =>
    refine ⟨rfl, accounts_inRealm _ _ fun r => ?_⟩
    split
    · split <;> exact ⟨rfl, rfl⟩
    · exact ⟨rfl, rfl⟩
  | keycloakRoles base token realm => exact ⟨rfl, accounts_inRealm _ _ fun _ => ⟨rfl, rfl⟩⟩
  | keycloakUserinfo => exact asks.elim
  | keycloakAdminToken => exact asks.elim
  | keycloakCreateClient => exact asks.elim
  | keycloakCreateRealm => exact asks.elim
  | keycloakDeleteRealm => exact asks.elim
  | keycloakCreateUser => exact asks.elim
  | keycloakAssignRoles => exact asks.elim
  | stepCaProvisioners => exact asks.elim
  | stepCaSign => exact asks.elim
  | stepCaRoot => exact asks.elim
  | stepCaAddProvisioner => exact asks.elim
  | rabbitmq => exact asks.elim

theorem alike_ite {request : HttpRequest} (asks : AsksConsole request) (s : Services)
    (reached : Bool) : Alike s (if reached then (s.serve request).2 else s) := by
  cases reached with
  | false => exact .refl s
  | true => exact alike_serve asks s

theorem console_served (request : HttpRequest) (asks : AsksConsole request) (s : Services)
    (served : o.fate (stepOf request) = .served) :
    Alike s (s.serve request).2 ∧
      Ends o (exchange request) s (.ok (s.serve request).1) (s.serve request).2 :=
  ⟨alike_serve asks s, ends_served request served⟩

theorem console_refused (request : HttpRequest) (asks : AsksConsole request) (s : Services)
    {reached : Bool} {r : Response}
    (refused : o.fate (stepOf request) = .instead reached (.response r)) :
    ∃ s', Alike s s' ∧ Ends o (exchange request) s (.ok r) s' :=
  ⟨_, alike_ite asks s reached, ends_instead request refused⟩

theorem console_dropped (request : HttpRequest) (asks : AsksConsole request) (s : Services)
    (dropped : Dropped (o.fate (stepOf request))) :
    ∃ s', Alike s s' ∧ Fails o (exchange request) s s' := by
  obtain ⟨reached, text, hfate⟩ := dropped
  exact ⟨_, alike_ite asks s reached, _, ends_instead request hfate⟩

/-! ### The account console -/

theorem any_audience (mappers : List Mapper) :
    anyAudienceMapper (mappers.map Mapper.json) =
      .ok (mappers.any fun m => decide (m.audience = some "account")) := by
  induction mappers with
  | nil => rfl
  | cons m rest ih =>
    obtain ⟨name, audience⟩ := m
    cases audience with
    | none =>
      have hstep : anyAudienceMapper ((Mapper.mk name none :: rest).map Mapper.json) =
          anyAudienceMapper (rest.map Mapper.json) := rfl
      rw [hstep, ih]
      simp
    | some audience =>
      have hstep : anyAudienceMapper ((Mapper.mk name (some audience) :: rest).map Mapper.json) =
          if audience == "account" then .ok true
          else anyAudienceMapper (rest.map Mapper.json) := rfl
      rw [hstep, ih]
      by_cases haudience : audience = "account"
      · simp [haudience]
      · simp [haudience]

/-- The end of `_kc_fix_account_console`, from the lookup of the mappers on. -/
def fixMappers (env : Env) (realmId token acId : String) : App Unit := do
  let base := env.settings.keycloakUrl
  let resp ← exchange (.keycloakMappers base token realmId acId)
  let mappers ← listed resp
  let mappers ← language mappers.iter
  let present ← language (anyAudienceMapper mappers)
  if present then pure ()
  else do
    let _ ← exchange (.keycloakAddMapper base token realmId acId mapperPayload)
    pure ()

theorem listed_refused {r : Response} (refused : r.isSuccess = false) (s : Services) :
    Ends o (listed r) s (.ok (.arr [])) s := by
  unfold listed
  rw [if_neg (by simp [refused])]
  exact ends_pure _ s

/-- The POST of the mapper; its answer is not looked at. -/
def postMapper (env : Env) (realmId token acId : String) : App Unit := do
  let _ ← exchange (.keycloakAddMapper env.settings.keycloakUrl token realmId acId mapperPayload)
  pure ()

theorem postMapper_ends (env : Env) (realmId token acId : String) (s : Services)
    (kept : ¬ Dropped (o.fate .addMapper)) :
    ∃ s', Alike s s' ∧ Ends o (postMapper env realmId token acId) s (.ok ()) s' := by
  cases hfate : o.fate .addMapper with
  | served =>
    obtain ⟨alike, ends⟩ := console_served (o := o) (.keycloakAddMapper
      env.settings.keycloakUrl token realmId acId mapperPayload) trivial s hfate
    exact ⟨_, alike, ends.then (ends_pure _ _)⟩
  | instead reached result =>
    cases result with
    | failure text => exact absurd ⟨reached, text, hfate⟩ kept
    | response r =>
      obtain ⟨s', alike, ends⟩ := console_refused (o := o) (.keycloakAddMapper
        env.settings.keycloakUrl token realmId acId mapperPayload) trivial s hfate
      exact ⟨s', alike, ends.then (ends_pure _ _)⟩

theorem postMapper_fails (env : Env) (realmId token acId : String) (s : Services)
    (dropped : Dropped (o.fate .addMapper)) :
    ∃ s', Alike s s' ∧ Fails o (postMapper env realmId token acId) s s' := by
  obtain ⟨s', alike, fails⟩ := console_dropped (o := o) (.keycloakAddMapper
    env.settings.keycloakUrl token realmId acId mapperPayload) trivial s dropped
  exact ⟨s', alike, fails.bind _⟩

/-- The mappers as far as they are known are looked through. -/
theorem fixMappers_known {realmId token acId : String} {s s₁ : Services} {resp : Response}
    {mappers : List Mapper}
    (asked : Ends o (exchange (.keycloakMappers env.settings.keycloakUrl token realmId acId)) s
      (.ok resp) s₁)
    (known : Ends o (listed resp) s₁ (.ok (.arr (mappers.map Mapper.json))) s₁)
    {result : Except Raised Unit} {s' : Services}
    (rest : Ends o (if mappers.any fun m => decide (m.audience = some "account") then pure ()
      else postMapper env realmId token acId) s₁ result s') :
    Ends o (fixMappers env realmId token acId) s result s' := by
  refine asked.then (known.then ?_)
  have hiter := ends_language (o := o) (Json.arr (mappers.map Mapper.json)).iter s₁
  have hpresent : Ends o (language (anyAudienceMapper (mappers.map Mapper.json))) s₁
      (.ok (mappers.any fun m => decide (m.audience = some "account"))) s₁ := by
    rw [any_audience]
    exact ends_language _ s₁
  exact hiter.then (hpresent.then rest)

theorem serve_mappers {realmId token acId base : String} {s : Services} {realm : Realm}
    (hrealm : s.keycloak.realms.get? realmId = some realm)
    (hid : realm.accountConsole = some acId) :
    (s.serve (.keycloakMappers base token realmId acId)).1 =
      carrying (.arr (realm.mappers.map Mapper.json)) := by
  simp [Services.serve, Keycloak.serve, Keycloak.inRealm, hrealm, hid]

/-- The audience is looked for, and added where it was not found. -/
def Unseen (o : Outcomes) (realm : Realm) : Prop :=
  o.fate .mappers = .served → ∀ m ∈ realm.mappers, m.audience ≠ some "account"

theorem fixMappers_ends (env : Env) (token : String) {realmId acId : String} {s : Services}
    {realm : Realm}
    (hrealm : s.keycloak.realms.get? realmId = some realm)
    (hid : realm.accountConsole = some acId) (kept : ¬ Dropped (o.fate .mappers))
    (added : Unseen o realm → ¬ Dropped (o.fate .addMapper)) :
    ∃ s', Alike s s' ∧ Ends o (fixMappers env realmId token acId) s (.ok ()) s' := by
  cases hfate : o.fate .mappers with
  | served =>
    obtain ⟨alike, asked⟩ := console_served (o := o) (.keycloakMappers
      env.settings.keycloakUrl token realmId acId) trivial s hfate
    rw [serve_mappers hrealm hid] at asked
    have known := ends_decoded (o := o) (carrying (.arr (realm.mappers.map Mapper.json)))
      (s.serve (.keycloakMappers env.settings.keycloakUrl token realmId acId)).2
    cases hpresent : realm.mappers.any fun m => decide (m.audience = some "account") with
    | true =>
      refine ⟨_, alike, fixMappers_known asked known ?_⟩
      rw [hpresent]
      exact ends_pure _ _
    | false =>
      have unseen : Unseen o realm := by
        intro _ m hm
        simpa using List.any_eq_false.mp hpresent m hm
      obtain ⟨s', alike', posted⟩ := postMapper_ends env realmId token acId
        (s.serve (.keycloakMappers env.settings.keycloakUrl token realmId acId)).2 (added unseen)
      refine ⟨s', alike.trans alike', fixMappers_known asked known ?_⟩
      rw [hpresent]
      exact posted
  | instead reached result =>
    cases result with
    | failure text => exact absurd ⟨reached, text, hfate⟩ kept
    | response r =>
      have unseen : Unseen o realm := by
        intro served
        rw [hfate] at served
        cases served
      obtain ⟨s₁, alike, asked⟩ := console_refused (o := o) (.keycloakMappers
        env.settings.keycloakUrl token realmId acId) trivial s hfate
      obtain ⟨s', alike', posted⟩ := postMapper_ends env realmId token acId s₁
        (added unseen)
      have known : Ends o (listed r) s₁ (.ok (.arr (([] : List Mapper).map Mapper.json))) s₁ :=
        listed_refused (refused_status hfate) s₁
      exact ⟨s', alike.trans alike', fixMappers_known asked known posted⟩

theorem fixMappers_fails (env : Env) (token : String) {realmId acId : String} {s : Services}
    {realm : Realm}
    (hrealm : s.keycloak.realms.get? realmId = some realm)
    (hid : realm.accountConsole = some acId)
    (bad : Dropped (o.fate .mappers) ∨ (Unseen o realm ∧ Dropped (o.fate .addMapper))) :
    ∃ s', Alike s s' ∧ Fails o (fixMappers env realmId token acId) s s' := by
  rcases bad with dropped | ⟨unseen, dropped⟩
  · obtain ⟨s', alike, fails⟩ := console_dropped (o := o) (.keycloakMappers
      env.settings.keycloakUrl token realmId acId) trivial s dropped
    exact ⟨s', alike, fails.bind _⟩
  · cases hfate : o.fate .mappers with
    | served =>
      obtain ⟨alike, asked⟩ := console_served (o := o) (.keycloakMappers
        env.settings.keycloakUrl token realmId acId) trivial s hfate
      rw [serve_mappers hrealm hid] at asked
      have known := ends_decoded (o := o) (carrying (.arr (realm.mappers.map Mapper.json)))
        (s.serve (.keycloakMappers env.settings.keycloakUrl token realmId acId)).2
      have hpresent : (realm.mappers.any fun m => decide (m.audience = some "account")) =
          false := by
        simpa using unseen hfate
      obtain ⟨s', alike', error, posted⟩ := postMapper_fails env realmId token acId
        (s.serve (.keycloakMappers env.settings.keycloakUrl token realmId acId)).2 dropped
      refine ⟨s', alike.trans alike', error, fixMappers_known asked known ?_⟩
      rw [hpresent]
      exact posted
    | instead reached result =>
      cases result with
      | failure text =>
        obtain ⟨s', alike, fails⟩ := console_dropped (o := o) (.keycloakMappers
          env.settings.keycloakUrl token realmId acId) trivial s ⟨reached, text, hfate⟩
        exact ⟨s', alike, fails.bind _⟩
      | response r =>
        obtain ⟨s₁, alike, asked⟩ := console_refused (o := o) (.keycloakMappers
          env.settings.keycloakUrl token realmId acId) trivial s hfate
        obtain ⟨s', alike', error, posted⟩ := postMapper_fails env realmId token acId s₁
          dropped
        have known : Ends o (listed r) s₁ (.ok (.arr (([] : List Mapper).map Mapper.json))) s₁ :=
          listed_refused (refused_status hfate) s₁
        exact ⟨s', alike.trans alike', error, fixMappers_known asked known posted⟩

/-- What the lookup of the account console is answered. -/
theorem serve_clients (base token : String) {realmId : String} {s : Services} {realm : Realm}
    (hrealm : s.keycloak.realms.get? realmId = some realm) :
    (s.serve (.keycloakClients base token realmId "account-console")).1 =
        carrying (.arr (match realm.accountConsole with
          | none => []
          | some id => [.obj [("id", .str id), ("clientId", .str "account-console")]])) ∧
      (s.serve (.keycloakClients base token realmId "account-console")).2.keycloak.realms.get?
        realmId = some realm := by
  constructor
  · cases hid : realm.accountConsole <;>
      simp [Services.serve, Keycloak.serve, Keycloak.inRealm, hrealm, hid]
  · simp [Services.serve, Keycloak.serve, Keycloak.inRealm, hrealm]

theorem console_unlisted {realmId token : String} {s s₁ : Services} {resp : Response}
    (asked : Ends o (exchange (.keycloakClients env.settings.keycloakUrl token realmId
      "account-console")) s (.ok resp) s₁)
    (known : Ends o (listed resp) s₁ (.ok (.arr [])) s₁) :
    Ends o (kcFixAccountConsole env realmId token) s (.ok ()) s₁ :=
  asked.then (known.then (ends_pure _ _))

theorem console_listed {realmId token id : String} {s s₁ s' : Services}
    {result : Except Raised Unit}
    (asked : Ends o (exchange (.keycloakClients env.settings.keycloakUrl token realmId
      "account-console")) s (.ok (carrying (.arr
        [.obj [("id", .str id), ("clientId", .str "account-console")]]))) s₁)
    (rest : Ends o (fixMappers env realmId token id) s₁ result s') :
    Ends o (kcFixAccountConsole env realmId token) s result s' := by
  have known := ends_decoded (o := o) (carrying (.arr
    [.obj [("id", .str id), ("clientId", .str "account-console")]])) s₁
  have hfirst := ends_language (o := o)
    (Json.arr [.obj [("id", .str id), ("clientId", .str "account-console")]]).first s₁
  have hid := ends_language (o := o)
    ((Json.obj [("id", .str id), ("clientId", .str "account-console")]).item "id") s₁
  have hitem : (Json.obj [("id", .str id), ("clientId", .str "account-console")]).item "id" =
      .ok (.str id) := rfl
  rw [hitem] at hid
  exact asked.then (known.then (hfirst.then (hid.then rest)))

theorem fixAccountConsole_ends (env : Env) (token : String) {realmId : String} {s : Services}
    (passes : ConsolePasses o (s.keycloak.realms.get? realmId)) :
    ∃ s', Alike s s' ∧ Ends o (kcFixAccountConsole env realmId token) s (.ok ()) s' := by
  obtain ⟨kept, mappers⟩ := passes
  cases hfate : o.fate .clients with
  | served =>
    obtain ⟨alike, asked⟩ := console_served (o := o) (.keycloakClients
      env.settings.keycloakUrl token realmId "account-console") trivial s hfate
    cases hrealm : s.keycloak.realms.get? realmId with
    | none =>
      have absent : (s.serve (.keycloakClients env.settings.keycloakUrl token realmId
          "account-console")).1 = bare 404 := by
        simp [Services.serve, Keycloak.serve, Keycloak.inRealm, hrealm]
      rw [absent] at asked
      exact ⟨_, alike, console_unlisted asked (listed_refused rfl _)⟩
    | some realm =>
      obtain ⟨answer, same⟩ := serve_clients env.settings.keycloakUrl token hrealm
      rw [answer] at asked
      cases hid : realm.accountConsole with
      | none =>
        rw [hid] at asked
        exact ⟨_, alike, console_unlisted asked (ends_decoded _ _)⟩
      | some id =>
        rw [hid] at asked
        obtain ⟨looked, added⟩ := mappers realm id hfate hrealm hid
        obtain ⟨s', alike', rest⟩ := fixMappers_ends env token same hid looked
          added
        exact ⟨s', alike.trans alike', console_listed asked rest⟩
  | instead reached result =>
    cases result with
    | failure text => exact absurd ⟨reached, text, hfate⟩ kept
    | response r =>
      obtain ⟨s₁, alike, asked⟩ := console_refused (o := o) (.keycloakClients
        env.settings.keycloakUrl token realmId "account-console") trivial s hfate
      exact ⟨s₁, alike, console_unlisted asked (listed_refused (refused_status hfate) s₁)⟩

theorem fixAccountConsole_fails (env : Env) (token : String) {realmId : String} {s : Services}
    (fails : ¬ ConsolePasses o (s.keycloak.realms.get? realmId)) :
    ∃ s', Alike s s' ∧ Fails o (kcFixAccountConsole env realmId token) s s' := by
  by_cases dropped : Dropped (o.fate .clients)
  · obtain ⟨s', alike, hfails⟩ := console_dropped (o := o) (.keycloakClients
      env.settings.keycloakUrl token realmId "account-console") trivial s dropped
    exact ⟨s', alike, hfails.bind _⟩
  · have hbad : ∃ realm id, o.fate .clients = .served ∧
        s.keycloak.realms.get? realmId = some realm ∧ realm.accountConsole = some id ∧
        (Dropped (o.fate .mappers) ∨ (Unseen o realm ∧ Dropped (o.fate .addMapper))) := by
      by_contra none
      apply fails
      refine ⟨dropped, fun realm id served hrealm hid => ?_⟩
      constructor
      · intro hmappers
        exact none ⟨realm, id, served, hrealm, hid, .inl hmappers⟩
      · intro unseen hadd
        exact none ⟨realm, id, served, hrealm, hid, .inr ⟨unseen, hadd⟩⟩
    obtain ⟨realm, id, served, hrealm, hid, bad⟩ := hbad
    obtain ⟨alike, asked⟩ := console_served (o := o) (.keycloakClients
      env.settings.keycloakUrl token realmId "account-console") trivial s served
    obtain ⟨answer, same⟩ := serve_clients env.settings.keycloakUrl token hrealm
    rw [answer, hid] at asked
    obtain ⟨s', alike', error, rest⟩ := fixMappers_fails env token same hid bad
    exact ⟨s', alike.trans alike', error, console_listed asked rest⟩

/-! ### The realm -/

/-- RabbitMQ is as it was, and so is what the tenant's administrator may. -/
structure Spared (t : Tenant) (s s' : Services) : Prop where
  broker : s'.broker = s.broker
  administers : ∀ password, Administers s'.keycloak t.realmId t.adminUser password ↔
    Administers s.keycloak t.realmId t.adminUser password

theorem Spared.refl (t : Tenant) (s : Services) : Spared t s s := ⟨rfl, fun _ => Iff.rfl⟩

theorem Spared.trans {s s' s'' : Services} (h : Spared t s s') (h' : Spared t s' s'') :
    Spared t s s'' :=
  ⟨h'.broker.trans h.broker, fun password =>
    (h'.administers password).trans (h.administers password)⟩

theorem Alike.spared {s s' : Services} (h : Alike s s') (t : Tenant) : Spared t s s' :=
  ⟨h.broker, h.administers t.realmId t.adminUser⟩

theorem spared_of_get? {s s' : Services} (broker : s'.broker = s.broker)
    (realm : s'.keycloak.realms.get? t.realmId = s.keycloak.realms.get? t.realmId) :
    Spared t s s' := by
  refine ⟨broker, fun password => ?_⟩
  unfold Administers
  rw [realm]

/-- What the POST of the realm asks for. -/
def realmRequest (env : Env) (t : Tenant) (token : String) : HttpRequest :=
  .keycloakCreateRealm env.settings.keycloakUrl token (realmPayload env t.realmId t.displayName)

theorem serve_realm_exists (token : String) {s : Services} {realm : Realm}
    (hrealm : s.keycloak.realms.get? t.realmId = some realm) :
    s.serve (realmRequest env t token) = (bare 409, s) := by
  have hname : textOf (member "realm" (realmPayload env t.realmId t.displayName)) = t.realmId :=
    rfl
  simp [realmRequest, Services.serve, Keycloak.serve, hname, hrealm]

theorem serve_realm_absent (token : String) {s : Services}
    (hrealm : s.keycloak.realms.get? t.realmId = none) :
    s.serve (realmRequest env t token) =
      (bare 201, { s with keycloak := { s.keycloak with
        realms := s.keycloak.realms.set t.realmId
          (newRealm (realmPayload env t.realmId t.displayName) (toString s.keycloak.issued))
        issued := s.keycloak.issued + 1 } }) := by
  have hname : textOf (member "realm" (realmPayload env t.realmId t.displayName)) = t.realmId :=
    rfl
  simp [realmRequest, Services.serve, Keycloak.serve, hname, hrealm]

/-- The state after the POST, made or not. -/
theorem realm_after (env : Env) (t : Tenant) (o : Outcomes) (token : String) (s : Services)
    (reached : Bool)
    (hreached : carriedOut (o.fate .realm) = reached) :
    Spared t s (if reached then (s.serve (realmRequest env t token)).2 else s) ∧
      (if reached then (s.serve (realmRequest env t token)).2 else s).keycloak.realms.get?
        t.realmId = realmThen env t o s := by
  unfold realmThen
  rw [hreached]
  cases hrealm : s.keycloak.realms.get? t.realmId with
  | some realm =>
    rw [serve_realm_exists token hrealm, ite_self]
    exact ⟨.refl _ s, hrealm⟩
  | none =>
    rw [serve_realm_absent token hrealm]
    cases reached with
    | false => exact ⟨.refl _ s, hrealm⟩
    | true =>
      refine ⟨⟨rfl, fun password => ?_⟩, by simp⟩
      constructor
      · intro holds
        obtain ⟨realm, user, hfound, huser, _⟩ := holds
        simp only [if_true, Dict.get?_set_self, Option.some.injEq] at hfound
        rw [← hfound] at huser
        cases huser
      · intro holds
        obtain ⟨realm, user, hfound, _⟩ := holds
        rw [hrealm] at hfound
        cases hfound

theorem realm_posted (env : Env) (t : Tenant) (o : Outcomes) (token : String) (s : Services) :
    ∃ result s₁, Ends o (exchange (realmRequest env t token)) s result s₁ ∧
      Spared t s s₁ ∧ s₁.keycloak.realms.get? t.realmId = realmThen env t o s ∧
      (RealmPasses o → ∃ r, result = .ok r ∧ r.status ∈ [201, 409]) ∧
      (¬ RealmPasses o → ∀ r, result = .ok r → r.status ∉ [201, 409]) := by
  cases hfate : o.fate .realm with
  | served =>
    obtain ⟨spared, after⟩ := realm_after env t o token s true
      (by rw [hfate]; rfl)
    refine ⟨_, _, ends_served (realmRequest env t token) hfate, spared, after, fun _ => ?_,
      fun none => absurd (.inl hfate) none⟩
    refine ⟨_, rfl, ?_⟩
    cases hrealm : s.keycloak.realms.get? t.realmId with
    | some realm => rw [serve_realm_exists token hrealm]; simp [bare]
    | none => rw [serve_realm_absent token hrealm]; simp [bare]
  | instead reached result =>
    obtain ⟨spared, after⟩ := realm_after env t o token s reached
      (by rw [hfate]; rfl)
    refine ⟨_, _, ends_instead (realmRequest env t token) hfate, spared, after, ?_, ?_⟩
    · intro passes
      rcases passes with served | ⟨reached', r, hinstead, hstatus⟩
      · rw [hfate] at served
        cases served
      · rw [hfate] at hinstead
        cases hinstead
        exact ⟨r, rfl, by simp [hstatus]⟩
    · intro none r hr
      cases result with
      | failure text => cases hr
      | response r' =>
        cases hr
        have hrefused := refused_status hfate
        intro hstatus
        rcases List.mem_pair.mp hstatus with h201 | h409
        · simp [Response.isSuccess, h201] at hrefused
        · exact none (.inr ⟨reached, r, hfate, h409⟩)

theorem createRealm_ends (token : String) (s : Services) (passes : RealmPasses o)
    (looked : ConsolePasses o (realmThen env t o s)) :
    ∃ s', Spared t s s' ∧
      accounts s'.keycloak t.realmId =
        (realmThen env t o s).map (fun realm => (realm.users, realm.roles)) ∧
      Ends o (kcCreateRealm env t.realmId t.displayName token) s (.ok ()) s' := by
  obtain ⟨result, s₁, posted, spared, after, good, _⟩ := realm_posted env t o token s
  obtain ⟨r, rfl, hstatus⟩ := good passes
  rw [← after] at looked
  obtain ⟨s', alike, fixed⟩ := fixAccountConsole_ends env token looked
  refine ⟨s', spared.trans (alike.spared _), ?_, posted.then ?_⟩
  · rw [alike.accounts, accounts, after]
  · rw [if_pos hstatus]
    exact fixed

theorem createRealm_fails (token : String) (s : Services)
    (bad : ¬ (RealmPasses o ∧ ConsolePasses o (realmThen env t o s))) :
    ∃ s', Spared t s s' ∧
      Fails o (kcCreateRealm env t.realmId t.displayName token) s s' := by
  obtain ⟨result, s₁, posted, spared, after, good, wrong⟩ := realm_posted env t o token s
  by_cases passes : RealmPasses o
  · obtain ⟨r, rfl, hstatus⟩ := good passes
    have looked : ¬ ConsolePasses o (s₁.keycloak.realms.get? t.realmId) := by
      rw [after]
      exact fun looked => bad ⟨passes, looked⟩
    obtain ⟨s', alike, fixed⟩ := fixAccountConsole_fails env token looked
    refine ⟨s', spared.trans (alike.spared _), posted.fails ?_⟩
    rw [if_pos hstatus]
    exact fixed
  · refine ⟨s₁, spared, ?_⟩
    cases result with
    | error error => exact Fails.bind ⟨error, posted⟩ _
    | ok r =>
      refine posted.fails ?_
      rw [if_neg (wrong passes r rfl)]
      exact fails_fail _ s₁

/-! ### The user -/

theorem lastSegment_users (front : String) (n : Nat) :
    lastSegment (front ++ "/users/" ++ toString n) = toString n := by
  have hdigits : (toString n).toList = Nat.toDigits 10 n := Nat.toList_repr
  have hslash : '/' ∉ Nat.toDigits 10 n := by
    intro hmem
    exact absurd (Nat.isDigit_of_mem_toDigits (by omega) (by omega) hmem) (by decide)
  have htext : (front ++ "/users/" ++ toString n).toList =
      (front.toList ++ "/users".toList) ++ '/' :: Nat.toDigits 10 n := by
    rw [String.toList_append, String.toList_append, hdigits]
    simp
  have hstrip : rstripSlash (front ++ "/users/" ++ toString n) =
      front ++ "/users/" ++ toString n := by
    unfold rstripSlash
    rw [htext]
    have hlast : ∀ c rest, (Nat.toDigits 10 n).reverse = c :: rest → (c == '/') = false := by
      intro c rest hcons
      have hc : c ∈ Nat.toDigits 10 n := by
        rw [← List.mem_reverse, hcons]
        exact List.mem_cons_self
      simp only [beq_eq_false_iff_ne]
      intro heq
      exact hslash (heq ▸ hc)
    have hkept : (front.toList ++ "/users".toList ++ '/' :: Nat.toDigits 10 n).reverse.dropWhile
        (· == '/') = (front.toList ++ "/users".toList ++ '/' :: Nat.toDigits 10 n).reverse := by
      rw [List.reverse_append, List.reverse_cons]
      cases hrev : (Nat.toDigits 10 n).reverse with
      | nil => exact absurd (List.reverse_eq_nil_iff.mp hrev) Nat.toDigits_ne_nil
      | cons c rest => simp [hlast c rest hrev]
    rw [hkept, List.reverse_reverse, ← htext, String.ofList_toList]
  unfold lastSegment
  rw [hstrip, htext, List.splitOn_append_cons_self, List.splitOn_eq_singleton hslash,
    List.getLastD_concat, ← hdigits, String.ofList_toList]

theorem namedRoles_roleJson (roles : List String) :
    namedRoles ["cdm-admin"] (roles.map roleJson) =
      .ok ((roles.filter (· = "cdm-admin")).map roleJson) := by
  induction roles with
  | nil => rfl
  | cons role rest ih =>
    have hstep : namedRoles ["cdm-admin"] ((role :: rest).map roleJson) =
        (namedRoles ["cdm-admin"] (rest.map roleJson)).bind fun others =>
          .ok (if role == "cdm-admin" || false then roleJson role :: others else others) := rfl
    rw [hstep, ih]
    by_cases hrole : role = "cdm-admin"
    · simp [hrole, Except.bind]
    · simp [hrole, Except.bind]

theorem namesOf_roleJson (roles : List String) : namesOf (roles.map roleJson) = roles := by
  induction roles with
  | nil => rfl
  | cons role rest ih =>
    have hstep : namesOf ((role :: rest).map roleJson) = role :: namesOf (rest.map roleJson) := rfl
    rw [hstep, ih]

/-- What the POST of the user asks for. -/
def userRequest (env : Env) (t : Tenant) (password token : String) : HttpRequest :=
  .keycloakCreateUser env.settings.keycloakUrl token t.realmId
    (userPayload env t.adminUser t.adminEmail password)

section User

variable {password token : String} {s : Services} {realm : Realm}

theorem serve_user_absent (hrealm : s.keycloak.realms.get? t.realmId = none) :
    s.serve (userRequest env t password token) =
      (bare 404, { s with keycloak := { s.keycloak with issued := s.keycloak.issued + 1 } }) := by
  simp [userRequest, Services.serve, Keycloak.serve, Keycloak.inRealm, hrealm]

theorem serve_user_conflict (hrealm : s.keycloak.realms.get? t.realmId = some realm)
    (conflict : realm.conflicts t.adminUser t.adminEmail = true) :
    s.serve (userRequest env t password token) =
      (bare 409, { s with keycloak := { s.keycloak with
        realms := s.keycloak.realms.set t.realmId realm
        issued := s.keycloak.issued + 1 } }) := by
  have hname : textOf (member "username" (userPayload env t.adminUser t.adminEmail password)) =
      t.adminUser := rfl
  have hemail : textOf (member "email" (userPayload env t.adminUser t.adminEmail password)) =
      t.adminEmail := rfl
  simp [userRequest, Services.serve, Keycloak.serve, Keycloak.inRealm, hrealm, hname, hemail,
    conflict]

/-- The user as it is created, without a role. -/
def seat (t : Tenant) (password id : String) (realm : Realm) : Realm :=
  { realm with users := realm.users.set t.adminUser ⟨id, t.adminEmail, some password, []⟩ }

theorem serve_user_created (env : Env) (password token : String)
    (hrealm : s.keycloak.realms.get? t.realmId = some realm)
    (fresh : realm.conflicts t.adminUser t.adminEmail = false) :
    s.serve (userRequest env t password token) =
      (⟨201, "", .error "no body", some (env.settings.keycloakUrl ++ "/admin/realms/" ++
          t.realmId ++ "/users/" ++ toString s.keycloak.issued)⟩,
        { s with keycloak := { s.keycloak with
          realms := s.keycloak.realms.set t.realmId
            (seat t password (toString s.keycloak.issued) realm)
          issued := s.keycloak.issued + 1 } }) := by
  have hname : textOf (member "username" (userPayload env t.adminUser t.adminEmail password)) =
      t.adminUser := rfl
  have hemail : textOf (member "email" (userPayload env t.adminUser t.adminEmail password)) =
      t.adminEmail := rfl
  have huser : ∀ id, newUser (userPayload env t.adminUser t.adminEmail password) id =
      ⟨id, t.adminEmail, some password, []⟩ := fun _ => rfl
  simp [userRequest, Services.serve, Keycloak.serve, Keycloak.inRealm, hrealm, hname, hemail,
    huser, fresh, seat]

theorem not_administers_of_conflictless
    (hrealm : s.keycloak.realms.get? t.realmId = some realm)
    (fresh : realm.conflicts t.adminUser t.adminEmail = false) (password : String) :
    ¬ Administers s.keycloak t.realmId t.adminUser password := by
  intro holds
  obtain ⟨found, user, hfound, huser, _⟩ := holds
  rw [hrealm] at hfound
  cases hfound
  simp [Realm.conflicts, huser] at fresh

theorem not_administers_of_seat {kc : Keycloak} {id : String}
    (hrealm : kc.realms.get? t.realmId = some (seat t password id realm)) (other : String) :
    ¬ Administers kc t.realmId t.adminUser other := by
  intro holds
  obtain ⟨found, user, hfound, huser, _, hrole⟩ := holds
  rw [hrealm] at hfound
  cases hfound
  rw [seat, Dict.get?_set_self] at huser
  cases huser
  cases hrole

end User

theorem user_created_spared {password token : String} {s : Services} {realm : Realm}
    (hrealm : s.keycloak.realms.get? t.realmId = some realm)
    (fresh : realm.conflicts t.adminUser t.adminEmail = false) :
    Spared t s (s.serve (userRequest env t password token)).2 := by
  rw [serve_user_created env password token hrealm fresh]
  refine ⟨rfl, fun other => ?_⟩
  constructor
  · intro holds
    exact absurd holds (not_administers_of_seat (Dict.get?_set_self _ _ _) other)
  · intro holds
    exact absurd holds (not_administers_of_conflictless hrealm fresh other)

theorem user_spared (password token : String) (s : Services) :
    Spared t s (s.serve (userRequest env t password token)).2 := by
  cases hrealm : s.keycloak.realms.get? t.realmId with
  | none =>
    rw [serve_user_absent hrealm]
    exact spared_of_get? rfl rfl
  | some realm =>
    cases hconflict : realm.conflicts t.adminUser t.adminEmail with
    | true =>
      rw [serve_user_conflict hrealm hconflict]
      exact spared_of_get? rfl (by simp [hrealm])
    | false => exact user_created_spared hrealm hconflict

/-- What is known of the realm when the user is posted. -/
def Stands (t : Tenant) (found : Option Realm) (s : Services) : Prop :=
  accounts s.keycloak t.realmId = found.map fun realm => (realm.users, realm.roles)

theorem Stands.none {s : Services} (h : Stands t none s) :
    s.keycloak.realms.get? t.realmId = none := by
  unfold Stands accounts at h
  simpa using h

theorem Stands.some {s : Services} {realm : Realm} (h : Stands t (some realm) s) :
    ∃ there, s.keycloak.realms.get? t.realmId = some there ∧ there.users = realm.users ∧
      there.roles = realm.roles := by
  obtain ⟨there, hthere, heq⟩ := Option.map_eq_some_iff.mp (h : accounts _ _ = Option.some _)
  obtain ⟨husers, hroles⟩ := Prod.mk.inj heq
  exact ⟨there, hthere, husers, hroles⟩

theorem conflicts_congr {realm there : Realm} (h : there.users = realm.users)
    (username email : String) :
    there.conflicts username email = realm.conflicts username email := by
  unfold Realm.conflicts
  rw [h]

/-- The POST is answered 409. -/
def ConflictAt (o : Outcomes) (t : Tenant) (found : Option Realm) : Prop :=
  (o.fate .user = .served ∧ ∃ realm, found = some realm ∧
      realm.conflicts t.adminUser t.adminEmail = true) ∨
    ∃ reached r, o.fate .user = .instead reached (.response r) ∧ r.status = 409

/-- The POST is answered 201. -/
def CreatesAt (o : Outcomes) (t : Tenant) (found : Option Realm) (realm : Realm) : Prop :=
  o.fate .user = .served ∧ found = some realm ∧
    realm.conflicts t.adminUser t.adminEmail = false

theorem spared_ite (password token : String) (s : Services) (reached : Bool) :
    Spared t s (if reached then (s.serve (userRequest env t password token)).2 else s) := by
  cases reached with
  | false => exact .refl t s
  | true => exact user_spared password token s

theorem createUser_conflict (env : Env) (password token : String) {s : Services}
    {found : Option Realm}
    (stands : Stands t found s) (conflict : ConflictAt o t found) :
    ∃ s', Spared t s s' ∧
      Ends o (kcCreateUser env t.realmId t.adminUser t.adminEmail password ["cdm-admin"] token)
        s (.ok ()) s' := by
  have passes : ∀ r s₁, r.status = 409 →
      Ends o (exchange (userRequest env t password token)) s (.ok r) s₁ →
      Ends o (kcCreateUser env t.realmId t.adminUser t.adminEmail password ["cdm-admin"] token)
        s (.ok ()) s₁ := by
    intro r s₁ hstatus posted
    refine posted.then ?_
    rw [if_pos (by simp [hstatus]), if_pos hstatus]
    exact ends_pure _ _
  rcases conflict with ⟨served, realm, rfl, hconflict⟩ | ⟨reached, r, hfate, hstatus⟩
  · obtain ⟨there, hthere, husers, _⟩ := stands.some
    rw [← conflicts_congr husers] at hconflict
    have posted := ends_served (o := o) (s := s) (userRequest env t password token) served
    refine ⟨_, user_spared password token s, passes _ _ ?_ posted⟩
    rw [serve_user_conflict hthere hconflict]
    rfl
  · have posted := ends_instead (o := o) (s := s) (userRequest env t password token) hfate
    exact ⟨_, spared_ite password token s reached, passes r _ hstatus posted⟩

theorem createUser_fails (env : Env) (password token : String) {s : Services} {found : Option Realm}
    (stands : Stands t found s) (conflictless : ¬ ConflictAt o t found)
    (uncreated : ∀ realm, ¬ CreatesAt o t found realm) :
    ∃ s', Spared t s s' ∧
      Fails o (kcCreateUser env t.realmId t.adminUser t.adminEmail password ["cdm-admin"] token)
        s s' := by
  have refuses : ∀ r s₁, r.status ∉ [201, 409] →
      Ends o (exchange (userRequest env t password token)) s (.ok r) s₁ →
      Fails o (kcCreateUser env t.realmId t.adminUser t.adminEmail password ["cdm-admin"] token)
        s s₁ := by
    intro r s₁ hstatus posted
    refine posted.fails ?_
    rw [if_neg hstatus]
    exact fails_fail _ s₁
  cases hfate : o.fate .user with
  | served =>
    have posted := ends_served (o := o) (s := s) (userRequest env t password token) hfate
    cases found with
    | none =>
      refine ⟨_, user_spared password token s, refuses _ _ ?_ posted⟩
      rw [serve_user_absent stands.none]
      simp [bare]
    | some realm =>
      cases hconflict : realm.conflicts t.adminUser t.adminEmail with
      | true => exact absurd (.inl ⟨hfate, realm, rfl, hconflict⟩) conflictless
      | false => exact absurd ⟨hfate, rfl, hconflict⟩ (uncreated realm)
  | instead reached result =>
    have posted := ends_instead (o := o) (s := s) (userRequest env t password token) hfate
    cases result with
    | failure text => exact ⟨_, spared_ite password token s reached, Fails.bind ⟨_, posted⟩ _⟩
    | response r =>
      refine ⟨_, spared_ite password token s reached, refuses r _ ?_ posted⟩
      intro hstatus
      rcases List.mem_pair.mp hstatus with h201 | h409
      · have hrefused := refused_status hfate
        simp [Response.isSuccess, h201] at hrefused
      · exact conflictless (.inr ⟨reached, r, hfate, h409⟩)

/-! ### The role -/

/-- The end of `_kc_create_user`, from the lookup of the roles on. -/
def grantRoles (env : Env) (realmId userId token : String) : App Unit := do
  let base := env.settings.keycloakUrl
  let rolesResp ← exchange (.keycloakRoles base token realmId)
  let allRoles ← listed rolesResp
  let allRoles ← language allRoles.iter
  let roleObjects ← language (namedRoles ["cdm-admin"] allRoles)
  if roleObjects ≠ [] ∧ userId ≠ "" then do
    let _ ← exchange (.keycloakAssignRoles base token realmId userId (.arr roleObjects))
    pure ()
  else pure ()

/-- The user is in the realm with the password, and has no role yet. -/
structure Seated (t : Tenant) (password : String) (roles : List String) (id : Nat)
    (s : Services) : Prop where
  there : ∃ users, accounts s.keycloak t.realmId = some (users, roles) ∧
    users.get? t.adminUser = some ⟨toString id, t.adminEmail, some password, []⟩

theorem Seated.alike {password : String} {roles : List String} {id : Nat} {s s' : Services}
    (h : Seated t password roles id s) (alike : Alike s s') : Seated t password roles id s' := by
  obtain ⟨users, hroles, huser⟩ := h.there
  exact ⟨users, by rw [alike.accounts, hroles], huser⟩

theorem Seated.unseated {password : String} {roles : List String} {id : Nat} {s : Services}
    (h : Seated t password roles id s) (other : String) :
    ¬ Administers s.keycloak t.realmId t.adminUser other := by
  obtain ⟨users, hroles, huser⟩ := h.there
  rw [administers_iff]
  intro holds
  obtain ⟨users', roles', user, haccounts, hfound, _, hrole⟩ := holds
  rw [hroles] at haccounts
  cases haccounts
  rw [huser] at hfound
  cases hfound
  cases hrole

theorem createUser_created (env : Env) (password token : String) {s : Services}
    {found : Option Realm} {realm : Realm} (stands : Stands t found s)
    (creates : CreatesAt o t found realm) :
    ∃ s₁ id, s₁.broker = s.broker ∧ Seated t password realm.roles id s₁ ∧
      ∀ result s', Ends o (grantRoles env t.realmId (toString id) token) s₁ result s' →
        Ends o (kcCreateUser env t.realmId t.adminUser t.adminEmail password ["cdm-admin"] token)
          s result s' := by
  obtain ⟨served, rfl, fresh⟩ := creates
  obtain ⟨there, hthere, husers, hroles⟩ := stands.some
  rw [← conflicts_congr husers] at fresh
  have posted := ends_served (o := o) (s := s) (userRequest env t password token) served
  have served := serve_user_created env password token hthere fresh
  refine ⟨(s.serve (userRequest env t password token)).2, s.keycloak.issued, ?_, ⟨?_⟩,
    fun result s' rest => posted.then ?_⟩
  · rw [served]
  · refine ⟨there.users.set t.adminUser
      ⟨toString s.keycloak.issued, t.adminEmail, some password, []⟩, ?_, Dict.get?_set_self _ _ _⟩
    rw [served]
    simp [accounts, seat, hroles]
  · have hid := lastSegment_users (env.settings.keycloakUrl ++ "/admin/realms/" ++ t.realmId)
      s.keycloak.issued
    rw [served] at rest ⊢
    rw [if_pos (by simp), if_neg (by simp), Option.getD_some, hid]
    exact rest

theorem serve_roles (base token : String) {realmId : String} {s : Services}
    {users : Dict String KeycloakUser} {roles : List String}
    (hroles : accounts s.keycloak realmId = some (users, roles)) :
    (s.serve (.keycloakRoles base token realmId)).1 =
      carrying (.arr (roles.map roleJson)) := by
  obtain ⟨realm, hrealm, heq⟩ := Option.map_eq_some_iff.mp hroles
  cases heq
  simp [Services.serve, Keycloak.serve, Keycloak.inRealm, hrealm]

/-- The roles as far as they are known are looked through. -/
theorem grantRoles_known {realmId userId token : String} {s s₁ : Services} {resp : Response}
    {roles : List String}
    (asked : Ends o (exchange (.keycloakRoles env.settings.keycloakUrl token realmId)) s
      (.ok resp) s₁)
    (known : Ends o (listed resp) s₁ (.ok (.arr (roles.map roleJson))) s₁)
    {result : Except Raised Unit} {s' : Services}
    (rest : Ends o (if (roles.filter (· = "cdm-admin")).map roleJson ≠ [] ∧ userId ≠ "" then do
        let _ ← exchange (.keycloakAssignRoles env.settings.keycloakUrl token realmId userId
          (.arr ((roles.filter (· = "cdm-admin")).map roleJson)))
        pure ()
      else pure ()) s₁ result s') :
    Ends o (grantRoles env realmId userId token) s result s' := by
  have hiter := ends_language (o := o) (Json.arr (roles.map roleJson)).iter s₁
  have hnamed : Ends o (language (namedRoles ["cdm-admin"] (roles.map roleJson))) s₁
      (.ok ((roles.filter (· = "cdm-admin")).map roleJson)) s₁ := by
    rw [namedRoles_roleJson]
    exact ends_language _ s₁
  exact asked.then (known.then (hiter.then (hnamed.then rest)))

theorem grantRoles_dropped (env : Env) (realmId userId token : String) (s : Services)
    (dropped : Dropped (o.fate .roles)) :
    ∃ s', Alike s s' ∧ Fails o (grantRoles env realmId userId token) s s' := by
  obtain ⟨s', alike, fails⟩ := console_dropped (o := o)
    (.keycloakRoles env.settings.keycloakUrl token realmId) trivial s dropped
  exact ⟨s', alike, fails.bind _⟩

theorem grantRoles_unknown (env : Env) (token : String) {password : String}
    {roles : List String} {id : Nat} {s : Services} (seated : Seated t password roles id s)
    (unknown : Refused (o.fate .roles) ∨ o.fate .roles = .served ∧ "cdm-admin" ∉ roles) :
    ∃ s', Alike s s' ∧
      Ends o (grantRoles env t.realmId (toString id) token) s (.ok ()) s' := by
  obtain ⟨users, hroles, _⟩ := seated.there
  rcases unknown with ⟨reached, r, hfate⟩ | ⟨served, missing⟩
  · obtain ⟨s₁, alike, asked⟩ := console_refused (o := o)
      (.keycloakRoles env.settings.keycloakUrl token t.realmId) trivial s hfate
    have known : Ends o (listed r) s₁ (.ok (.arr (([] : List String).map roleJson))) s₁ :=
      listed_refused (refused_status hfate) s₁
    exact ⟨s₁, alike, grantRoles_known asked known (ends_pure _ _)⟩
  · obtain ⟨alike, asked⟩ := console_served (o := o)
      (.keycloakRoles env.settings.keycloakUrl token t.realmId) trivial s served
    rw [serve_roles _ _ hroles] at asked
    have known := ends_decoded (o := o) (carrying (.arr (roles.map roleJson)))
      (s.serve (.keycloakRoles env.settings.keycloakUrl token t.realmId)).2
    have hnone : roles.filter (· = "cdm-admin") = [] := by
      rw [List.filter_eq_nil_iff]
      intro role hrole heq
      simp only [decide_eq_true_eq] at heq
      exact missing (heq ▸ hrole)
    refine ⟨_, alike, grantRoles_known asked known ?_⟩
    rw [hnone, if_neg (by simp)]
    exact ends_pure _ _

/-- The roles that are posted for the user. -/
def assignRequest (env : Env) (t : Tenant) (roles : List String) (id : Nat) (token : String) :
    HttpRequest :=
  .keycloakAssignRoles env.settings.keycloakUrl token t.realmId (toString id)
    (.arr ((roles.filter (· = "cdm-admin")).map roleJson))

theorem toString_ne_empty (n : Nat) : toString n ≠ "" := by
  intro h
  have hdigits : (toString n).toList = Nat.toDigits 10 n := Nat.toList_repr
  rw [h] at hdigits
  exact Nat.toDigits_ne_nil hdigits.symm

theorem grantRoles_assigns (env : Env) (token : String) {password : String}
    {roles : List String} {id : Nat} {s : Services} (seated : Seated t password roles id s)
    (known : o.fate .roles = .served ∧ "cdm-admin" ∈ roles) :
    ∃ s₁, Alike s s₁ ∧ ∀ result s',
      Ends o (do
        let _ ← exchange (assignRequest env t roles id token)
        pure ()) s₁ result s' →
      Ends o (grantRoles env t.realmId (toString id) token) s result s' := by
  obtain ⟨users, hroles, _⟩ := seated.there
  obtain ⟨served, present⟩ := known
  obtain ⟨alike, asked⟩ := console_served (o := o)
    (.keycloakRoles env.settings.keycloakUrl token t.realmId) trivial s served
  rw [serve_roles _ _ hroles] at asked
  have known := ends_decoded (o := o) (carrying (.arr (roles.map roleJson)))
    (s.serve (.keycloakRoles env.settings.keycloakUrl token t.realmId)).2
  refine ⟨_, alike, fun result s' rest => grantRoles_known asked known ?_⟩
  have hsome : (roles.filter (· = "cdm-admin")).map roleJson ≠ [] := by
    intro hnil
    have hmem : "cdm-admin" ∈ roles.filter (· = "cdm-admin") := by simp [present]
    rw [List.map_eq_nil_iff.mp hnil] at hmem
    cases hmem
  rw [if_pos ⟨hsome, toString_ne_empty id⟩]
  exact rest

theorem serve_assign (env : Env) (token : String) {password : String} {roles : List String}
    {id : Nat} {s : Services}
    (seated : Seated t password roles id s) (present : "cdm-admin" ∈ roles) :
    (s.serve (assignRequest env t roles id token)).2.broker = s.broker ∧
      Administers (s.serve (assignRequest env t roles id token)).2.keycloak t.realmId t.adminUser
        password := by
  refine ⟨rfl, ?_⟩
  obtain ⟨users, hroles, huser⟩ := seated.there
  obtain ⟨realm, hrealm, heq⟩ := Option.map_eq_some_iff.mp hroles
  cases heq
  have hnames : namesOf (itemsOf (.arr ((realm.roles.filter (· = "cdm-admin")).map roleJson))) =
      realm.roles.filter (· = "cdm-admin") := namesOf_roleJson _
  have hmember : ∃ user ∈ realm.users.values, user.id = toString id :=
    ⟨_, (Dict.mem_values_iff _ _).mpr ⟨_, huser⟩, rfl⟩
  have hall : ∀ role ∈ realm.roles.filter (· = "cdm-admin"), role ∈ realm.roles :=
    fun role hrole => (List.mem_filter.mp hrole).1
  have hstate : (s.serve (assignRequest env t realm.roles id token)).2.keycloak.realms.get?
      t.realmId = some (realm.grant (toString id) (realm.roles.filter (· = "cdm-admin"))) := by
    simp only [assignRequest, Services.serve, Keycloak.serve, Keycloak.inRealm, hrealm, hnames]
    rw [if_pos ⟨hmember, hall⟩]
    exact Dict.get?_set_self _ _ _
  have hgranted : (realm.grant (toString id) (realm.roles.filter (· = "cdm-admin"))).users.get?
      t.adminUser = some ⟨toString id, t.adminEmail, some password,
        [] ++ realm.roles.filter (· = "cdm-admin")⟩ := by
    rw [Realm.grant, Dict.get?_mapValues, huser]
    simp
  exact ⟨_, _, hstate, hgranted, rfl, by simp [present]⟩

/-! ### All of Keycloak -/

/-- The Keycloak step for this tenant. -/
def keycloakStep (env : Env) (t : Tenant) (password : String) : App Unit :=
  createKeycloakRealm env t.realmId t.displayName t.adminUser t.adminEmail password

theorem keycloak_arrives (password : String) {s : Services} (arrives : Arrives env t o s) :
    ∃ s₁, Spared t s s₁ ∧ Stands t (realmThen env t o s) s₁ ∧ ∀ result s',
      Ends o (kcCreateUser env t.realmId t.adminUser t.adminEmail password ["cdm-admin"]
        "admin-token") s₁ result s' →
      Ends o (keycloakStep env t password) s result s' := by
  obtain ⟨token, passes, looked⟩ := arrives
  obtain ⟨s₁, spared, stands, created⟩ := createRealm_ends "admin-token" s passes looked
  exact ⟨s₁, spared, stands, fun result s' rest =>
    (token_served s token).then (created.then rest)⟩

theorem keycloak_stops (password : String) {s : Services} (stops : ¬ Arrives env t o s) :
    ∃ s', Spared t s s' ∧ Fails o (keycloakStep env t password) s s' := by
  by_cases token : o.fate .token = .served
  · have bad : ¬ (RealmPasses o ∧ ConsolePasses o (realmThen env t o s)) :=
      fun both => stops ⟨token, both⟩
    obtain ⟨s', spared, fails⟩ := createRealm_fails "admin-token" s bad
    exact ⟨s', spared, (token_served s token).fails (fails.bind _)⟩
  · exact ⟨s, .refl t s, (token_fails s token).bind _⟩

/-- A user is not both found and created. -/
theorem conflictless_of_creates {s : Services} {realm : Realm} (creates : Creates env t o s realm) :
    ¬ FindsConflict env t o s := by
  obtain ⟨served, hrealm, fresh⟩ := creates
  intro conflict
  rcases conflict with ⟨_, other, hother, hconflict⟩ | ⟨reached, r, hfate, _⟩
  · rw [hrealm] at hother
    cases hother
    rw [fresh] at hconflict
    cases hconflict
  · rw [served] at hfate
    cases hfate

theorem not_administers_of_creates {s : Services} {realm : Realm}
    (creates : Creates env t o s realm) (password : String) :
    ¬ Administers s.keycloak t.realmId t.adminUser password := by
  obtain ⟨_, hrealm, fresh⟩ := creates
  cases hthere : s.keycloak.realms.get? t.realmId with
  | none =>
    intro holds
    obtain ⟨found, _, hfound, _⟩ := holds
    rw [hthere] at hfound
    cases hfound
  | some there =>
    have heq : realmThen env t o s = some there := by
      unfold realmThen
      rw [hthere]
    rw [heq] at hrealm
    cases hrealm
    exact not_administers_of_conflictless hthere fresh password

/-- How the Keycloak step ends, what it leaves of RabbitMQ, and whether its
success says that the administrator is there. -/
def Reports (env : Env) (t : Tenant) (o : Outcomes) (s : Services) (password : String)
    (holds : Prop) : Prop :=
  ∃ result s', Ends o (keycloakStep env t password) s result s' ∧ s'.broker = s.broker ∧
    ((result = .ok () ↔ Administers s'.keycloak t.realmId t.adminUser password) ↔ holds)

theorem reports_ok {password : String} {holds : Prop} {s s' : Services}
    (ends : Ends o (keycloakStep env t password) s (.ok ()) s') (broker : s'.broker = s.broker)
    (h : Administers s'.keycloak t.realmId t.adminUser password ↔ holds) :
    Reports env t o s password holds := by
  refine ⟨_, s', ends, broker, ?_⟩
  rw [eq_self, true_iff]
  exact h

theorem reports_error {password : String} {holds : Prop} {s s' : Services}
    (fails : Fails o (keycloakStep env t password) s s') (broker : s'.broker = s.broker)
    (h : ¬ Administers s'.keycloak t.realmId t.adminUser password ↔ holds) :
    Reports env t o s password holds := by
  obtain ⟨error, ends⟩ := fails
  refine ⟨_, s', ends, broker, ?_⟩
  rw [← h]
  simp

/-- Nothing is created: it is reported as failed. -/
theorem reports_failed {password : String} {s s' : Services}
    (fails : Fails o (keycloakStep env t password) s s') (spared : Spared t s s')
    (missed : ¬ (Arrives env t o s ∧ FindsConflict env t o s))
    (uncreated : Arrives env t o s → ∀ realm, ¬ Creates env t o s realm) :
    Reports env t o s password (¬ Misreported env t o s password) := by
  apply reports_error fails spared.broker
  rw [spared.administers]
  constructor
  · intro absent wrong
    cases wrong with
    | conflict arrives found _ => exact missed ⟨arrives, found⟩
    | roleless arrives creates _ => exact uncreated arrives _ creates
    | assignment arrives creates _ _ => exact uncreated arrives _ creates
    | unreported holds _ => exact absent holds
  · intro right holds
    exact right (.unreported holds missed)

theorem reports_conflict (password : String) {s : Services} (arrives : Arrives env t o s)
    (found : FindsConflict env t o s) :
    Reports env t o s password (¬ Misreported env t o s password) := by
  obtain ⟨s₁, spared, stands, rest⟩ := keycloak_arrives password arrives
  obtain ⟨s', spared', ends⟩ := createUser_conflict env password "admin-token" stands found
  apply reports_ok (rest _ _ ends) (spared.trans spared').broker
  rw [(spared.trans spared').administers]
  constructor
  · intro holds wrong
    cases wrong with
    | conflict _ _ without => exact without holds
    | roleless _ creates _ => exact conflictless_of_creates creates found
    | assignment _ creates _ _ => exact conflictless_of_creates creates found
    | unreported _ silent => exact silent ⟨arrives, found⟩
  · intro right
    by_contra without
    exact right (.conflict arrives found without)

/-- What is wrong about a created user is wrong about its role. -/
theorem misreported_of_creates {password : String} {s : Services} {realm : Realm}
    (creates : Creates env t o s realm) (wrong : Misreported env t o s password) :
    (Refused (o.fate .roles) ∨ o.fate .roles = .served ∧ "cdm-admin" ∉ realm.roles) ∨
      (o.fate .roles = .served ∧ "cdm-admin" ∈ realm.roles) ∧
        ((∃ r, o.fate .assign = .instead false (.response r)) ∨
          ∃ text, o.fate .assign = .instead true (.failure text)) := by
  have same : ∀ {other : Realm}, Creates env t o s other → other = realm := by
    intro other hother
    exact Option.some.inj (hother.2.1.symm.trans creates.2.1)
  cases wrong with
  | conflict _ found _ => exact absurd found (conflictless_of_creates creates)
  | roleless _ hother unknown =>
    rw [same hother] at unknown
    exact .inl unknown
  | assignment _ hother known bad =>
    rw [same hother] at known
    exact .inr ⟨known, bad⟩
  | unreported holds _ => exact absurd holds (not_administers_of_creates creates password)

/-- The role is among the realm's and is posted for the user. -/
theorem reports_assigned {password : String} {s s₁ : Services} {realm : Realm} {id : Nat}
    (arrives : Arrives env t o s) (creates : Creates env t o s realm)
    (known : o.fate .roles = .served ∧ "cdm-admin" ∈ realm.roles)
    (broker : s₁.broker = s.broker) (seated : Seated t password realm.roles id s₁)
    (rest : ∀ result s', Ends o (do
        let _ ← exchange (assignRequest env t realm.roles id "admin-token")
        pure ()) s₁ result s' → Ends o (keycloakStep env t password) s result s') :
    Reports env t o s password (¬ Misreported env t o s password) := by
  have known_bad : Misreported env t o s password →
      (∃ r, o.fate .assign = .instead false (.response r)) ∨
        ∃ text, o.fate .assign = .instead true (.failure text) := by
    intro wrong
    rcases misreported_of_creates creates wrong with unknown | ⟨_, bad⟩
    · rcases unknown with ⟨reached, r, hfate⟩ | ⟨_, missing⟩
      · rw [known.1] at hfate
        cases hfate
      · exact absurd known.2 missing
    · exact bad
  obtain ⟨hbroker, administers⟩ := serve_assign env "admin-token" seated known.2
  cases hfate : o.fate .assign with
  | served =>
    have posted := ends_served (o := o) (s := s₁)
      (assignRequest env t realm.roles id "admin-token") hfate
    apply reports_ok (rest _ _ (posted.then (ends_pure _ _))) (hbroker.trans broker)
    refine iff_of_true administers fun wrong => ?_
    rcases known_bad wrong with ⟨r, h⟩ | ⟨text, h⟩ <;> rw [hfate] at h <;> cases h
  | instead reached result =>
    have posted := ends_instead (o := o) (s := s₁)
      (assignRequest env t realm.roles id "admin-token") hfate
    have hkept : ∀ reached, (if reached = true
        then (s₁.serve (assignRequest env t realm.roles id "admin-token")).2
        else s₁).broker = s.broker := by
      intro reached
      cases reached with
      | false => exact broker
      | true => exact hbroker.trans broker
    cases result with
    | response r =>
      apply reports_ok (rest _ _ (posted.then (ends_pure _ _))) (hkept reached)
      cases reached with
      | true =>
        refine iff_of_true administers fun wrong => ?_
        rcases known_bad wrong with ⟨r, h⟩ | ⟨text, h⟩ <;> rw [hfate] at h <;> cases h
      | false =>
        exact iff_of_false (seated.unseated password)
          fun right => right (.assignment arrives creates known (.inl ⟨r, hfate⟩))
    | failure text =>
      apply reports_error ⟨_, rest _ _ (posted.raised _)⟩ (hkept reached)
      cases reached with
      | true =>
        exact iff_of_false (fun absent => absent administers)
          fun right => right (.assignment arrives creates known (.inr ⟨text, hfate⟩))
      | false =>
        refine iff_of_true (seated.unseated password) fun wrong => ?_
        rcases known_bad wrong with ⟨r, h⟩ | ⟨text, h⟩ <;> rw [hfate] at h <;> cases h

theorem reports_created (password : String) {s : Services} {realm : Realm}
    (arrives : Arrives env t o s) (creates : Creates env t o s realm) :
    Reports env t o s password (¬ Misreported env t o s password) := by
  obtain ⟨s₁, spared, stands, rest⟩ := keycloak_arrives password arrives
  obtain ⟨s₂, id, broker, seated, rest'⟩ := createUser_created env password "admin-token" stands
    creates
  have hbroker : s₂.broker = s.broker := broker.trans spared.broker
  have listed : o.fate .roles = .served ∨ Dropped (o.fate .roles) ∨ Refused (o.fate .roles) := by
    cases hfate : o.fate .roles with
    | served => exact .inl rfl
    | instead reached result =>
      cases result with
      | failure text => exact .inr (.inl ⟨reached, text, rfl⟩)
      | response r => exact .inr (.inr ⟨reached, r, rfl⟩)
  by_cases known : o.fate .roles = .served ∧ "cdm-admin" ∈ realm.roles
  · obtain ⟨s₃, alike, rest''⟩ := grantRoles_assigns env "admin-token" seated known
    exact reports_assigned arrives creates known (alike.broker.trans hbroker)
      (seated.alike alike) fun result s' ends => rest _ _ (rest' _ _ (rest'' _ _ ends))
  · by_cases dropped : Dropped (o.fate .roles)
    · obtain ⟨s', alike, fails⟩ := grantRoles_dropped env t.realmId (toString id) "admin-token" s₂
        dropped
      obtain ⟨error, ends⟩ := fails
      apply reports_error ⟨error, rest _ _ (rest' _ _ ends)⟩ (alike.broker.trans hbroker)
      refine iff_of_true ((seated.alike alike).unseated password) fun wrong => ?_
      obtain ⟨reached, text, hfate⟩ := dropped
      rcases misreported_of_creates creates wrong with (⟨_, _, h⟩ | ⟨h, _⟩) | ⟨⟨h, _⟩, _⟩ <;>
        rw [hfate] at h <;> cases h
    · have unknown : Refused (o.fate .roles) ∨
          o.fate .roles = .served ∧ "cdm-admin" ∉ realm.roles := by
        rcases listed with served | hdropped | refused
        · exact .inr ⟨served, fun present => known ⟨served, present⟩⟩
        · exact absurd hdropped dropped
        · exact .inl refused
      obtain ⟨s', alike, ends⟩ := grantRoles_unknown env "admin-token" seated unknown
      apply reports_ok (rest _ _ (rest' _ _ ends)) (alike.broker.trans hbroker)
      exact iff_of_false ((seated.alike alike).unseated password)
        fun right => right (.roleless arrives creates unknown)

theorem keycloak_reports (env : Env) (t : Tenant) (o : Outcomes) (s : Services)
    (password : String) : Reports env t o s password (¬ Misreported env t o s password) := by
  by_cases arrives : Arrives env t o s
  · by_cases found : FindsConflict env t o s
    · exact reports_conflict password arrives found
    · by_cases creates : ∃ realm, Creates env t o s realm
      · obtain ⟨realm, creates⟩ := creates
        exact reports_created password arrives creates
      · have uncreated : ∀ realm, ¬ Creates env t o s realm := not_exists.mp creates
        obtain ⟨s₁, spared, stands, rest⟩ := keycloak_arrives password arrives
        obtain ⟨s', spared', error, ends⟩ := createUser_fails env password "admin-token" stands
          found uncreated
        exact reports_failed ⟨error, rest _ _ ends⟩ (spared.trans spared')
          (fun both => found both.2) fun _ => uncreated
  · obtain ⟨s', spared, fails⟩ := keycloak_stops password arrives
    exact reports_failed fails spared (fun both => arrives both.1) fun h => absurd h arrives

/-! ### RabbitMQ -/

section RabbitMq

variable {self : RabbitMQClient} {call : RabbitCall} {expected : List Nat} {action : String}
  {s : Services}

/-- The request that one call of the Management API makes. -/
def rabbitRequest (self : RabbitMQClient) (call : RabbitCall) : HttpRequest :=
  .rabbitmq self.mgmtUrl self.adminUser self.adminPassword call

theorem rabbit_served (served : o.fate (stepOf (rabbitRequest self call)) = .served)
    (hstatus : status s.broker call ∈ expected) :
    Ends o (self.request call expected action) s (.ok ())
      { s with broker := s.broker.apply call } := by
  have posted := ends_served (o := o) (s := s) (rabbitRequest self call) served
  refine posted.then ?_
  have hexpected : (s.serve (rabbitRequest self call)).1.status ∈ expected := hstatus
  rw [if_pos hexpected]
  exact ends_pure _ _

/-- A call that is not served raises; the class shows what happened. -/
def RabbitStops (o : Outcomes) (step : Step) (error : Raised) : Prop :=
  (Dropped (o.fate step) ∧ error.isRabbitMqError = false) ∨
    (Refused (o.fate step) ∧ error.isRabbitMqError = true)

theorem rabbit_stops (self : RabbitMQClient) (call : RabbitCall) (action : String) (s : Services)
    (other : o.fate (stepOf (rabbitRequest self call)) ≠ .served)
    (successes : ∀ n ∈ expected, 200 ≤ n ∧ n < 300) :
    ∃ error s', s'.keycloak = s.keycloak ∧
      Ends o (self.request call expected action) s (.error error) s' ∧
      RabbitStops o (stepOf (rabbitRequest self call)) error := by
  cases hfate : o.fate (stepOf (rabbitRequest self call)) with
  | served => exact absurd hfate other
  | instead reached result =>
    have posted := ends_instead (o := o) (s := s) (rabbitRequest self call) hfate
    have same : (if reached then (s.serve (rabbitRequest self call)).2 else s).keycloak =
        s.keycloak := by
      cases reached <;> rfl
    cases result with
    | failure text =>
      exact ⟨_, _, same, posted.raised _, .inl ⟨⟨reached, text, hfate⟩, rfl⟩⟩
    | response r =>
      have hrefused := refused_status hfate
      have unexpected : r.status ∉ expected := by
        intro hmem
        obtain ⟨low, high⟩ := successes _ hmem
        have hsuccess : r.isSuccess = true := by
          simp [Response.isSuccess, low, Nat.le_of_lt_succ high]
        rw [hsuccess] at hrefused
        cases hrefused
      refine ⟨.rabbitMqError ("RabbitMQ API: " ++ action ++ " failed with HTTP " ++
        toString r.status ++ ": " ++ prefixOf r.text 200), _, same, posted.then ?_,
        .inr ⟨⟨reached, r, hfate⟩, rfl⟩⟩
      rw [if_neg unexpected, raiseForStatus, if_neg (by simp [hrefused])]
      exact fun w => rfl

end RabbitMq

theorem ok_statuses : ∀ n ∈ [201, 204], 200 ≤ n ∧ n < 300 := by decide

/-- How the step for RabbitMQ ends. -/
structure BrokerEnds (env : Env) (t : Tenant) (o : Outcomes) (s : Services) (password : String)
    (result : Except Raised Unit) (s' : Services) : Prop where
  ends : Ends o ((rabbitmq env.settings).provisionTenant t.realmId password) s result s'
  keycloak : s'.keycloak = s.keycloak
  hosts : result = .ok () → Hosts s'.broker t.realmId password
  dropped : (∃ error, result = .error error ∧ error.isRabbitMqError = false) ↔ BrokerDropped o

theorem stops_iff {step : Step} {error : Raised} (stops : RabbitStops o step error) :
    (∃ e, (.error error : Except Raised Unit) = .error e ∧ e.isRabbitMqError = false) ↔
      Dropped (o.fate step) := by
  rcases stops with ⟨dropped, hclass⟩ | ⟨⟨_, _, hrefused⟩, hclass⟩
  · exact iff_of_true ⟨error, rfl, hclass⟩ dropped
  · refine iff_of_false ?_ ?_
    · intro h
      obtain ⟨e, heq, hother⟩ := h
      cases heq
      rw [hclass] at hother
      cases hother
    · intro h
      obtain ⟨_, _, hdropped⟩ := h
      rw [hrefused] at hdropped
      cases hdropped

theorem not_dropped_of_served {step : Step} (served : o.fate step = .served) :
    ¬ Dropped (o.fate step) := by
  intro h
  obtain ⟨_, _, h⟩ := h
  rw [served] at h
  cases h

/-- RabbitMQ after a call. -/
def called (s : Services) (call : RabbitCall) : Services :=
  { s with broker := s.broker.apply call }

theorem createVhost_served (self : RabbitMQClient) (name : String) (s : Services)
    (served : o.fate .vhost = .served) :
    Ends o (self.createVhost name) s (.ok ())
      (called s (.putVhost name ("Tenant vHost: " ++ name))) := by
  apply rabbit_served served
  simp only [status]
  split <;> simp

theorem createUser_served (self : RabbitMQClient) (name password tags : String) (s : Services)
    (served : o.fate .account = .served) :
    Ends o (self.createUser name password tags) s (.ok ())
      (called s (.putUser name password tags)) := by
  apply rabbit_served served
  simp only [status]
  split <;> simp

theorem setPermissions_served (self : RabbitMQClient) (name vhost : String) (s : Services)
    (there : vhost ∈ s.broker.vhosts.keys ∧ name ∈ s.broker.users.keys)
    (served : o.fate .permissions = .served) :
    Ends o (self.setPermissions name vhost) s (.ok ())
      (called s (.putPermissions name vhost ".*" ".*" ".*")) := by
  apply rabbit_served served
  simp [status, there]

/-- A step that stops, and is the first that does. -/
theorem broker_stops {env : Env} {s s' : Services} {password : String} {step : Step}
    {error : Raised} (ends : Ends o ((rabbitmq env.settings).provisionTenant t.realmId password) s
      (.error error) s') (keycloak : s'.keycloak = s.keycloak) (stops : RabbitStops o step error)
    (first : Dropped (o.fate step) ↔ BrokerDropped o) :
    ∃ result s', BrokerEnds env t o s password result s' :=
  ⟨.error error, s', ends, keycloak, fun h => (by cases h), (stops_iff stops).trans first⟩

theorem mem_keys_set {κ ν : Type} [DecidableEq κ] (d : Dict κ ν) (k : κ) (v : ν) :
    k ∈ (d.set k v).keys := by
  by_contra absent
  have hnone := (Dict.get?_eq_none_iff _ _).mpr absent
  rw [Dict.get?_set_self] at hnone
  cases hnone

theorem apply_putPermissions {broker : Broker} {user vhost : String}
    (there : vhost ∈ broker.vhosts.keys ∧ user ∈ broker.users.keys) :
    broker.apply (.putPermissions user vhost ".*" ".*" ".*") =
      { broker with permissions := broker.permissions.set (user, vhost) everything } := by
  rw [Broker.apply, if_pos there]
  rfl

/-- All three calls are served. -/
theorem hosts_called (t : Tenant) (password : String) (s : Services) :
    Hosts (called (called (called s (.putVhost t.realmId ("Tenant vHost: " ++ t.realmId)))
      (.putUser t.realmId password "none")) (.putPermissions t.realmId t.realmId ".*" ".*" ".*")
      ).broker t.realmId password ∧
    t.realmId ∈ (called (called s (.putVhost t.realmId ("Tenant vHost: " ++ t.realmId)))
      (.putUser t.realmId password "none")).broker.vhosts.keys ∧
    t.realmId ∈ (called (called s (.putVhost t.realmId ("Tenant vHost: " ++ t.realmId)))
      (.putUser t.realmId password "none")).broker.users.keys := by
  have hvhost := mem_keys_set s.broker.vhosts t.realmId ("Tenant vHost: " ++ t.realmId)
  have huser := mem_keys_set s.broker.users t.realmId ⟨some password, "none"⟩
  refine ⟨?_, hvhost, huser⟩
  rw [called, apply_putPermissions ⟨hvhost, huser⟩]
  refine ⟨?_, ⟨"none", Dict.get?_set_self _ _ _⟩, Dict.get?_set_self _ _ _⟩
  exact Option.isSome_of_eq_some (Dict.get?_set_self _ _ _)

theorem broker_ends (env : Env) (t : Tenant) (o : Outcomes) (s : Services) (password : String) :
    ∃ result s', BrokerEnds env t o s password result s' := by
  obtain ⟨hosts, there⟩ := hosts_called t password s
  by_cases hvhost : o.fate .vhost = .served
  · have vhost := createVhost_served (rabbitmq env.settings) t.realmId s hvhost
    by_cases haccount : o.fate .account = .served
    · have account := createUser_served (rabbitmq env.settings) t.realmId password "none"
        (called s (.putVhost t.realmId ("Tenant vHost: " ++ t.realmId))) haccount
      by_cases hpermissions : o.fate .permissions = .served
      · have permissions := setPermissions_served (rabbitmq env.settings) t.realmId t.realmId _
          there hpermissions
        refine ⟨.ok (), _, vhost.then (account.then permissions), rfl, fun _ => hosts, ?_⟩
        refine iff_of_false (fun h => ?_) fun h => ?_
        · obtain ⟨_, h, _⟩ := h
          cases h
        · rcases h with h | ⟨_, h⟩ | ⟨_, _, h⟩
          · exact not_dropped_of_served hvhost h
          · exact not_dropped_of_served haccount h
          · exact not_dropped_of_served hpermissions h
      · obtain ⟨error, s', keycloak, ends, stops⟩ := rabbit_stops (o := o)
          (rabbitmq env.settings) (.putPermissions t.realmId t.realmId ".*" ".*" ".*")
          ("set permissions for '" ++ t.realmId ++ "' on '" ++ t.realmId ++ "'")
          (called (called s (.putVhost t.realmId ("Tenant vHost: " ++ t.realmId)))
            (.putUser t.realmId password "none")) hpermissions ok_statuses
        refine broker_stops (vhost.then (account.then ends)) keycloak stops ?_
        constructor
        · exact fun h => .inr (.inr ⟨hvhost, haccount, h⟩)
        · intro h
          rcases h with h | ⟨_, h⟩ | ⟨_, _, h⟩
          · exact absurd h (not_dropped_of_served hvhost)
          · exact absurd h (not_dropped_of_served haccount)
          · exact h
    · obtain ⟨error, s', keycloak, ends, stops⟩ := rabbit_stops (o := o)
        (rabbitmq env.settings) (.putUser t.realmId password "none")
        ("create user '" ++ t.realmId ++ "'")
        (called s (.putVhost t.realmId ("Tenant vHost: " ++ t.realmId))) haccount ok_statuses
      refine broker_stops (vhost.then (ends.raised _)) keycloak stops ?_
      constructor
      · exact fun h => .inr (.inl ⟨hvhost, h⟩)
      · intro h
        rcases h with h | ⟨_, h⟩ | ⟨_, h, _⟩
        · exact absurd h (not_dropped_of_served hvhost)
        · exact h
        · exact absurd h haccount
  · obtain ⟨error, s', keycloak, ends, stops⟩ := rabbit_stops (o := o)
      (rabbitmq env.settings) (.putVhost t.realmId ("Tenant vHost: " ++ t.realmId))
      ("create vhost '" ++ t.realmId ++ "'") s hvhost ok_statuses
    refine broker_stops (ends.raised _) keycloak stops ?_
    constructor
    · exact .inl
    · intro h
      rcases h with h | ⟨h, _⟩ | ⟨h, _⟩
      · exact h
      · exact absurd h hvhost
      · exact absurd h hvhost

/-! ## The handler -/

/-- The world after the first password, and after the second. -/
def drawn (w : World) : World := { w with choices := w.choices + 24 }

theorem randomPassword_session (env : Env) (o : Outcomes) (w : World) (s : Services) :
    (randomPassword env).run.session o.server (w, s) =
      some (.ok (freshPassword env w), (drawn w, s)) := rfl

theorem some_of_none {α : Type} {found : Option α} {value : α} (absent : found = none) :
    ¬ found = some value := by
  rw [absent]
  simp

theorem onboard_runs {w : World} {s s₁ s₂ : Services} {keycloak broker : Except Raised Unit}
    (hkeycloak : Ends o (keycloakStep env t (freshPassword env w)) s keycloak s₁)
    (hbroker : Ends o ((rabbitmq env.settings).provisionTenant t.realmId
      (freshPassword env (drawn w))) s₁ broker s₂) :
    ∃ answer, (onboardTenant env t.realmId t.displayName t.adminEmail t.adminUser).run.session
        o.server (w, s) = some (answer, (drawn (drawn w), s₂)) ∧
      (∀ error, broker = .error error → error.isRabbitMqError = false → answer = .error error) ∧
      ((∀ error, broker = .error error → error.isRabbitMqError = true) →
        ∃ created, answer = .ok created ∧ created.adminPassword = freshPassword env w ∧
          (created.results.get? "keycloak" = some "created" ↔ keycloak = .ok ()) ∧
          (created.results.get? "rabbitmq" = some "created" ↔ broker = .ok ()) ∧
          ∀ password, created.results.get? "rabbitmq_password" = some password ↔
            broker = .ok () ∧ password = freshPassword env (drawn w)) := by
  have first : (attempt (fun _ => true) (createKeycloakRealm env t.realmId t.displayName
      t.adminUser t.adminEmail (freshPassword env w))).run.session o.server (drawn w, s) =
      some (.ok keycloak, (drawn w, s₁)) := by
    have hcaught := session_attempt (fun _ => true) (hkeycloak (drawn w))
    cases keycloak <;> exact hcaught
  have second := session_attempt Raised.isRabbitMqError (hbroker (drawn (drawn w)))
  unfold onboardTenant
  rw [session_then (randomPassword_session env o w s), session_then first,
    session_then (randomPassword_session env o (drawn w) s₁)]
  cases broker with
  | ok _ =>
    rw [session_then second]
    refine ⟨_, rfl, fun error h => (by cases h),
      fun _ => ⟨_, rfl, rfl, ?_, ?_, fun password => ?_⟩⟩
    · cases keycloak with
      | ok _ => exact iff_of_true rfl rfl
      | error _ => exact iff_of_false (some_of_none rfl) (by simp)
    · cases keycloak <;> exact iff_of_true rfl rfl
    · have hreturned : ∀ returned : Option String, returned = some (freshPassword env (drawn w)) →
          (returned = some password ↔
            (.ok () : Except Raised Unit) = .ok () ∧ password = freshPassword env (drawn w)) := by
        intro returned heq
        rw [heq]
        simp [eq_comm]
      cases keycloak <;> exact hreturned _ rfl
  | error error =>
    cases hclass : error.isRabbitMqError with
    | true =>
      have hcaught : caught Raised.isRabbitMqError (.error error : Except Raised Unit) =
          .ok (.error error) := by
        rw [caught, if_pos hclass]
      rw [hcaught] at second
      rw [session_then second]
      refine ⟨_, rfl, ?_, fun _ => ⟨_, rfl, rfl, ?_, ?_, fun password => ?_⟩⟩
      · intro e heq hother
        cases heq
        rw [hclass] at hother
        cases hother
      · cases keycloak with
        | ok _ => exact iff_of_true rfl rfl
        | error _ => exact iff_of_false (some_of_none rfl) (by simp)
      · cases keycloak <;> exact iff_of_false (some_of_none rfl) (by simp)
      · cases keycloak <;> exact iff_of_false (some_of_none rfl) (by simp)
    | false =>
      have hcaught : caught Raised.isRabbitMqError (.error error : Except Raised Unit) =
          .error error := by
        rw [caught, if_neg (by simp [hclass])]
      rw [hcaught] at second
      rw [session_raised second]
      refine ⟨_, rfl, ?_, ?_⟩
      · intro e heq _
        cases heq
        rfl
      · intro caughtAll
        have hclass' := caughtAll error rfl
        rw [hclass] at hclass'
        cases hclass'

theorem createTenant_accepted {caller : Caller} {body : Except String Json}
    (accepted : Accepted env caller body t) :
    createTenant env caller body = (do
      let created ← onboardTenant env t.realmId t.displayName t.adminEmail t.adminUser
      pure (.ok created)) := by
  obtain ⟨⟨user, hadmin⟩, read, named, identifier, unprotected⟩ := accepted
  obtain ⟨value, text, rfl, hrealm, hlower, hdisplay, hemail, huser⟩ := read
  have known : ∀ {α β : Type} (value : α) (f : α → App β),
      (language (.ok value) >>= f) = f value := fun _ _ => rfl
  have invalid : ¬ (t.realmId = "" ∨ env.py.isidentifier t.realmId = false) := by
    simp [named, identifier]
  unfold createTenant
  rw [hadmin, known]
  dsimp only
  rw [hrealm, known]
  rw [← hlower, hdisplay, known, hemail, known, huser, known, if_neg invalid,
    if_neg unprotected]

/-- The report is true exactly when RabbitMQ can be reached and none of the ways
in which the report about Keycloak is wrong shows. -/
theorem create_tenant_truthful_iff (env : Env) (caller : Caller) (body : Except String Json)
    (t : Tenant) (o : Outcomes) (w : World) (s : Services)
    (accepted : Accepted env caller body t) :
    ∃ answer w' s', (createTenant env caller body).run.session o.server (w, s) =
        some (answer, (w', s')) ∧
      (Truthful env t w answer s' ↔
        ¬ BrokerDropped o ∧ ¬ Misreported env t o s (freshPassword env w)) := by
  obtain ⟨keycloak, s₁, hkeycloak, _, htrue⟩ := keycloak_reports env t o s (freshPassword env w)
  obtain ⟨broker, s₂, hbroker⟩ := broker_ends env t o s₁ (freshPassword env (drawn w))
  obtain ⟨onboarded, honboard, raised, created⟩ := onboard_runs hkeycloak hbroker.ends
  rw [createTenant_accepted accepted]
  cases onboarded with
  | error error =>
    refine ⟨_, _, _, session_raised honboard, ?_⟩
    refine iff_of_false (fun h => ?_) fun h => ?_
    · obtain ⟨_, h, _⟩ := h
      cases h
    · have all : ∀ e, broker = .error e → e.isRabbitMqError = true := by
        intro e heq
        by_contra hother
        exact h.1 (hbroker.dropped.mp ⟨e, heq, by simpa using hother⟩)
      obtain ⟨_, h, _⟩ := created all
      cases h
  | ok value =>
    refine ⟨_, _, _, session_then honboard, ?_⟩
    have all : ∀ e, broker = .error e → e.isRabbitMqError = true := by
      intro e heq
      by_contra hother
      have h := raised e heq (by simpa using hother)
      cases h
    have reached : ¬ BrokerDropped o := by
      intro dropped
      obtain ⟨e, heq, hother⟩ := hbroker.dropped.mpr dropped
      rw [all e heq] at hother
      cases hother
    obtain ⟨made, hmade, hpassword, hkc, hrmq, hreturned⟩ := created all
    cases hmade
    rw [← hbroker.keycloak] at htrue
    have hrabbit : value.results.get? "rabbitmq" = some "created" ↔
        ∃ password, value.results.get? "rabbitmq_password" = some password ∧
          Hosts s₂.broker t.realmId password := by
      rw [hrmq]
      constructor
      · intro hok
        exact ⟨_, (hreturned _).mpr ⟨hok, rfl⟩, hbroker.hosts hok⟩
      · intro h
        obtain ⟨password, hfound, _⟩ := h
        exact ((hreturned password).mp hfound).1
    constructor
    · intro h
      obtain ⟨_, heq, _, hkeycloak, _⟩ := h
      cases heq
      rw [hpassword] at hkeycloak
      exact ⟨reached, htrue.mp (hkc.symm.trans hkeycloak)⟩
    · intro h
      refine ⟨value, rfl, hpassword, ?_, hrabbit⟩
      rw [hpassword]
      exact hkc.trans (htrue.mpr h.2)

end Stages

/-! ## Two tenants -/

def undisturbed : Outcomes := ⟨fun _ => .served, fun _ _ _ h => (by cases h)⟩

def acme : Tenant := ⟨"acme", "acme", "admin@acme.local", "acme-admin"⟩

def acmeBody : Json := .obj [("realm_id", .str "acme")]

theorem acme_accepted : Accepted Env.counting cdmAdmin (.ok acmeBody) acme where
  admin := ⟨cdmAdmin.user, rfl⟩
  read := ⟨acmeBody, "acme", rfl, by decide +kernel⟩
  named := by decide
  identifier := by decide +kernel
  unprotected := by decide

/-- No realm, no vhost. -/
def bareServices : Services :=
  ⟨⟨.empty, [], 0⟩, Broker.platform "admin" "changeme", []⟩

theorem acme_created : ∃ answer w' s',
    (createTenant Env.counting cdmAdmin (.ok acmeBody)).run.session undisturbed.server
      (World.empty, bareServices) = some (answer, (w', s')) ∧
    Truthful Env.counting acme World.empty answer s' := by
  obtain ⟨answer, w', s', hrun, hiff⟩ := create_tenant_truthful_iff Env.counting cdmAdmin
    (.ok acmeBody) acme undisturbed World.empty bareServices acme_accepted
  refine ⟨answer, w', s', hrun, hiff.mpr ⟨?_, ?_⟩⟩
  · intro dropped
    rcases dropped with h | ⟨_, h⟩ | ⟨_, _, h⟩ <;> exact not_dropped_of_served rfl h
  · intro wrong
    have hrealm : realmThen Env.counting acme undisturbed bareServices =
        some (newRealm (realmPayload Env.counting "acme" "acme") "0") := rfl
    have uncontested : ¬ FindsConflict Env.counting acme undisturbed bareServices := by
      intro found
      rcases found with ⟨_, realm, hfound, hconflict⟩ | ⟨_, _, h, _⟩
      · rw [hrealm] at hfound
        cases hfound
        cases hconflict
      · cases h
    cases wrong with
    | conflict _ found _ => exact uncontested found
    | roleless _ creates unknown =>
      rcases unknown with ⟨_, _, h⟩ | ⟨_, missing⟩
      · cases h
      · have hsame := creates.2.1
        rw [hrealm] at hsame
        cases hsame
        exact missing (by decide +kernel)
    | assignment _ _ _ bad =>
      rcases bad with ⟨_, h⟩ | ⟨_, h⟩ <;> cases h
    | unreported holds _ =>
      obtain ⟨_, _, h, _⟩ := holds
      cases h

/-- The realm and its administrator are there already, with another password. -/
def occupied : Services :=
  ⟨⟨Dict.empty.set "acme" ⟨["cdm-admin"], Dict.empty.set "acme-admin"
      ⟨"7", "admin@acme.local", some "chosen-at-first-login", ["cdm-admin"]⟩, some "1", []⟩,
    [], 8⟩, Broker.platform "admin" "changeme", []⟩

/-- Whether success is reported without the password being in effect. -/
def passedOver (answer : Except Raised (Except Refusal TenantCreated)) (s : Services) : Bool :=
  match answer with
  | .ok (.ok created) =>
      created.results.get? "keycloak" = some "created" &&
        ((s.keycloak.realms.get? "acme").bind fun realm =>
          (realm.users.get? "acme-admin").bind KeycloakUser.password) ≠ some created.adminPassword
  | _ => false

/-- A repeated creation reports a password that nobody can use. -/
theorem acme_again_untruthful : Accepted Env.counting cdmAdmin (.ok acmeBody) acme ∧
    ∃ answer w' s',
      (createTenant Env.counting cdmAdmin (.ok acmeBody)).run.session undisturbed.server
        (World.empty, occupied) = some (answer, (w', s')) ∧
      ¬ Truthful Env.counting acme World.empty answer s' := by
  have hpassed : (((createTenant Env.counting cdmAdmin (.ok acmeBody)).run.session
      undisturbed.server (World.empty, occupied)).map fun ended =>
        passedOver ended.1 ended.2.2) = some true := by
    decide +kernel
  obtain ⟨⟨answer, w', s'⟩, hrun, hover⟩ := Option.map_eq_some_iff.mp hpassed
  refine ⟨acme_accepted, answer, w', s', hrun, fun truthful => ?_⟩
  obtain ⟨created, rfl, _, hkeycloak, _⟩ := truthful
  simp only [passedOver, Bool.and_eq_true, decide_eq_true_eq] at hover
  obtain ⟨hcreated, hother⟩ := hover
  obtain ⟨realm, user, hrealm, huser, hpassword, _⟩ := hkeycloak.mp hcreated
  apply hother
  have hrealm' : s'.keycloak.realms.get? "acme" = some realm := hrealm
  have huser' : realm.users.get? "acme-admin" = some user := huser
  rw [hrealm', Option.bind_some, huser', Option.bind_some, hpassword]

end CompleteDeviceManagement.Guarantees.TenantCreation
