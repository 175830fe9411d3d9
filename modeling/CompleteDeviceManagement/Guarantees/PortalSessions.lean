import CompleteDeviceManagement.Guarantees.BearerClaims
import CompleteDeviceManagement.Source.Portal

/-!
# Portal sessions and the login that started them

A session names the state, the nonce and the realm of its login until a callback
uses them up. The callback compares the state; it reads neither the nonce of the
ID token nor whether the access token has a subject. A run is bound to its logins
exactly if every token response that a callback accepts has both.
-/

set_option autoImplicit false

namespace CompleteDeviceManagement.Guarantees.PortalSessions
open CompleteDeviceManagement.Library CompleteDeviceManagement.Source.Runtime
  CompleteDeviceManagement.Source.Portal

/-! ## What a token response carries -/

/-- `value[key]` where it is there. -/
def member (key : String) : Json → Option Json
  | .obj fields => Json.field? key fields
  | _ => none

def IsObject (value : Json) : Prop := ∃ fields, value = .obj fields

section Tokens

variable (env : PortalEnv)

def accessClaims (body : Json) : Json :=
  tokenPayload env ((member "access_token" body).getD (.str ""))

def idClaims (body : Json) : Json :=
  tokenPayload env ((member "id_token" body).getD (.str ""))

def HasSubject (claims : Json) : Prop := ∃ sub, member "sub" claims = some (.str sub) ∧ sub ≠ ""

def CarriesNonce (nonce : String) (claims : Json) : Prop :=
  member "nonce" claims = some (.str nonce)

/-- The value of `realm_access.roles`. -/
def realmRoles (claims : Json) : Json :=
  ((member "realm_access" claims).bind (member "roles")).getD (.arr [])

/-- The roles that iterating over that value gives. -/
def RealmRole (claims : Json) (role : String) : Prop :=
  ∃ items, (realmRoles claims).iter = .ok items ∧ .str role ∈ items

def knownRoles : List String := adminRoles ++ operatorRoles ++ viewerRoles

/-- The response and the static map have the shapes that the callback goes
through: objects where it looks a key up, and roles that can be in a set. -/
structure Readable (tenant : String) (body : Json) : Prop where
  response : IsObject body
  claims : IsObject (accessClaims env body)
  access : ∀ value, member "realm_access" (accessClaims env body) = some value → IsObject value
  roles : ∃ items, (realmRoles (accessClaims env body)).iter = .ok items ∧
    ∀ role ∈ items, role.hashable = true
  tenants : IsObject (parseTenants env)
  entry : ∀ value, member tenant (parseTenants env) = some value → IsObject value

/-- The JSON of the token endpoint's 200 response to a callback. -/
def tokenAnswer (query : CallbackQuery) (post : TokenRequest → HttpResult) (tenant : String) :
    Option Json :=
  match post (tokenRequest env tenant (query.code.getD "")) with
  | .response resp => if resp.status = 200 then resp.json.toOption else none
  | .failure _ => none

end Tokens

/-! ## A browser -/

/-- What a login drew, and the realm it is for. -/
structure Login where
  state : String
  nonce : String
  tenant : String

/-- A browser session, and the most recent login that was started in it. -/
structure Browser where
  session : Session
  login : Option Login

def Browser.fresh : Browser := ⟨.empty, none⟩

section Runs

variable (env : PortalEnv)

/-- The login that a request starts. -/
def startedLogin : PortalRequest → Option Login
  | .login tenantField realmStatus state nonce =>
      match findTenant env (env.py.lower (env.py.strip tenantField)) realmStatus with
      | .ok (some tenant) => some ⟨state, nonce, tenant⟩
      | _ => none
  | _ => none

def Browser.step (b : Browser) (request : PortalRequest) : Browser :=
  ⟨(handle env b.session request).1, (startedLogin env request).or b.login⟩

/-- A property of every request, each in the state it finds. -/
def EveryStep (holds : Browser → PortalRequest → Prop) : Browser → List PortalRequest → Prop
  | _, [] => True
  | b, request :: rest => holds b request ∧ EveryStep holds (b.step env request) rest

/-- The user belongs to the login and to the response that made it. -/
structure BoundTo (login : Login) (query : CallbackQuery) (body : Json) (user : PortalUser) :
    Prop where
  state : query.state = some login.state
  realm : user.realm = login.tenant
  subject : HasSubject (accessClaims env body)
  nonce : CarriesNonce login.nonce (idClaims env body)
  roles : ∀ role, role ∈ user.roles ↔
    role ∈ knownRoles ∧ RealmRole (accessClaims env body) role

/-- A request that leaves a user has changed nothing, or is a callback whose user
is bound to the most recent login. -/
def SessionBound (b : Browser) (request : PortalRequest) : Prop :=
  ∀ user, (handle env b.session request).1.user = some user →
    (handle env b.session request).1 = b.session ∨
      ∃ query post login body, request = .callback query post ∧ b.login = some login ∧
        tokenAnswer env query post login.tenant = some body ∧ BoundTo env login query body user

/-- The callback passes its own checks: it has no error, it has a code, and its
state is the one that the session still waits for. -/
structure Admitted (b : Browser) (query : CallbackQuery) (login : Login) : Prop where
  started : b.login = some login
  waiting : b.session.oauthState = some login.state
  state : query.state = some login.state
  drawn : login.state ≠ ""
  error : given query.error = false
  code : given query.code = true

/-- A readable response to an admitted callback has a subject and the nonce. -/
def Vouched (b : Browser) : PortalRequest → Prop
  | .callback query post => ∀ login body, Admitted b query login →
      tokenAnswer env query post login.tenant = some body → Readable env login.tenant body →
      HasSubject (accessClaims env body) ∧ CarriesNonce login.nonce (idClaims env body)
  | _ => True

/-- The session after an admitted callback, by what the token endpoint answers. -/
def afterAnswer (session : Session) (tenant : String) : Option Json → Session
  | none => session
  | some body =>
      match portalUser env tenant body with
      | .ok user => ⟨none, none, none, some user⟩
      | .error _ => session

end Runs

/-! ## Reading a response -/

theorem get_ok_iff {value : Json} {key : String} {fallback v : Json} :
    value.get key fallback = .ok v ↔ IsObject value ∧ v = (member key value).getD fallback := by
  constructor
  · intro h
    cases value with
    | obj fields =>
      have hv : (Json.field? key fields).getD fallback = v := Except.ok.inj h
      exact ⟨⟨fields, rfl⟩, hv.symm⟩
    | _ => cases h
  · rintro ⟨⟨fields, rfl⟩, rfl⟩
    rfl

theorem bind_ok {ε α β : Type} {first : Except ε α} {next : α → Except ε β} {value : β}
    (h : (first >>= next) = .ok value) : ∃ x, first = .ok x ∧ next x = .ok value := by
  cases first with
  | error error => cases h
  | ok x => exact ⟨x, rfl, h⟩

theorem cdmRoles_other {r : Json} (rest : List Json) (h : ∀ role, r ≠ .str role) :
    cdmRoles (r :: rest) =
      if r.hashable then cdmRoles rest
      else .error (.typeError ("unhashable type: '" ++ r.typeName ++ "'")) := by
  cases r with
  | str role => exact absurd rfl (h role)
  | _ => rfl

theorem cdmRoles_ok {items : List Json} {known : List String} (h : cdmRoles items = .ok known) :
    (∀ r ∈ items, r.hashable = true) ∧
      ∀ role, role ∈ known ↔ role ∈ knownRoles ∧ .str role ∈ items := by
  induction items generalizing known with
  | nil =>
    cases h
    simp
  | cons head rest ih =>
    by_cases text : ∃ role, head = .str role
    · obtain ⟨role, rfl⟩ := text
      obtain ⟨later, hlater, hknown⟩ := bind_ok h
      obtain ⟨hashable, mem⟩ := ih hlater
      have known_eq := Except.ok.inj hknown
      constructor
      · intro r hr
        rcases List.mem_cons.mp hr with rfl | hr
        · rfl
        · exact hashable r hr
      · intro other
        rw [← known_eq]
        split
        next hmem =>
          rw [List.mem_cons, List.mem_cons, mem, Json.str.injEq]
          constructor
          · rintro (rfl | ⟨hother, hrest⟩)
            · exact ⟨hmem, .inl rfl⟩
            · exact ⟨hother, .inr hrest⟩
          · rintro ⟨hother, rfl | hrest⟩
            · exact .inl rfl
            · exact .inr ⟨hother, hrest⟩
        next hmem =>
          rw [List.mem_cons, mem, Json.str.injEq]
          constructor
          · rintro ⟨hother, hrest⟩
            exact ⟨hother, .inr hrest⟩
          · rintro ⟨hother, rfl | hrest⟩
            · exact absurd hother hmem
            · exact ⟨hother, hrest⟩
    · have other : ∀ role, head ≠ .str role := fun role heq => text ⟨role, heq⟩
      rw [cdmRoles_other rest other] at h
      split at h
      next hhead =>
        obtain ⟨hashable, mem⟩ := ih h
        constructor
        · intro r hr
          rcases List.mem_cons.mp hr with rfl | hr
          · exact hhead
          · exact hashable r hr
        · intro role
          rw [mem, List.mem_cons]
          simp [(other role).symm]
      next => cases h

theorem cdmRoles_total {items : List Json} (hashable : ∀ r ∈ items, r.hashable = true) :
    ∃ known, cdmRoles items = .ok known := by
  induction items with
  | nil => exact ⟨[], rfl⟩
  | cons head rest ih =>
    obtain ⟨known, hrest⟩ := ih fun r hr => hashable r (List.mem_cons_of_mem head hr)
    by_cases text : ∃ role, head = .str role
    · obtain ⟨role, rfl⟩ := text
      unfold cdmRoles
      rw [hrest]
      exact ⟨_, rfl⟩
    · have other : ∀ role, head ≠ .str role := fun role heq => text ⟨role, heq⟩
      rw [cdmRoles_other rest other, if_pos (hashable head List.mem_cons_self)]
      exact ⟨known, hrest⟩

section Response

variable {env : PortalEnv} {tenant : String} {body : Json}

theorem realmRoles_of_access {claims : Json} :
    realmRoles claims =
      (member "roles" ((member "realm_access" claims).getD (.obj []))).getD (.arr []) := by
  unfold realmRoles
  cases member "realm_access" claims with
  | none => rfl
  | some access => rfl

theorem isObject_getD {value : Option Json} (h : ∀ v, value = some v → IsObject v) :
    IsObject (value.getD (.obj [])) := by
  cases value with
  | none => exact ⟨[], rfl⟩
  | some v => exact h v rfl

theorem isObject_of_getD {value : Option Json} (h : IsObject (value.getD (.obj []))) :
    ∀ v, value = some v → IsObject v := by
  rintro v rfl
  exact h

/-- A user is made only of a readable response, with the realm of the login and
the known roles. -/
theorem portalUser_ok {user : PortalUser} (h : portalUser env tenant body = .ok user) :
    Readable env tenant body ∧ user.realm = tenant ∧
      ∀ role, role ∈ user.roles ↔
        role ∈ knownRoles ∧ RealmRole (accessClaims env body) role := by
  unfold portalUser at h
  obtain ⟨accessToken, haccess, h⟩ := bind_ok h
  obtain ⟨idToken, hid, h⟩ := bind_ok h
  obtain ⟨realmAccess, hrealm, h⟩ := bind_ok h
  obtain ⟨roles, hroles, h⟩ := bind_ok h
  obtain ⟨items, hitems, h⟩ := bind_ok h
  obtain ⟨known, hknown, h⟩ := bind_ok h
  obtain ⟨sub, -, h⟩ := bind_ok h
  obtain ⟨name, -, h⟩ := bind_ok h
  obtain ⟨preferredUsername, -, h⟩ := bind_ok h
  obtain ⟨email, -, h⟩ := bind_ok h
  obtain ⟨entry, hentry, h⟩ := bind_ok h
  obtain ⟨tenantName, hname, h⟩ := bind_ok h
  have made := Except.ok.inj h
  obtain ⟨response, rfl⟩ := get_ok_iff.mp haccess
  obtain ⟨claims, rfl⟩ := get_ok_iff.mp hrealm
  obtain ⟨access, rfl⟩ := get_ok_iff.mp hroles
  obtain ⟨tenants, rfl⟩ := get_ok_iff.mp hentry
  obtain ⟨entryObject, -⟩ := get_ok_iff.mp hname
  have iterated : (realmRoles (accessClaims env body)).iter = .ok items := by
    rw [realmRoles_of_access]
    exact hitems
  obtain ⟨hashable, mem⟩ := cdmRoles_ok hknown
  refine ⟨⟨response, claims, isObject_of_getD access, ⟨items, iterated, hashable⟩, tenants,
    isObject_of_getD entryObject⟩, ?_, ?_⟩
  · rw [← made]
  · intro role
    rw [← made]
    constructor
    · intro hrole
      obtain ⟨inKnown, inItems⟩ := (mem role).mp hrole
      exact ⟨inKnown, items, iterated, inItems⟩
    · rintro ⟨inKnown, others, hothers, inOthers⟩
      rw [iterated] at hothers
      cases hothers
      exact (mem role).mpr ⟨inKnown, inOthers⟩

theorem portalUser_of_readable (h : Readable env tenant body) :
    ∃ user, portalUser env tenant body = .ok user := by
  obtain ⟨items, iterated, hashable⟩ := h.roles
  obtain ⟨known, hknown⟩ := cdmRoles_total hashable
  have read : ∀ {value : Json} (key : String) (fallback : Json), IsObject value →
      value.get key fallback = .ok ((member key value).getD fallback) :=
    fun key fallback object => get_ok_iff.mpr ⟨object, rfl⟩
  have access := isObject_getD h.access
  have entry := isObject_getD h.entry
  rw [realmRoles_of_access] at iterated
  have claims := h.claims
  unfold accessClaims at claims access iterated
  unfold portalUser
  rw [read _ _ h.response, read _ _ h.response]
  simp only [bind, Except.bind]
  rw [read _ _ claims, read _ _ claims, read _ _ claims, read _ _ claims, read _ _ claims]
  dsimp only
  rw [read _ _ access]
  dsimp only
  rw [iterated]
  dsimp only
  rw [hknown, read _ _ h.tenants]
  dsimp only
  rw [read _ _ entry]
  exact ⟨_, rfl⟩

end Response

/-! ## One request -/

section Requests

variable {env : PortalEnv} {b : Browser}

/-- A session that waits for a callback is the one its most recent login left. -/
def Waiting (b : Browser) : Prop :=
  ∀ state, b.session.oauthState = some state → ∃ login, b.login = some login ∧
    b.session = ⟨some login.state, some login.nonce, some login.tenant, none⟩ ∧ login.tenant ≠ ""

theorem findTenant_nonempty {input tenant : String} {realmStatus : String → Option Nat}
    (h : findTenant env input realmStatus = .ok (some tenant)) : tenant ≠ "" := by
  unfold findTenant at h
  obtain ⟨members, -, h⟩ := bind_ok h
  obtain ⟨matched, -, h⟩ := bind_ok h
  have found := Option.filter_eq_some_iff.mp (Except.ok.inj h)
  simpa using found.2

variable (env) in
/-- A login either starts, or changes nothing. -/
theorem login_cases (session : Session) (tenantField : String)
    (realmStatus : String → Option Nat) (state nonce : String) :
    (∃ tenant, tenant ≠ "" ∧
      startedLogin env (.login tenantField realmStatus state nonce) =
        some ⟨state, nonce, tenant⟩ ∧
      (handle env session (.login tenantField realmStatus state nonce)).1 =
        ⟨some state, some nonce, some tenant, none⟩) ∨
    (startedLogin env (.login tenantField realmStatus state nonce) = none ∧
      (handle env session (.login tenantField realmStatus state nonce)).1 = session) := by
  unfold startedLogin handle portalLogin
  dsimp only
  cases found : findTenant env (env.py.lower (env.py.strip tenantField)) realmStatus with
  | error error => exact .inr ⟨rfl, rfl⟩
  | ok result =>
    cases result with
    | none => exact .inr ⟨rfl, rfl⟩
    | some tenant => exact .inl ⟨tenant, findTenant_nonempty found, rfl, rfl⟩

theorem callback_admitted {query : CallbackQuery} {login : Login}
    (post : TokenRequest → HttpResult) (waiting : Waiting b) (admitted : Admitted b query login) :
    (handle env b.session (.callback query post)).1 =
      afterAnswer env b.session login.tenant (tokenAnswer env query post login.tenant) := by
  obtain ⟨same, hlogin, hsession, htenant⟩ := waiting login.state admitted.waiting
  have hsame : same = login := Option.some.inj (hlogin.symm.trans admitted.started)
  subst hsame
  have given_state : given query.state = true := by
    rw [admitted.state]
    simpa [given] using admitted.drawn
  have given_tenant : given b.session.oauthTenant = true := by
    rw [hsession]
    simpa [given] using htenant
  have passes : (!given query.code || !given query.state ||
      decide (query.state ≠ b.session.oauthState) || !given b.session.oauthTenant) = false := by
    rw [admitted.code, given_state, given_tenant, admitted.state, admitted.waiting]
    simp
  have tenantId : b.session.oauthTenant.getD "" = same.tenant := by
    rw [hsession]
    rfl
  unfold handle portalCallback tokenAnswer
  dsimp only
  rw [if_neg (Bool.eq_false_iff.mp admitted.error), if_neg (Bool.eq_false_iff.mp passes), tenantId]
  cases post (tokenRequest env same.tenant (query.code.getD "")) with
  | failure text => rfl
  | response resp =>
    by_cases status : resp.status = 200
    · dsimp only
      rw [if_neg (not_not_intro status), if_pos status]
      cases resp.json with
      | error text => rfl
      | ok body =>
        simp only [Except.mapError, Except.toOption, bind, Except.bind, afterAnswer]
        cases portalUser env same.tenant body <;> rfl
    · dsimp only
      rw [if_pos status, if_neg status]
      rfl

/-- A callback that is not admitted changes nothing. -/
theorem callback_refused {query : CallbackQuery} (post : TokenRequest → HttpResult)
    (waiting : Waiting b) (refused : ∀ login, ¬ Admitted b query login) :
    (handle env b.session (.callback query post)).1 = b.session := by
  unfold handle portalCallback
  dsimp only
  by_cases error : given query.error = true
  · rw [if_pos error]
    rfl
  rw [if_neg error]
  split
  · rfl
  next passes =>
    simp only [Bool.not_eq_true, Bool.or_eq_false_iff, Bool.not_eq_false', decide_eq_false_iff_not,
      not_not] at passes
    obtain ⟨⟨⟨code, state⟩, same⟩, -⟩ := passes
    cases hstate : query.state with
    | none =>
      rw [hstate] at state
      cases state
    | some drawn =>
      rw [hstate] at same state
      obtain ⟨login, hlogin, hsession, -⟩ := waiting drawn same.symm
      have hdrawn : drawn = login.state := by
        rw [hsession] at same
        exact Option.some.inj same
      subst hdrawn
      exact absurd ⟨hlogin, same.symm, hstate, by simpa [given] using state,
        Bool.eq_false_iff.mpr error, code⟩ (refused login)

theorem afterAnswer_ok {tenant : String} {body : Json} {user : PortalUser} (session : Session)
    (made : portalUser env tenant body = .ok user) :
    afterAnswer env session tenant (some body) = ⟨none, none, none, some user⟩ := by
  simp only [afterAnswer, made]

theorem afterAnswer_cases (session : Session) (tenant : String) (answer : Option Json) :
    afterAnswer env session tenant answer = session ∨
      ∃ body user, answer = some body ∧ portalUser env tenant body = .ok user ∧
        afterAnswer env session tenant answer = ⟨none, none, none, some user⟩ := by
  cases answer with
  | none => exact .inl rfl
  | some body =>
    cases made : portalUser env tenant body with
    | error raised =>
      left
      simp only [afterAnswer, made]
    | ok user => exact .inr ⟨body, user, rfl, made, afterAnswer_ok session made⟩

/-- A callback changes nothing, or is admitted and stores the user of its response. -/
theorem callback_cases (query : CallbackQuery) (post : TokenRequest → HttpResult)
    (waiting : Waiting b) :
    (handle env b.session (.callback query post)).1 = b.session ∨
      ∃ login body user, Admitted b query login ∧
        tokenAnswer env query post login.tenant = some body ∧
        portalUser env login.tenant body = .ok user ∧
        (handle env b.session (.callback query post)).1 = ⟨none, none, none, some user⟩ := by
  by_cases admitted : ∃ login, Admitted b query login
  · obtain ⟨login, admitted⟩ := admitted
    rw [callback_admitted post waiting admitted]
    rcases afterAnswer_cases b.session login.tenant (tokenAnswer env query post login.tenant) with
      same | ⟨body, user, answer, made, stored⟩
    · exact .inl same
    · exact .inr ⟨login, body, user, admitted, answer, made, stored⟩
  · exact .inl (callback_refused post waiting fun login h => admitted ⟨login, h⟩)

theorem waiting_fresh : Waiting .fresh := by
  intro state h
  cases h

theorem step_waiting (waiting : Waiting b) (request : PortalRequest) :
    Waiting (b.step env request) := by
  intro state pending
  unfold Browser.step at pending ⊢
  cases request with
  | login tenantField realmStatus drawn nonce =>
    rcases login_cases env b.session tenantField realmStatus drawn nonce with
      ⟨tenant, nonempty, started, session⟩ | ⟨started, session⟩
    · rw [started, session]
      exact ⟨⟨drawn, nonce, tenant⟩, rfl, rfl, nonempty⟩
    · rw [session] at pending
      rw [started, session]
      exact waiting state pending
  | callback query post =>
    rcases callback_cases query post waiting with same | ⟨login, body, user, -, -, -, stored⟩
    · rw [same] at pending
      rw [same]
      exact waiting state pending
    · rw [stored] at pending
      cases pending
  | logout => cases pending

/-- On a browser with a history, a request is bound exactly if it is vouched for. -/
theorem bound_iff_vouched (waiting : Waiting b) (request : PortalRequest) :
    SessionBound env b request ↔ Vouched env b request := by
  cases request with
  | login tenantField realmStatus state nonce =>
    refine iff_of_true ?_ trivial
    intro user huser
    rcases login_cases env b.session tenantField realmStatus state nonce with
      ⟨tenant, -, -, session⟩ | ⟨-, session⟩
    · rw [session] at huser
      cases huser
    · exact .inl session
  | logout =>
    refine iff_of_true ?_ trivial
    intro user huser
    cases huser
  | callback query post =>
    constructor
    · intro bound login body admitted answer readable
      obtain ⟨user, made⟩ := portalUser_of_readable readable
      have stored : (handle env b.session (.callback query post)).1 =
          ⟨none, none, none, some user⟩ := by
        rw [callback_admitted post waiting admitted, answer, afterAnswer_ok b.session made]
      rcases bound user (by rw [stored]) with same | ⟨query', post', login', body', h⟩
      · rw [stored] at same
        have idle := admitted.waiting
        rw [← same] at idle
        cases idle
      · obtain ⟨hrequest, hlogin, hanswer, bound⟩ := h
        cases hrequest
        have hsame : login = login' := Option.some.inj (admitted.started.symm.trans hlogin)
        subst hsame
        have hbody : body = body' := Option.some.inj (answer.symm.trans hanswer)
        subst hbody
        exact ⟨bound.subject, bound.nonce⟩
    · intro vouched user huser
      rcases callback_cases query post waiting with
        same | ⟨login, body, made, admitted, answer, hmade, stored⟩
      · exact .inl same
      · right
        rw [stored] at huser
        cases huser
        obtain ⟨readable, realm, roles⟩ := portalUser_ok hmade
        obtain ⟨subject, nonce⟩ := vouched login body admitted answer readable
        exact ⟨query, post, login, body, rfl, admitted.started, answer,
          ⟨admitted.state, realm, subject, nonce, roles⟩⟩

theorem everyStep_congr {holds holds' : Browser → PortalRequest → Prop} (waiting : Waiting b)
    (agree : ∀ {b : Browser}, Waiting b → ∀ request, holds b request ↔ holds' b request)
    (requests : List PortalRequest) :
    EveryStep env holds b requests ↔ EveryStep env holds' b requests := by
  induction requests generalizing b with
  | nil => rfl
  | cons request rest ih =>
    exact and_congr (agree waiting request) (ih (step_waiting waiting request))

end Requests

/-- In every run of requests from a browser without a session, every request is
bound to the login that started it exactly if every response that a callback
accepts has a subject and the nonce of that login. -/
theorem sessions_bound_iff (env : PortalEnv) (requests : List PortalRequest) :
    EveryStep env (SessionBound env) .fresh requests ↔
      EveryStep env (Vouched env) .fresh requests :=
  everyStep_congr waiting_fresh bound_iff_vouched requests

/-! ## A stale ID token -/

open CompleteDeviceManagement.Guarantees.BearerClaims
  (Token loadsUtf8 decodeJwtPayload_text dot_not_mem_header)

def acmeTenants : List (String × Json) :=
  [("tenant1", .obj [("name", .str "Acme Devices GmbH")])]

/-- One tenant in the static map; tokens are loaded as JSON in UTF-8. -/
def acmeEnv : PortalEnv where
  settings := {}
  portalTenantsJson := .ofList (JsonText.Style.ascii.write 0 (.obj acmeTenants))
  py := .ascii
  loadsText := JsonText.parse
  loads := loadsUtf8

/-- A token with these claims. -/
def tokenOf (claims : List (String × Json)) : Token where
  header := ['h']
  bytes := Utf8.encode (JsonText.Style.ascii.write 0 (.obj claims))
  signature := ['s']
  headerPlain := dot_not_mem_header

theorem tokenOf_claims {claims : List (String × Json)} (regular : JsonText.Regular (.obj claims)) :
    tokenPayload acmeEnv (.str (tokenOf claims).text) = .obj claims := by
  have loaded : loadsUtf8 (tokenOf claims).bytes = some (.obj claims) := by
    have bytes : (tokenOf claims).bytes =
        Utf8.encode (JsonText.Style.ascii.write 0 (.obj claims)) := rfl
    rw [bytes, loadsUtf8, Utf8.decode_encode, Option.bind_some,
      JsonText.parse_write JsonText.Style.ascii regular]
  have decoded : tokenPayload acmeEnv (.str (tokenOf claims).text) =
      decodeJwtPayload loadsUtf8 (tokenOf claims).text := rfl
  rw [decoded, decodeJwtPayload_text, loaded]
  rfl

def aliceClaims : List (String × Json) :=
  [("sub", .str "alice"), ("realm_access", .obj [("roles", .arr [.str "cdm-admin"])])]

/-- Alice's tokens, the ID token with the nonce of another login. -/
def staleTokens : Json := .obj
  [("access_token", .str (tokenOf aliceClaims).text),
    ("id_token", .str (tokenOf [("nonce", .str "stale")]).text)]

def acmeLogin : PortalRequest := .login "tenant1" (fun _ => none) "s" "n"

def staleCallback : PortalRequest :=
  .callback { code := some "c", state := some "s" } fun _ =>
    .response ⟨200, "", .ok staleTokens, none⟩

theorem acme_tenants : parseTenants acmeEnv = .obj acmeTenants := by
  have regular : JsonText.Regular (.obj acmeTenants) := by
    simp [acmeTenants, JsonText.Regular, JsonText.RegularMembers]
  have text : acmeEnv.portalTenantsJson =
      .ofList (JsonText.Style.ascii.write 0 (.obj acmeTenants)) := rfl
  have loads : acmeEnv.loadsText = JsonText.parse := rfl
  rw [parseTenants, text, loads, JsonText.parse_write JsonText.Style.ascii regular]
  rfl

theorem acme_found : findTenant acmeEnv (acmeEnv.py.lower (acmeEnv.py.strip "tenant1"))
    (fun _ => none) = .ok (some "tenant1") := by
  have input : acmeEnv.py.lower (acmeEnv.py.strip "tenant1") = "tenant1" := by decide +kernel
  rw [findTenant, acme_tenants, input]
  decide +kernel

theorem acme_started : Browser.fresh.step acmeEnv acmeLogin =
    ⟨⟨some "s", some "n", some "tenant1", none⟩, some ⟨"s", "n", "tenant1"⟩⟩ := by
  have started : startedLogin acmeEnv acmeLogin = some ⟨"s", "n", "tenant1"⟩ := by
    simp only [startedLogin, acmeLogin, acme_found]
  have session : (handle acmeEnv .empty acmeLogin).1 =
      ⟨some "s", some "n", some "tenant1", none⟩ := by
    simp only [handle, acmeLogin, portalLogin, acme_found, Except.mapError, bind, Except.bind,
      delivered]
  have fresh : Browser.fresh = ⟨.empty, none⟩ := rfl
  rw [fresh, Browser.step, started, session]
  rfl

theorem stale_access : accessClaims acmeEnv staleTokens = .obj aliceClaims :=
  tokenOf_claims (by
    simp [aliceClaims, JsonText.Regular, JsonText.RegularMembers, JsonText.RegularItems])

theorem stale_id : idClaims acmeEnv staleTokens = .obj [("nonce", .str "stale")] :=
  tokenOf_claims (by simp [JsonText.Regular, JsonText.RegularMembers])

theorem stale_readable : Readable acmeEnv "tenant1" staleTokens where
  response := ⟨_, rfl⟩
  claims := ⟨_, stale_access⟩
  access := by
    rw [stale_access]
    exact fun value h => ⟨_, (Option.some.inj h).symm⟩
  roles := by
    rw [stale_access]
    exact ⟨[.str "cdm-admin"], rfl, by simp [Json.hashable]⟩
  tenants := ⟨_, acme_tenants⟩
  entry := by
    rw [acme_tenants]
    exact fun value h => ⟨_, (Option.some.inj h).symm⟩

/-- The callback makes Alice a session although her ID token has another nonce. -/
theorem stale_nonce_accepted :
    ¬ EveryStep acmeEnv (SessionBound acmeEnv) .fresh [acmeLogin, staleCallback] := by
  rintro ⟨-, bound, -⟩
  have vouched := (bound_iff_vouched (step_waiting waiting_fresh acmeLogin) staleCallback).mp bound
  rw [acme_started] at vouched
  obtain ⟨-, nonce⟩ := vouched ⟨"s", "n", "tenant1"⟩ staleTokens
    ⟨rfl, rfl, rfl, by decide, rfl, rfl⟩ rfl stale_readable
  rw [stale_id] at nonce
  have equal : Json.str "stale" = .str "n" := Option.some.inj nonce
  exact absurd (Json.str.inj equal) (by decide)

end CompleteDeviceManagement.Guarantees.PortalSessions
