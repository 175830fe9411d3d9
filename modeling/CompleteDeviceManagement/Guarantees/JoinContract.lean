import CompleteDeviceManagement.Guarantees.Provisioning
import CompleteDeviceManagement.Library.EventLoop
import CompleteDeviceManagement.Source.Service

/-!
# What one section of a request can do

The contract of the service: which file a section of a handler writes and how,
which call it makes, and how it replies. Every result about runs of the service
is derived from it. `answers` says which answers the environment gives; the
certificates and the verdicts on tokens are stated in terms of it.
-/

set_option autoImplicit false

namespace CompleteDeviceManagement.Guarantees.JoinContract
open CompleteDeviceManagement.Library CompleteDeviceManagement.Source.Models
  CompleteDeviceManagement.Source.Runtime CompleteDeviceManagement.Source.AdminPortal
  CompleteDeviceManagement.Source.JoinStore CompleteDeviceManagement.Source.JoinKeyStore
  CompleteDeviceManagement.Source.JoinRouter CompleteDeviceManagement.Source.Service
  CompleteDeviceManagement.Guarantees.Provisioning
open CompleteDeviceManagement.Library.Fallible CompleteDeviceManagement.Library.EventLoop

/-- Nobody holds a lock. -/
structure Free (w : World) : Prop where
  store : w.storeLocked = false
  key : w.keyLocked = false

/-- Between two file operations of one section. -/
structure Held (start w : World) : Prop where
  free : Free w
  same : SameFiles start w

theorem Held.refl {w : World} (h : Free w) : Held w w := ⟨h, .refl w⟩

/-! ## Credentials -/

def SessionAdmin (caller : Caller) : Prop := ∃ user, getCdmAdmin caller = .ok (some user)

/-- Keycloak accepts the bearer token, and the token names an admin role. -/
def BearerAdmin (env : Env) (answers : HttpRequest → HttpResult → Prop) (caller : Caller) :
    Prop :=
  ∃ token base r claims roles, bearerToken caller = some token ∧
    answers (.keycloakUserinfo base token) (.response r) ∧ r.isSuccess = true ∧
    tokenClaims env token = some claims ∧ claimedRoles claims = .ok roles ∧
    roles.meets adminRoles = .ok true

def Admitted (env : Env) (answers : HttpRequest → HttpResult → Prop) (caller : Caller) : Prop :=
  SessionAdmin caller ∨ BearerAdmin env answers caller

/-- The guard raises something else than its verdict: on a session of another
shape than the portal writes, with Keycloak out of reach, or on a token that
Keycloak accepts and whose roles cannot be read. -/
def Undecided (env : Env) (answers : HttpRequest → HttpResult → Prop) (caller : Caller) : Prop :=
  (∃ error, getCdmAdmin caller = .error error) ∨
    ∃ token base, bearerToken caller = some token ∧
      ((∃ text, answers (.keycloakUserinfo base token) (.failure text)) ∨
        ∃ r claims error, answers (.keycloakUserinfo base token) (.response r) ∧
          r.isSuccess = true ∧ tokenClaims env token = some claims ∧
          (claimedRoles claims >>= fun roles => roles.meets adminRoles) = .error error)

/-- The caller presents a key that is on file, open and not expired. -/
structure Presented (env : Env) (caller : Caller) (w : World) (entry : JoinKeyEntry) : Prop where
  given : presentedKey env caller ≠ ""
  stored : (table w).get? (presentedKey env caller) = some entry
  isOpen : entry.status = .open
  inTime : (env.clock w.ticks).micros ≤ entry.expiresAt.micros

/-- The realm that the body of a `create_tenant` request asks for. -/
def RequestedRealm (env : Env) (body : Except String Json) (realmId : String) : Prop :=
  ∃ value text, body = .ok value ∧ textMember env value "realm_id" "" = .ok text ∧
    realmId = env.py.lower text

/-! ## The contract -/

section Contract

variable (env : Env) (answers : HttpRequest → HttpResult → Prop)

/-- The changes of the two files that a section of `q`, begun in `b`, can make
of `s`. Every constructor but `nothing` is one write. -/
inductive Writes (q : Request) (b s s' : World) : Proc.Stop HttpRequest Reply → Prop
  | nothing {stop : Proc.Stop HttpRequest Reply} (same : SameFiles s s') : Writes q b s s' stop
  | keyIssued {body : TenantPrepareRequest} (issuedAt : Datetime)
      {reply : TenantPrepareResponse} (hq : q.endpoint = .prepareTenant body)
      (admitted : Admitted env answers q.caller) (requests : s'.requests = s.requests)
      (keys : s'.keys = some ((table s).set reply.joinKey
        (openEntry reply.joinKey body.tenantId body.displayName issuedAt))) :
      Writes q b s s' (.returned (.prepared reply))
  | keyExpired {payload : JoinHandshakePayload} {entry : JoinKeyEntry} {detail : String}
      (hq : q.endpoint = .joinHandshake payload) (first : b = s)
      (stored : (table s).get? (presentedKey env q.caller) = some entry)
      (isOpen : entry.status = .open) (requests : s'.requests = s.requests)
      (keys : s'.keys = some ((table s).set (presentedKey env q.caller)
        { entry with status := .expired })) :
      Writes q b s s' (.returned (.httpError 401 detail))
  | keyUsed {payload : JoinHandshakePayload} {entry : JoinKeyEntry} {usedAt : Datetime}
      {stop : Proc.Stop HttpRequest Reply} (hq : q.endpoint = .joinHandshake payload)
      (first : b = s) (presented : Presented env q.caller b entry)
      (requests : s'.requests = s.requests)
      (keys : s'.keys = some ((table s).set (presentedKey env q.caller)
        (usedEntry entry usedAt))) :
      Writes q b s s' stop
  | submitted {tenantId : String} {payload : JoinRequestPayload} {requestedAt : Datetime}
      {reply : SubmitResponse} (hq : q.endpoint = .submitJoinRequest tenantId payload)
      (accepted : tenantIdOk env.py tenantId = true)
      (unapproved : ((entries s).get? tenantId).map JoinEntry.status ≠ some .approved)
      (keys : s'.keys = s.keys)
      (requests : s'.requests = some ((entries s).set tenantId
        (pendingEntry tenantId payload requestedAt))) :
      Writes q b s s' (.returned (.submitted reply))
  | approved {tenantId : String} {entry stored : JoinEntry} {approvedAt : Datetime}
      {p : Provisioned} {reply : ApproveResponse} (hq : q.endpoint = .approveJoinRequest tenantId)
      (begun : (entries b).get? tenantId = some entry) (pending : entry.status = .pending)
      (current : (entries s).get? tenantId = some stored)
      (bundle : Bundle env answers tenantId entry.subCaCsr entry.mqttBridgeCsr p)
      (keys : s'.keys = s.keys)
      (requests : s'.requests = some ((entries s).set tenantId
        (approvedEntry stored approvedAt p))) :
      Writes q b s s' (.returned (.approved reply))
  | rejected {tenantId reason : String} {stored : JoinEntry} {rejectedAt : Datetime}
      {reply : RejectResponse} (hq : q.endpoint = .rejectJoinRequest tenantId reason)
      (current : (entries s).get? tenantId = some stored) (unapproved : stored.status ≠ .approved)
      (keys : s'.keys = s.keys)
      (requests : s'.requests = some ((entries s).set tenantId
        (rejectedEntry stored rejectedAt reason))) :
      Writes q b s s' (.returned (.rejected reply))

/-- The calls that `q`, begun in `b`, can make. -/
def Asks (q : Request) (b : World) (request : HttpRequest) : Prop :=
  match q.endpoint with
  | .prepareTenant _ => ∃ token, bearerToken q.caller = some token ∧
      request = .keycloakUserinfo env.settings.keycloakUrl token
  | .joinHandshake _ => ∃ entry, Presented env q.caller b entry ∧
      ProvisioningCall env entry.tenantId request
  | .approveJoinRequest tenantId =>
      (∃ entry, (entries b).get? tenantId = some entry ∧ entry.status = .pending) ∧
        ProvisioningCall env tenantId request
  | .createTenant body => SessionAdmin q.caller ∧
      ∃ realmId, (RequestedRealm env body realmId ∧ env.py.isidentifier realmId = true ∧
        realmId ∉ protectedRealms) ∧ OnboardingCall realmId request
  | .deleteTenant realmId => (SessionAdmin q.caller ∧ realmId ∉ protectedRealms) ∧
      OffboardingCall realmId request
  | _ => False

/-- The certificate in a handshake's reply. -/
structure HandshakeBundle (tenantId : String) (payload : JoinHandshakePayload)
    (body : JoinHandshakeResponse) : Prop where
  tenant : body.tenantId = tenantId
  subCa : Certified answers payload.subCaCsr env.settings.stepCaSubCaProvisioner tenantId
    (.str body.signedCert) ∨ body.signedCert = ""

/-- How `q`, begun in `b`, can reply. -/
def Replies (q : Request) (b : World) (reply : Reply) : Prop :=
  match q.endpoint with
  | .prepareTenant _ => Admitted env answers q.caller ∨ reply.statusCode ∈ [401, 403] ∨
      Undecided env answers q.caller
  | .joinHandshake payload =>
      (∃ entry, Presented env q.caller b entry ∧
        ∀ body, reply = .joined body → HandshakeBundle env answers entry.tenantId payload body) ∨
      ((∀ entry, ¬ Presented env q.caller b entry) ∧ reply.statusCode = 401)
  | _ => True

/-- What a section of `q` owes: `b` is the state its first section began in,
`s` and `s'` are the states this section began and ended in. -/
structure Owes (q : Request) (b s s' : World) (stop : Proc.Stop HttpRequest Reply) : Prop where
  free : Free s'
  writes : Writes env answers q b s s' stop
  asks : ∀ request, stop = .suspended request → ∃ r, request = some r ∧ Asks env q b r
  replies : ∀ reply, stop = .returned reply → Replies env answers q b reply

end Contract

section Rules

variable {env : Env} {answers : HttpRequest → HttpResult → Prop} {q : Request} {b s s' : World}

theorem owes_returned {reply : Reply} (free : Free s')
    (writes : Writes env answers q b s s' (.returned reply))
    (replies : Replies env answers q b reply) : Owes env answers q b s s' (.returned reply) where
  free := free
  writes := writes
  asks := fun _ h => by cases h
  replies := fun reply' h => by
    cases h
    exact replies

theorem owes_nothing {reply : Reply} (held : Held s s')
    (replies : Replies env answers q b reply) : Owes env answers q b s s' (.returned reply) :=
  owes_returned held.free (.nothing held.same) replies

theorem owes_suspended {request : HttpRequest} (free : Free s')
    (writes : Writes env answers q b s s' (.suspended (some request)))
    (asks : Asks env q b request) :
    Owes env answers q b s s' (.suspended (some request)) where
  free := free
  writes := writes
  asks := fun request' h => by
    cases h
    exact ⟨request, rfl, asks⟩
  replies := fun _ h => by cases h

/-- A handler owes what the request owes, reply by reply. -/
theorem serve_wp {α : Type} {x : App α} {reply : α → Reply} {inv : World → Prop}
    {susp : World → World → Option HttpRequest → Prop} {post : World → Reply → World → Prop}
    (h : handle env q = reply <$> x)
    (hx : Proc.wp inv answers susp
      (fun start result w => post start (answer (result.map reply)) w) x.run b s) :
    Proc.wp inv answers susp post (serve env q) b s := by
  have hrun : (reply <$> x).run = x.run.bind fun result => .ret (result.map reply) := by
    rw [map_eq_pure_bind, run_bind]
    congr 1
    funext result
    cases result <;> rfl
  unfold serve
  rw [h, hrun, Proc.wp_bind, Proc.wp_bind]
  simp only [Proc.wp_ret]
  exact hx

theorem getRequest_runs {tenantId : String} {w : World} (free : Free w) :
    Proc.RunsTo (getRequest tenantId).run w
      (match (entries w).get? tenantId with
        | none => .error
            (.httpException 404 ("No JOIN request found for tenant '" ++ tenantId ++ "'"))
        | some entry => .ok entry) w := by
  refine runsTo_bind (loadStore_runs free.store) ?_
  cases (entries w).get? tenantId with
  | none => exact Proc.RunsTo.ret _ _
  | some entry => exact Proc.RunsTo.ret _ _

theorem language_runs {α : Type} (result : Except PyError α) (w : World) :
    Proc.RunsTo (language result).run w (result.mapError .language) w := rfl

/-- A submission is refused, or its entry is stored with the reading of the clock. -/
theorem submitJoinRequest_runs {env : Env} {v w : World} {tenantId : String}
    {payload : JoinRequestPayload} {result : Except Raised SubmitResponse}
    (free : v.storeLocked = false)
    (run : Proc.RunsTo (submitJoinRequest env tenantId payload).run v result w) :
    (∃ exc, result = .error exc ∧ w = v) ∨
    ∃ reply, result = .ok reply ∧ w = { v with
      ticks := v.ticks + 1
      requests := some ((entries v).set tenantId
        (pendingEntry tenantId payload (env.clock v.ticks))) } := by
  have hload := loadStore_runs free
  by_cases accepted : tenantIdOk env.py tenantId = true
  · by_cases happroved : ((entries v).get? tenantId).map JoinEntry.status = some .approved
    · have refused : Proc.RunsTo (submitJoinRequest env tenantId payload).run v (.error
          (.httpException 409 ("Tenant '" ++ tenantId ++ "' is already approved."))) v := by
        unfold submitJoinRequest
        rw [if_pos accepted]
        refine runsTo_bind hload ?_
        rw [if_pos happroved]
        exact Proc.RunsTo.ret _ _
      obtain ⟨exc, same⟩ := run.unique refused
      exact Or.inl ⟨_, exc, same⟩
    · have saved : Proc.RunsTo (submitJoinRequest env tenantId payload).run v (.ok
          { tenantId := tenantId
            pollUrl := "/portal/admin/tenants/" ++ tenantId ++ "/join-status" })
          { v with
            ticks := v.ticks + 1
            requests := some ((entries v).set tenantId
              (pendingEntry tenantId payload (env.clock v.ticks))) } := by
        unfold submitJoinRequest
        rw [if_pos accepted]
        refine runsTo_bind hload ?_
        rw [if_neg happroved]
        refine runsTo_bind (now_runs env v) ?_
        exact runsTo_bind (saveStore_runs _ free) (Proc.RunsTo.ret _ _)
      obtain ⟨reply, same⟩ := run.unique saved
      exact Or.inr ⟨_, reply, same⟩
  · have refused : Proc.RunsTo (submitJoinRequest env tenantId payload).run v
        (.error badTenantId) v := by
      unfold submitJoinRequest
      rw [if_neg accepted]
      exact Proc.RunsTo.ret _ _
    obtain ⟨exc, same⟩ := run.unique refused
    exact Or.inl ⟨_, exc, same⟩

end Rules

/-! ## The handlers that run in one section -/

section Sections

variable {env : Env} {answers : HttpRequest → HttpResult → Prop} {caller : Caller} {s : World}

theorem submitJoinRequest_owes {tenantId : String} {payload : JoinRequestPayload}
    (free : Free s) (q : Request) (hq : q = ⟨caller, .submitJoinRequest tenantId payload⟩) :
    Proc.wp Free answers (owesSusp (Owes env answers) q s) (owesPost (Owes env answers) q s)
      (serve env q) s s := by
  subst hq
  refine serve_wp rfl ?_
  unfold submitJoinRequest
  split
  next accepted =>
    refine wp_of_runs (loadStore_runs free.store) ?_
    rw [onward_ok]
    split
    · exact wp_fail (owes_nothing (.refl free) trivial)
    next unapproved =>
      refine wp_of_runs (now_runs env s) ?_
      refine wp_of_runs (saveStore_runs _ free.store) ?_
      exact wp_pure (owes_returned ⟨free.store, free.key⟩
        (.submitted rfl accepted unapproved rfl rfl) trivial)
  · exact wp_fail (owes_nothing (.refl free) trivial)

theorem listJoinRequests_owes (free : Free s) (q : Request)
    (hq : q = ⟨caller, .listJoinRequests⟩) :
    Proc.wp Free answers (owesSusp (Owes env answers) q s) (owesPost (Owes env answers) q s)
      (serve env q) s s := by
  subst hq
  refine serve_wp rfl ?_
  refine wp_of_runs (language_runs _ s) ?_
  cases getCdmAdmin caller with
  | error error => exact wp_onward_error (owes_nothing (.refl free) trivial)
  | ok user =>
    refine wp_of_runs (loadStore_runs free.store) ?_
    exact wp_pure (owes_nothing (.refl free) trivial)

theorem rejectJoinRequest_owes {tenantId reason : String} (free : Free s) (q : Request)
    (hq : q = ⟨caller, .rejectJoinRequest tenantId reason⟩) :
    Proc.wp Free answers (owesSusp (Owes env answers) q s) (owesPost (Owes env answers) q s)
      (serve env q) s s := by
  subst hq
  refine serve_wp rfl ?_
  refine wp_of_runs (language_runs _ s) ?_
  cases getCdmAdmin caller with
  | error error => exact wp_onward_error (owes_nothing (.refl free) trivial)
  | ok user =>
    refine wp_of_runs (getRequest_runs free) ?_
    cases current : (entries s).get? tenantId with
    | none => exact wp_onward_error (owes_nothing (.refl free) trivial)
    | some stored =>
      rw [onward_ok]
      split
      · exact wp_fail (owes_nothing (.refl free) trivial)
      next unapproved =>
        refine wp_of_runs (loadStore_runs free.store) ?_
        rw [onward_ok, current]
        refine wp_of_runs (now_runs env s) ?_
        refine wp_of_runs (saveStore_runs _ free.store) ?_
        exact wp_pure (owes_returned ⟨free.store, free.key⟩
          (.rejected rfl current unapproved rfl rfl) trivial)

theorem getJoinStatus_owes {tenantId : String} (free : Free s) (q : Request)
    (hq : q = ⟨caller, .getJoinStatus tenantId⟩) :
    Proc.wp Free answers (owesSusp (Owes env answers) q s) (owesPost (Owes env answers) q s)
      (serve env q) s s := by
  subst hq
  refine serve_wp rfl ?_
  refine wp_of_runs (getRequest_runs free) ?_
  cases (entries s).get? tenantId with
  | none => exact wp_onward_error (owes_nothing (.refl free) trivial)
  | some entry =>
    rw [onward_ok]
    split
    · exact wp_pure (owes_nothing (.refl free) trivial)
    · exact wp_fail (owes_nothing (.refl free) trivial)

end Sections

/-! ## The handlers that call other services -/

theorem Free.undisturbed {w w' : World} (h : Free w) (quiet : Undisturbed w w') : Free w' :=
  ⟨quiet.storeLocked.trans h.store, quiet.keyLocked.trans h.key⟩

theorem Held.undisturbed {start w w' : World} (h : Held start w) (quiet : Undisturbed w w') :
    Held start w' := ⟨h.free.undisturbed quiet, h.same.trans quiet.files⟩

section Calls

variable {env : Env} {answers : HttpRequest → HttpResult → Prop} {caller : Caller} {q : Request}
  {b s : World}

/-- A calm part that starts a section, or follows one that left the files alone. -/
theorem calm_wp {α : Type} {x : App α} {calls : HttpRequest → Prop}
    {mid : Except Raised α → Prop} {post : World → Except Raised α → World → Prop}
    (h : Calm calls answers mid x) (asks : ∀ request, calls request → Asks env q b request)
    (done : ∀ start result w, Held start w → mid result → post start result w)
    (free : Free s) :
    Proc.wp Free answers (owesSusp (Owes env answers) q b) post x.run s s := by
  have keeps : ∀ start w w' : World, Held start w → Undisturbed w w' → Held start w' :=
    fun _ _ _ held quiet => held.undisturbed quiet
  refine Proc.Quiet.wp h keeps ?_ (fun w hw => Held.refl hw) done (Held.refl free)
  intro start w request held asked
  exact owes_suspended held.free (.nothing held.same) (asks request asked)

theorem createTenant_owes {body : Except String Json} (free : Free s) (q : Request)
    (hq : q = ⟨caller, .createTenant body⟩) :
    Proc.wp Free answers (owesSusp (Owes env answers) q s) (owesPost (Owes env answers) q s)
      (serve env q) s s := by
  subst hq
  refine serve_wp rfl ?_
  refine wp_of_runs (language_runs _ s) ?_
  cases hadmin : getCdmAdmin caller with
  | error error => exact wp_onward_error (owes_nothing (.refl free) trivial)
  | ok user =>
    cases user with
    | none => exact wp_pure (owes_nothing (.refl free) trivial)
    | some user =>
      cases body with
      | error text => exact wp_pure (owes_nothing (.refl free) trivial)
      | ok value =>
        refine wp_of_runs (language_runs _ s) ?_
        cases hrealm : textMember env value "realm_id" "" with
        | error error => exact wp_onward_error (owes_nothing (.refl free) trivial)
        | ok text =>
          refine wp_of_runs (language_runs _ s) ?_
          cases textMember env value "display_name" (env.py.lower text) with
          | error error => exact wp_onward_error (owes_nothing (.refl free) trivial)
          | ok displayName =>
            refine wp_of_runs (language_runs _ s) ?_
            cases textMember env value "admin_email"
                ("admin@" ++ env.py.lower text ++ ".local") with
            | error error => exact wp_onward_error (owes_nothing (.refl free) trivial)
            | ok adminEmail =>
              refine wp_of_runs (language_runs _ s) ?_
              cases textMember env value "admin_user" (env.py.lower text ++ "-admin") with
              | error error => exact wp_onward_error (owes_nothing (.refl free) trivial)
              | ok adminUser =>
                simp only [Except.mapError, onward_ok]
                split
                · exact wp_pure (owes_nothing (.refl free) trivial)
                next valid =>
                  split
                  · exact wp_pure (owes_nothing (.refl free) trivial)
                  next unprotected =>
                    have identifier : env.py.isidentifier (env.py.lower text) = true := by
                      rw [not_or] at valid
                      simpa using valid.2
                    refine calm_wp ((onboardTenant_calm _ displayName adminEmail adminUser).andThen
                      fun created => trivial) ?_ ?_ free
                    · intro request asked
                      exact ⟨⟨user, hadmin⟩, env.py.lower text,
                        ⟨⟨value, text, rfl, hrealm, rfl⟩, identifier, unprotected⟩, asked⟩
                    · intro start result w held _
                      exact owes_nothing held trivial

theorem deleteTenant_owes {realmId : String} (free : Free s) (q : Request)
    (hq : q = ⟨caller, .deleteTenant realmId⟩) :
    Proc.wp Free answers (owesSusp (Owes env answers) q s) (owesPost (Owes env answers) q s)
      (serve env q) s s := by
  subst hq
  refine serve_wp rfl ?_
  refine wp_of_runs (language_runs _ s) ?_
  cases hadmin : getCdmAdmin caller with
  | error error => exact wp_onward_error (owes_nothing (.refl free) trivial)
  | ok user =>
    cases user with
    | none => exact wp_pure (owes_nothing (.refl free) trivial)
    | some user =>
      simp only [Except.mapError, onward_ok]
      split
      · exact wp_pure (owes_nothing (.refl free) trivial)
      next unprotected =>
        refine calm_wp ((offboardTenant_calm realmId).andThen fun deleted => trivial) ?_ ?_ free
        · intro request asked
          exact ⟨⟨⟨user, hadmin⟩, unprotected⟩, asked⟩
        · intro start result w held _
          exact owes_nothing held trivial

/-! ## `prepare_tenant` -/

/-- The guard lets pass, refuses with 401 or 403, or raises. -/
def Verdict (env : Env) (answers : HttpRequest → HttpResult → Prop) (caller : Caller) :
    Except Raised Json → Prop
  | .ok _ => Admitted env answers caller
  | .error raised => (answer (.error raised)).statusCode ∈ [401, 403] ∨
      Undecided env answers caller

/-- Claims whose roles could be read are an object. -/
theorem claims_get {claims roles : Json} (h : claimedRoles claims = .ok roles) (key : String)
    (fallback : Json) : ∃ value, claims.get key fallback = .ok value := by
  cases claims with
  | obj fields => exact ⟨_, rfl⟩
  | null => cases h
  | bool b => cases h
  | int n => cases h
  | float text => cases h
  | str text => cases h
  | arr items => cases h

theorem bearerUser_verdict {env : Env} {answers : HttpRequest → HttpResult → Prop}
    {caller : Caller} {token base : String} {r : Response}
    (htoken : bearerToken caller = some token)
    (given : answers (.keycloakUserinfo base token) (.response r)) :
    Verdict env answers caller (bearerUser env token r) := by
  unfold bearerUser
  split
  next success =>
    cases hclaims : tokenClaims env token with
    | none => exact Or.inl (by simp [answer, Reply.statusCode])
    | some claims =>
      have raises : ∀ error : PyError,
          (claimedRoles claims >>= fun roles => roles.meets adminRoles) = .error error →
          Undecided env answers caller := fun error h =>
        Or.inr ⟨token, base, htoken, Or.inr ⟨r, claims, error, given, success, hclaims, h⟩⟩
      cases hroles : claimedRoles claims with
      | error error =>
        simp only [hroles, Except.mapError, bind, Except.bind]
        refine Or.inr (raises error ?_)
        rw [hroles]
        rfl
      | ok roles =>
        obtain ⟨username, husername⟩ := claims_get hroles "preferred_username" (.str "")
        simp only [hroles, husername, Except.mapError, bind, Except.bind]
        cases hmeets : roles.meets adminRoles with
        | error error =>
          refine Or.inr (raises error ?_)
          rw [hroles]
          exact hmeets
        | ok admitted =>
          cases admitted with
          | true =>
            exact Or.inr ⟨token, base, r, claims, roles, htoken, given, success, hclaims, hroles,
              hmeets⟩
          | false => exact Or.inl (by simp [answer, Reply.statusCode])
  · exact Or.inl (by simp [answer, Reply.statusCode])

theorem requireCdmAdmin_calm (env : Env) (answers : HttpRequest → HttpResult → Prop)
    (caller : Caller) :
    Calm (fun request => ∃ token, bearerToken caller = some token ∧
        request = .keycloakUserinfo env.settings.keycloakUrl token) answers
      (Verdict env answers caller) (requireCdmAdmin env caller) := by
  refine (calm_language (getCdmAdmin caller)).bind (fun user huser => ?_) (fun error herror => ?_)
  · cases user with
    | some user =>
      refine Or.inl ⟨user, ?_⟩
      cases hadmin : getCdmAdmin caller with
      | ok user' =>
        rw [hadmin] at huser
        cases huser
        rfl
      | error error =>
        rw [hadmin] at huser
        cases huser
    | none =>
      cases htoken : bearerToken caller with
      | none => exact Or.inl (by simp [answer, Reply.statusCode])
      | some token =>
        refine ⟨⟨token, rfl, rfl⟩, fun result given => ?_⟩
        cases result with
        | response r => exact bearerUser_verdict htoken given
        | failure text => exact Or.inr (Or.inr ⟨token, _, htoken, Or.inl ⟨text, given⟩⟩)
  · cases hadmin : getCdmAdmin caller with
    | error error' => exact Or.inr (Or.inl ⟨error', hadmin⟩)
    | ok user =>
      rw [hadmin] at herror
      cases herror

theorem prepareTenant_owes {body : TenantPrepareRequest} (free : Free s) (q : Request)
    (hq : q = ⟨caller, .prepareTenant body⟩) :
    Proc.wp Free answers (owesSusp (Owes env answers) q s) (owesPost (Owes env answers) q s)
      (serve env q) s s := by
  subst hq
  refine serve_wp rfl ?_
  have guarded : Proc.wp Free answers
      (owesSusp (Owes env answers) ⟨caller, .prepareTenant body⟩ s)
      (fun start result w => Held start w ∧ Verdict env answers caller result)
      (requireCdmAdmin env caller).run s s :=
    calm_wp (requireCdmAdmin_calm env answers caller) (fun _ asked => asked)
      (fun _ _ _ held verdict => ⟨held, verdict⟩) free
  refine wp_bind_of guarded ?_ ?_
  · intro start user w guardPassed
    obtain ⟨held, admitted⟩ := guardPassed
    split
    · refine wp_of_runs (createKey_runs env _ _ held.free.key) ?_
      refine wp_of_runs (now_runs env _) ?_
      refine wp_pure (owes_returned ⟨held.free.store, held.free.key⟩
        (.keyIssued (env.clock w.ticks) rfl admitted ?_ ?_) (Or.inl admitted))
      · exact held.same.requests
      · simp only [createKeyEffect, held.same.table]
    · exact wp_fail (owes_nothing held (Or.inl admitted))
  · intro start raised w guardRaised
    obtain ⟨held, verdict⟩ := guardRaised
    exact owes_nothing held (Or.inr verdict)

/-! ## `approve_join_request` -/

theorem approveJoinRequest_owes {tenantId : String} (free : Free s) (q : Request)
    (hq : q = ⟨caller, .approveJoinRequest tenantId⟩) :
    Proc.wp Free answers (owesSusp (Owes env answers) q s) (owesPost (Owes env answers) q s)
      (serve env q) s s := by
  subst hq
  refine serve_wp rfl ?_
  refine wp_of_runs (language_runs _ s) ?_
  cases getCdmAdmin caller with
  | error error => exact wp_onward_error (owes_nothing (.refl free) trivial)
  | ok user =>
    refine wp_of_runs (getRequest_runs free) ?_
    cases begun : (entries s).get? tenantId with
    | none => exact wp_onward_error (owes_nothing (.refl free) trivial)
    | some entry =>
      rw [onward_ok]
      split
      · exact wp_fail (owes_nothing (.refl free) trivial)
      next unapproved =>
        split
        · exact wp_fail (owes_nothing (.refl free) trivial)
        next unrejected =>
          have pending : entry.status = .pending := by
            cases hstatus : entry.status with
            | pending => rfl
            | approved => exact absurd hstatus unapproved
            | rejected => exact absurd hstatus unrejected
          have provisioned : Proc.wp Free answers
              (owesSusp (Owes env answers) ⟨caller, .approveJoinRequest tenantId⟩ s)
              (fun start result w => Held start w ∧ ∀ p, result = .ok p →
                Bundle env answers tenantId entry.subCaCsr entry.mqttBridgeCsr p)
              (provision env tenantId entry.subCaCsr entry.mqttBridgeCsr entry.keycloakUrl).run
              s s :=
            calm_wp (provision_calm env answers tenantId _ _ _)
              (fun _ asked => ⟨⟨entry, begun, pending⟩, asked⟩)
              (fun _ _ _ held bundle => ⟨held, bundle⟩) free
          refine wp_bind_of provisioned ?_ ?_
          · intro start p w done
            obtain ⟨held, bundle⟩ := done
            refine wp_of_runs (loadStore_runs held.free.store) ?_
            rw [onward_ok, held.same.entries]
            cases current : (entries start).get? tenantId with
            | none => exact wp_fail (owes_nothing held trivial)
            | some stored =>
              refine wp_of_runs (now_runs env w) ?_
              refine wp_of_runs (saveStore_runs _ held.free.store) ?_
              exact wp_pure (owes_returned ⟨held.free.store, held.free.key⟩
                (.approved rfl begun pending current (bundle p rfl) held.same.keys rfl) trivial)
          · intro start error w escaped
            exact owes_nothing escaped.1 trivial

/-! ## `join_handshake` -/

theorem runProvisioning_calm (env : Env) (answers : HttpRequest → HttpResult → Prop)
    (tenantId : String) (payload : JoinHandshakePayload) :
    Calm (ProvisioningCall env tenantId) answers
      (fun result => ∀ body, result = .ok body →
        HandshakeBundle env answers tenantId payload body)
      (runProvisioning env tenantId payload) := by
  refine (provision_calm env answers tenantId _ _ _).bind (fun p bundle => ?_)
    (fun _ _ body h => by cases h)
  split
  next signedCert rootCaCert mqttBridgeCert hsigned hroot hmqtt =>
    intro body h
    cases h
    refine ⟨rfl, ?_⟩
    have hstr := eq_str_of_strField hsigned
    rcases (bundle p rfl).subCa with ⟨certified, -⟩ | ⟨empty, -⟩
    · rw [hstr] at certified
      exact Or.inl certified
    · rw [hstr] at empty
      cases empty
      exact Or.inr rfl
  · intro body h
    cases h

theorem answer_error_ne_joined (raised : Raised) (body : JoinHandshakeResponse) :
    answer (.error raised) ≠ .joined body := by
  cases raised <;> exact Reply.noConfusion

/-- The files while a handshake is past its first check: in its first section
the key has been marked, in the others nothing has changed. -/
structure Joining (env : Env) (caller : Caller) (b : World) (entry : JoinKeyEntry)
    (start w : World) : Prop where
  free : Free w
  files : SameFiles start w ∨ (b = start ∧ w.requests = start.requests ∧ ∃ usedAt,
    w.keys = some ((table start).set (presentedKey env caller) (usedEntry entry usedAt)))

theorem Joining.undisturbed {entry : JoinKeyEntry} {start w w' : World}
    (h : Joining env caller b entry start w) (quiet : Undisturbed w w') :
    Joining env caller b entry start w' := by
  refine ⟨h.free.undisturbed quiet, ?_⟩
  rcases h.files with same | ⟨first, requests, usedAt, keys⟩
  · exact Or.inl (same.trans quiet.files)
  · exact Or.inr ⟨first, quiet.files.requests.trans requests, usedAt,
      quiet.files.keys.trans keys⟩

theorem Joining.writes {payload : JoinHandshakePayload} {entry : JoinKeyEntry}
    {start w : World} (h : Joining env caller b entry start w)
    (presented : Presented env caller b entry) (stop : Proc.Stop HttpRequest Reply) :
    Writes env answers ⟨caller, .joinHandshake payload⟩ b start w stop := by
  rcases h.files with same | ⟨first, requests, usedAt, keys⟩
  · exact .nothing same
  · exact .keyUsed rfl first presented requests keys

theorem joinHandshake_owes {payload : JoinHandshakePayload} (free : Free s) (q : Request)
    (hq : q = ⟨caller, .joinHandshake payload⟩) :
    Proc.wp Free answers (owesSusp (Owes env answers) q s) (owesPost (Owes env answers) q s)
      (serve env q) s s := by
  subst hq
  refine serve_wp rfl ?_
  dsimp only [joinHandshake]
  split
  next missing =>
    exact wp_fail (owes_nothing (.refl free)
      (Or.inr ⟨fun entry presented => presented.given missing, rfl⟩))
  next given =>
    refine wp_of_runs
      (runsTo_attempt _ (validateAndConsume_runs env (presentedKey env caller) free.key)) ?_
    rcases validateEffect_cases env (presentedKey env caller) s with
      ⟨notOpen, error, ⟨text, kind⟩, he⟩ | ⟨entry, stored, isOpen, late, he⟩ |
      ⟨entry, stored, isOpen, inTime, he⟩
    · rw [he]
      have refused : ∀ entry, ¬ Presented env caller s entry :=
        fun entry presented => notOpen entry presented.stored presented.isOpen
      rcases kind with rfl | rfl
      · exact wp_fail (owes_nothing (.refl free) (Or.inr ⟨refused, rfl⟩))
      · exact wp_fail (owes_nothing (.refl free) (Or.inr ⟨refused, rfl⟩))
    · rw [he]
      have refused : ∀ entry, ¬ Presented env caller s entry := by
        intro entry' presented
        have hstored := presented.stored
        rw [stored] at hstored
        cases hstored
        exact absurd late (Nat.not_lt.mpr presented.inTime)
      exact wp_fail (owes_returned ⟨free.store, free.key⟩
        (.keyExpired rfl rfl stored isOpen rfl rfl) (Or.inr ⟨refused, rfl⟩))
    · rw [he]
      have presented : Presented env caller s entry := ⟨given, stored, isOpen, inTime⟩
      have keeps : ∀ start w w' : World, Joining env caller s entry start w →
          Undisturbed w w' → Joining env caller s entry start w' :=
        fun _ _ _ joining quiet => joining.undisturbed quiet
      refine Proc.Quiet.wp (runProvisioning_calm env answers entry.tenantId payload) keeps
        ?_ (fun w hw => ⟨hw, Or.inl (.refl w)⟩) ?_
        ⟨⟨free.store, free.key⟩, Or.inr ⟨rfl, rfl, env.clock (s.ticks + 1), rfl⟩⟩
      · intro start w request joining asked
        exact owes_suspended joining.free (joining.writes presented _)
          ⟨entry, presented, asked⟩
      · intro start result w joining bundle
        refine owes_returned joining.free (joining.writes presented _)
          (Or.inl ⟨entry, presented, fun body hbody => ?_⟩)
        cases result with
        | ok joined =>
          cases hbody
          exact bundle body rfl
        | error raised => exact absurd hbody (answer_error_ne_joined raised body)

end Calls

/-! ## The contract holds -/

theorem serve_serves (env : Env) (answers : HttpRequest → HttpResult → Prop) :
    Serves (serve env) Free answers (Owes env answers) where
  handles q w free := by
    obtain ⟨caller, endpoint⟩ := q
    cases endpoint with
    | prepareTenant body => exact prepareTenant_owes free _ rfl
    | joinHandshake payload => exact joinHandshake_owes free _ rfl
    | submitJoinRequest tenantId payload => exact submitJoinRequest_owes free _ rfl
    | listJoinRequests => exact listJoinRequests_owes free _ rfl
    | approveJoinRequest tenantId => exact approveJoinRequest_owes free _ rfl
    | rejectJoinRequest tenantId reason => exact rejectJoinRequest_owes free _ rfl
    | getJoinStatus tenantId => exact getJoinStatus_owes free _ rfl
    | createTenant body => exact createTenant_owes free _ rfl
    | deleteTenant realmId => exact deleteTenant_owes free _ rfl
  keeps _ _ _ _ _ _ owes := owes.free

/-! ## Runs of the service -/

abbrev JoinTask := Task Request World HttpRequest HttpResult Reply

abbrev JoinLoop := EventLoop Request World HttpRequest HttpResult Reply

abbrev JoinAction := Action Request HttpResult

abbrev JoinOk (env : Env) (answers : HttpRequest → HttpResult → Prop) (c : JoinLoop) : Prop :=
  LoopOk (serve env) Free answers (Owes env answers) c

theorem reaches_ok {env : Env} {answers : HttpRequest → HttpResult → Prop}
    {allowed : JoinLoop → JoinAction → Prop}
    (assumed : ∀ c action, allowed c action → Answers answers c action) {w0 : World}
    (free : Free w0) {c : JoinLoop} (h : Reaches (serve env) allowed (start w0) c) :
    JoinOk env answers c :=
  (serve_serves env answers).reaches_ok assumed (loopOk_start _ _ _ _ free) h

/-- A task that is scheduled pays for one section, or has nothing to do: it has
returned, or it waits for a lock. -/
theorem resume_owes {env : Env} {answers : HttpRequest → HttpResult → Prop} {c : JoinLoop}
    (ok : JoinOk env answers c) {i : Nat} {result : HttpResult} {t : JoinTask}
    (hi : c.tasks[i]? = some t) (ha : Answers answers c (.resume i result)) :
    (t.begun ≠ none ∧ runTask t result c.state = (t.proc, c.state) ∧
        ∀ request, t.proc.stop ≠ .suspended (some request)) ∨
      Owes env answers t.request (t.begun.getD c.state) c.state (runTask t result c.state).2
        (runTask t result c.state).1.stop :=
  (serve_serves env answers).resume_owes ok hi ha

/-- The same in an executed run, with the answers given in it so far. -/
theorem resumed_owes {env : Env} {w0 : World} (free : Free w0) {actions : List JoinAction} {i : Nat}
    {t : JoinTask} (hi : (run (serve env) (start w0) actions).tasks[i]? = some t)
    (result : HttpResult) :
    (t.begun ≠ none ∧ runTask t result (run (serve env) (start w0) actions).state =
        (t.proc, (run (serve env) (start w0) actions).state) ∧
        ∀ request, t.proc.stop ≠ .suspended (some request)) ∨
      Owes env (Given (serve env) w0 (actions ++ [.resume i result])) t.request
        (t.begun.getD (run (serve env) (start w0) actions).state)
        (run (serve env) (start w0) actions).state
        (runTask t result (run (serve env) (start w0) actions).state).2
        (runTask t result (run (serve env) (start w0) actions).state).1.stop := by
  have ok : JoinOk env (Given (serve env) w0 (actions ++ [.resume i result]))
      (run (serve env) (start w0) actions) := (serve_serves env _).run_ok free rfl
  exact resume_owes ok hi (answers_given rfl)

/-- One step of a run: the state stays, or a task pays for one section. -/
theorem step_owes {env : Env} {answers : HttpRequest → HttpResult → Prop} {c : JoinLoop}
    (ok : JoinOk env answers c) {action : JoinAction} (ha : Answers answers c action) :
    (step (serve env) c action).state = c.state ∨
      ∃ i result t, action = .resume i result ∧ c.tasks[i]? = some t ∧
        (step (serve env) c action).state = (runTask t result c.state).2 ∧
        Owes env answers t.request (t.begun.getD c.state) c.state
          (runTask t result c.state).2 (runTask t result c.state).1.stop := by
  cases action with
  | arrive q => exact Or.inl rfl
  | resume i result =>
    cases hi : c.tasks[i]? with
    | none => exact Or.inl (by simp only [step, hi])
    | some t =>
      rcases resume_owes ok hi ha with ⟨-, idle, -⟩ | owes
      · exact Or.inl (by simp only [step, hi, idle])
      · exact Or.inr ⟨i, result, t, rfl, hi, by simp only [step, hi], owes⟩

/-! ## Callers, requests and answers of the small runs -/

def cdmAdmin : Caller :=
  ⟨.obj [("realm", .str "cdm"), ("roles", .arr [.str "cdm-admin"])], none, none⟩

/-- Neither a session nor a header. -/
def stranger : Caller := ⟨.null, none, none⟩

def submission (csr : String) : Request :=
  ⟨stranger, .submitJoinRequest "acme"
    { displayName := "Acme", subCaCsr := csr, wgPubkey := "" }⟩

def unreachable : HttpResult := .failure "unreachable"

/-- step-ca lists no provisioner: the signing fails with a `StepCAError`. -/
def noProvisioners : HttpResult :=
  .response { status := 200, text := "", json := .ok (.obj [("provisioners", .arr [])]) }

end CompleteDeviceManagement.Guarantees.JoinContract
