import CompleteDeviceManagement.Source.TerminalUpgrade

/-!
# Terminal access: who gets a device shell

The upgrade listener opens a shell for every token the verifier accepts. The
documented role check (docs/workflows/remote-access.md: cdm-operator or
cdm-admin) is made nowhere, a device id is looked up among the properties every
object inherits as well, and a target that is no URL makes the listener throw
with the socket left open. `access_iff` says that these three are all: on every
other request a shell is opened only for an operator, at the recorded address.
-/

set_option autoImplicit false

namespace CompleteDeviceManagement.Guarantees.TerminalAccess
open CompleteDeviceManagement.Library CompleteDeviceManagement.Source.TerminalUpgrade

/-! ## What is asked of a request -/

/-- `aud` is the expected audience or lists it; an empty one is not checked. -/
def forAudience (audience : String) (payload : Json) : Bool :=
  audience == "" ||
    match payload with
    | .obj claims =>
        match Json.field? "aud" claims with
        | some (.arr audiences) => audiences.any (Json.isText audience)
        | some aud => aud.isText audience
        | none => false
    | _ => false

/-- The documented contract of `jwt.verify`: `header` reads the header of a
token, `signed` says that a key signs the token with this payload. -/
structure Verifies (packages : Packages) (header : String → Option JwtHeader)
    (signed : String → String → Json → Prop) : Prop where
  signature : ∀ token getKey audience payload,
    packages.verify token getKey audience = .ok payload →
      ∃ h key, header token = some h ∧ getKey h = .ok (some key) ∧ signed key token payload
  audience : ∀ token getKey audience payload,
    packages.verify token getKey audience = .ok payload → forAudience audience payload = true

def operatorRole (payload : Json) : Bool :=
  (realmRoles payload).any fun role => role == "cdm-operator" || role == "cdm-admin"

def recorded (peersDb : Option Peers) (deviceId : String) : Option String :=
  peersDb.bind fun peers => peers.get? deviceId

section Requests

variable {R : Type} (host : Host R) (packages : Packages) (header : String → Option JwtHeader)
  (signed : String → String → Json → Prop) (authConfig : AuthConfig) (peersDb : Option Peers)
  (ttydPort : Nat)

def upgrade (request : R) : Upgrade :=
  onUpgrade host (serverDeps packages authConfig peersDb ttydPort) request

/-- The token in the query string was accepted under a signing key that key
lookup returned, it names an operator, and `url` is where the device of the
path is recorded. -/
def Authorised (request : R) (url : String) : Prop :=
  ∃ parsed deviceId token payload h key ip,
    host.newUrl (host.rawUrl request) = some parsed ∧
    parseDeviceId parsed.pathname = some deviceId ∧
    parsed.param "token" = some token ∧
    createVerifier packages authConfig none token = .ok payload ∧
    (header token = some h ∧ packages.getSigningKey h.kid = .ok (some key) ∧
      signed key token payload) ∧
    forAudience authConfig.audience payload = true ∧
    operatorRole payload = true ∧
    recorded peersDb deviceId = some ip ∧
    url = "ws://" ++ ip ++ ":" ++ toString ttydPort

/-- One HTTP error is written, the socket is destroyed, nothing is connected. -/
def Rejected (u : Upgrade) : Prop :=
  (∃ response, u.written = [response]) ∧ u.destroyed = true ∧ u.connected = []

def OpensForOperatorsOnly (request : R) : Prop :=
  (∃ url, (upgrade host packages authConfig peersDb ttydPort request).connected = [url] ∧
    Authorised host packages header signed authConfig peersDb ttydPort request url) ∨
  Rejected (upgrade host packages authConfig peersDb ttydPort request)

/-- The target is a URL, and whenever the path, the token, the lookup and the
handshake let the request through, the accepted token is an operator's and the
device has an entry of its own in the peers file. -/
def OperatorsOnly (request : R) : Prop :=
  ∃ parsed, host.newUrl (host.rawUrl request) = some parsed ∧
    ∀ deviceId token payload ip, parseDeviceId parsed.pathname = some deviceId →
      parsed.param "token" = some token → token ≠ "" →
      createVerifier packages authConfig none token = .ok payload →
      resolve peersDb deviceId = some ip → ip ≠ "" → host.refuses request = none →
      operatorRole payload = true ∧ (recorded peersDb deviceId).isSome = true

end Requests

/-! ## The decision of the listener -/

theorem rejectUpgrade_rejected (statusCode : Nat) (statusText : String) :
    Rejected (rejectUpgrade statusCode statusText) :=
  ⟨⟨_, rfl⟩, rfl, rfl⟩

theorem resolve_recorded {peersDb : Option Peers} {deviceId ip : String}
    (h : recorded peersDb deviceId = some ip) : resolve peersDb deviceId = some ip := by
  cases peersDb with
  | none => cases h
  | some peers =>
    have hget : peers.get? deviceId = some ip := h
    simp [resolve, hget]

section Requests

variable {R : Type} {host : Host R} {packages : Packages} {authConfig : AuthConfig}
  {peersDb : Option Peers} {ttydPort : Nat} {request : R}

/-- Every check of the listener has let the request through to `ip`. -/
structure Admitted (host : Host R) (packages : Packages) (authConfig : AuthConfig)
    (peersDb : Option Peers) (request : R) (parsed : Url) (deviceId token : String)
    (payload : Json) (ip : String) : Prop where
  target : host.newUrl (host.rawUrl request) = some parsed
  route : parseDeviceId parsed.pathname = some deviceId
  query : parsed.param "token" = some token
  nonempty : token ≠ ""
  accepted : createVerifier packages authConfig none token = .ok payload
  address : resolve peersDb deviceId = some ip
  known : ip ≠ ""
  handshake : host.refuses request = none

theorem upgrade_of_admitted {parsed : Url} {deviceId token ip : String} {payload : Json}
    (h : Admitted host packages authConfig peersDb request parsed deviceId token payload ip) :
    (upgrade host packages authConfig peersDb ttydPort request).connected =
      ["ws://" ++ ip ++ ":" ++ toString ttydPort] := by
  have hquery : (parsed.param "token").filter (· ≠ "") = some token := by
    rw [h.query]
    exact Option.filter_eq_some_iff.mpr ⟨rfl, decide_eq_true h.nonempty⟩
  have haddress : (resolve peersDb deviceId).filter (· ≠ "") = some ip := by
    rw [h.address]
    exact Option.filter_eq_some_iff.mpr ⟨rfl, decide_eq_true h.known⟩
  unfold upgrade onUpgrade serverDeps
  simp only [h.target, h.route, hquery, h.accepted, haddress, handleUpgrade, h.handshake]

/-- The listener throws, rejects, or has admitted the request. -/
theorem upgrade_cases (host : Host R) (packages : Packages) (authConfig : AuthConfig)
    (peersDb : Option Peers) (ttydPort : Nat) (request : R) :
    host.newUrl (host.rawUrl request) = none ∨
    Rejected (upgrade host packages authConfig peersDb ttydPort request) ∨
    ∃ parsed deviceId token payload ip,
      Admitted host packages authConfig peersDb request parsed deviceId token payload ip := by
  cases htarget : host.newUrl (host.rawUrl request) with
  | none => exact .inl rfl
  | some parsed =>
    right
    unfold upgrade onUpgrade serverDeps
    simp only [htarget]
    cases hroute : parseDeviceId parsed.pathname with
    | none => exact .inl (rejectUpgrade_rejected 404 "Not Found")
    | some deviceId =>
      cases htoken : (parsed.param "token").filter (· ≠ "") with
      | none => exact .inl (rejectUpgrade_rejected 401 "Unauthorized")
      | some token =>
        obtain ⟨hparam, hnonempty⟩ := Option.filter_eq_some_iff.mp htoken
        cases haccepted : createVerifier packages authConfig none token with
        | error error =>
          simp only [haccepted]
          exact .inl (rejectUpgrade_rejected 401 "Unauthorized")
        | ok payload =>
          simp only [haccepted]
          cases haddress : (resolve peersDb deviceId).filter (· ≠ "") with
          | none => exact .inl (rejectUpgrade_rejected 404 "Device Not Found")
          | some ip =>
            obtain ⟨hresolve, hknown⟩ := Option.filter_eq_some_iff.mp haddress
            cases hrefuses : host.refuses request with
            | some response =>
              left
              simp only [handleUpgrade, hrefuses]
              exact ⟨⟨response, rfl⟩, rfl, rfl⟩
            | none =>
              right
              exact ⟨parsed, deviceId, token, payload, ip, htarget, hroute, hparam,
                of_decide_eq_true hnonempty, haccepted, hresolve, of_decide_eq_true hknown,
                hrefuses⟩

theorem upgrade_of_thrown (h : host.newUrl (host.rawUrl request) = none) :
    upgrade host packages authConfig peersDb ttydPort request = { thrown := true } := by
  unfold upgrade onUpgrade
  simp only [h]

end Requests

/-! ## Exactly when the law holds -/

section Requests

variable {R : Type} {host : Host R} {packages : Packages} {header : String → Option JwtHeader}
  {signed : String → String → Json → Prop} {authConfig : AuthConfig} {peersDb : Option Peers}
  {ttydPort : Nat} {request : R}

theorem authorised_of_admitted (verifies : Verifies packages header signed) {parsed : Url}
    {deviceId token ip : String} {payload : Json}
    (h : Admitted host packages authConfig peersDb request parsed deviceId token payload ip)
    (role : operatorRole payload = true) (own : (recorded peersDb deviceId).isSome = true) :
    Authorised host packages header signed authConfig peersDb ttydPort request
      ("ws://" ++ ip ++ ":" ++ toString ttydPort) := by
  obtain ⟨ip', hip'⟩ := Option.isSome_iff_exists.mp own
  have hsame : ip' = ip := by
    have haddress := h.address
    rw [resolve_recorded hip'] at haddress
    exact Option.some.inj haddress
  subst hsame
  obtain ⟨head, key, hhead, hkey, hsigned⟩ := verifies.signature _ _ _ _ h.accepted
  have haudience := verifies.audience _ _ _ _ h.accepted
  exact ⟨parsed, deviceId, token, payload, head, key, ip', h.target, h.route, h.query, h.accepted,
    ⟨hhead, hkey, hsigned⟩, haudience, role, hip', rfl⟩

/-- An authorised request that is let through is let through for the same device
and the same payload. -/
theorem Authorised.admitted {parsed : Url} {deviceId token ip url : String} {payload : Json}
    (ha : Authorised host packages header signed authConfig peersDb ttydPort request url)
    (h : Admitted host packages authConfig peersDb request parsed deviceId token payload ip) :
    operatorRole payload = true ∧ (recorded peersDb deviceId).isSome = true := by
  obtain ⟨parsed', deviceId', token', payload', _, _, ip', htarget, hroute, hquery, haccepted,
    _, _, hrole, hrecorded, _⟩ := ha
  cases Option.some.inj (htarget.symm.trans h.target)
  cases Option.some.inj (hroute.symm.trans h.route)
  cases Option.some.inj (hquery.symm.trans h.query)
  cases Except.ok.inj (haccepted.symm.trans h.accepted)
  exact ⟨hrole, by simp [hrecorded]⟩

end Requests

theorem access_iff {R : Type} (host : Host R) (packages : Packages)
    (header : String → Option JwtHeader) (signed : String → String → Json → Prop)
    (verifies : Verifies packages header signed) (authConfig : AuthConfig)
    (peersDb : Option Peers) (ttydPort : Nat) (request : R) :
    OpensForOperatorsOnly host packages header signed authConfig peersDb ttydPort request ↔
      OperatorsOnly host packages authConfig peersDb request := by
  constructor
  · intro opens
    cases htarget : host.newUrl (host.rawUrl request) with
    | none =>
      exfalso
      have hthrown : upgrade host packages authConfig peersDb ttydPort request =
          { thrown := true } := upgrade_of_thrown htarget
      rcases opens with ⟨url, hurl, _⟩ | ⟨_, hdestroyed, _⟩
      · rw [hthrown] at hurl
        cases hurl
      · rw [hthrown] at hdestroyed
        cases hdestroyed
    | some parsed =>
      refine ⟨parsed, htarget, ?_⟩
      intro deviceId token payload ip hroute hquery hnonempty haccepted haddress hknown hhandshake
      have admitted : Admitted host packages authConfig peersDb request parsed deviceId token
          payload ip :=
        ⟨htarget, hroute, hquery, hnonempty, haccepted, haddress, hknown, hhandshake⟩
      rcases opens with ⟨url, _, authorised⟩ | ⟨_, _, hconnected⟩
      · exact authorised.admitted admitted
      · rw [upgrade_of_admitted admitted] at hconnected
        cases hconnected
  · rintro ⟨parsed, htarget, only⟩
    rcases upgrade_cases host packages authConfig peersDb ttydPort request with
      hthrown | hrejected | ⟨parsed', deviceId, token, payload, ip, admitted⟩
    · rw [htarget] at hthrown
      cases hthrown
    · exact .inr hrejected
    · left
      cases Option.some.inj (htarget.symm.trans admitted.target)
      obtain ⟨role, own⟩ := only deviceId token payload ip admitted.route admitted.query
        admitted.nonempty admitted.accepted admitted.address admitted.known admitted.handshake
      exact ⟨_, upgrade_of_admitted admitted, authorised_of_admitted verifies admitted role own⟩

/-! ## A viewer gets a shell -/

/-- One target, which is `/terminal/dev-1?token=t`, and a well-formed handshake. -/
def terminalTarget : Host Unit where
  rawUrl := fun _ => "/terminal/dev-1?token=t"
  newUrl := fun _ => some ⟨"/terminal/dev-1", [("token", "t")]⟩
  refuses := fun _ => none

/-- The realm signed the token `t` for the terminal proxy, for a user with this
role. -/
def realmWith (role : String) : Json :=
  .obj [("aud", .str "terminal-proxy"), ("preferred_username", .str "v"),
    ("realm_access", .obj [("roles", .arr [.str role])])]

/-- `t` is the one token there is, signed with the key `k`. -/
def oneToken (payload : Json) : Packages where
  getSigningKey := fun _ => .ok (some "k")
  verify := fun token getKey audience =>
    match getKey ⟨none⟩ with
    | .error text => .error ("error in secret or public key callback: " ++ text)
    | .ok none => .error "secret or public key must be provided"
    | .ok (some key) =>
        if token = "t" ∧ key = "k" then
          if forAudience audience payload then .ok payload else .error "jwt audience invalid"
        else .error "invalid signature"

def oneHeader (token : String) : Option JwtHeader := if token = "t" then some ⟨none⟩ else none

def signedOnce (payload : Json) (key token : String) (p : Json) : Prop :=
  key = "k" ∧ token = "t" ∧ p = payload

theorem oneToken_accepts {payload p : Json} {token audience : String} {getKey : GetKeyFn}
    (h : (oneToken payload).verify token getKey audience = .ok p) :
    getKey ⟨none⟩ = .ok (some "k") ∧ token = "t" ∧ p = payload ∧
      forAudience audience payload = true := by
  simp only [oneToken] at h
  split at h
  · cases h
  · cases h
  · rename_i key hkey
    split at h
    · rename_i hsigned
      split at h
      · rename_i haudience
        obtain ⟨rfl, rfl⟩ := hsigned
        exact ⟨hkey, rfl, (Except.ok.inj h).symm, haudience⟩
      · cases h
    · cases h

theorem oneToken_verifies (payload : Json) :
    Verifies (oneToken payload) oneHeader (signedOnce payload) := by
  constructor
  · intro token getKey audience p h
    obtain ⟨hkey, rfl, rfl, _⟩ := oneToken_accepts h
    exact ⟨⟨none⟩, "k", by decide, hkey, rfl, rfl, rfl⟩
  · intro token getKey audience p h
    obtain ⟨_, _, rfl, haudience⟩ := oneToken_accepts h
    exact haudience

def onePeer : Option Peers := some (Dict.empty.set "dev-1" "10.13.13.2")

theorem viewer_gets_shell :
    (upgrade terminalTarget (oneToken (realmWith "cdm-viewer")) ⟨"terminal-proxy"⟩ onePeer 7681
      ()).connected = ["ws://10.13.13.2:7681"] ∧
    ¬ OpensForOperatorsOnly terminalTarget (oneToken (realmWith "cdm-viewer")) oneHeader
      (signedOnce (realmWith "cdm-viewer")) ⟨"terminal-proxy"⟩ onePeer 7681 () := by
  have hconnected : (upgrade terminalTarget (oneToken (realmWith "cdm-viewer")) ⟨"terminal-proxy"⟩
      onePeer 7681 ()).connected = ["ws://10.13.13.2:7681"] := by decide +kernel
  refine ⟨hconnected, ?_⟩
  rintro (⟨url, _, _, _, _, _, _, _, _, htarget, _, hquery, haccepted, _, _, hrole, _⟩ | h)
  · cases Option.some.inj htarget
    have htoken : "t" = _ := Option.some.inj hquery
    subst htoken
    have hpayload : realmWith "cdm-viewer" = _ := Except.ok.inj haccepted
    subst hpayload
    exact absurd hrole (by decide)
  · have hnone := h.2.2
    rw [hconnected] at hnone
    cases hnone

theorem operator_gets_shell :
    OpensForOperatorsOnly terminalTarget (oneToken (realmWith "cdm-operator")) oneHeader
      (signedOnce (realmWith "cdm-operator")) ⟨"terminal-proxy"⟩ onePeer 7681 () :=
  (access_iff terminalTarget (oneToken (realmWith "cdm-operator")) oneHeader
    (signedOnce (realmWith "cdm-operator")) (oneToken_verifies _) ⟨"terminal-proxy"⟩ onePeer 7681
    ()).mpr (by
      refine ⟨⟨"/terminal/dev-1", [("token", "t")]⟩, rfl, ?_⟩
      intro deviceId token payload ip hroute hquery _ haccepted _ _ _
      have hdevice : deviceId = "dev-1" := (Option.some.inj hroute).symm
      have hpayload : payload = realmWith "cdm-operator" := (oneToken_accepts haccepted).2.2.1
      subst hdevice hpayload
      exact ⟨by decide, by decide⟩)

end CompleteDeviceManagement.Guarantees.TerminalAccess
