import CompleteDeviceManagement.Guarantees.TelemetryRows
import CompleteDeviceManagement.Library.Outcomes

/-!
# Which failures the device endpoints report

Every exchange of the three device endpoints has an outcome: an answer, a
transport error, or something else that httpx raises. For each there is a
verdict on what the code makes of it, read off what the outcome is. The calls
are made in order, so the first outcome that is not usable decides.
-/

set_option autoImplicit false

namespace CompleteDeviceManagement.Guarantees.DeviceFailures
open CompleteDeviceManagement.Library CompleteDeviceManagement.Source.Runtime
  CompleteDeviceManagement.Source.StepCa CompleteDeviceManagement.Source.WireGuard
  CompleteDeviceManagement.Source.DeviceRuntime CompleteDeviceManagement.Source.HawkBit
  CompleteDeviceManagement.Source.WireGuardPeers CompleteDeviceManagement.Source.DeviceRouters
  CompleteDeviceManagement.Source.Telemetry CompleteDeviceManagement.Guarantees.DeviceCalls
  CompleteDeviceManagement.Guarantees.TelemetryRows
open CompleteDeviceManagement.Library.Fallible

/-! ## The verdicts on step-ca -/

/-- None where httpx raises something that is no transport error. -/
abbrev Outcome := Option HttpResult

section Verdicts

variable (env : DeviceEnv)

/-- The signing key in a list of provisioners, or what reading it raises. -/
def signingKey (r : Response) : Except Raised Jwk := do
  let self := getStepCaClient env.env.settings
  let data ← r.json.mapError .jsonDecodeError
  let provisioners ← (data.get "provisioners" (.arr [])).mapError .language
  let provs ← provisioners.iter.mapError .language
  findKey env.env self.provisionerName self.provisionerPassword
    ("Provisioner '" ++ self.provisionerName ++ "' has no encryptedKey")
    ("JWK provisioner '" ++ self.provisionerName ++ "' not found in step-ca") provs

/-- The CSR can be fingerprinted and the token signed with this key. -/
def signable (key : Jwk) (deviceId csr : String) (w : DeviceWorld) : Bool :=
  let self := getStepCaClient env.env.settings
  match env.env.crypto.csrSha csr with
  | .error _ => false
  | .ok sha =>
      match env.env.crypto.signToken (token key self.provisionerName deviceId
        (self.url ++ "/1.0/sign") (env.env.clock w.api.ticks) (some [deviceId]) (some sha)) with
      | .error _ => false
      | .ok _ => true

/-- The list of provisioners. An error status is raised as `HTTPStatusError`,
which is neither of the two errors that are caught. -/
def keyVerdict (deviceId csr : String) (w : DeviceWorld) : Outcome → Verdict
  | none => .escapes
  | some (.failure _) => .reported
  | some (.response r) =>
      if r.isSuccess then
        match signingKey env r with
        | .ok key => if signable env key deviceId csr w then .usable else .escapes
        | .error (.stepCaError _) => .reported
        | .error _ => .escapes
      else .escapes

/-- The two certificates in the answer to a CSR. -/
def certificates (r : Response) : Option (Json × Json) :=
  match r.json with
  | .error _ => none
  | .ok data =>
      match data.item "crt", data.item "ca" with
      | .ok crt, .ok ca => some (crt, ca)
      | _, _ => none

def signVerdict : Outcome → Verdict
  | none => .escapes
  | some (.failure _) => .reported
  | some (.response r) =>
      if r.isSuccess then
        if (certificates r).isSome then .usable else .escapes
      else .reported

/-- The response model takes two texts. -/
def textVerdict : Outcome → Verdict
  | some (.response r) =>
      match certificates r with
      | some (.str _, .str _) => .usable
      | _ => .escapes
  | _ => .escapes

/-! ## The verdicts on hawkBit and the address -/

def lookupVerdict : Outcome → Verdict
  | none => .escapes
  | some (.failure _) => .reported
  | some (.response r) =>
      if r.status = 404 then .usable
      else if r.isSuccess then
        match r.json with
        | .ok _ => .usable
        | .error _ => .escapes
      else .reported

/-- The lookup found a target. -/
def found : Outcome → Bool
  | some (.response r) =>
      if r.status = 404 then false
      else
        match r.json with
        | .ok target => target.truthy
        | .error _ => false
  | _ => false

def creationVerdict : Outcome → Verdict
  | none => .escapes
  | some (.failure _) => .reported
  | some (.response r) =>
      if r.isSuccess then
        match r.json with
        | .error _ => .escapes
        | .ok created =>
            match created.first with
            | .ok _ => .usable
            | .error _ => .escapes
      else .reported

def attributesVerdict : Outcome → Verdict
  | none => .escapes
  | some (.failure _) => .reported
  | some (.response r) => if r.isSuccess then .usable else .reported

/-- The calls to hawkBit, counted from `n`. -/
def targetVerdict (outcomes : Nat → Outcome) (n : Nat) : Verdict :=
  (lookupVerdict (outcomes n)).andThen <|
    if found (outcomes n) then .usable
    else (creationVerdict (outcomes (n + 1))).andThen (attributesVerdict (outcomes (n + 2)))

/-- The device has an address, or the recorded ones are addresses and one is left. -/
def hasAddress (peersDb : Option Peers) (deviceId : String) : Bool :=
  ((loadPeers peersDb).get? deviceId).isSome ||
    match usedAddresses (loadPeers peersDb).values with
    | .ok used => env.wg.subnet.hosts.any fun host => decide (host ∉ env.wg.serverIp :: used)
    | .error _ => false

def addressVerdict (w : DeviceWorld) (deviceId : String) : Verdict :=
  if hasAddress env w.files.peersDb deviceId then .usable else .escapes

def csrVerdict (csr : String) : Verdict :=
  match env.loadCsr csr with
  | .ok true => .usable
  | _ => .reported

/-! ## The verdict on a call -/

def callVerdict (w : DeviceWorld) (outcomes : Nat → Outcome) : DeviceCall → Verdict
  | .enroll deviceId body =>
      (csrVerdict env body.csr).andThen <|
      (keyVerdict env deviceId body.csr w (outcomes 0)).andThen <|
      (signVerdict (outcomes 1)).andThen <|
      (targetVerdict outcomes 2).andThen <|
      (addressVerdict env w deviceId).andThen (textVerdict (outcomes 1))
  | .webhook event =>
      match (extractDeviceId env event).filter (· ≠ "") with
      | none => .usable
      | some deviceId => (targetVerdict outcomes 0).andThen (addressVerdict env w deviceId)

end Verdicts

/-- The handler returned, or raised one of the designed errors. -/
def Reported : Option DeviceReply → Prop
  | some (.enrolled _) => True
  | some (.webhook _) => True
  | some (.httpError status _) => status = 422 ∨ status = 502 ∨ status = 503
  | some (.serverError _) => False
  | none => False

/-! ## The designed errors -/

def Designed : DeviceRaised → Prop
  | .api (.httpException status _) => status = 422 ∨ status = 502 ∨ status = 503
  | _ => False

variable {α β : Type} {env : DeviceEnv} {outcomes : Nat → Outcome} {n : Nat} {w : DeviceWorld}

/-- The judgement on a part of a handler. -/
abbrev Judged (post : α → Nat → DeviceWorld → Prop) (v : Verdict) (x : DeviceApp α) (n : Nat)
    (w : DeviceWorld) (outcomes : Nat → Outcome) : Prop :=
  Ends Designed (fun error => ¬ Designed error) post v (x.run.finish outcomes n w)

/-- The judgement on what is inside the `try` of one service. -/
abbrev Tried (isError : DeviceRaised → Bool) (post : α → Nat → DeviceWorld → Prop) (v : Verdict)
    (x : DeviceApp α) (n : Nat) (w : DeviceWorld) (outcomes : Nat → Outcome) : Prop :=
  Ends (fun error => (error.isRequestError || isError error) = true)
    (fun error => (error.isRequestError || isError error) = false ∧ ¬ Designed error) post v
    (x.run.finish outcomes n w)

theorem designed_raise {α : Type} {status : Nat} {detail : String}
    (h : status = 422 ∨ status = 502 ∨ status = 503) {post : α → Nat → DeviceWorld → Prop} :
    Judged post .reported (raise (.httpException status detail) : DeviceApp α) n w outcomes :=
  ends_reported h

theorem Tried.answering {isError : DeviceRaised → Bool} {post : α → Nat → DeviceWorld → Prop}
    {v : Verdict} {body : DeviceApp α} (h : Tried isError post v body n w outcomes)
    (unreachable failed : String) :
    Judged post v (answering env.env.py isError unreachable failed body) n w outcomes := by
  apply ends_attempt h
  · intro value n' w' hpost
    exact ends_ok hpost
  · intro error n' w' caughtError
    simp only [caught, caughtError, if_true, onward_ok]
    split
    · exact designed_raise (by decide)
    · exact designed_raise (by decide)
  · exact fun _ escaped => escaped

/-! ## step-ca -/

theorem ends_exchange {reports escapes : Raised → Prop} {post : α → Nat → World → Prop}
    {request : HttpRequest} {f : Response → App α} {v : Outcome → Verdict} {s : World}
    (hnone : v none = .escapes)
    (hfailure : ∀ text, v (some (.failure text)) = .reported ∧ reports (.requestError text))
    (hresponse : ∀ r, outcomes n = some (.response r) →
      Ends reports escapes post (v (some (.response r)))
        ((f r).run.finish outcomes (n + 1) s)) :
    Ends reports escapes post (v (outcomes n))
      ((Source.Runtime.exchange request >>= f).run.finish outcomes n s) := by
  unfold Source.Runtime.exchange
  rw [bind_assoc, finish_call]
  cases houtcome : outcomes n with
  | none =>
    rw [hnone]
    exact ends_none
  | some answer =>
    cases answer with
    | failure text =>
      rw [(hfailure text).1]
      exact ends_reported (hfailure text).2
    | response r => exact hresponse r houtcome

/-- The judgement on what is said to step-ca, inside the `try`. -/
abbrev CaTried (post : α → Nat → World → Prop) (v : Verdict) (x : App α) (n : Nat) (s : World)
    (outcomes : Nat → Outcome) : Prop :=
  Ends (fun error => ((DeviceRaised.api error).isRequestError ||
      (DeviceRaised.api error).isStepCaError) = true)
    (fun error => ((DeviceRaised.api error).isRequestError ||
      (DeviceRaised.api error).isStepCaError) = false ∧ ¬ Designed (.api error))
    post v (x.run.finish outcomes n s)

theorem CaTried.tried {post : α → Nat → World → Prop} {v : Verdict} {x : App α}
    (h : CaTried post v x n w.api outcomes) :
    Tried DeviceRaised.isStepCaError
      (fun value n' w' => post value n' w'.api ∧ w'.files = w.files) v (stepCa x) n w outcomes := by
  have hrun : (stepCa x).run.finish outcomes n w =
      (x.run.finish outcomes n w.api).map fun ended =>
        (ended.1.mapError .api, ended.2.1, { w with api := ended.2.2 }) := by
    show (Proc.bind _ _).finish outcomes n w = _
    rw [Proc.finish_bind, Proc.finish_within DeviceWorld.api
      (fun api (w : DeviceWorld) => { w with api := api }) DeviceRequest.stepCa
      (fun _ _ => rfl) (fun _ _ _ => rfl) fun _ => rfl]
    cases x.run.finish outcomes n w.api <;> rfl
  unfold Tried
  rw [hrun]
  apply Ends.map h DeviceRaised.api fun api => ({ w with api := api } : DeviceWorld)
  · exact fun _ caught => caught
  · exact fun _ uncaught => uncaught
  · exact fun _ _ _ hpost => ⟨hpost, rfl⟩

theorem settled_bind {γ ε : Type} (x : Except ε α) (f : α → Except ε β) :
    (settled x >>= fun value => settled (f value) : Fallible γ HttpRequest HttpResult ε β) =
      settled (x >>= f) := by
  cases x <;> rfl

theorem loadSigningKey_eq :
    (getStepCaClient env.env.settings).loadSigningKey env.env =
      Source.Runtime.exchange (.stepCaProvisioners (getStepCaClient env.env.settings).url) >>=
        fun r => r.raiseForStatus >>= fun _ => settled (signingKey env r) := by
  have hlist : ∀ r : Response, (do
      let data ← r.decoded
      let provisioners ← language (data.get "provisioners" (.arr []))
      let provs ← language provisioners.iter
      settled (findKey env.env (getStepCaClient env.env.settings).provisionerName
        (getStepCaClient env.env.settings).provisionerPassword
        ("Provisioner '" ++ (getStepCaClient env.env.settings).provisionerName ++
          "' has no encryptedKey")
        ("JWK provisioner '" ++ (getStepCaClient env.env.settings).provisionerName ++
          "' not found in step-ca") provs)) = settled (signingKey env r) := by
    intro r
    show (settled _ >>= fun data => settled _ >>= fun provisioners => settled _ >>= fun provs =>
      settled _) = _
    simp only [settled_bind]
    rfl
  unfold StepCAClient.loadSigningKey loadKey
  congr 1
  funext r
  congr 1
  funext _
  exact hlist r

/-- Errors of the language, the packages and httpx, which no clause catches. -/
def Uncaught : Raised → Prop
  | .language _ => True
  | .jsonDecodeError _ => True
  | .packageError _ => True
  | .httpStatusError _ => True
  | _ => False

theorem uncaught_tried (error : Raised) (h : Uncaught error) :
    ((DeviceRaised.api error).isRequestError || (DeviceRaised.api error).isStepCaError) = false ∧
      ¬ Designed (.api error) := by
  cases error with
  | language error => exact ⟨rfl, fun h => h⟩
  | jsonDecodeError text => exact ⟨rfl, fun h => h⟩
  | packageError text => exact ⟨rfl, fun h => h⟩
  | httpStatusError status => exact ⟨rfl, fun h => h⟩
  | _ => exact h.elim

/-- An error of this result is uncaught, if it is not step-ca's own. -/
def FromCa (result : Except Raised α) : Prop :=
  ∀ error, result = .error error → Uncaught error ∨ ∃ message, error = .stepCaError message

theorem FromCa.bind {x : Except Raised α} {f : α → Except Raised β} (hx : FromCa x)
    (hf : ∀ value, FromCa (f value)) : FromCa (x >>= f) := by
  intro error h
  cases x with
  | ok value => exact hf value error h
  | error error' =>
    cases h
    exact hx error rfl

theorem fromCa_ok (value : α) : FromCa (.ok value) := by
  intro error h
  cases h

theorem fromCa_own (message : String) :
    FromCa (.error (.stepCaError message) : Except Raised α) := by
  intro error h
  cases h
  exact .inr ⟨message, rfl⟩

theorem fromCa_language (result : Except PyError α) : FromCa (result.mapError .language) := by
  intro error h
  cases result with
  | ok value => cases h
  | error raised =>
    cases h
    exact .inl trivial

theorem fromCa_package (result : Except String α) : FromCa (result.mapError .packageError) := by
  intro error h
  cases result with
  | ok value => cases h
  | error raised =>
    cases h
    exact .inl trivial

theorem fromCa_decode (result : Except String α) : FromCa (result.mapError .jsonDecodeError) := by
  intro error h
  cases result with
  | ok value => cases h
  | error raised =>
    cases h
    exact .inl trivial

/-- A provisioner of the name that is looked for. -/
theorem fromCa_named (env : Env) (password noKey : String) (prov kind : Json)
    {others : Except Raised Jwk} (h : FromCa others) :
    FromCa (if kind.isText "JWK" then do
        let encryptedKey ← (prov.get "encryptedKey" (.str "")).mapError .language
        if encryptedKey.truthy then
          (env.crypto.decryptKey encryptedKey password).mapError .packageError
        else .error (.stepCaError noKey)
      else others) := by
  split
  · apply (fromCa_language _).bind
    intro encryptedKey
    split
    · exact fromCa_package _
    · exact fromCa_own noKey
  · exact h

theorem fromCa_findKey (env : Env) (name password noKey notFound : String) (provs : List Json) :
    FromCa (findKey env name password noKey notFound provs) := by
  induction provs with
  | nil => exact fromCa_own notFound
  | cons prov rest ih =>
    rw [findKey]
    apply (fromCa_language _).bind
    intro provName
    dsimp only
    split
    · apply (fromCa_language _).bind
      intro kind
      exact fromCa_named env password noKey prov kind ih
    · apply (fromCa_ok _).bind
      intro kind
      exact fromCa_named env password noKey prov kind ih

theorem fromCa_signingKey (r : Response) : FromCa (signingKey env r) := by
  unfold signingKey
  apply (fromCa_decode _).bind
  intro data
  apply (fromCa_language _).bind
  intro provisioners
  apply (fromCa_language _).bind
  intro provs
  exact fromCa_findKey _ _ _ _ _ _

/-- What is done with the key needs no exchange. -/
theorem token_judged (key : Jwk) (deviceId csr : String) (k : Nat) :
    CaTried (fun _ n' _ => n' = k)
      (if signable env key deviceId csr w then .usable else .escapes)
      (now env.env >>= fun time => package (env.env.crypto.csrSha csr) >>= fun sha =>
        package (env.env.crypto.signToken (token key
          (getStepCaClient env.env.settings).provisionerName deviceId
          ((getStepCaClient env.env.settings).url ++ "/1.0/sign") time (some [deviceId])
            (some sha))) >>= fun _ =>
          pure (token key (getStepCaClient env.env.settings).provisionerName deviceId
            ((getStepCaClient env.env.settings).url ++ "/1.0/sign") time (some [deviceId])
              (some sha))) k w.api outcomes := by
  unfold signable
  show Ends _ _ _ _ ((package (env.env.crypto.csrSha csr) >>= _).run.finish outcomes k
    { w.api with ticks := w.api.ticks + 1 })
  cases hsha : env.env.crypto.csrSha csr with
  | error text => exact ends_escapes (uncaught_tried (.packageError text) trivial)
  | ok sha =>
    show Ends _ _ _ _ ((package (env.env.crypto.signToken (token key _ deviceId _
      (env.env.clock w.api.ticks) (some [deviceId]) (some sha))) >>= _).run.finish outcomes k _)
    obtain ⟨result, hresult⟩ : ∃ result, env.env.crypto.signToken (token key
      (getStepCaClient env.env.settings).provisionerName deviceId
        ((getStepCaClient env.env.settings).url ++ "/1.0/sign") (env.env.clock w.api.ticks)
          (some [deviceId]) (some sha)) = result := ⟨_, rfl⟩
    simp only [hresult]
    cases result with
    | error text => exact ends_escapes (uncaught_tried (.packageError text) trivial)
    | ok _ => exact ends_ok rfl

theorem makeOtt_judged (deviceId csr : String) :
    CaTried (fun _ n' _ => n' = n + 1) (keyVerdict env deviceId csr w (outcomes n))
      ((getStepCaClient env.env.settings).makeOtt env.env deviceId [deviceId] csr) n w.api
      outcomes := by
  unfold StepCAClient.makeOtt
  rw [loadSigningKey_eq, bind_assoc]
  apply ends_exchange (v := keyVerdict env deviceId csr w) rfl fun _ => ⟨rfl, rfl⟩
  intro r _
  unfold keyVerdict Response.raiseForStatus
  dsimp only
  cases hsuccess : r.isSuccess with
  | false => exact ends_escapes (uncaught_tried (.httpStatusError r.status) trivial)
  | true =>
    simp only [if_true]
    cases hkey : signingKey env r with
    | ok key => exact token_judged key deviceId csr (n + 1)
    | error error =>
      rcases fromCa_signingKey r error hkey with uncaught | own
      · have escaped := uncaught_tried error uncaught
        cases error with
        | stepCaError message => exact uncaught.elim
        | _ => exact ends_escapes escaped
      · obtain ⟨message, rfl⟩ := own
        exact ends_reported rfl

theorem submit_judged (csr : String) (ott : Jwt) (s : World) :
    CaTried (fun certs n' _ => n' = n + 1 ∧ ∃ r, outcomes n = some (.response r) ∧
        certificates r = some certs)
      (signVerdict (outcomes n))
      (submit (getStepCaClient env.env.settings).url "step-ca /1.0/sign returned " csr ott) n s
      outcomes := by
  unfold submit
  apply ends_exchange (v := signVerdict) rfl fun _ => ⟨rfl, rfl⟩
  intro r houtcome
  unfold signVerdict
  dsimp only
  cases hsuccess : r.isSuccess with
  | false => exact ends_reported rfl
  | true =>
    simp only [if_true]
    unfold certificates Response.decoded
    cases hjson : r.json with
    | error text => exact ends_escapes (uncaught_tried (.jsonDecodeError text) trivial)
    | ok data =>
      show Ends _ _ _ _ ((language (data.item "crt") >>= fun crt => language (data.item "ca") >>=
        fun ca => pure (crt, ca)).run.finish outcomes (n + 1) s)
      obtain ⟨crt, hcrt⟩ : ∃ crt, data.item "crt" = crt := ⟨_, rfl⟩
      obtain ⟨ca, hca⟩ : ∃ ca, data.item "ca" = ca := ⟨_, rfl⟩
      simp only [hcrt, hca]
      cases crt with
      | error raised => exact ends_escapes (uncaught_tried (.language raised) trivial)
      | ok crt =>
        cases ca with
        | error raised => exact ends_escapes (uncaught_tried (.language raised) trivial)
        | ok ca =>
          apply ends_ok
          refine ⟨rfl, r, houtcome, ?_⟩
          simp [hjson, hcrt, hca]

theorem signDevice_judged (deviceId csr : String) :
    Judged (fun certs n' w' => (n' = n + 2 ∧ ∃ r, outcomes (n + 1) = some (.response r) ∧
        certificates r = some certs) ∧ w'.files = w.files)
      ((keyVerdict env deviceId csr w (outcomes n)).andThen (signVerdict (outcomes (n + 1))))
      (signDevice env deviceId csr) n w outcomes := by
  have asked : CaTried (fun certs n' _ => n' = n + 2 ∧ ∃ r,
      outcomes (n + 1) = some (.response r) ∧ certificates r = some certs)
      ((keyVerdict env deviceId csr w (outcomes n)).andThen (signVerdict (outcomes (n + 1))))
      ((getStepCaClient env.env.settings).signCertificate env.env csr deviceId [deviceId]) n w.api
      outcomes := by
    unfold StepCAClient.signCertificate
    apply ends_bind (makeOtt_judged deviceId csr)
    intro ott n' s' hn
    subst hn
    exact submit_judged csr ott s'
  exact asked.tried.answering _ _

/-! ## hawkBit -/

/-- An exchange with hawkBit, inside the `try`. -/
theorem tried_exchange {post : α → Nat → DeviceWorld → Prop} {request : DeviceRequest}
    {f : Response → DeviceApp α} {v : Outcome → Verdict} (hnone : v none = .escapes)
    (hfailure : ∀ text, v (some (.failure text)) = .reported)
    (hresponse : ∀ r, outcomes n = some (.response r) →
      Tried DeviceRaised.isHawkBitError post (v (some (.response r))) (f r) (n + 1) w outcomes) :
    Tried DeviceRaised.isHawkBitError post (v (outcomes n))
      (Source.DeviceRuntime.exchange request >>= f) n w outcomes := by
  unfold Tried Source.DeviceRuntime.exchange
  rw [bind_assoc, finish_call]
  cases houtcome : outcomes n with
  | none =>
    rw [hnone]
    exact ends_none
  | some answer =>
    cases answer with
    | failure text =>
      rw [hfailure text]
      exact ends_reported rfl
    | response r => exact hresponse r houtcome

theorem getTarget_judged (deviceId : String) :
    Tried DeviceRaised.isHawkBitError
      (fun target n' w' => n' = n + 1 ∧ w' = w ∧ target.truthy = found (outcomes n))
      (lookupVerdict (outcomes n)) ((getHawkbitClient env.settings).getTarget deviceId) n w
      outcomes := by
  apply tried_exchange (v := lookupVerdict) rfl fun _ => rfl
  intro r houtcome
  unfold lookupVerdict
  dsimp only
  by_cases hmissing : r.status = 404
  · rw [if_pos hmissing, if_pos hmissing]
    apply ends_ok
    refine ⟨rfl, rfl, ?_⟩
    simp [houtcome, found, hmissing, Json.truthy]
  · rw [if_neg hmissing, if_neg hmissing]
    cases hsuccess : r.isSuccess with
    | false => exact ends_reported rfl
    | true =>
      simp only [if_true]
      unfold decoded
      cases hjson : r.json with
      | error text => exact ends_escapes ⟨rfl, fun h => h⟩
      | ok target =>
        apply ends_ok
        refine ⟨rfl, rfl, ?_⟩
        simp [houtcome, found, hmissing, hjson]

theorem putAttributes_judged (deviceId : String) (attributes : List (String × Json)) :
    Tried DeviceRaised.isHawkBitError (fun _ _ w' => w' = w) (attributesVerdict (outcomes n))
      ((getHawkbitClient env.settings).putAttributes deviceId attributes) n w outcomes := by
  apply tried_exchange (v := attributesVerdict) rfl fun _ => rfl
  intro r _
  unfold attributesVerdict
  dsimp only
  cases hsuccess : r.isSuccess with
  | false => exact ends_reported rfl
  | true => exact ends_ok rfl

theorem createTarget_judged (deviceId : String) (name : Json) {attributes : List (String × Json)}
    (some : attributes.isEmpty = false) :
    Tried DeviceRaised.isHawkBitError (fun _ _ w' => w' = w)
      ((creationVerdict (outcomes n)).andThen (attributesVerdict (outcomes (n + 1))))
      ((getHawkbitClient env.settings).createTarget deviceId name attributes) n w outcomes := by
  apply tried_exchange (v := fun outcome =>
    (creationVerdict outcome).andThen (attributesVerdict (outcomes (n + 1)))) rfl fun _ => rfl
  intro r _
  unfold creationVerdict
  dsimp only
  cases hsuccess : r.isSuccess with
  | false => exact ends_reported rfl
  | true =>
    simp only [if_true]
    unfold decoded
    cases hjson : r.json with
    | error text => exact ends_escapes ⟨rfl, fun h => h⟩
    | ok created =>
      show Tried _ _ _ (checked created.first >>= _) (n + 1) w outcomes
      dsimp only
      cases hfirst : created.first with
      | error raised => exact ends_escapes ⟨rfl, fun h => h⟩
      | ok target =>
        show Tried _ _ _ (if attributes.isEmpty = true then _ else _) (n + 1) w outcomes
        rw [some, if_neg Bool.false_ne_true, Verdict.usable_andThen, ← Verdict.andThen_usable
          (attributesVerdict _)]
        apply ends_bind (putAttributes_judged deviceId attributes)
        intro _ n' w' hw
        exact ends_ok hw

theorem ensureTarget_judged (deviceId : String) (body : EnrollmentRequest) :
    Judged (fun _ _ w' => w' = w) (targetVerdict outcomes n) (ensureTarget env deviceId body) n w
      outcomes := by
  apply Tried.answering
  apply ends_bind (getTarget_judged deviceId)
  intro target n' w' h
  obtain ⟨rfl, rfl, hfound⟩ := h
  rw [← hfound]
  cases target.truthy with
  | true => exact ends_ok rfl
  | false =>
    show Tried _ _ _ (_ >>= fun _ => pure ()) _ _ _
    rw [if_neg Bool.false_ne_true, ← Verdict.andThen_usable ((creationVerdict _).andThen _)]
    apply ends_bind (createTarget_judged deviceId _ rfl)
    intro _ n' w' hw
    exact ends_ok hw

/-! ## The address and the answer -/

theorem hasAddress_iff (peersDb : Option Peers) (deviceId : String) :
    hasAddress env peersDb deviceId = true ↔
      ∃ ip, (allocateIp env.wg peersDb deviceId).1 = .ok ip := by
  unfold hasAddress allocateIp
  cases hrecorded : (loadPeers peersDb).get? deviceId with
  | some ip =>
    simp only [hrecorded, Option.isSome_some, Bool.true_or, true_iff]
    exact ⟨ip, rfl⟩
  | none =>
    cases hused : usedAddresses (loadPeers peersDb).values with
    | error error =>
      simp only [hrecorded, hused, Option.isSome_none, Bool.or_false, Bool.false_eq_true,
        false_iff]
      exact fun h => by cases h.choose_spec
    | ok used =>
      cases hfree : env.wg.subnet.hosts.find? fun host =>
          decide (host ∉ env.wg.serverIp :: used) with
      | none =>
        simp only [hrecorded, hused, hfree, Option.isSome_none, Bool.false_or, List.any_eq_true]
        constructor
        · intro h
          obtain ⟨host, hmem, hhost⟩ := h
          exact absurd hhost (List.find?_eq_none.mp hfree host hmem)
        · intro h
          cases h.choose_spec
      | some host =>
        have hhost := List.find?_some hfree
        simp only [hrecorded, hused, hfree, Option.isSome_none, Bool.false_or, List.any_eq_true]
        constructor
        · exact fun _ => ⟨host.text, rfl⟩
        · exact fun _ => ⟨host, List.mem_of_find?_eq_some hfree, hhost⟩

theorem allocate_judged (deviceId : String) :
    Judged (fun _ _ _ => True) (addressVerdict env w deviceId) (allocate env deviceId) n w
      outcomes := by
  have hrun : (allocate env deviceId).run.finish outcomes n w =
      some ((allocateIp env.wg w.files.peersDb deviceId).1.mapError .wireGuard, n,
        { w with files := { w.files with
            peersDb := (allocateIp env.wg w.files.peersDb deviceId).2 } }) := rfl
  unfold Judged addressVerdict
  rw [hrun]
  split
  next h =>
    obtain ⟨ip, hip⟩ := (hasAddress_iff _ _).mp h
    rw [hip]
    exact ends_ok trivial
  next h =>
    cases hip : (allocateIp env.wg w.files.peersDb deviceId).1 with
    | ok ip => exact absurd ((hasAddress_iff _ _).mpr ⟨ip, hip⟩) h
    | error error => exact ends_escapes fun h => h

theorem enrollmentResponse_judged {r : Response} {certs : Json × Json} (wgIp wgCfg : String)
    (houtcome : outcomes n = some (.response r)) (hcerts : certificates r = some certs) (k : Nat) :
    Judged (fun _ _ _ => True) (textVerdict (outcomes n)) (enrollmentResponse certs wgIp wgCfg) k w
      outcomes := by
  obtain ⟨crt, ca⟩ := certs
  unfold textVerdict enrollmentResponse
  rw [houtcome]
  simp only [hcerts]
  have refused : Judged (fun _ _ _ => True) .escapes
      (raise .validationError : DeviceApp EnrollmentResponse) k w outcomes :=
    ends_escapes fun h => h
  cases crt with
  | str certificate =>
    cases ca with
    | str caChain => exact ends_ok trivial
    | _ => exact refused
  | _ => cases ca <;> exact refused

theorem enrollDevice_judged (deviceId : String) (body : EnrollmentRequest) :
    Judged (fun _ _ _ => True) (callVerdict env w outcomes (.enroll deviceId body))
      (enrollDevice env deviceId body) 0 w outcomes := by
  have valid : Judged (fun _ n' w' => n' = 0 ∧ w' = w) (csrVerdict env body.csr)
      (validateCsr env body.csr) 0 w outcomes := by
    unfold csrVerdict validateCsr
    cases hcsr : env.loadCsr body.csr with
    | error text => exact designed_raise (by decide)
    | ok accepted =>
      cases accepted with
      | true => exact ends_ok ⟨rfl, rfl⟩
      | false => exact designed_raise (by decide)
  unfold callVerdict enrollDevice
  apply ends_bind valid
  intro _ n' w' h
  obtain ⟨rfl, rfl⟩ := h
  rw [← Verdict.andThen_assoc]
  apply ends_bind (signDevice_judged deviceId body.csr)
  intro certs n' w₁ h
  obtain ⟨⟨rfl, r, houtcome, hcerts⟩, hfiles⟩ := h
  apply ends_bind (ensureTarget_judged deviceId body)
  intro _ n₂ w₂ h
  subst h
  have haddress : addressVerdict env w' deviceId = addressVerdict env w₂ deviceId := by
    unfold addressVerdict
    rw [hfiles]
  rw [haddress]
  apply ends_bind (allocate_judged deviceId)
  intro wgIp n₃ w₃ _
  exact enrollmentResponse_judged wgIp _ houtcome hcerts n₃

theorem thingsboardWebhook_judged (event : ThingsboardWebhookEvent) :
    Judged (fun _ _ _ => True) (callVerdict env w outcomes (.webhook event))
      (thingsboardWebhook env event) 0 w outcomes := by
  unfold callVerdict thingsboardWebhook
  dsimp only
  cases hdevice : (extractDeviceId env event).filter (· ≠ "") with
  | none => exact ends_ok trivial
  | some deviceId =>
    unfold targetVerdict
    dsimp only
    rw [Verdict.andThen_assoc]
    apply ends_bind ((getTarget_judged deviceId).answering _ _)
    intro target n' w' h
    obtain ⟨rfl, rfl, hfound⟩ := h
    rw [← hfound]
    cases target.truthy with
    | true =>
      simp only [if_true, Verdict.usable_andThen]
      rw [← Verdict.andThen_usable (addressVerdict _ _ _)]
      apply ends_bind (allocate_judged deviceId)
      intro wgIp n₂ w₂ _
      exact ends_ok trivial
    | false =>
      simp only [Bool.false_eq_true, if_false]
      apply ends_bind ((createTarget_judged deviceId _ rfl).answering _ _)
      intro _ n₂ w₂ h
      subst h
      rw [← Verdict.andThen_usable (addressVerdict _ _ _)]
      apply ends_bind (allocate_judged deviceId)
      intro wgIp n₃ w₃ _
      exact ends_ok trivial

/-- What the client is told. -/
theorem reply_reported {x : DeviceApp α} {v : Verdict} {reply : α → DeviceReply}
    (h : Judged (fun _ _ _ => True) v x 0 w outcomes)
    (hreply : ∀ value, Reported (some (reply value))) :
    Reported ((((reply <$> x).run.bind fun result => .ret (deviceAnswer result)).finish
      outcomes 0 w).map Prod.fst) ↔ v ≠ .escapes := by
  have hrun : ((reply <$> x).run.bind fun result => .ret (deviceAnswer result)).finish
      outcomes 0 w = (x.run.finish outcomes 0 w).map fun ended =>
        (deviceAnswer (ended.1.map reply), ended.2.1, ended.2.2) := by
    rw [map_eq_pure_bind, run_bind, Proc.finish_bind, Proc.finish_bind]
    cases x.run.finish outcomes 0 w with
    | none => rfl
    | some ended =>
      obtain ⟨result, n, s⟩ := ended
      cases result <;> rfl
  rw [hrun, ← h.fine_iff fun _ designed other => other designed]
  cases x.run.finish outcomes 0 w with
  | none => simp [Reported]
  | some ended =>
    obtain ⟨result, n, s⟩ := ended
    cases result with
    | ok value => exact iff_of_true (hreply value) (fine_ok value)
    | error error =>
      refine Iff.trans ?_ (fine_error error).symm
      cases error with
      | api raised => cases raised <;> exact Iff.rfl
      | hawkBitError message => exact Iff.rfl
      | wireGuard raised => exact Iff.rfl

theorem serveDevice_reported (env : DeviceEnv) (call : DeviceCall) (outcomes : Nat → Outcome)
    (w : DeviceWorld) :
    Reported (((serveDevice env call).finish outcomes 0 w).map Prod.fst) ↔
      callVerdict env w outcomes call ≠ .escapes := by
  cases call with
  | enroll deviceId body =>
    exact reply_reported (enrollDevice_judged deviceId body) fun _ => trivial
  | webhook event => exact reply_reported (thingsboardWebhook_judged event) fun _ => trivial

end CompleteDeviceManagement.Guarantees.DeviceFailures
