import CompleteDeviceManagement.Guarantees.Provisioning
import CompleteDeviceManagement.Source.DeviceRouters

/-!
# Device calls in front of a hawkBit server

hawkBit as the device endpoints are promised it: GET of an absent target is
404, the first POST of a controller id creates it, a POST of an existing one is
409, PUT sets the attributes of an existing target. An exchange may also go
wrong, before or after hawkBit has carried the request out. step-ca answers
whatever the environment says.

Below, one rule for each way the endpoints are put together, and one contract
for each of their functions.
-/

set_option autoImplicit false

namespace CompleteDeviceManagement.Guarantees.DeviceCalls
open CompleteDeviceManagement.Library CompleteDeviceManagement.Source.Runtime
  CompleteDeviceManagement.Source.WireGuard CompleteDeviceManagement.Source.DeviceRuntime
  CompleteDeviceManagement.Source.HawkBit CompleteDeviceManagement.Source.WireGuardPeers
  CompleteDeviceManagement.Source.DeviceRouters CompleteDeviceManagement.Guarantees.Provisioning
open CompleteDeviceManagement.Library.Fallible

/-! ## The server -/

structure Target where
  name : Json
  attributes : Dict String Json

/-- `created` and `conflicts` record the controller ids of the POSTs that were
answered 201 and 409. -/
structure HawkBit where
  targets : Dict String Target
  created : List String
  conflicts : List String

namespace HawkBit

def empty : HawkBit := ⟨Dict.empty, [], []⟩

def has (hb : HawkBit) (controllerId : String) : Prop :=
  (hb.targets.get? controllerId).isSome = true

instance (hb : HawkBit) (controllerId : String) : Decidable (hb.has controllerId) :=
  inferInstanceAs (Decidable (_ = true))

def apply (hb : HawkBit) : HawkBitCall → HawkBit
  | .getTarget _ => hb
  | .postTargets controllerId name =>
      match hb.targets.get? controllerId with
      | some _ => { hb with conflicts := hb.conflicts ++ [controllerId] }
      | none =>
          { hb with
            targets := hb.targets.set controllerId ⟨name, Dict.empty⟩
            created := hb.created ++ [controllerId] }
  | .putAttributes controllerId attributes =>
      match hb.targets.get? controllerId with
      | none => hb
      | some target =>
          { hb with
            targets := hb.targets.set controllerId
              { target with
                attributes := attributes.foldl (fun d pair => d.set pair.1 pair.2)
                  target.attributes } }

def described (controllerId : String) (name : Json) : Json :=
  .obj [("controllerId", .str controllerId), ("name", name)]

def answer (hb : HawkBit) : HawkBitCall → Response
  | .getTarget controllerId =>
      match hb.targets.get? controllerId with
      | some target => ⟨200, "", .ok (described controllerId target.name), none⟩
      | none => ⟨404, "", .error "no body", none⟩
  | .postTargets controllerId name =>
      match hb.targets.get? controllerId with
      | some _ => ⟨409, "", .error "no body", none⟩
      | none => ⟨201, "", .ok (.arr [described controllerId name]), none⟩
  | .putAttributes controllerId _ =>
      match hb.targets.get? controllerId with
      | some _ => ⟨200, "", .error "no body", none⟩
      | none => ⟨404, "", .error "no body", none⟩

end HawkBit

/-- hawkBit carries the request out and its answer arrives, or the client gets
`result` instead, whether or not the request was carried out. -/
inductive Fate where
  | served
  | instead (reached : Bool) (result : HttpResult)

def hawkBitServer : DeviceRequest → Fate → HawkBit → HttpResult × HawkBit
  | .hawkbit _ _ _ call, .served, hb => (.response (hb.answer call), hb.apply call)
  | .hawkbit _ _ _ call, .instead reached result, hb =>
      (result, if reached then hb.apply call else hb)
  | .stepCa _, .served, hb => (.failure "no answer", hb)
  | .stepCa _, .instead _ result, hb => (result, hb)

abbrev DeviceLeg := Leg DeviceRequest HttpResult

abbrev Platform := DeviceWorld × HawkBit

def Failed : HttpResult → Prop
  | .response r => r.isSuccess = false
  | .failure _ => True

/-- What replaces an answer of hawkBit is an error, and `reach` says which
requests may have been carried out nevertheless. -/
def Within (reach : HawkBitCall → Bool → Prop) : DeviceLeg → Fate → Prop
  | .request (.hawkbit _ _ _ call), .instead reached result => Failed result ∧ reach call reached
  | _, _ => True

/-! ## One call after the other -/

def deviceRun (env : DeviceEnv) (s : Platform) (call : DeviceCall) (fates : Nat → Fate) :
    Proc.Run Platform DeviceLeg Fate DeviceReply :=
  ((serveDevice env call).against hawkBitServer).solo fates 0 s

/-- Sequential calls, each with the fates of its exchanges. -/
def deviceRuns (env : DeviceEnv) (s : Platform) : List (DeviceCall × (Nat → Fate)) → Platform
  | [] => s
  | (call, fates) :: rest => deviceRuns env (deviceRun env s call fates).state rest

/-! ## Rules -/

section Rules

variable {α β : Type} {fates : DeviceLeg → Fate → Prop}

variable (fates) in
abbrev Leaves (post : Except DeviceRaised α → Platform → Prop) (x : DeviceApp α) (s : Platform) :
    Prop :=
  Proc.leaves fates post (x.run.against hawkBitServer) s

theorem leaves_pure {post : Except DeviceRaised α → Platform → Prop} {value : α} {s : Platform}
    (h : post (.ok value) s) : Leaves fates post (pure value : DeviceApp α) s := h

theorem leaves_fail {post : Except DeviceRaised α → Platform → Prop} {error : DeviceRaised}
    {s : Platform} (h : post (.error error) s) :
    Leaves fates post (fail error : DeviceApp α) s := h

theorem leaves_settled {post : Except DeviceRaised α → Platform → Prop}
    {result : Except DeviceRaised α} {s : Platform} (h : post result s) :
    Leaves fates post (settled result) s := h

/-- A step that has its value at once. -/
theorem leaves_onward {f : α → DeviceApp β} {post : Except DeviceRaised β → Platform → Prop}
    {value : α} {s : Platform} (h : Leaves fates post (f value) s) :
    Leaves fates post (settled (.ok value) >>= f) s := h

theorem leaves_onFiles {post : Except DeviceRaised α → Platform → Prop}
    {step : WgFiles → Except Source.WireGuard.Error α × WgFiles} {w : DeviceWorld} {hb : HawkBit}
    (h : post ((step w.files).1.mapError .wireGuard) ({ w with files := (step w.files).2 }, hb)) :
    Leaves fates post (onFiles step) (w, hb) := h

theorem Leaves.bind {x : DeviceApp α} {f : α → DeviceApp β}
    {mid : Except DeviceRaised α → Platform → Prop} {post : Except DeviceRaised β → Platform → Prop}
    {s : Platform} (hx : Leaves fates mid x s)
    (hok : ∀ value s', mid (.ok value) s' → Leaves fates post (f value) s')
    (herr : ∀ error s', mid (.error error) s' → post (.error error) s') :
    Leaves fates post (x >>= f) s := by
  unfold Leaves
  rw [run_bind, Proc.against_bind, Proc.leaves_bind]
  refine Proc.leaves_mono hx ?_
  intro result s' h
  cases result with
  | ok value => exact hok value s' h
  | error error => exact herr error s' h

theorem leaves_mono {x : DeviceApp α} {mid post : Except DeviceRaised α → Platform → Prop}
    {s : Platform} (hx : Leaves fates mid x s)
    (weaker : ∀ result s', mid result s' → post result s') : Leaves fates post x s :=
  Proc.leaves_mono hx weaker

/-- The result of an exchange for the code after it. -/
def received : HttpResult → Except DeviceRaised Response
  | .response r => .ok r
  | .failure text => .error (.api (.requestError text))

theorem leaves_exchange {post : Except DeviceRaised Response → Platform → Prop}
    {request : DeviceRequest} {w : DeviceWorld} {hb : HawkBit}
    (h : ∀ fate, fates (.request request) fate →
      post (received (hawkBitServer request fate hb).1) (w, (hawkBitServer request fate hb).2)) :
    Leaves fates post (Source.DeviceRuntime.exchange request) (w, hb) := by
  intro fate hf _ _
  have hpost := h fate hf
  show Proc.leaves fates post (Proc.against hawkBitServer _) _
  cases hanswer : (hawkBitServer request fate hb).1 with
  | response r =>
    rw [hanswer] at hpost
    exact hpost
  | failure text =>
    rw [hanswer] at hpost
    exact hpost

/-- Whatever is asked of step-ca, and whatever it answers, the volume and
hawkBit are as before. -/
theorem leaves_stepCa {frame : World → World → Prop} {calls : HttpRequest → Prop}
    {mid : Except Raised α → Prop} {x : App α}
    (quiet : Proc.Quiet frame calls (fun _ _ => True) mid x.run) (w : DeviceWorld) (hb : HawkBit) :
    Leaves fates (fun _ s' => s'.1.files = w.files ∧ s'.2 = hb) (stepCa x) (w, hb) := by
  have untouched : ∀ (p : Proc World HttpRequest HttpResult (Except Raised α)) (w : DeviceWorld),
      Proc.Quiet frame calls (fun _ _ => True) mid p →
      Proc.leaves fates (fun _ s' => s'.1.files = w.files ∧ s'.2 = hb)
        ((p.within DeviceWorld.api (fun api w => { w with api := api }) .stepCa).against
          hawkBitServer) (w, hb) := by
    intro p
    induction p with
    | ret value => exact fun w _ => ⟨rfl, rfl⟩
    | sync update next ih =>
      exact fun w h => ih w.api { w with api := update w.api } (h w.api).2
    | await request next ih =>
      intro w h fate _ _ _
      have hkept : (hawkBitServer (.stepCa request) fate hb).2 = hb := by cases fate <;> rfl
      simp only [hkept]
      exact ih _ w (h.2 _ trivial)
    | block ready next ih => exact fun w h => h.elim
  unfold Leaves stepCa
  rw [ExceptT.run_mk, Proc.against_bind, Proc.leaves_bind]
  exact Proc.leaves_mono (untouched x.run w quiet) fun result s' h => h

theorem leaves_answering {py : PyText} {isError : DeviceRaised → Bool} {unreachable failed : String}
    {body : DeviceApp α} {mid post : Except DeviceRaised α → Platform → Prop} {s : Platform}
    (hbody : Leaves fates mid body s) (hok : ∀ value s', mid (.ok value) s' → post (.ok value) s')
    (herr : ∀ error s', mid (.error error) s' → ∀ error', post (.error error') s') :
    Leaves fates post (answering py isError unreachable failed body) s := by
  have attempted : Leaves fates
      (fun outcome s' => ∃ result, mid result s' ∧
        outcome = caught (fun error => error.isRequestError || isError error) result)
      (attempt (fun error => error.isRequestError || isError error) body) s := by
    unfold Leaves attempt
    rw [ExceptT.run_mk, Proc.against_bind, Proc.leaves_bind]
    exact Proc.leaves_mono hbody fun result s' h => ⟨result, h, rfl⟩
  refine attempted.bind ?_ ?_
  · rintro outcome s' ⟨result, h, houtcome⟩
    cases result with
    | ok value =>
      cases houtcome
      exact leaves_pure (hok value s' h)
    | error error =>
      cases catches : error.isRequestError || isError error with
      | false => simp [caught, catches] at houtcome
      | true =>
        obtain rfl : outcome = .error error := by simpa [caught, catches] using houtcome
        show Leaves fates post (if error.isRequestError then _ else _) s'
        split
        · exact leaves_fail (herr error s' h _)
        · exact leaves_fail (herr error s' h _)
  · rintro error s' ⟨result, h, houtcome⟩
    cases result with
    | ok value => cases houtcome
    | error error' => exact herr error' s' h error

end Rules

/-! ## What the calls do to hawkBit -/

theorem has_apply (hb : HawkBit) (call : HawkBitCall) {d : String} (h : hb.has d) :
    (hb.apply call).has d := by
  unfold HawkBit.has at h ⊢
  cases call with
  | getTarget id => exact h
  | postTargets id name =>
    cases hget : hb.targets.get? id with
    | some target => simpa [HawkBit.apply, hget] using h
    | none =>
      simp only [HawkBit.apply, hget, Dict.get?_set]
      split
      · rfl
      · exact h
  | putAttributes id attributes =>
    cases hget : hb.targets.get? id with
    | none => simpa [HawkBit.apply, hget] using h
    | some target =>
      simp only [HawkBit.apply, hget, Dict.get?_set]
      split
      · rfl
      · exact h

theorem has_postTargets (hb : HawkBit) (d : String) (name : Json) :
    (hb.apply (.postTargets d name)).has d := by
  unfold HawkBit.has
  cases hget : hb.targets.get? d with
  | some target => simp [HawkBit.apply, hget]
  | none => simp [HawkBit.apply, hget]

/-! ## Contracts of the client -/

section Contracts

variable (reach : HawkBitCall → Bool → Prop)

inductive Exchanged (call : HawkBitCall) (hb : HawkBit) :
    Except DeviceRaised Response → HawkBit → Prop
  | served : Exchanged call hb (.ok (hb.answer call)) (hb.apply call)
  | failed {result : Except DeviceRaised Response} {hb' : HawkBit}
      (moved : (hb' = hb ∧ reach call false) ∨ (hb' = hb.apply call ∧ reach call true))
      (error : ∀ resp, result = .ok resp → resp.isSuccess = false) :
      Exchanged call hb result hb'

variable {reach}

theorem request_leaves (client : HawkBitClient)
    (call : HawkBitCall) (w : DeviceWorld) (hb : HawkBit) :
    Leaves (Within reach) (fun result s' => s'.1 = w ∧ Exchanged reach call hb result s'.2)
      (client.request call) (w, hb) := by
  unfold HawkBitClient.request
  apply leaves_exchange
  intro fate hf
  cases fate with
  | served => exact ⟨rfl, .served⟩
  | instead reached result =>
    obtain ⟨failed, allowed⟩ := hf
    have moved : (hawkBitServer (.hawkbit client.baseUrl client.username client.password call)
        (.instead reached result) hb).2 = hb ∧ reach call false ∨
        (hawkBitServer (.hawkbit client.baseUrl client.username client.password call)
          (.instead reached result) hb).2 = hb.apply call ∧ reach call true := by
      cases reached with
      | false => exact .inl ⟨rfl, allowed⟩
      | true => exact .inr ⟨rfl, allowed⟩
    refine ⟨rfl, .failed moved ?_⟩
    intro resp hresp
    cases result with
    | response r =>
      cases hresp
      exact failed
    | failure text => cases hresp

theorem getTarget_leaves (client : HawkBitClient) (d : String)
    (w : DeviceWorld) (hb : HawkBit) :
    Leaves (Within reach)
      (fun result s' => s' = (w, hb) ∧ ∀ v, result = .ok v → v.truthy = true → hb.has d)
      (client.getTarget d) (w, hb) := by
  refine (request_leaves client (.getTarget d) w hb).bind ?_ ?_
  · rintro resp ⟨w', hb'⟩ ⟨hw, exchanged⟩
    obtain rfl : w' = w := hw
    cases exchanged with
    | served =>
      unfold HawkBit.has
      cases hget : hb.targets.get? d with
      | none =>
        simp only [HawkBit.answer, hget, if_true]
        refine leaves_pure ⟨rfl, ?_⟩
        intro v hv htruthy
        cases hv
        cases htruthy
      | some target =>
        simp only [HawkBit.answer, hget]
        exact leaves_settled ⟨rfl, fun _ _ _ => rfl⟩
    | failed moved error =>
      obtain rfl : hb' = hb := by
        rcases moved with ⟨rfl, _⟩ | ⟨rfl, _⟩
        · rfl
        · rfl
      simp only [error resp rfl]
      split
      · refine leaves_pure ⟨rfl, ?_⟩
        intro v hv htruthy
        cases hv
        cases htruthy
      · refine leaves_fail ⟨rfl, ?_⟩
        intro v hv
        cases hv
  · rintro error ⟨w', hb'⟩ ⟨hw, exchanged⟩
    obtain rfl : w' = w := hw
    cases exchanged with
    | failed moved _ =>
      obtain rfl : hb' = hb := by
        rcases moved with ⟨rfl, _⟩ | ⟨rfl, _⟩
        · rfl
        · rfl
      refine ⟨rfl, ?_⟩
      intro v hv
      cases hv

/-- What `create_target` may leave behind; `ok` says that it returned. -/
inductive Creates (reach : HawkBitCall → Bool → Prop) (d : String) (name : Json)
    (attributes : List (String × Json)) (hb : HawkBit) : Bool → HawkBit → Prop
  /-- hawkBit never had the POST -/
  | missed : Creates reach d name attributes hb false hb
  /-- it had the POST, but the client does not know -/
  | lost (allowed : reach (.postTargets d name) true) :
      Creates reach d name attributes hb false (hb.apply (.postTargets d name))
  /-- the target was there already -/
  | conflict (known : hb.has d) :
      Creates reach d name attributes hb false (hb.apply (.postTargets d name))
  /-- the target was created, and hawkBit never had the PUT -/
  | bare (allowed : reach (.putAttributes d attributes) false) :
      Creates reach d name attributes hb false (hb.apply (.postTargets d name))
  | complete (ok : Bool) : Creates reach d name attributes hb ok
      ((hb.apply (.postTargets d name)).apply (.putAttributes d attributes))

theorem putAttributes_leaves (client : HawkBitClient) (d : String)
    (attributes : List (String × Json)) (w : DeviceWorld) (hb : HawkBit) :
    Leaves (Within reach)
      (fun result s' => s'.1 = w ∧ (s'.2 = hb.apply (.putAttributes d attributes) ∨
        (result.isOk = false ∧ s'.2 = hb ∧ reach (.putAttributes d attributes) false)))
      (client.putAttributes d attributes) (w, hb) := by
  have cases_of : ∀ {result : Except DeviceRaised Response} {hb' : HawkBit},
      Exchanged reach (.putAttributes d attributes) hb result hb' →
      hb' = hb.apply (.putAttributes d attributes) ∨
        ((∀ resp, result = .ok resp → resp.isSuccess = false) ∧ hb' = hb ∧
          reach (.putAttributes d attributes) false) := by
    intro result hb' exchanged
    cases exchanged with
    | served => exact .inl rfl
    | failed moved error =>
      rcases moved with ⟨kept, allowed⟩ | ⟨applied, _⟩
      · exact .inr ⟨error, kept, allowed⟩
      · exact .inl applied
  refine (request_leaves client (.putAttributes d attributes) w hb).bind ?_ ?_
  · rintro resp ⟨w', hb'⟩ ⟨hw, exchanged⟩
    rcases cases_of exchanged with applied | ⟨error, kept, allowed⟩
    · split
      · exact leaves_pure ⟨hw, .inl applied⟩
      · exact leaves_fail ⟨hw, .inl applied⟩
    · rw [if_neg (by simp [error resp rfl])]
      exact leaves_fail ⟨hw, .inr ⟨rfl, kept, allowed⟩⟩
  · rintro error ⟨w', hb'⟩ ⟨hw, exchanged⟩
    rcases cases_of exchanged with applied | ⟨_, kept, allowed⟩
    · exact ⟨hw, .inl applied⟩
    · exact ⟨hw, .inr ⟨rfl, kept, allowed⟩⟩

theorem createTarget_leaves (client : HawkBitClient) (d : String)
    (name : Json) {attributes : List (String × Json)} (nonempty : attributes.isEmpty = false)
    (w : DeviceWorld) (hb : HawkBit) :
    Leaves (Within reach)
      (fun result s' => s'.1 = w ∧ Creates reach d name attributes hb result.isOk s'.2)
      (client.createTarget d name attributes) (w, hb) := by
  have failed_cases : ∀ {hb' : HawkBit},
      (hb' = hb ∧ reach (.postTargets d name) false) ∨
        (hb' = hb.apply (.postTargets d name) ∧ reach (.postTargets d name) true) →
      Creates reach d name attributes hb false hb' := by
    rintro hb' (⟨rfl, _⟩ | ⟨rfl, allowed⟩)
    · exact .missed
    · exact .lost allowed
  refine (request_leaves client (.postTargets d name) w hb).bind ?_ ?_
  · rintro resp ⟨w', hb'⟩ ⟨hw, exchanged⟩
    obtain rfl : w' = w := hw
    cases exchanged with
    | served =>
      rcases Option.eq_none_or_eq_some (hb.targets.get? d) with hget | ⟨target, hget⟩
      · have hanswer : hb.answer (.postTargets d name) =
            ⟨201, "", .ok (.arr [HawkBit.described d name]), none⟩ := by
          simp [HawkBit.answer, hget]
        rw [hanswer]
        apply leaves_onward
        apply leaves_onward
        simp only [nonempty]
        refine (putAttributes_leaves client d attributes w' _).bind ?_ ?_
        · rintro _ s' ⟨hw, applied | ⟨hok, _⟩⟩
          · refine leaves_pure ⟨hw, ?_⟩
            rw [applied]
            exact .complete true
          · cases hok
        · rintro error s' ⟨hw, applied | ⟨_, kept, allowed⟩⟩
          · refine ⟨hw, ?_⟩
            rw [applied]
            exact .complete false
          · refine ⟨hw, ?_⟩
            rw [kept]
            exact .bare allowed
      · have known : hb.has d := by simp [HawkBit.has, hget]
        have hanswer : hb.answer (.postTargets d name) = ⟨409, "", .error "no body", none⟩ := by
          simp [HawkBit.answer, hget]
        rw [hanswer]
        exact leaves_fail ⟨rfl, .conflict known⟩
    | failed moved error =>
      simp only [error resp rfl]
      exact leaves_fail ⟨rfl, failed_cases moved⟩
  · rintro error ⟨w', hb'⟩ ⟨hw, exchanged⟩
    obtain rfl : w' = w := hw
    cases exchanged with
    | failed moved _ => exact ⟨rfl, failed_cases moved⟩

/-! ## Contracts of the endpoints -/

/-- What ensuring the target of `d` may leave behind; with `true` the code went
on in the belief that the target is there. -/
inductive Ensured (reach : HawkBitCall → Bool → Prop) (d : String) (hb : HawkBit) :
    Bool → HawkBit → Prop
  | kept : Ensured reach d hb false hb
  | found (known : hb.has d) : Ensured reach d hb true hb
  | created {name : Json} {attributes : List (String × Json)} {ok : Bool} {hb' : HawkBit}
      (typed : "device_type" ∈ attributes.map Prod.fst)
      (effect : Creates reach d name attributes hb ok hb') : Ensured reach d hb ok hb'

/-- `allocate_ip` and `generate_client_config` on the volume. -/
def allocated (env : DeviceEnv) (d : String) (files : WgFiles) : WgFiles :=
  { files with peersDb := (allocateIp env.wg files.peersDb d).2 }

def registered (d ip key : String) (files : WgFiles) : WgFiles :=
  if key = "" then files else writeServerPeer d ip key files

/-- One call of `allocate_ip` on any database: it answers with a new entry, with
an entry that was there, or with an error. -/
theorem allocateIp_moves (wg : WireGuardConfig) (db : Option Peers) (d : String) :
    (∃ ip, (loadPeers db).get? d = none ∧
        allocateIp wg db d = (.ok ip, some ((loadPeers db).set d ip))) ∨
      (∃ ip, (loadPeers db).get? d = some ip ∧ allocateIp wg db d = (.ok ip, db)) ∨
      ∃ error, allocateIp wg db d = (.error error, db) := by
  unfold allocateIp
  cases hget : (loadPeers db).get? d with
  | some ip => exact .inr (.inl ⟨ip, rfl, by simp [hget]⟩)
  | none =>
    simp only [hget]
    cases hused : usedAddresses (loadPeers db).values with
    | error error => exact .inr (.inr ⟨error, rfl⟩)
    | ok used =>
      cases hfind : wg.subnet.hosts.find? fun host => decide (host ∉ wg.serverIp :: used) with
      | some host => exact .inl ⟨host.text, trivial, by simp only [hfind]⟩
      | none => exact .inr (.inr ⟨exhausted wg, by simp only [hfind]⟩)

theorem allocateIp_error {wg : WireGuardConfig} {peersDb : Option Peers} {d : String}
    {error : Source.WireGuard.Error} (h : (allocateIp wg peersDb d).1 = .error error) :
    (allocateIp wg peersDb d).2 = peersDb := by
  rcases allocateIp_moves wg peersDb d with ⟨ip, _, hcall⟩ | ⟨ip, _, hcall⟩ | ⟨error, hcall⟩
  · rw [hcall] at h
    cases h
  · rw [hcall] at h
    cases h
  · rw [hcall]

theorem allocateIp_recorded {wg : WireGuardConfig} {db : Option Peers} {d ip : String}
    (h : (allocateIp wg db d).1 = .ok ip) :
    (loadPeers (allocateIp wg db d).2).get? d = some ip := by
  rcases allocateIp_moves wg db d with ⟨ip', _, hcall⟩ | ⟨ip', hget, hcall⟩ | ⟨error, hcall⟩
  · rw [hcall] at h ⊢
    cases h
    exact Dict.get?_set_self _ _ _
  · rw [hcall] at h ⊢
    cases h
    exact hget
  · rw [hcall] at h
    cases h

theorem allocateIp_known {wg : WireGuardConfig} {db : Option Peers} {d ip : String}
    (h : (loadPeers db).get? d = some ip) : allocateIp wg db d = (.ok ip, db) := by
  rcases allocateIp_moves wg db d with ⟨ip', hget, _⟩ | ⟨ip', hget, hcall⟩ | ⟨error, hcall⟩
  · rw [h] at hget
    cases hget
  · obtain rfl : ip = ip' := Option.some.inj (h.symm.trans hget)
    exact hcall
  · simp [allocateIp, h] at hcall

/-- An entry stays, whatever is allocated next. -/
theorem allocateIp_stays {wg : WireGuardConfig} {db : Option Peers} {d d' ip : String}
    (h : (loadPeers db).get? d = some ip) :
    (loadPeers (allocateIp wg db d').2).get? d = some ip := by
  rcases allocateIp_moves wg db d' with ⟨ip', hget, hcall⟩ | ⟨ip', _, hcall⟩ | ⟨error, hcall⟩
  · have hne : d ≠ d' := by
      rintro rfl
      rw [h] at hget
      cases hget
    rw [hcall]
    exact (Dict.get?_set_of_ne _ _ hne).trans h
  · rwa [hcall]
  · rwa [hcall]

theorem allocate_leaves {fates : DeviceLeg → Fate → Prop} (env : DeviceEnv) (d : String)
    (w : DeviceWorld) (hb : HawkBit) :
    Leaves fates
      (fun result s' => s'.2 = hb ∧
        ((∃ ip, result = .ok ip ∧ (allocateIp env.wg w.files.peersDb d).1 = .ok ip ∧
            s'.1.files = allocated env d w.files) ∨
          (∃ error, (allocateIp env.wg w.files.peersDb d).1 = .error error ∧
            result = .error (.wireGuard error) ∧ s'.1.files = w.files)))
      (allocate env d) (w, hb) := by
  unfold allocate
  apply leaves_onFiles
  cases hresult : (allocateIp env.wg w.files.peersDb d).1 with
  | ok ip => exact ⟨rfl, .inl ⟨ip, rfl, rfl, rfl⟩⟩
  | error error => exact ⟨rfl, .inr ⟨error, rfl, rfl, by simp [allocateIp_error hresult]⟩⟩

theorem generateClientConfig_leaves {fates : DeviceLeg → Fate → Prop} (env : DeviceEnv)
    (d ip key : String) (w : DeviceWorld) (hb : HawkBit) :
    Leaves fates
      (fun result s' => s'.2 = hb ∧ s'.1.files = registered d ip key w.files ∧
        ∃ pubkey, result = .ok (clientConfig env d ip pubkey))
      (generateClientConfig env d ip key) (w, hb) := by
  unfold generateClientConfig
  apply leaves_onFiles
  exact ⟨rfl, rfl, _, rfl⟩

theorem validateCsr_leaves {fates : DeviceLeg → Fate → Prop} (env : DeviceEnv) (csr : String)
    (s : Platform) :
    Leaves fates (fun _ s' => s' = s) (validateCsr env csr) s := by
  unfold validateCsr
  split
  · exact leaves_pure rfl
  · exact leaves_fail rfl
  · exact leaves_fail rfl

theorem signDevice_leaves {fates : DeviceLeg → Fate → Prop} (env : DeviceEnv) (d csr : String)
    (w : DeviceWorld) (hb : HawkBit) :
    Leaves fates (fun _ s' => s'.1.files = w.files ∧ s'.2 = hb) (signDevice env d csr)
      (w, hb) := by
  have quiet : Calm (fun _ => True) (fun _ _ => True) _
      ((getStepCaClient env.env.settings).signCertificate env.env csr d [d]) :=
    signCertificate_calm trivial fun _ _ _ => trivial
  exact leaves_answering (leaves_stepCa quiet w hb) (fun _ _ h => h) fun _ _ h _ => h

theorem ensureTarget_leaves (env : DeviceEnv) (d : String)
    (body : EnrollmentRequest) (w : DeviceWorld) (hb : HawkBit) :
    Leaves (Within reach) (fun result s' => s'.1 = w ∧ Ensured reach d hb result.isOk s'.2)
      (ensureTarget env d body) (w, hb) := by
  have body : Leaves (Within reach)
      (fun result s' => s'.1 = w ∧ Ensured reach d hb result.isOk s'.2)
      (do
        let existing ← (getHawkbitClient env.settings).getTarget d
        if existing.truthy then pure ()
        else do
          let _ ← (getHawkbitClient env.settings).createTarget d (.str body.deviceName)
            [("device_type", .str body.deviceType)]
          pure ()) (w, hb) := by
    refine (getTarget_leaves _ d w hb).bind ?_ ?_
    · rintro existing s' ⟨rfl, known⟩
      split
      · rename_i truthy
        exact leaves_pure ⟨rfl, .found (known existing rfl truthy)⟩
      · refine (createTarget_leaves _ d _ rfl w hb).bind ?_ ?_
        · rintro target s' ⟨hw, effect⟩
          exact leaves_pure ⟨hw, .created (by simp) effect⟩
        · rintro error s' ⟨hw, effect⟩
          exact ⟨hw, .created (by simp) effect⟩
    · rintro error s' ⟨rfl, _⟩
      exact ⟨rfl, .kept⟩
  exact leaves_answering body (fun _ _ h => h) fun _ _ h _ => h

structure EnrollPost (reach : HawkBitCall → Bool → Prop) (env : DeviceEnv) (d : String)
    (body : EnrollmentRequest) (s : Platform) (result : Except DeviceRaised EnrollmentResponse)
    (s' : Platform) : Prop where
  target : ∃ b, Ensured reach d s.2 b s'.2 ∧ (result.isOk = true → b = true)
  files : s'.1.files = s.1.files ∨
    ∃ ip, (allocateIp env.wg s.1.files.peersDb d).1 = .ok ip ∧
      s'.1.files = registered d ip (body.wgPublicKey.getD "") (allocated env d s.1.files)
  answer : ∀ resp, result = .ok resp →
    (allocateIp env.wg s.1.files.peersDb d).1 = .ok resp.wireguardIp ∧
      s'.1.files =
        registered d resp.wireguardIp (body.wgPublicKey.getD "") (allocated env d s.1.files) ∧
      ∃ pubkey, resp.wireguardConfig = clientConfig env d resp.wireguardIp pubkey

theorem enrollDevice_leaves (env : DeviceEnv) (d : String)
    (body : EnrollmentRequest) (s : Platform) :
    Leaves (Within reach) (EnrollPost reach env d body s) (enrollDevice env d body) s := by
  have stopped : ∀ {b : Bool} {error : DeviceRaised} {s' : Platform}, s'.1.files = s.1.files →
      Ensured reach d s.2 b s'.2 → EnrollPost reach env d body s (.error error) s' := by
    intro b error s' hfiles ensured
    exact ⟨⟨b, ensured, fun h => by cases h⟩, .inl hfiles, fun resp h => by cases h⟩
  unfold enrollDevice
  refine (validateCsr_leaves env body.csr s).bind ?_ ?_
  · rintro _ _ rfl
    refine (signDevice_leaves env d body.csr _ _).bind ?_ ?_
    · rintro certs ⟨w, hb⟩ ⟨hfiles, rfl⟩
      refine (ensureTarget_leaves env d body w _).bind ?_ ?_
      · rintro _ ⟨w', hb⟩ ⟨hw, ensured⟩
        obtain rfl : w' = w := hw
        refine (allocate_leaves env d w' hb).bind ?_ ?_
        · rintro wgIp ⟨w, hb'⟩ ⟨hhb, ⟨ip, hip, hresult, hallocated⟩ | ⟨error, _, herror, _⟩⟩
          · cases hip
            obtain rfl : hb' = hb := hhb
            refine (generateClientConfig_leaves env d wgIp _ w hb').bind ?_ ?_
            · rintro wgCfg s' ⟨hhb, hregistered, pubkey, hconfig⟩
              cases hconfig
              dsimp only at hfiles hallocated
              rw [hallocated, hfiles] at hregistered
              rw [hfiles] at hresult
              have target : ∃ b, Ensured reach d _ b s'.2 ∧ (true = true → b = true) :=
                ⟨true, by rw [hhb]; exact ensured, fun _ => rfl⟩
              unfold enrollmentResponse
              split
              · refine leaves_pure ⟨target, .inr ⟨wgIp, hresult, hregistered⟩, ?_⟩
                intro resp hresp
                cases hresp
                exact ⟨hresult, hregistered, pubkey, rfl⟩
              · refine leaves_fail ⟨?_, .inr ⟨wgIp, hresult, hregistered⟩, ?_⟩
                · obtain ⟨b, ensured', _⟩ := target
                  exact ⟨b, ensured', fun h => by cases h⟩
                · intro resp hresp
                  cases hresp
            · rintro error s' ⟨_, _, _, hok⟩
              cases hok
          · cases herror
        · rintro error s' ⟨hhb, ⟨ip, hip, _⟩ | ⟨_, _, _, hkept⟩⟩
          · cases hip
          · exact stopped (hkept.trans hfiles) (by rw [hhb]; exact ensured)
      · rintro error s' ⟨hw, ensured⟩
        exact stopped (by rw [hw]; exact hfiles) ensured
    · rintro error s' ⟨hfiles, hhb⟩
      exact stopped hfiles (by rw [hhb]; exact .kept)
  · rintro error _ rfl
    exact stopped rfl .kept

structure WebhookPost (reach : HawkBitCall → Bool → Prop) (env : DeviceEnv) (d : String)
    (s : Platform) (result : Except DeviceRaised WebhookResponse) (s' : Platform) : Prop where
  target : ∃ b, Ensured reach d s.2 b s'.2 ∧ (result.isOk = true → b = true)
  files : s'.1.files = s.1.files ∨ s'.1.files = allocated env d s.1.files
  answer : ∀ reply, result = .ok reply → reply.deviceId = some d ∧
    s'.1.files = allocated env d s.1.files ∧
    ∃ ip, reply.wireguardIp = some ip ∧ (allocateIp env.wg s.1.files.peersDb d).1 = .ok ip

theorem thingsboardWebhook_leaves (env : DeviceEnv)
    {event : ThingsboardWebhookEvent} {d : String}
    (identified : (extractDeviceId env event).filter (· ≠ "") = some d) (s : Platform) :
    Leaves (Within reach) (WebhookPost reach env d s) (thingsboardWebhook env event) s := by
  obtain ⟨w, hb⟩ := s
  -- both branches end with the allocation
  have allocation : ∀ (status : String) (s' : Platform), s'.1 = w → Ensured reach d hb true s'.2 →
      Leaves (Within reach) (WebhookPost reach env d (w, hb))
        (do
          let wgIp ← allocate env d
          pure { status := status, deviceId := some d, wireguardIp := some wgIp }) s' := by
    rintro status ⟨w', hb'⟩ hw ensured
    obtain rfl : w' = w := hw
    refine (allocate_leaves env d w' hb').bind ?_ ?_
    · rintro wgIp s' ⟨hhb, ⟨ip, hip, hresult, hallocated⟩ | ⟨error, _, herror, _⟩⟩
      · cases hip
        refine leaves_pure ⟨⟨true, by rw [hhb]; exact ensured, fun _ => rfl⟩, .inr hallocated, ?_⟩
        intro reply hreply
        cases hreply
        exact ⟨rfl, hallocated, wgIp, rfl, hresult⟩
      · cases herror
    · rintro error s' ⟨hhb, ⟨ip, hip, _⟩ | ⟨_, _, _, hkept⟩⟩
      · cases hip
      · refine ⟨⟨true, by rw [hhb]; exact ensured, fun h => by cases h⟩, .inl hkept, ?_⟩
        intro reply hreply
        cases hreply
  have stopped : ∀ {error : DeviceRaised} {s' : Platform}, s'.1 = w →
      Ensured reach d hb false s'.2 → WebhookPost reach env d (w, hb) (.error error) s' := by
    intro error s' hw ensured
    refine ⟨⟨false, ensured, fun h => by cases h⟩, .inl (by rw [hw]), ?_⟩
    intro reply hreply
    cases hreply
  unfold thingsboardWebhook
  rw [identified]
  dsimp only
  have asked : Leaves (Within reach)
      (fun result s' => s' = (w, hb) ∧ ∀ v, result = .ok v → v.truthy = true → hb.has d)
      (answering env.env.py DeviceRaised.isHawkBitError "hawkBit unreachable: "
        "hawkBit query failed: " ((getHawkbitClient env.settings).getTarget d)) (w, hb) := by
    refine leaves_answering (getTarget_leaves _ d w hb) (fun _ _ h => h) ?_
    rintro error s' ⟨hs, _⟩ error'
    refine ⟨hs, ?_⟩
    intro v hv
    cases hv
  have created : Leaves (Within reach)
      (fun result s' => s'.1 = w ∧ Ensured reach d hb result.isOk s'.2)
      (answering env.env.py DeviceRaised.isHawkBitError "hawkBit unreachable: "
        "hawkBit provisioning failed: "
        ((getHawkbitClient env.settings).createTarget d (event.member "deviceName" d)
          [("device_type", event.member "deviceType" "generic"),
           ("source", .str "thingsboard_webhook")])) (w, hb) := by
    refine leaves_answering (createTarget_leaves _ d _ rfl w hb) ?_ ?_
    · rintro target s' ⟨hw, effect⟩
      exact ⟨hw, .created (by simp) effect⟩
    · rintro error s' ⟨hw, effect⟩ error'
      exact ⟨hw, .created (by simp) effect⟩
  refine asked.bind ?_ ?_
  · rintro existing s' ⟨rfl, known⟩
    split
    · rename_i truthy
      exact allocation _ (w, hb) rfl (.found (known existing rfl truthy))
    · refine created.bind ?_ ?_
      · rintro target s' ⟨hw, ensured⟩
        exact allocation _ s' hw ensured
      · rintro error s' ⟨hw, ensured⟩
        exact stopped hw ensured
  · rintro error s' ⟨rfl, _⟩
    exact stopped rfl .kept

/-! ## One call -/

/-- The device a call is for, if it names one. -/
def deviceOf (env : DeviceEnv) : DeviceCall → Option String
  | .enroll d _ => some d
  | .webhook event => (extractDeviceId env event).filter (· ≠ "")

def ignoredResponse : WebhookResponse :=
  { status := "ignored", reason := some "No device_id found in event metadata" }

inductive CallPost (reach : HawkBitCall → Bool → Prop) (env : DeviceEnv) (s : Platform) :
    DeviceCall → DeviceReply → Platform → Prop
  | enrolled {d : String} {body : EnrollmentRequest}
      {result : Except DeviceRaised EnrollmentResponse} {s' : Platform}
      (post : EnrollPost reach env d body s result s') :
      CallPost reach env s (.enroll d body) (deviceAnswer (result.map .enrolled)) s'
  | notified {d : String} {event : ThingsboardWebhookEvent}
      {result : Except DeviceRaised WebhookResponse} {s' : Platform}
      (identified : deviceOf env (.webhook event) = some d)
      (post : WebhookPost reach env d s result s') :
      CallPost reach env s (.webhook event) (deviceAnswer (result.map .webhook)) s'
  | ignored {event : ThingsboardWebhookEvent}
      (anonymous : deviceOf env (.webhook event) = none) :
      CallPost reach env s (.webhook event) (.webhook ignoredResponse) s

theorem leaves_reply {α : Type} {x : DeviceApp α} {reply : α → DeviceReply}
    {fates : DeviceLeg → Fate → Prop} {mid : Except DeviceRaised α → Platform → Prop}
    {post : DeviceReply → Platform → Prop} {s : Platform} (hx : Leaves fates mid x s)
    (done : ∀ result s', mid result s' → post (deviceAnswer (result.map reply)) s') :
    Proc.leaves fates post
      (((reply <$> x).run.bind fun result => .ret (deviceAnswer result)).against hawkBitServer)
      s := by
  have mapped : Leaves fates (fun result s' => post (deviceAnswer result) s') (reply <$> x) s := by
    rw [map_eq_pure_bind]
    refine hx.bind ?_ ?_
    · intro value s' h
      exact leaves_pure (done (.ok value) s' h)
    · intro error s' h
      exact done (.error error) s' h
  rw [Proc.against_bind, Proc.leaves_bind]
  exact Proc.leaves_mono mapped fun result s' h => h

theorem serveDevice_leaves (env : DeviceEnv) (call : DeviceCall) (s : Platform) :
    Proc.leaves (Within reach) (CallPost reach env s call)
      ((serveDevice env call).against hawkBitServer) s := by
  cases call with
  | enroll d body =>
    exact leaves_reply (enrollDevice_leaves env d body s) fun result s' h => .enrolled h
  | webhook event =>
    cases identified : deviceOf env (.webhook event) with
    | some d =>
      exact leaves_reply (thingsboardWebhook_leaves env identified s)
        fun result s' h => .notified identified h
    | none =>
      have anonymous : (extractDeviceId env event).filter (· ≠ "") = none := identified
      have answered : thingsboardWebhook env event = pure ignoredResponse := by
        unfold thingsboardWebhook
        rw [anonymous]
        rfl
      unfold serveDevice handleDevice
      dsimp only
      rw [answered]
      exact CallPost.ignored identified

/-! ## What a call is known to have done -/

theorem Creates.grows {d d' : String} {name : Json} {attributes : List (String × Json)}
    {hb hb' : HawkBit} {ok : Bool} (h : Creates reach d name attributes hb ok hb')
    (known : hb.has d') : hb'.has d' := by
  cases h with
  | missed => exact known
  | lost _ => exact has_apply hb _ known
  | conflict _ => exact has_apply hb _ known
  | bare _ => exact has_apply hb _ known
  | complete ok => exact has_apply _ _ (has_apply hb _ known)

theorem Creates.present {d : String} {name : Json} {attributes : List (String × Json)}
    {hb hb' : HawkBit} (h : Creates reach d name attributes hb true hb') : hb'.has d := by
  cases h with
  | complete _ => exact has_apply _ _ (has_postTargets hb d name)

theorem Ensured.grows {d d' : String} {hb hb' : HawkBit} {ok : Bool}
    (h : Ensured reach d hb ok hb') (known : hb.has d') : hb'.has d' := by
  cases h with
  | kept => exact known
  | found _ => exact known
  | created _ effect => exact effect.grows known

theorem Ensured.present {d : String} {hb hb' : HawkBit} (h : Ensured reach d hb true hb') :
    hb'.has d := by
  cases h with
  | found known => exact known
  | created _ effect => exact effect.present

/-- 200 with an enrollment, `provisioned` or `already_provisioned`. -/
def reportsSuccess : DeviceReply → Bool
  | .enrolled _ => true
  | .webhook body => body.status == "provisioned" || body.status == "already_provisioned"
  | _ => false

theorem ok_of_isOk {α : Type} {result : Except DeviceRaised α} (h : result.isOk = true) :
    ∃ value, result = .ok value := by
  cases result with
  | ok value => exact ⟨value, rfl⟩
  | error error => cases h

theorem isOk_of_reportsSuccess {α : Type} {result : Except DeviceRaised α} {reply : α → DeviceReply}
    (h : reportsSuccess (deviceAnswer (result.map reply)) = true) : result.isOk = true := by
  cases result with
  | ok value => rfl
  | error error =>
    have answered : ∀ e : DeviceRaised, reportsSuccess (deviceAnswer (.error e)) = false := by
      intro e
      cases e with
      | api raised => cases raised <;> rfl
      | hawkBitError message => rfl
      | wireGuard error => rfl
    have hfalse : reportsSuccess (deviceAnswer (.error error)) = true := h
    rw [answered error] at hfalse
    cases hfalse

/-- A call that names no device changes nothing; one that names `d` does no more
than ensure the target of `d`, and reports success only in the belief that it
is there. -/
theorem CallPost.ensured {env : DeviceEnv} {s s' : Platform} {call : DeviceCall}
    {reply : DeviceReply} (h : CallPost reach env s call reply s') :
    (deviceOf env call = none ∧ s' = s) ∨
      ∃ d b, deviceOf env call = some d ∧ Ensured reach d s.2 b s'.2 ∧
        (reportsSuccess reply = true → b = true) := by
  cases h with
  | @enrolled d body result _ post =>
    obtain ⟨b, ensured, believed⟩ := post.target
    exact .inr ⟨d, b, rfl, ensured, fun hs => believed (isOk_of_reportsSuccess hs)⟩
  | @notified d event result _ identified post =>
    obtain ⟨b, ensured, believed⟩ := post.target
    exact .inr ⟨d, b, identified, ensured, fun hs => believed (isOk_of_reportsSuccess hs)⟩
  | ignored anonymous => exact .inl ⟨anonymous, rfl⟩

theorem CallPost.grows {env : DeviceEnv} {s s' : Platform} {call : DeviceCall}
    {reply : DeviceReply} (h : CallPost reach env s call reply s') {d : String}
    (known : s.2.has d) : s'.2.has d := by
  rcases h.ensured with ⟨_, rfl⟩ | ⟨d', b, _, ensured, _⟩
  · exact known
  · exact ensured.grows known

/-- A call for `d` that reports success leaves a target for `d`. -/
theorem CallPost.present {env : DeviceEnv} {s s' : Platform} {call : DeviceCall}
    {reply : DeviceReply} (h : CallPost reach env s call reply s') {d : String}
    (device : deviceOf env call = some d) (success : reportsSuccess reply = true) :
    s'.2.has d := by
  rcases h.ensured with ⟨none, _⟩ | ⟨d', b, device', ensured, believed⟩
  · rw [none] at device
    cases device
  · obtain rfl : d' = d := Option.some.inj (device'.symm.trans device)
    obtain rfl : b = true := believed success
    exact ensured.present

/-- Every exchange of every call has a fate that `reach` allows. -/
def FatesWithin (reach : HawkBitCall → Bool → Prop) (env : DeviceEnv) :
    Platform → List (DeviceCall × (Nat → Fate)) → Prop
  | _, [] => True
  | s, (call, fates) :: rest =>
      (∀ exchange ∈ (deviceRun env s call fates).trace, Within reach exchange.1 exchange.2) ∧
        FatesWithin reach env (deviceRun env s call fates).state rest

/-- Calls all of whose exchanges are served. -/
theorem fatesWithin_served (reach : HawkBitCall → Bool → Prop) (env : DeviceEnv) :
    ∀ (calls : List DeviceCall) (s : Platform),
      FatesWithin reach env s (calls.map fun call => (call, fun _ => Fate.served))
  | [], _ => trivial
  | call :: rest, s => by
    refine ⟨?_, fatesWithin_served reach env rest _⟩
    intro exchange h
    obtain ⟨_, hserved⟩ := Proc.answer_of_mem_trace _ h
    rw [hserved]
    cases exchange.1 with
    | request request => cases request <;> trivial
    | answer _ _ => trivial

theorem deviceRun_post {env : DeviceEnv} {s : Platform} {call : DeviceCall} {fates : Nat → Fate}
    (within : ∀ exchange ∈ (deviceRun env s call fates).trace,
      Within reach exchange.1 exchange.2) :
    ∃ reply, (deviceRun env s call fates).value = some reply ∧
      CallPost reach env s call reply (deviceRun env s call fates).state :=
  Proc.leaves_solo fates (serveDevice_leaves env call s) within

/-- The invariant rule for a sequence of calls. -/
theorem deviceRuns_invariant {env : DeviceEnv} {P : Platform → Prop}
    (kept : ∀ {s s' call reply}, P s → CallPost reach env s call reply s' → P s')
    {calls : List (DeviceCall × (Nat → Fate))} {s : Platform} (h : P s)
    (within : FatesWithin reach env s calls) : P (deviceRuns env s calls) := by
  induction calls generalizing s with
  | nil => exact h
  | cons head rest ih =>
    obtain ⟨call, fates⟩ := head
    obtain ⟨reply, _, post⟩ := deviceRun_post within.1
    exact ih (kept h post) within.2

theorem deviceRuns_append (env : DeviceEnv) (s : Platform)
    (before rest : List (DeviceCall × (Nat → Fate))) :
    deviceRuns env s (before ++ rest) = deviceRuns env (deviceRuns env s before) rest := by
  induction before generalizing s with
  | nil => rfl
  | cons head before ih => exact ih _

theorem deviceRuns_split (env : DeviceEnv) (s : Platform)
    (before rest : List (DeviceCall × (Nat → Fate))) (call : DeviceCall) (fates : Nat → Fate) :
    deviceRuns env s (before ++ (call, fates) :: rest) =
      deviceRuns env (deviceRun env (deviceRuns env s before) call fates).state rest := by
  rw [deviceRuns_append]
  rfl

theorem fatesWithin_append {env : DeviceEnv} {s : Platform}
    {before rest : List (DeviceCall × (Nat → Fate))} :
    FatesWithin reach env s (before ++ rest) ↔
      FatesWithin reach env s before ∧ FatesWithin reach env (deviceRuns env s before) rest := by
  induction before generalizing s with
  | nil => simp [FatesWithin, deviceRuns]
  | cons head before ih => simp only [List.cons_append, FatesWithin, deviceRuns, ih, and_assoc]

end Contracts

/-! ## A small platform -/

theorem slash29_fits : 29 ≤ 32 := by
  decide

/-- Five addresses for devices, packages that accept everything. -/
def tenantEnv : DeviceEnv where
  env := Env.counting
  settings := {}
  wg := { subnet := .v4 (NetworkRange.containing (0x0A0D0D00#32) 29 slash29_fits)
          serverIp := .v4 0x0A0D0D01#32 }
  loadCsr := fun _ => .ok true

def emptyPlatform : Platform := (⟨World.empty, ⟨none, none, none⟩⟩, HawkBit.empty)

def allServed (_ : Nat) : Fate := .served

/-- step-ca lists its provisioner and then signs; hawkBit serves every request. -/
def signing (n : Nat) : Fate :=
  if n = 0 then .instead true (.response ⟨200, "", .ok (.obj [("provisioners",
    .arr [.obj [("name", .str "iot-bridge"), ("type", .str "JWK"),
      ("encryptedKey", .str "key")]])]), none⟩)
  else if n = 2 then .instead true (.response ⟨201, "", .ok (.obj [("crt", .str "cert"),
    ("ca", .str "chain")]), none⟩)
  else .served

/-- hawkBit's own answer, or an exchange with step-ca. -/
def undisturbed (exchange : DeviceLeg × Fate) : Bool :=
  match exchange with
  | (.request (.hawkbit _ _ _ _), .instead _ _) => false
  | _ => true

theorem within_of_undisturbed (reach : HawkBitCall → Bool → Prop) {exchange : DeviceLeg × Fate}
    (h : undisturbed exchange = true) : Within reach exchange.1 exchange.2 := by
  obtain ⟨leg, fate⟩ := exchange
  cases leg with
  | answer _ _ => trivial
  | request request =>
    cases request with
    | stepCa _ => trivial
    | hawkbit _ _ _ _ =>
      cases fate with
      | served => trivial
      | instead _ _ => cases h

/-- The status a reply reports. -/
def reportedStatus : Option DeviceReply → String
  | some (.enrolled _) => "enrolled"
  | some (.webhook body) => body.status
  | some (.httpError status _) => toString status
  | some (.serverError _) => "500"
  | none => ""

def enrollmentOf : Option DeviceReply → Option EnrollmentResponse
  | some (.enrolled resp) => some resp
  | _ => none

theorem enrolled_of_isSome {reply : Option DeviceReply} (h : (enrollmentOf reply).isSome = true) :
    ∃ resp, reply = some (.enrolled resp) := by
  unfold enrollmentOf at h
  split at h
  · exact ⟨_, rfl⟩
  · cases h

end CompleteDeviceManagement.Guarantees.DeviceCalls
