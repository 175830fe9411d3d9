import CompleteDeviceManagement.Library.Clients
import CompleteDeviceManagement.Guarantees.DeviceCalls

/-!
# Concurrent provisioning of one device

Any number of enrollments and webhooks of one device on the event loop, in front
of a hawkBit that answers every request. Both endpoints ask for the target and
create it when it is absent, with a suspension in between; nothing handles the
409 of a POST that comes second. In the runs in which every POST reaches hawkBit
before the target is there, all requests succeed with one target and one
address.
-/

set_option autoImplicit false

namespace CompleteDeviceManagement.Guarantees.ConcurrentProvisioning
open CompleteDeviceManagement.Library CompleteDeviceManagement.Source.Runtime
  CompleteDeviceManagement.Source.StepCa CompleteDeviceManagement.Source.WireGuard
  CompleteDeviceManagement.Source.DeviceRuntime CompleteDeviceManagement.Source.HawkBit
  CompleteDeviceManagement.Source.WireGuardPeers CompleteDeviceManagement.Source.DeviceRouters
  CompleteDeviceManagement.Guarantees.Provisioning CompleteDeviceManagement.Guarantees.DeviceCalls
open CompleteDeviceManagement.Library.Fallible

/-! ## The services at work -/

/-- step-ca lists the provisioner with a key that the password opens, and signs. -/
def Signs (env : DeviceEnv) : HttpRequest → HttpResult → Prop
  | .stepCaProvisioners _, result =>
      ∃ r data listed provs key, result = .response r ∧ r.isSuccess = true ∧ r.json = .ok data ∧
        data.get "provisioners" (.arr []) = .ok listed ∧ listed.iter = .ok provs ∧
        ∀ noKey notFound, findKey env.env env.env.settings.stepCaProvisionerName
          env.env.settings.stepCaProvisionerPassword noKey notFound provs = .ok key
  | .stepCaSign _ _ _, result =>
      ∃ r data crt ca, result = .response r ∧ r.isSuccess = true ∧ r.json = .ok data ∧
        data.item "crt" = .ok (.str crt) ∧ data.item "ca" = .ok (.str ca)
  | _, _ => False

/-- jwcrypto and cryptography raise nothing. -/
structure Working (env : DeviceEnv) : Prop where
  csrSha : ∀ csr, ∃ sha, env.env.crypto.csrSha csr = .ok sha
  signToken : ∀ ott, env.env.crypto.signToken ott = .ok ()

/-- hawkBit serves every request, and a POST only while its target is absent. -/
def InTurn (env : DeviceEnv) : DeviceRequest → Fate → HawkBit → Prop
  | .hawkbit _ _ _ (.postTargets id _), fate, hb => fate = .served ∧ ¬ hb.has id
  | .hawkbit _ _ _ _, fate, _ => fate = .served
  | .stepCa request, fate, _ => ∃ reached result, fate = .instead reached result ∧
      Signs env request result

/-- A request for `d`; the CSR of an enrollment is valid. -/
def Asks (env : DeviceEnv) (d : String) (call : DeviceCall) : Prop :=
  deviceOf env call = some d ∧
    ∀ id body, call = .enroll id body → env.loadCsr body.csr = .ok true

/-! ## What is known of hawkBit -/

/-- Targets of `d` were created once if there is one, and never otherwise. -/
def Once (d : String) (hb : HawkBit) : Prop :=
  (hb.has d ∧ hb.created.count d = 1) ∨ (¬ hb.has d ∧ hb.created.count d = 0)

structure Grows (d : String) (hb hb' : HawkBit) : Prop where
  has : hb.has d → hb'.has d
  once : Once d hb → Once d hb'

theorem Grows.refl (d : String) (hb : HawkBit) : Grows d hb hb := ⟨id, id⟩

theorem Grows.trans {d : String} {hb hb' hb'' : HawkBit} (h : Grows d hb hb')
    (h' : Grows d hb' hb'') : Grows d hb hb'' :=
  ⟨fun known => h'.has (h.has known), fun once => h'.once (h.once once)⟩

theorem grows_of_same {d : String} {hb hb' : HawkBit}
    (targets : hb'.has d ↔ hb.has d) (created : hb'.created = hb.created) : Grows d hb hb' := by
  constructor
  · exact targets.mpr
  · unfold Once
    rw [targets, created]
    exact id

theorem grows_post {d id : String} {hb : HawkBit} (absent : ¬ hb.has id) (name : Json) :
    Grows d hb (hb.apply (.postTargets id name)) := by
  have missing : hb.targets.get? id = none := by
    simpa [HawkBit.has] using absent
  have created : (hb.apply (.postTargets id name)).created = hb.created ++ [id] := by
    simp [HawkBit.apply, missing]
  constructor
  · exact has_apply hb _
  · intro once
    by_cases same : d = id
    · subst same
      rcases once with ⟨known, _⟩ | ⟨_, none⟩
      · exact absurd known absent
      · refine .inl ⟨has_postTargets hb d name, ?_⟩
        rw [created, List.count_append, none]
        simp
    · have others : (hb.apply (.postTargets id name)).created.count d = hb.created.count d := by
        rw [created, List.count_append, List.count_singleton]
        simp [Ne.symm same]
      have targets : (hb.apply (.postTargets id name)).has d ↔ hb.has d := by
        unfold HawkBit.has
        simp [HawkBit.apply, missing, Dict.get?_set_of_ne _ _ same]
      unfold Once at once ⊢
      rw [others, targets]
      exact once

theorem grows_put (d id : String) (attributes : List (String × Json)) (hb : HawkBit) :
    Grows d hb (hb.apply (.putAttributes id attributes)) := by
  cases hget : hb.targets.get? id with
  | none =>
    apply grows_of_same
    · simp [HawkBit.apply, hget]
    · simp [HawkBit.apply, hget]
  | some target =>
    apply grows_of_same
    · unfold HawkBit.has
      simp only [HawkBit.apply, hget]
      by_cases same : d = id
      · subst same
        simp [hget]
      · simp [Dict.get?_set_of_ne _ _ same]
    · simp [HawkBit.apply, hget]

theorem grows_served (env : DeviceEnv) (d : String) {request : DeviceRequest} {fate : Fate}
    {hb : HawkBit} (turn : InTurn env request fate hb) :
    Grows d hb (hawkBitServer request fate hb).2 := by
  cases request with
  | stepCa request =>
    obtain ⟨_, _, rfl, _⟩ := turn
    exact .refl d hb
  | hawkbit base user password call =>
    cases call with
    | getTarget id =>
      obtain rfl : fate = .served := turn
      exact .refl d hb
    | postTargets id name =>
      obtain ⟨rfl, absent⟩ := turn
      exact grows_post absent name
    | putAttributes id attributes =>
      obtain rfl : fate = .served := turn
      exact grows_put d id attributes hb

/-! ## Rules -/

section Rules

variable {α β : Type} (env : DeviceEnv) (d ip : String)

/-- `allocate_ip` answers, or would answer, `ip` for the device. -/
def Assigns (w : DeviceWorld) : Prop := (allocateIp env.wg w.files.peersDb d).1 = .ok ip

abbrev Secures (post : Except DeviceRaised α → HawkBit → Prop) (x : DeviceApp α) (w : DeviceWorld)
    (hb : HawkBit) : Prop :=
  Proc.secured hawkBitServer (Assigns env d ip) (Grows d) (InTurn env)
    (fun result _ hb => post result hb) x.run w hb

variable {env d ip}

theorem secures_pure {post : Except DeviceRaised α → HawkBit → Prop} {value : α}
    {w : DeviceWorld} {hb : HawkBit} (assigns : Assigns env d ip w) (h : post (.ok value) hb) :
    Secures env d ip post (pure value : DeviceApp α) w hb := ⟨assigns, h⟩

theorem secures_settled {post : Except DeviceRaised α → HawkBit → Prop}
    {result : Except DeviceRaised α} {w : DeviceWorld} {hb : HawkBit}
    (assigns : Assigns env d ip w) (h : post result hb) :
    Secures env d ip post (settled result) w hb := ⟨assigns, h⟩

/-- A part that succeeds, and the part after it. -/
theorem Secures.bind {x : DeviceApp α} {f : α → DeviceApp β} {mid : α → HawkBit → Prop}
    {post : Except DeviceRaised β → HawkBit → Prop} {w : DeviceWorld} {hb : HawkBit}
    (hx : Secures env d ip (fun result hb => ∃ value, result = .ok value ∧ mid value hb) x w hb)
    (hf : ∀ value w' hb', Assigns env d ip w' → mid value hb' →
      Secures env d ip post (f value) w' hb') :
    Secures env d ip post (x >>= f) w hb := by
  unfold Secures
  rw [run_bind]
  apply Proc.secured_bind
  refine Proc.secured_mono hx ?_
  rintro result w' hb' assigns ⟨value, rfl, hmid⟩
  exact hf value w' hb' assigns hmid

theorem secures_exchange {request : DeviceRequest}
    {post : Except DeviceRaised Response → HawkBit → Prop} {w : DeviceWorld} {hb : HawkBit}
    (assigns : Assigns env d ip w)
    (h : ∀ hb', Grows d hb hb' → ∀ fate, InTurn env request fate hb' →
      ∀ hb'', Grows d (hawkBitServer request fate hb').2 hb'' →
        post (received (hawkBitServer request fate hb').1) hb'') :
    Secures env d ip post (Source.DeviceRuntime.exchange request) w hb := by
  refine ⟨assigns, ?_⟩
  intro hb' grown fate turn
  refine ⟨grows_served env d turn, ?_⟩
  intro hb'' later w' assigns'
  have done := h hb' grown fate turn hb'' later
  cases hanswer : (hawkBitServer request fate hb').1 with
  | response r =>
    rw [hanswer] at done
    exact ⟨assigns', done⟩
  | failure text =>
    rw [hanswer] at done
    exact ⟨assigns', done⟩

theorem secures_answering {py : PyText} {isError : DeviceRaised → Bool}
    {unreachable failed : String}
    {body : DeviceApp α} {mid : α → HawkBit → Prop} {w : DeviceWorld} {hb : HawkBit}
    (hbody : Secures env d ip (fun result hb => ∃ value, result = .ok value ∧ mid value hb)
      body w hb) :
    Secures env d ip (fun result hb => ∃ value, result = .ok value ∧ mid value hb)
      (answering py isError unreachable failed body) w hb := by
  have attempted : Secures env d ip
      (fun result hb => ∃ outcome, result = .ok outcome ∧
        ∃ value, outcome = .ok value ∧ mid value hb)
      (attempt (fun error => error.isRequestError || isError error) body) w hb := by
    unfold Secures attempt
    rw [ExceptT.run_mk]
    apply Proc.secured_bind
    refine Proc.secured_mono hbody ?_
    rintro result w' hb' assigns ⟨value, rfl, hmid⟩
    exact ⟨assigns, .ok value, rfl, value, rfl, hmid⟩
  refine attempted.bind ?_
  rintro outcome w' hb' assigns ⟨value, rfl, hmid⟩
  exact secures_pure assigns ⟨value, rfl, hmid⟩

/-- A part that talks to step-ca, and succeeds. -/
theorem secures_stepCa {frame : World → World → Prop} {calls : HttpRequest → Prop}
    {mid : α → Prop} {x : App α}
    (quiet : Proc.Quiet frame calls (Signs env)
      (fun result => ∃ value, result = .ok value ∧ mid value) x.run)
    {w : DeviceWorld} (assigns : Assigns env d ip w) (hb : HawkBit) :
    Secures env d ip (fun result _ => ∃ value, result = .ok value ∧ mid value) (stepCa x) w hb := by
  have inside : Proc.Quiet (fun w w' : DeviceWorld => w'.files = w.files)
      (fun request => ∃ r, request = DeviceRequest.stepCa r)
      (fun request result => ∀ r, request = DeviceRequest.stepCa r → Signs env r result)
      (fun result => ∃ value, result = .ok value ∧ mid value)
      (x.run.within DeviceWorld.api (fun api w => { w with api := api })
        DeviceRequest.stepCa) := by
    apply quiet.within
    · intro _ _ _
      rfl
    · intro request _
      exact ⟨request, rfl⟩
    · intro request result _ given
      exact given request rfl
  unfold Secures stepCa
  rw [ExceptT.run_mk]
  apply Proc.secured_bind
  have kept : ∀ w w', Assigns env d ip w → w'.files = w.files → Assigns env d ip w' := by
    intro w w' assigns same
    unfold Assigns
    rw [same]
    exact assigns
  have served : ∀ (request : DeviceRequest) (fate : Fate) (hb : HawkBit),
      (∃ r, request = .stepCa r) → InTurn env request fate hb →
        (∀ r, request = .stepCa r → Signs env r (hawkBitServer request fate hb).1) ∧
          Grows d hb (hawkBitServer request fate hb).2 := by
    rintro request fate hb ⟨r, rfl⟩ turn
    have grown := grows_served env d turn
    obtain ⟨reached, result, rfl, signs⟩ := turn
    refine ⟨?_, grown⟩
    rintro r' same
    cases same
    exact signs
  refine Proc.secured_mono (inside.secured kept served assigns hb) ?_
  rintro result w' hb' assigns' ⟨value, rfl, hmid⟩
  exact ⟨assigns', value, rfl, hmid⟩

end Rules

/-! ## Contracts -/

section Contracts

variable {env : DeviceEnv} {d ip : String}

theorem getTarget_secures (client : HawkBitClient) {w : DeviceWorld}
    (assigns : Assigns env d ip w) (hb : HawkBit) :
    Secures env d ip
      (fun result hb => ∃ existing, result = .ok existing ∧ (existing.truthy = true → hb.has d))
      (client.getTarget d) w hb := by
  -- the answer says whether the target was there when it was given
  have asked : Secures env d ip
      (fun result hb => ∃ resp, result = .ok resp ∧
        ((resp = ⟨404, "", .error "no body", none⟩) ∨
          (hb.has d ∧ ∃ name, resp = ⟨200, "", .ok (HawkBit.described d name), none⟩)))
      (client.request (.getTarget d)) w hb := by
    apply secures_exchange assigns
    intro hb' _ fate turn hb'' grown
    obtain rfl : fate = .served := turn
    cases hget : hb'.targets.get? d with
    | none =>
      refine ⟨_, rfl, .inl ?_⟩
      simp [HawkBit.answer, hget]
    | some target =>
      have known : hb'.has d := by simp [HawkBit.has, hget]
      refine ⟨_, rfl, .inr ⟨grown.has known, target.name, ?_⟩⟩
      simp [HawkBit.answer, hget]
  apply asked.bind
  rintro resp w' hb' assigns' (rfl | ⟨known, name, rfl⟩)
  · exact secures_pure assigns' ⟨.null, rfl, fun h => by cases h⟩
  · exact secures_settled assigns' ⟨HawkBit.described d name, rfl, fun _ => known⟩

theorem putAttributes_secures (client : HawkBitClient) (attributes : List (String × Json))
    {w : DeviceWorld} (assigns : Assigns env d ip w) {hb : HawkBit} (known : hb.has d) :
    Secures env d ip (fun result hb => ∃ done, result = .ok done ∧ hb.has d)
      (client.putAttributes d attributes) w hb := by
  have asked : Secures env d ip
      (fun result hb => ∃ resp, result = .ok resp ∧ resp.isSuccess = true ∧ hb.has d)
      (client.request (.putAttributes d attributes)) w hb := by
    apply secures_exchange assigns
    intro hb' grown fate turn hb'' later
    obtain rfl : fate = .served := turn
    have present := grown.has known
    obtain ⟨target, htarget⟩ := Option.isSome_iff_exists.mp present
    refine ⟨_, rfl, ?_, later.has (has_apply hb' _ present)⟩
    simp [HawkBit.answer, htarget]
    decide
  apply asked.bind
  rintro resp w' hb' assigns' ⟨success, present⟩
  rw [if_pos success]
  exact secures_pure assigns' ⟨(), rfl, present⟩

theorem createTarget_secures (client : HawkBitClient) (name : Json)
    {attributes : List (String × Json)} (nonempty : attributes.isEmpty = false) {w : DeviceWorld}
    (assigns : Assigns env d ip w) (hb : HawkBit) :
    Secures env d ip (fun result hb => ∃ target, result = .ok target ∧ hb.has d)
      (client.createTarget d name attributes) w hb := by
  have asked : Secures env d ip
      (fun result hb => ∃ resp, result = .ok resp ∧
        resp = ⟨201, "", .ok (.arr [HawkBit.described d name]), none⟩ ∧ hb.has d)
      (client.request (.postTargets d name)) w hb := by
    apply secures_exchange assigns
    intro hb' _ fate turn hb'' later
    obtain ⟨rfl, absent⟩ := turn
    have missing : hb'.targets.get? d = none := by simpa [HawkBit.has] using absent
    refine ⟨_, rfl, ?_, later.has (has_postTargets hb' d name)⟩
    simp [HawkBit.answer, missing]
  apply asked.bind
  rintro resp w' hb' assigns' ⟨rfl, known⟩
  have created : Secures env d ip
      (fun result hb => ∃ body, result = .ok body ∧
        body = .arr [HawkBit.described d name] ∧ hb.has d)
      (decoded ⟨201, "", .ok (.arr [HawkBit.described d name]), none⟩) w' hb' :=
    secures_settled assigns' ⟨_, rfl, rfl, known⟩
  apply created.bind
  rintro body w' hb' assigns' ⟨rfl, known⟩
  have first : Secures env d ip
      (fun result hb => ∃ target, result = .ok target ∧ hb.has d)
      (checked (Json.arr [HawkBit.described d name]).first) w' hb' :=
    secures_settled assigns' ⟨_, rfl, known⟩
  apply first.bind
  intro target w' hb' assigns' known
  rw [nonempty]
  apply (putAttributes_secures client attributes assigns' known).bind
  intro _ w' hb' assigns' known
  exact secures_pure assigns' ⟨target, rfl, known⟩

theorem allocate_secures {w : DeviceWorld} (assigns : Assigns env d ip w) {hb : HawkBit}
    (known : hb.has d) :
    Secures env d ip (fun result hb => ∃ wgIp, result = .ok wgIp ∧ wgIp = ip ∧ hb.has d)
      (allocate env d) w hb := by
  have again : Assigns env d ip
      { w with files := { w.files with peersDb := (allocateIp env.wg w.files.peersDb d).2 } } := by
    show (allocateIp env.wg (allocateIp env.wg w.files.peersDb d).2 d).1 = .ok ip
    rw [allocateIp_known (allocateIp_recorded assigns)]
  have answered : ((allocateIp env.wg w.files.peersDb d).1.mapError .wireGuard :
      Except DeviceRaised String) = .ok ip := by
    have allocated : (allocateIp env.wg w.files.peersDb d).1 = .ok ip := assigns
    rw [allocated]
    rfl
  exact ⟨again, ip, answered, rfl, known⟩

theorem generateClientConfig_secures (key : String) {w : DeviceWorld}
    (assigns : Assigns env d ip w) {hb : HawkBit} (known : hb.has d) :
    Secures env d ip (fun result hb => ∃ config, result = .ok config ∧ hb.has d)
      (generateClientConfig env d ip key) w hb := by
  have again : Assigns env d ip { w with files := registered d ip key w.files } := by
    unfold Assigns registered
    split
    · exact assigns
    · exact assigns
  exact ⟨again, _, rfl, known⟩

theorem signCertificate_signs (working : Working env) (csr subject : String) (sans : List String) :
    Calm (fun _ => True) (Signs env)
      (fun result => ∃ certs, result = .ok certs ∧ ∃ crt ca, certs = (.str crt, .str ca))
      ((getStepCaClient env.env.settings).signCertificate env.env csr subject sans) := by
  have loaded : Calm (fun _ => True) (Signs env) (fun result => ∃ key, result = .ok key)
      ((getStepCaClient env.env.settings).loadSigningKey env.env) := by
    have asked : Calm (fun _ => True) (Signs env)
        (fun result => ∃ r, result = .ok r ∧ Signs env
          (.stepCaProvisioners (getStepCaClient env.env.settings).url) (.response r))
        (exchange (.stepCaProvisioners (getStepCaClient env.env.settings).url)) := by
      apply calm_exchange trivial
      · intro r given
        exact ⟨r, rfl, given⟩
      · rintro text ⟨r, _, _, _, _, hr, _⟩
        cases hr
    refine asked.bind ?_ ?_
    · rintro r ⟨_, hr, r', data, listed, provs, key, hr', success, json, hlisted, hiter, hkey⟩
      cases hr
      cases hr'
      have raised : r.raiseForStatus = pure () := by
        unfold Response.raiseForStatus
        rw [if_pos success]
      have body : r.decoded = (pure data : App Json) := by
        unfold Response.decoded
        rw [json]
        rfl
      rw [raised]
      show Calm _ _ _ (r.decoded >>= _)
      rw [body]
      show Calm _ _ _ (language (data.get "provisioners" (.arr [])) >>= _)
      rw [hlisted]
      show Calm _ _ _ (language listed.iter >>= _)
      rw [hiter]
      exact ⟨key, hkey _ _⟩
    · rintro error ⟨_, h, _⟩
      cases h
  have ott : Calm (fun _ => True) (Signs env) (fun result => ∃ ott, result = .ok ott)
      ((getStepCaClient env.env.settings).makeOtt env.env subject sans csr) := by
    refine loaded.bind ?_ ?_
    · rintro key -
      obtain ⟨sha, hsha⟩ := working.csrSha csr
      have read : Calm (fun _ => True) (Signs env) (fun result => ∃ time, result = .ok time)
          (now env.env) :=
        fun _ => ⟨⟨.refl _, rfl, rfl⟩, fun _ => ⟨⟨⟨rfl, rfl⟩, rfl, rfl⟩, _, rfl⟩⟩
      refine read.bind ?_ ?_
      · rintro time -
        show Calm _ _ _ (package (env.env.crypto.csrSha csr) >>= _)
        rw [hsha]
        show Calm _ _ _ (package (env.env.crypto.signToken (token key _ subject _ time _ _)) >>= _)
        rw [working.signToken]
        exact ⟨_, rfl⟩
      · rintro error ⟨_, h⟩
        cases h
    · rintro error ⟨_, h⟩
      cases h
  refine ott.bind ?_ ?_
  · rintro ott -
    have asked : Calm (fun _ => True) (Signs env)
        (fun result => ∃ r, result = .ok r ∧ Signs env
          (.stepCaSign (getStepCaClient env.env.settings).url csr ott) (.response r))
        (exchange (.stepCaSign (getStepCaClient env.env.settings).url csr ott)) := by
      apply calm_exchange trivial
      · intro r given
        exact ⟨r, rfl, given⟩
      · rintro text ⟨r, _, _, _, hr, _⟩
        cases hr
    refine asked.bind ?_ ?_
    · rintro r ⟨_, hr, r', data, crt, ca, hr', success, json, hcrt, hca⟩
      cases hr
      cases hr'
      have body : r.decoded = (pure data : App Json) := by
        unfold Response.decoded
        rw [json]
        rfl
      rw [if_pos success, body]
      show Calm _ _ _ (language (data.item "crt") >>= _)
      rw [hcrt]
      show Calm _ _ _ (language (data.item "ca") >>= _)
      rw [hca]
      exact ⟨(.str crt, .str ca), rfl, crt, ca, rfl⟩
    · rintro error ⟨_, h, _⟩
      cases h
  · rintro error ⟨_, h⟩
    cases h

theorem signDevice_secures (working : Working env) (csr : String) {w : DeviceWorld}
    (assigns : Assigns env d ip w) (hb : HawkBit) :
    Secures env d ip
      (fun result _ => ∃ certs, result = .ok certs ∧ ∃ crt ca, certs = (.str crt, .str ca))
      (signDevice env d csr) w hb :=
  secures_answering (secures_stepCa (signCertificate_signs working csr d [d]) assigns hb)

theorem ensureTarget_secures (body : EnrollmentRequest) {w : DeviceWorld}
    (assigns : Assigns env d ip w) (hb : HawkBit) :
    Secures env d ip (fun result hb => ∃ done, result = .ok done ∧ hb.has d)
      (ensureTarget env d body) w hb := by
  have steps : Secures env d ip (fun result hb => ∃ done, result = .ok done ∧ hb.has d)
      (do
        let existing ← (getHawkbitClient env.settings).getTarget d
        if existing.truthy then pure ()
        else do
          let _ ← (getHawkbitClient env.settings).createTarget d (.str body.deviceName)
            [("device_type", .str body.deviceType)]
          pure ()) w hb := by
    apply (getTarget_secures _ assigns hb).bind
    intro existing w' hb' assigns' known
    split
    · rename_i truthy
      exact secures_pure assigns' ⟨(), rfl, known truthy⟩
    · apply (createTarget_secures _ _ rfl assigns' hb').bind
      intro _ w' hb' assigns' known
      exact secures_pure assigns' ⟨(), rfl, known⟩
  exact secures_answering steps

theorem enrollDevice_secures (working : Working env) {body : EnrollmentRequest}
    (valid : env.loadCsr body.csr = .ok true) {w : DeviceWorld} (assigns : Assigns env d ip w)
    (hb : HawkBit) :
    Secures env d ip (fun result hb => ∃ resp, result = .ok resp ∧ resp.wireguardIp = ip ∧ hb.has d)
      (enrollDevice env d body) w hb := by
  have checked : validateCsr env body.csr = pure () := by
    unfold validateCsr
    rw [valid]
  unfold enrollDevice
  rw [checked, pure_bind]
  apply (signDevice_secures working body.csr assigns hb).bind
  rintro certs w hb assigns ⟨crt, ca, rfl⟩
  apply (ensureTarget_secures body assigns hb).bind
  intro _ w hb assigns known
  apply (allocate_secures assigns known).bind
  rintro wgIp w hb assigns ⟨rfl, known⟩
  apply (generateClientConfig_secures _ assigns known).bind
  intro config w hb assigns known
  exact secures_pure assigns ⟨⟨crt, ca, wgIp, config⟩, rfl, rfl, known⟩

/-- What a webhook that succeeds answers. -/
def Provisioned (d ip : String) (body : WebhookResponse) : Prop :=
  (body.status = "provisioned" ∨ body.status = "already_provisioned") ∧
    body.deviceId = some d ∧ body.wireguardIp = some ip

theorem thingsboardWebhook_secures {event : ThingsboardWebhookEvent}
    (identified : deviceOf env (.webhook event) = some d) {w : DeviceWorld}
    (assigns : Assigns env d ip w) (hb : HawkBit) :
    Secures env d ip (fun result hb => ∃ body, result = .ok body ∧ Provisioned d ip body ∧ hb.has d)
      (thingsboardWebhook env event) w hb := by
  have named : (extractDeviceId env event).filter (· ≠ "") = some d := identified
  have allocation : ∀ (status : String) (w : DeviceWorld) (hb : HawkBit),
      (status = "provisioned" ∨ status = "already_provisioned") → Assigns env d ip w → hb.has d →
      Secures env d ip
        (fun result hb => ∃ body, result = .ok body ∧ Provisioned d ip body ∧ hb.has d)
        (do
          let wgIp ← allocate env d
          pure { status := status, deviceId := some d, wireguardIp := some wgIp }) w hb := by
    intro status w hb hstatus assigns known
    apply (allocate_secures assigns known).bind
    rintro wgIp w hb assigns ⟨rfl, known⟩
    exact secures_pure assigns ⟨_, rfl, ⟨hstatus, rfl, rfl⟩, known⟩
  unfold thingsboardWebhook
  rw [named]
  apply (secures_answering (getTarget_secures _ assigns hb)).bind
  intro existing w hb assigns known
  split
  · rename_i truthy
    exact allocation _ w hb (.inr rfl) assigns (known truthy)
  · apply (secures_answering (createTarget_secures _ _ rfl assigns hb)).bind
    intro _ w hb assigns known
    exact allocation _ w hb (.inl rfl) assigns known

/-- 200 with an enrollment, or a webhook that succeeded, with the address `ip`. -/
def Succeeds (d ip : String) : DeviceReply → Prop
  | .enrolled resp => resp.wireguardIp = ip
  | .webhook body => Provisioned d ip body
  | _ => False

theorem serveDevice_secured (working : Working env) {call : DeviceCall} (asks : Asks env d call)
    {w : DeviceWorld} (assigns : Assigns env d ip w) (hb : HawkBit) :
    Proc.secured hawkBitServer (Assigns env d ip) (Grows d) (InTurn env)
      (fun reply _ hb => Succeeds d ip reply ∧ hb.has d) (serveDevice env call) w hb := by
  have replied : ∀ {α : Type} {x : DeviceApp α} {reply : α → DeviceReply}
      {mid : α → HawkBit → Prop},
      Secures env d ip (fun result hb => ∃ value, result = .ok value ∧ mid value hb) x w hb →
      (∀ value hb, mid value hb → Succeeds d ip (reply value) ∧ hb.has d) →
      Proc.secured hawkBitServer (Assigns env d ip) (Grows d) (InTurn env)
        (fun reply _ hb => Succeeds d ip reply ∧ hb.has d)
        ((reply <$> x).run.bind fun result => .ret (deviceAnswer result)) w hb := by
    intro α x reply mid hx done
    apply Proc.secured_bind
    have mapped : Secures env d ip
        (fun result hb => ∃ answer, result = .ok answer ∧ Succeeds d ip answer ∧ hb.has d)
        (reply <$> x) w hb := by
      rw [map_eq_pure_bind]
      apply hx.bind
      intro value w' hb' assigns' hmid
      exact secures_pure assigns' ⟨_, rfl, done value hb' hmid⟩
    refine Proc.secured_mono mapped ?_
    rintro result w' hb' assigns' ⟨answer, rfl, success⟩
    exact ⟨assigns', success⟩
  obtain ⟨device, valid⟩ := asks
  cases call with
  | enroll id body =>
    obtain rfl : id = d := Option.some.inj device
    exact replied (enrollDevice_secures working (valid id body rfl) assigns hb) fun _ _ h => h
  | webhook event =>
    exact replied (thingsboardWebhook_secures device assigns hb) fun _ _ h => h

end Contracts

/-! ## No endpoint waits for a lock -/

section Unblocked

variable {α β : Type}

abbrev Unhindered (x : DeviceApp α) : Prop := Proc.Unblocked x.run

theorem Unhindered.bind {x : DeviceApp α} {f : α → DeviceApp β} (hx : Unhindered x)
    (hf : ∀ value, Unhindered (f value)) : Unhindered (x >>= f) :=
  quiet_bind_of hx (fun value _ => hf value) fun _ _ => trivial

theorem unhindered_exchange (request : DeviceRequest) :
    Unhindered (Source.DeviceRuntime.exchange request) := by
  refine ⟨trivial, ?_⟩
  intro answer _
  cases answer with
  | response r => trivial
  | failure text => trivial

theorem unhindered_answering {py : PyText} {isError : DeviceRaised → Bool}
    {unreachable failed : String} {body : DeviceApp α} (h : Unhindered body) :
    Unhindered (answering py isError unreachable failed body) := by
  have attempted : Unhindered
      (attempt (fun error => error.isRequestError || isError error) body) :=
    quiet_attempt h (fun _ _ => trivial) (fun _ _ _ => trivial) fun _ _ _ => trivial
  apply attempted.bind
  intro outcome
  cases outcome with
  | ok value => trivial
  | error error =>
    show Unhindered (if error.isRequestError then _ else _)
    split
    · trivial
    · trivial

theorem unhindered_getTarget (client : HawkBitClient) (d : String) :
    Unhindered (client.getTarget d) := by
  apply (unhindered_exchange _).bind
  intro resp
  split
  · trivial
  · split
    · trivial
    · trivial

theorem unhindered_createTarget (client : HawkBitClient) (d : String) (name : Json)
    (attributes : List (String × Json)) : Unhindered (client.createTarget d name attributes) := by
  have put : Unhindered (client.putAttributes d attributes) := by
    apply (unhindered_exchange _).bind
    intro resp
    split
    · trivial
    · trivial
  apply (unhindered_exchange _).bind
  intro resp
  split
  · apply Unhindered.bind (x := decoded resp) trivial
    intro created
    apply Unhindered.bind (x := checked created.first) trivial
    intro target
    split
    · trivial
    · exact put.bind fun _ => trivial
  · trivial

theorem unhindered_signDevice (env : DeviceEnv) (d csr : String) :
    Unhindered (signDevice env d csr) := by
  have quiet : Calm (fun _ => True) (fun _ _ => True) _
      ((getStepCaClient env.env.settings).signCertificate env.env csr d [d]) :=
    signCertificate_calm trivial fun _ _ _ => trivial
  have signed : Unhindered
      (stepCa ((getStepCaClient env.env.settings).signCertificate env.env csr d [d])) :=
    quiet.unblocked.within.bind fun _ => trivial
  exact unhindered_answering signed

theorem unhindered_enrollDevice (env : DeviceEnv) (d : String) (body : EnrollmentRequest) :
    Unhindered (enrollDevice env d body) := by
  have validated : Unhindered (validateCsr env body.csr) := by
    unfold validateCsr
    split
    · trivial
    · trivial
    · trivial
  have ensured : Unhindered (ensureTarget env d body) := by
    apply unhindered_answering
    apply (unhindered_getTarget _ d).bind
    intro existing
    split
    · trivial
    · exact (unhindered_createTarget _ d _ _).bind fun _ => trivial
  apply validated.bind
  intro _
  apply (unhindered_signDevice env d body.csr).bind
  intro certs
  apply ensured.bind
  intro _
  apply Unhindered.bind (x := allocate env d) fun _ => ⟨trivial, trivial⟩
  intro wgIp
  apply Unhindered.bind (x := generateClientConfig env d wgIp _) fun _ => ⟨trivial, trivial⟩
  intro wgCfg
  unfold enrollmentResponse
  split
  · trivial
  · trivial

theorem unhindered_thingsboardWebhook (env : DeviceEnv) (event : ThingsboardWebhookEvent) :
    Unhindered (thingsboardWebhook env event) := by
  have allocation : ∀ d : String, Unhindered (allocate env d) := fun _ _ => ⟨trivial, trivial⟩
  unfold thingsboardWebhook
  split
  · trivial
  · rename_i d _
    apply (unhindered_answering (unhindered_getTarget _ d)).bind
    intro existing
    split
    · exact (allocation d).bind fun _ => trivial
    · apply (unhindered_answering (unhindered_createTarget _ d _ _)).bind
      intro _
      exact (allocation d).bind fun _ => trivial

theorem unblocked_serveDevice (env : DeviceEnv) (call : DeviceCall) :
    Proc.Unblocked ((serveDevice env call).against hawkBitServer) := by
  have handled : Unhindered (handleDevice env call) := by
    cases call with
    | enroll d body =>
      show Unhindered (DeviceReply.enrolled <$> enrollDevice env d body)
      rw [map_eq_pure_bind]
      exact (unhindered_enrollDevice env d body).bind fun _ => trivial
    | webhook event =>
      show Unhindered (DeviceReply.webhook <$> thingsboardWebhook env event)
      rw [map_eq_pure_bind]
      exact (unhindered_thingsboardWebhook env event).bind fun _ => trivial
  have served : Proc.Unblocked (serveDevice env call) :=
    Proc.Unblocked.bind handled fun _ => trivial
  exact served.against

end Unblocked

/-! ## Every interleaving -/

def handler (env : DeviceEnv) (call : DeviceCall) : Proc Platform DeviceLeg Fate DeviceReply :=
  (serveDevice env call).against hawkBitServer

/-- Requests for `d` only, each exchange served in its turn. -/
abbrev Orderly (env : DeviceEnv) (d : String) :
    EventLoop DeviceCall Platform DeviceLeg Fate DeviceReply → Action DeviceCall Fate → Prop :=
  EventLoop.Admits (InTurn env) (Asks env d)

/-- Every request that has returned has succeeded with the address `ip`, and then
there is one target; there is never a second one. -/
structure OneTarget (d ip : String)
    (c : EventLoop DeviceCall Platform DeviceLeg Fate DeviceReply) : Prop where
  succeeded : ∀ i reply, EventLoop.Returned c i reply →
    Succeeds d ip reply ∧ c.state.2.created.count d = 1
  single : c.state.2.created.count d ≤ 1

theorem secured_handlers {env : DeviceEnv} (working : Working env) (d ip : String) (hb : HawkBit) :
    EventLoop.Secured (serveDevice env) hawkBitServer (Assigns env d ip) (Grows d) (InTurn env)
      (fun _ reply hb => Succeeds d ip reply ∧ hb.has d) (Asks env d) hb := by
  constructor
  · exact Grows.refl d
  · intro _ _ _ h h'
    exact h.trans h'
  · intro _ reply _ _ done grown
    exact ⟨done.1, grown.has done.2⟩
  · intro call asks w hb assigns _
    exact serveDevice_secured working asks assigns hb

def connecting : DeviceCall := .webhook ⟨[("deviceName", .str "dev-1"), ("deviceType", .str "pi")]⟩

/-- hawkBit serves every request, in whatever state it is. -/
abbrev Serving : DeviceRequest → Fate → HawkBit → Prop := fun _ fate _ => fate = .served

/-- Two connect events arrive, and the tasks are scheduled in the order given. -/
def interleaved (order : List Nat) : List (Action DeviceCall Fate) :=
  [.arrive connecting, .arrive connecting] ++ order.map fun i => .resume i .served

def afterInterleaving (order : List Nat) :
    EventLoop DeviceCall Platform DeviceLeg Fate DeviceReply :=
  EventLoop.run (handler tenantEnv) (EventLoop.start emptyPlatform) (interleaved order)

/-- What task `i` has answered so far. -/
def statusOf (c : EventLoop DeviceCall Platform DeviceLeg Fate DeviceReply) (i : Nat) : String :=
  match c.tasks[i]? with
  | some ⟨_, some _, .ret reply⟩ => reportedStatus (some reply)
  | _ => ""

theorem returned_of_statusOf {c : EventLoop DeviceCall Platform DeviceLeg Fate DeviceReply}
    {i : Nat} {status : String} (h : statusOf c i = status) (nonempty : status ≠ "") :
    ∃ reply, EventLoop.Returned c i reply ∧ reportedStatus (some reply) = status := by
  unfold statusOf at h
  split at h
  · rename_i request begun reply heq
    exact ⟨reply, ⟨_, heq, by simp, rfl⟩, h⟩
  · exact absurd h.symm nonempty

theorem asks_connecting : Asks tenantEnv "dev-1" connecting := by
  refine ⟨by decide, ?_⟩
  intro id body h
  cases h

/-- The next exchange of task `i` is one of hawkBit, and in its turn. -/
def inTurn (c : EventLoop DeviceCall Platform DeviceLeg Fate DeviceReply) (i : Nat) : Bool :=
  match (c.tasks[i]?).map Task.proc with
  | some (.await (.request (.hawkbit _ _ _ (.postTargets id _))) _) => !decide (c.state.2.has id)
  | some (.await (.request (.stepCa _)) _) => false
  | _ => true

def allInTurn (c : EventLoop DeviceCall Platform DeviceLeg Fate DeviceReply) : List Nat → Bool
  | [] => true
  | i :: rest =>
      inTurn c i && allInTurn (EventLoop.step (handler tenantEnv) c (.resume i .served)) rest

theorem orderly_of_inTurn {c : EventLoop DeviceCall Platform DeviceLeg Fate DeviceReply} {i : Nat}
    (h : inTurn c i = true) : Orderly tenantEnv "dev-1" c (.resume i .served) := by
  intro t request next hi _ hproc
  unfold inTurn at h
  rw [hi, Option.map_some, hproc] at h
  cases request with
  | stepCa request => cases h
  | hawkbit base user password call =>
    cases call with
    | getTarget id => rfl
    | postTargets id name => exact ⟨rfl, by simpa using h⟩
    | putAttributes id attributes => rfl

theorem each_of_allInTurn {order : List Nat}
    {c : EventLoop DeviceCall Platform DeviceLeg Fate DeviceReply}
    (h : allInTurn c order = true) :
    EventLoop.Each (handler tenantEnv) (Orderly tenantEnv "dev-1") c
      (order.map fun i => .resume i .served) := by
  induction order generalizing c with
  | nil =>
    intro before action rest split
    simp at split
  | cons i rest ih =>
    unfold allInTurn at h
    rw [Bool.and_eq_true] at h
    exact EventLoop.Each.cons (orderly_of_inTurn h.1) (ih h.2)

end CompleteDeviceManagement.Guarantees.ConcurrentProvisioning
