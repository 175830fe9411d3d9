import CompleteDeviceManagement.Guarantees.DeviceCalls

/-!
# The identity of a device on the two provisioning paths

Enrollment takes the device id from the URL; the webhook takes the first of
deviceId, clientId and deviceName that the metadata has. ThingsBoard puts its
own entity id under deviceId and the certificate's common name, which is the
enrolled id, under deviceName. So the two paths meet exactly when the entity id
happens to be the enrolled id.
-/

set_option autoImplicit false

namespace CompleteDeviceManagement.Guarantees.DeviceIdentity
open CompleteDeviceManagement.Library CompleteDeviceManagement.Source.Runtime
  CompleteDeviceManagement.Source.WireGuard CompleteDeviceManagement.Source.DeviceRuntime
  CompleteDeviceManagement.Source.HawkBit CompleteDeviceManagement.Source.WireGuardPeers
  CompleteDeviceManagement.Source.DeviceRouters CompleteDeviceManagement.Guarantees.DeviceCalls
open CompleteDeviceManagement.Library.Fallible

/-- Any request may have been carried out although the exchange failed. -/
abbrev anyReach (_ : HawkBitCall) (_ : Bool) : Prop := True

/-- A connect event of the device `d` that ThingsBoard knows as `entityId`. -/
structure ConnectEvent (event : ThingsboardWebhookEvent) (d entityId : String) : Prop where
  deviceName : Json.field? "deviceName" event.metadata = some (.str d)
  deviceId : Json.field? "deviceId" event.metadata = some (.str entityId)
  entity : entityId ≠ ""

/-- In the platform `s` the webhook, with hawkBit at hand, works on the identity
of the enrollment that was answered `resp`. -/
structure OneIdentity (env : DeviceEnv) (s : Platform) (d : String) (resp : EnrollmentResponse)
    (event : ThingsboardWebhookEvent) : Prop where
  found : (deviceRun env s (.webhook event) fun _ => .served).value =
    some (.webhook { status := "already_provisioned", deviceId := some d,
                     wireguardIp := some resp.wireguardIp })
  config : ∃ pubkey, resp.wireguardConfig = clientConfig env d resp.wireguardIp pubkey
  targets : (deviceRun env s (.webhook event) fun _ => .served).state.2 = s.2
  peers : (deviceRun env s (.webhook event) fun _ => .served).state.1.files.peersDb =
    s.1.files.peersDb

/-! ## What an enrollment leaves for good -/

/-- The target of `d` is there, and `d` has the address `ip`. -/
structure Known (d ip : String) (s : Platform) : Prop where
  target : s.2.has d
  peer : (loadPeers s.1.files.peersDb).get? d = some ip

theorem peersDb_registered (d ip key : String) (files : WgFiles) :
    (registered d ip key files).peersDb = files.peersDb := by
  unfold registered
  split
  · rfl
  · rfl

theorem known_of_enrolled {reach : HawkBitCall → Bool → Prop} {env : DeviceEnv} {s s' : Platform}
    {d : String} {body : EnrollmentRequest} {resp : EnrollmentResponse}
    (post : CallPost reach env s (.enroll d body) (.enrolled resp) s') :
    Known d resp.wireguardIp s' ∧
      ∃ pubkey, resp.wireguardConfig = clientConfig env d resp.wireguardIp pubkey := by
  have target : s'.2.has d := post.present rfl rfl
  generalize hreply : DeviceReply.enrolled resp = reply at post
  cases post with
  | @enrolled _ _ result _ post =>
    obtain ⟨value, rfl⟩ := ok_of_isOk (isOk_of_reportsSuccess (congrArg reportsSuccess hreply).symm)
    cases hreply
    obtain ⟨hip, hfiles, hconfig⟩ := post.answer resp rfl
    refine ⟨⟨target, ?_⟩, hconfig⟩
    rw [hfiles, peersDb_registered]
    exact allocateIp_recorded hip

/-- Nothing a call does to the volume takes an address away. -/
theorem known_stays {reach : HawkBitCall → Bool → Prop} {env : DeviceEnv} {s s' : Platform}
    {call : DeviceCall} {reply : DeviceReply} {d ip : String} (known : Known d ip s)
    (post : CallPost reach env s call reply s') : Known d ip s' := by
  refine ⟨post.grows known.target, ?_⟩
  cases post with
  | @enrolled d' _ _ _ post =>
    rcases post.files with same | ⟨ip', _, hfiles⟩
    · rw [same]
      exact known.peer
    · rw [hfiles, peersDb_registered]
      exact allocateIp_stays known.peer
  | @notified d' _ _ _ _ post =>
    rcases post.files with same | hfiles
    · rw [same]
      exact known.peer
    · rw [hfiles]
      exact allocateIp_stays known.peer
  | ignored _ => exact known.peer

/-! ## The webhook of a known device -/

/-- Every exchange is served. -/
abbrev Served (_ : DeviceLeg) (fate : Fate) : Prop := fate = .served

theorem getTarget_served (client : HawkBitClient) {d : String} {w : DeviceWorld} {hb : HawkBit}
    (target : hb.has d) :
    Leaves Served (fun result s' => s' = (w, hb) ∧ ∃ v, result = .ok v ∧ v.truthy = true)
      (client.getTarget d) (w, hb) := by
  obtain ⟨target, htarget⟩ := Option.isSome_iff_exists.mp target
  have exchanged : Leaves Served (fun result s' => s' = (w, hb) ∧
      result = .ok ⟨200, "", .ok (HawkBit.described d target.name), none⟩)
      (client.request (.getTarget d)) (w, hb) := by
    apply leaves_exchange
    rintro fate rfl
    refine ⟨rfl, ?_⟩
    simp [hawkBitServer, HawkBit.answer, htarget, received]
  refine exchanged.bind ?_ ?_
  · rintro resp s' ⟨rfl, hresp⟩
    cases hresp
    exact leaves_settled ⟨rfl, _, rfl, rfl⟩
  · rintro error s' ⟨_, herror⟩
    cases herror

theorem webhook_known {env : DeviceEnv} {event : ThingsboardWebhookEvent} {d ip : String}
    {s : Platform} (identified : deviceOf env (.webhook event) = some d) (known : Known d ip s) :
    (deviceRun env s (.webhook event) fun _ => .served).value =
        some (.webhook { status := "already_provisioned", deviceId := some d,
                         wireguardIp := some ip }) ∧
      (deviceRun env s (.webhook event) fun _ => .served).state.2 = s.2 ∧
      (deviceRun env s (.webhook event) fun _ => .served).state.1.files.peersDb =
        s.1.files.peersDb := by
  obtain ⟨w, hb⟩ := s
  have called : allocateIp env.wg w.files.peersDb d = (.ok ip, w.files.peersDb) :=
    allocateIp_known known.peer
  have webhook : Leaves Served (fun result s' => s'.2 = hb ∧
      s'.1.files.peersDb = w.files.peersDb ∧
      result = .ok { status := "already_provisioned", deviceId := some d,
                     wireguardIp := some ip })
      (thingsboardWebhook env event) (w, hb) := by
    have named : (extractDeviceId env event).filter (· ≠ "") = some d := identified
    have asked : Leaves Served
        (fun result s' => s' = (w, hb) ∧ ∃ v, result = .ok v ∧ v.truthy = true)
        (answering env.env.py DeviceRaised.isHawkBitError "hawkBit unreachable: "
          "hawkBit query failed: " ((getHawkbitClient env.settings).getTarget d)) (w, hb) := by
      refine leaves_answering (getTarget_served _ known.target) (fun _ _ h => h) ?_
      rintro error s' ⟨_, v, hv, _⟩
      cases hv
    unfold thingsboardWebhook
    rw [named]
    refine asked.bind ?_ ?_
    · rintro existing s' ⟨rfl, v, hv, truthy⟩
      cases hv
      rw [if_pos truthy]
      refine (allocate_leaves env d w hb).bind ?_ ?_
      · rintro wgIp ⟨w', hb'⟩ ⟨hhb, ⟨ip', hip, hresult, hallocated⟩ | ⟨error, _, herror, _⟩⟩
        · cases hip
          have hanswer : ip = wgIp := Except.ok.inj (by rw [← hresult, called])
          subst hanswer
          refine leaves_pure ⟨hhb, ?_, rfl⟩
          rw [hallocated]
          show (allocateIp env.wg w.files.peersDb d).2 = w.files.peersDb
          rw [called]
        · cases herror
      · rintro error s' ⟨_, ⟨ip', hip, _⟩ | ⟨error', hresult, _⟩⟩
        · cases hip
        · rw [called] at hresult
          cases hresult
    · rintro error s' ⟨_, v, hv, _⟩
      cases hv
  have called : Proc.leaves Served (fun reply s' => reply = .webhook
        { status := "already_provisioned", deviceId := some d, wireguardIp := some ip } ∧
        s'.2 = hb ∧ s'.1.files.peersDb = w.files.peersDb)
      ((serveDevice env (.webhook event)).against hawkBitServer) (w, hb) := by
    refine leaves_reply webhook ?_
    rintro result s' ⟨hhb, hpeers, rfl⟩
    exact ⟨rfl, hhb, hpeers⟩
  have served : ∀ exchange ∈ (deviceRun env (w, hb) (.webhook event) fun _ => .served).trace,
      Served exchange.1 exchange.2 := by
    intro exchange h
    obtain ⟨_, hserved⟩ := Proc.answer_of_mem_trace _ h
    exact hserved
  obtain ⟨reply, hvalue, rfl, hhb, hpeers⟩ := Proc.leaves_solo _ called served
  exact ⟨hvalue, hhb, hpeers⟩

/-! ## Exactly when the two paths meet -/

theorem extractDeviceId_of_connect (env : DeviceEnv) {event : ThingsboardWebhookEvent}
    {d entityId : String} (connect : ConnectEvent event d entityId) :
    deviceOf env (.webhook event) = some entityId := by
  have truthy : Json.truthy (.str entityId) = true := by simp [Json.truthy, connect.entity]
  have first : extractDeviceId env event = some entityId := by
    unfold extractDeviceId
    rw [List.findSome?_cons, connect.deviceId]
    simp [Option.filter, truthy, Json.text]
  show (extractDeviceId env event).filter (· ≠ "") = some entityId
  rw [first]
  simp [Option.filter, connect.entity]

/-- A webhook that reports success reports it for the device the event names. -/
theorem replied_device {reach : HawkBitCall → Bool → Prop} {env : DeviceEnv} {s s' : Platform}
    {event : ThingsboardWebhookEvent} {entityId : String} {reply : DeviceReply}
    {body : WebhookResponse} (post : CallPost reach env s (.webhook event) reply s')
    (identified : deviceOf env (.webhook event) = some entityId)
    (success : reportsSuccess reply = true) (hreply : reply = .webhook body) :
    body.deviceId = some entityId := by
  cases post with
  | @notified d _ result _ named post =>
    obtain rfl : d = entityId := Option.some.inj (named.symm.trans identified)
    obtain ⟨value, rfl⟩ := ok_of_isOk (isOk_of_reportsSuccess success)
    cases hreply
    exact (post.answer body rfl).1
  | ignored anonymous =>
    rw [anonymous] at identified
    cases identified

/-- After an enrollment of `d`, at any later time: the connect event of `d` is
worked on under the enrolled identity if and only if the entity id is `d`. -/
theorem identity_iff (env : DeviceEnv) (start : Platform)
    (before rest : List (DeviceCall × (Nat → Fate))) (d : String) (body : EnrollmentRequest)
    (fates : Nat → Fate) (resp : EnrollmentResponse)
    (within : FatesWithin anyReach env start (before ++ (.enroll d body, fates) :: rest))
    (enrolled : (deviceRun env (deviceRuns env start before) (.enroll d body) fates).value =
      some (.enrolled resp))
    (event : ThingsboardWebhookEvent) (entityId : String)
    (connect : ConnectEvent event d entityId) :
    OneIdentity env (deviceRuns env start (before ++ (.enroll d body, fates) :: rest)) d resp
      event ↔ entityId = d := by
  obtain ⟨_, hwithin, later⟩ := fatesWithin_append.mp within
  have identified := extractDeviceId_of_connect env connect
  obtain ⟨reply, answered, post⟩ := deviceRun_post hwithin
  obtain rfl : reply = .enrolled resp := Option.some.inj (answered.symm.trans enrolled)
  obtain ⟨known, config⟩ := known_of_enrolled post
  have still : Known d resp.wireguardIp
      (deviceRuns env start (before ++ (.enroll d body, fates) :: rest)) := by
    rw [deviceRuns_split]
    exact deviceRuns_invariant (P := Known d resp.wireguardIp) known_stays known later
  generalize deviceRuns env start (before ++ (.enroll d body, fates) :: rest) = s at still ⊢
  constructor
  · intro one
    have served : ∀ exchange ∈ (deviceRun env s (.webhook event) fun _ => .served).trace,
        Within anyReach exchange.1 exchange.2 :=
      (fatesWithin_served anyReach env [.webhook event] s).1
    obtain ⟨reply, answered, post⟩ := deviceRun_post served
    have hreply := Option.some.inj (answered.symm.trans one.found)
    have named := replied_device post identified (by rw [hreply]; rfl) hreply
    exact (Option.some.inj named).symm
  · rintro rfl
    obtain ⟨found, targets, peers⟩ := webhook_known identified still
    exact ⟨found, config, targets, peers⟩

/-! ## A second identity -/

def enrollDev1 : DeviceCall := .enroll "dev-1" { csr := "csr", deviceName := "Device 1" }

def connectOf (entityId : String) : ThingsboardWebhookEvent :=
  ⟨[("deviceName", .str "dev-1"), ("deviceType", .str "generic"), ("deviceId", .str entityId)]⟩

def enrolledPlatform : Platform := deviceRuns tenantEnv emptyPlatform [(enrollDev1, signing)]

theorem second_identity :
    ∃ resp, (deviceRun tenantEnv emptyPlatform enrollDev1 signing).value =
        some (.enrolled resp) ∧
      ConnectEvent (connectOf "784f394c-42b6-435a-983c-b7beff2784f9") "dev-1"
        "784f394c-42b6-435a-983c-b7beff2784f9" ∧
      ¬ OneIdentity tenantEnv enrolledPlatform "dev-1" resp
        (connectOf "784f394c-42b6-435a-983c-b7beff2784f9") ∧
      (deviceRun tenantEnv enrolledPlatform
        (.webhook (connectOf "784f394c-42b6-435a-983c-b7beff2784f9")) allServed
        ).state.2.targets.keys =
        ["dev-1", "784f394c-42b6-435a-983c-b7beff2784f9"] := by
  obtain ⟨resp, hresp⟩ : ∃ resp,
      (deviceRun tenantEnv emptyPlatform enrollDev1 signing).value = some (.enrolled resp) :=
    enrolled_of_isSome (by decide +kernel)
  refine ⟨resp, hresp, ⟨rfl, rfl, by decide⟩, ?_, by decide +kernel⟩
  intro one
  have status : reportedStatus (deviceRun tenantEnv enrolledPlatform
      (.webhook (connectOf "784f394c-42b6-435a-983c-b7beff2784f9")) fun _ => .served).value =
      "provisioned" := by
    decide +kernel
  rw [one.found] at status
  have same : "already_provisioned" = "provisioned" := status
  exact absurd same (by decide)

theorem same_identity :
    ∃ resp, (deviceRun tenantEnv emptyPlatform enrollDev1 signing).value =
        some (.enrolled resp) ∧
      OneIdentity tenantEnv enrolledPlatform "dev-1" resp (connectOf "dev-1") := by
  obtain ⟨resp, hresp⟩ : ∃ resp,
      (deviceRun tenantEnv emptyPlatform enrollDev1 signing).value = some (.enrolled resp) :=
    enrolled_of_isSome (by decide +kernel)
  have within : FatesWithin anyReach tenantEnv emptyPlatform [(enrollDev1, signing)] := by
    have undisturbed : (deviceRun tenantEnv emptyPlatform enrollDev1 signing).trace.all
        undisturbed = true := by
      decide +kernel
    refine ⟨fun exchange h => ?_, trivial⟩
    exact within_of_undisturbed anyReach (List.all_eq_true.mp undisturbed exchange h)
  exact ⟨resp, hresp, (identity_iff tenantEnv emptyPlatform [] [] "dev-1"
    { csr := "csr", deviceName := "Device 1" } signing resp within hresp (connectOf "dev-1") "dev-1"
    ⟨rfl, rfl, by decide⟩).mpr rfl⟩

end CompleteDeviceManagement.Guarantees.DeviceIdentity
