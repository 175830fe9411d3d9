import CompleteDeviceManagement.Guarantees.DeviceConfig
import CompleteDeviceManagement.Guarantees.PeerList

/-!
# Both ends of a device's tunnel

The device's config and the server's peer list are written by two programs on two
machines, while the script is killed and started again, requests get lost, and
other devices enroll and connect. Whenever the device is marked as enrolled, its
config has the address the database gives it, and the server's last peer for that
address has the public key of the device.
-/

set_option autoImplicit false

namespace CompleteDeviceManagement.Guarantees.Tunnel
open CompleteDeviceManagement.Library CompleteDeviceManagement.Source.Bootstrap
  CompleteDeviceManagement.Source.WireGuard CompleteDeviceManagement.Source.WireGuardPeers
  CompleteDeviceManagement.Source.DeviceRuntime CompleteDeviceManagement.Source.DeviceRouters
  CompleteDeviceManagement.Source.HawkBit CompleteDeviceManagement.Guarantees.AddressAllocation
  CompleteDeviceManagement.Guarantees.DeviceCalls CompleteDeviceManagement.Guarantees.PeerList
  CompleteDeviceManagement.Guarantees.Bootstrap CompleteDeviceManagement.Guarantees.DeviceConfig
open CompleteDeviceManagement.Source.InitSubCa (captured)

/-! ## What a call does to the volume -/

/-- An enrollment registers the device or leaves the volume alone; one that is
answered has registered it. -/
structure Registers (env : DeviceEnv) (d : String) (body : EnrollmentRequest) (s : Platform)
    (result : Except DeviceRaised EnrollmentResponse) (s' : Platform) : Prop where
  files : s'.1.files = s.1.files ∨ Enrolls env d (body.wgPublicKey.getD "") s.1.files s'.1.files
  answer : ∀ resp, result = .ok resp →
    (allocateIp env.wg s.1.files.peersDb d).1 = .ok resp.wireguardIp ∧
      s'.1.files = registered d resp.wireguardIp (body.wgPublicKey.getD "")
        (allocated env d s.1.files) ∧
      resp.wireguardConfig = clientConfig env d resp.wireguardIp
        (getServerPubkey env.env.py s.1.files)

theorem registered_publickey (d ip key : String) (files : WgFiles) :
    (registered d ip key files).publickey = files.publickey := by
  unfold registered
  split
  · rfl
  · rfl

theorem generateClientConfig_writes (env : DeviceEnv) (d ip key : String) (s : Platform) :
    Leaves AnyFate
      (fun result s' => s'.1.files = registered d ip key s.1.files ∧
        result = .ok (clientConfig env d ip (getServerPubkey env.env.py s.1.files)))
      (generateClientConfig env d ip key) s := by
  unfold generateClientConfig
  apply leaves_onFiles
  refine ⟨rfl, ?_⟩
  have same : getServerPubkey env.env.py (registered d ip key s.1.files) =
      getServerPubkey env.env.py s.1.files := by
    unfold getServerPubkey
    rw [registered_publickey]
  exact congrArg (fun pubkey => Except.ok (clientConfig env d ip pubkey)) same

theorem enrollDevice_registers (env : DeviceEnv) (d : String) (body : EnrollmentRequest)
    (s : Platform) : Leaves AnyFate (Registers env d body s) (enrollDevice env d body) s := by
  have stopped : ∀ {error : DeviceRaised} {s' : Platform}, s'.1.files = s.1.files →
      Registers env d body s (.error error) s' := by
    intro error s' same
    exact ⟨.inl same, fun resp answered => by cases answered⟩
  unfold enrollDevice
  apply (validateCsr_leaves env body.csr s).bind
  · intro _ s₀ same
    subst s₀
    apply (signDevice_leaves env d body.csr _ _).bind
    · intro certs s₁ signed
      apply (sameWorld_ensureTarget env d body s₁).bind
      · intro _ s₂ target
        have before : s₂.1.files = _ := (congrArg DeviceWorld.files target).trans signed.1
        apply (allocate_leaves env d s₂.1 s₂.2).bind
        · rintro wgIp s₃ ⟨_, ⟨ip, hip, hresult, hallocated⟩ | ⟨error, _, herror, _⟩⟩
          · cases hip
            apply (generateClientConfig_writes env d wgIp _ s₃).bind
            · rintro wgCfg s' ⟨hregistered, hconfig⟩
              cases hconfig
              have config : getServerPubkey env.env.py s₃.1.files =
                  getServerPubkey env.env.py s.1.files := by
                rw [hallocated, before]
                rfl
              rw [before] at hresult
              rw [hallocated, before] at hregistered
              unfold enrollmentResponse
              split
              · refine leaves_pure ⟨.inr ⟨wgIp, hresult, hregistered⟩, ?_⟩
                intro resp answered
                cases answered
                exact ⟨hresult, hregistered, by dsimp only; rw [config]⟩
              · refine leaves_fail ⟨.inr ⟨wgIp, hresult, hregistered⟩, ?_⟩
                intro resp answered
                cases answered
            · rintro error s' ⟨_, never⟩
              cases never
          · cases herror
        · rintro error s₃ ⟨_, ⟨ip, hip, _⟩ | ⟨_, _, _, hkept⟩⟩
          · cases hip
          · exact stopped (hkept.trans before)
      · intro error s₂ target
        exact stopped ((congrArg DeviceWorld.files target).trans signed.1)
    · intro error s₁ signed
      exact stopped signed.1
  · rintro error _ rfl
    exact stopped rfl

theorem sameWorld_answering {α : Type} {py : PyText} {isError : DeviceRaised → Bool}
    {unreachable failed : String} {body : DeviceApp α} (h : SameWorld body) :
    SameWorld (answering py isError unreachable failed body) :=
  fun s => leaves_answering (h s) (fun _ _ same => same) fun _ _ same _ => same

/-- A connect event allocates an address, or leaves the volume alone. -/
theorem thingsboardWebhook_allocates (env : DeviceEnv) (event : ThingsboardWebhookEvent)
    (s : Platform) :
    Leaves AnyFate
      (fun _ s' => s'.1.files = s.1.files ∨ ∃ d, s'.1.files = allocated env d s.1.files)
      (thingsboardWebhook env event) s := by
  have allocation : ∀ (d status : String) (s₁ : Platform), s₁.1 = s.1 →
      Leaves AnyFate
        (fun (_ : Except DeviceRaised WebhookResponse) s' =>
          s'.1.files = s.1.files ∨ ∃ d, s'.1.files = allocated env d s.1.files)
        (do
          let wgIp ← allocate env d
          pure { status := status, deviceId := some d, wireguardIp := some wgIp }) s₁ := by
    rintro d status s₁ same
    apply (allocate_leaves env d s₁.1 s₁.2).bind
    · rintro wgIp s' ⟨_, ⟨ip, _, _, hallocated⟩ | ⟨error, _, herror, _⟩⟩
      · exact leaves_pure (.inr ⟨d, by rw [hallocated, same]⟩)
      · cases herror
    · rintro error s' ⟨_, ⟨ip, hip, _⟩ | ⟨_, _, _, hkept⟩⟩
      · cases hip
      · exact .inl (by rw [hkept, same])
  unfold thingsboardWebhook
  split
  · exact leaves_pure (.inl rfl)
  next d _ =>
    apply (sameWorld_answering (sameWorld_getTarget _ d) s).bind
    · intro existing s₁ same
      split
      · exact allocation d _ s₁ same
      · apply (sameWorld_answering (sameWorld_createTarget _ d _ _) s₁).bind
        · intro _ s₂ same'
          exact allocation d _ s₂ (same'.trans same)
        · intro error s₂ same'
          exact .inl (by rw [same', same])
    · intro error s₁ same
      exact .inl (by rw [same])

/-! ## What a call does to the peers -/

/-- The database was built by the API, and the server is set up. -/
structure Ready (env : DeviceEnv) (s : Platform) : Prop where
  reached : ∃ calls, s.1.files.peersDb = run env.wg none calls
  present : ∃ conf, s.1.files.wg0 = some conf

/-- Neither text of an enrollment has a line break. -/
def OneLine : DeviceCall → Prop
  | .enroll d body => '\n' ∉ d.toList ∧ '\n' ∉ (body.wgPublicKey.getD "").toList
  | .webhook _ => True

/-- A call takes no address away and changes no peer; an enrollment may add one,
with the address of its device. -/
structure Moves (env : DeviceEnv) (call : DeviceCall) (s s' : Platform) : Prop where
  ready : Ready env s'
  publickey : s'.1.files.publickey = s.1.files.publickey
  addresses : ∀ d ip, addressOf s d = some ip → addressOf s' d = some ip
  peers : peersIn s' = peersIn s ∨ ∃ d body, call = .enroll d body ∧
    ∃ a ∈ pool env.wg, addressOf s' d = some a.text ∧
      peersIn s' = peersIn s ++ [addedPeer a.text (body.wgPublicKey.getD "")]

theorem moves_same {env : DeviceEnv} {call : DeviceCall} {s s' : Platform} (ready : Ready env s)
    (same : s'.1.files = s.1.files) : Moves env call s s' where
  ready := ⟨by rw [same]; exact ready.reached, by rw [same]; exact ready.present⟩
  publickey := by rw [same]
  addresses := by
    intro d ip h
    unfold addressOf at h ⊢
    rw [same]
    exact h
  peers := by
    left
    unfold peersIn
    rw [same]

/-- The database behind one allocation more. -/
theorem reached_allocated {env : DeviceEnv} {files : WgFiles} (d : String)
    (reached : ∃ calls, files.peersDb = run env.wg none calls) :
    ∃ calls, (allocated env d files).peersDb = run env.wg none calls := by
  obtain ⟨calls, hdb⟩ := reached
  refine ⟨calls ++ [d], ?_⟩
  unfold allocated
  rw [hdb]
  simp [run, List.foldl_append]

theorem moves_allocated {env : DeviceEnv} {call : DeviceCall} {s s' : Platform} {d : String}
    (ready : Ready env s) (same : s'.1.files = allocated env d s.1.files) :
    Moves env call s s' where
  ready := by
    refine ⟨?_, ?_⟩
    · rw [same]
      exact reached_allocated d ready.reached
    · rw [same]
      exact ready.present
  publickey := by
    rw [same]
    rfl
  addresses := by
    intro d' ip h
    unfold addressOf at h ⊢
    rw [same]
    exact allocateIp_stays h
  peers := by
    left
    unfold peersIn
    rw [same]
    rfl

theorem registered_peersDb (d ip key : String) (files : WgFiles) :
    (registered d ip key files).peersDb = files.peersDb := by
  unfold registered
  split
  · rfl
  · rfl

/-- A registration: the device has an address, and with a key also a peer. -/
theorem moves_registered {env : DeviceEnv} {d : String} {body : EnrollmentRequest}
    {s s' : Platform} {ip : String} (ready : Ready env s) (oneLine : OneLine (.enroll d body))
    (hip : (allocateIp env.wg s.1.files.peersDb d).1 = .ok ip)
    (same : s'.1.files = registered d ip (body.wgPublicKey.getD "") (allocated env d s.1.files)) :
    Moves env (.enroll d body) s s' ∧
      ∃ a ∈ pool env.wg, ip = a.text ∧ addressOf s' d = some a.text ∧
        (body.wgPublicKey.getD "" ≠ "" →
          peersIn s' = peersIn s ++ [addedPeer a.text (body.wgPublicKey.getD "")]) := by
  obtain ⟨conf, hconf⟩ := ready.present
  have database : s'.1.files.peersDb = (allocated env d s.1.files).peersDb := by
    rw [same, registered_peersDb]
  have reached : ∃ calls, s'.1.files.peersDb = run env.wg none calls := by
    rw [database]
    exact reached_allocated d ready.reached
  have address : addressOf s' d = some ip := by
    unfold addressOf
    rw [database]
    exact allocateIp_recorded hip
  have assigned : ∃ a ∈ pool env.wg, ip = a.text := by
    obtain ⟨calls, hdb⟩ := reached
    unfold addressOf at address
    rw [hdb] at address
    exact recorded_text address
  obtain ⟨a, ha, rfl⟩ := assigned
  have stays : ∀ d' ip', addressOf s d' = some ip' → addressOf s' d' = some ip' := by
    intro d' ip' h
    unfold addressOf at h ⊢
    rw [database]
    exact allocateIp_stays h
  have publickey : s'.1.files.publickey = s.1.files.publickey := by
    rw [same, registered_publickey]
    rfl
  by_cases keyless : body.wgPublicKey.getD "" = ""
  · have wg0 : s'.1.files.wg0 = some conf := by
      rw [same, registered, if_pos keyless]
      exact hconf
    have peers : peersIn s' = peersIn s := by
      unfold peersIn
      rw [wg0, hconf]
    exact ⟨⟨⟨reached, conf, wg0⟩, publickey, stays, .inl peers⟩, a, ha, rfl, address,
      fun keyed => absurd keyless keyed⟩
  · have wg0 : s'.1.files.wg0 = some (conf ++ peerBlock d a.text (body.wgPublicKey.getD "")) := by
      rw [same, registered, if_neg keyless]
      simp [writeServerPeer, allocated, hconf]
    have peers : peersIn s' = peersIn s ++ [addedPeer a.text (body.wgPublicKey.getD "")] := by
      unfold peersIn
      rw [wg0, hconf, Option.getD_some, Option.getD_some]
      exact peersOf_append_block oneLine.1 oneLine.2 (addressText_of_pool ha)
    exact ⟨⟨⟨reached, _, wg0⟩, publickey, stays, .inr ⟨d, body, rfl, a, ha, address, peers⟩⟩, a, ha,
      rfl, address, fun _ => peers⟩

/-- An enrollment that is answered, seen from the device. -/
structure Answers (env : DeviceEnv) (d : String) (body : EnrollmentRequest) (s s' : Platform)
    (resp : EnrollmentResponse) : Prop where
  address : ∃ a ∈ pool env.wg, resp.wireguardIp = a.text ∧ addressOf s' d = some a.text
  peers : body.wgPublicKey.getD "" ≠ "" →
    peersIn s' = peersIn s ++ [addedPeer resp.wireguardIp (body.wgPublicKey.getD "")]
  config : resp.wireguardConfig = clientConfig env d resp.wireguardIp
    (getServerPubkey env.env.py s.1.files)

theorem enroll_moves {env : DeviceEnv} {d : String} {body : EnrollmentRequest} {s : Platform}
    (ready : Ready env s) (oneLine : OneLine (.enroll d body)) (fates : Nat → Fate) :
    Moves env (.enroll d body) s (deviceRun env s (.enroll d body) fates).state ∧
      ∀ resp, (deviceRun env s (.enroll d body) fates).value = some (.enrolled resp) →
        Answers env d body s (deviceRun env s (.enroll d body) fates).state resp := by
  have served : Proc.leaves AnyFate
      (fun reply s' => Moves env (.enroll d body) s s' ∧
        ∀ resp, reply = .enrolled resp → Answers env d body s s' resp)
      ((serveDevice env (.enroll d body)).against hawkBitServer) s := by
    apply leaves_reply (enrollDevice_registers env d body s)
    intro result s' registers
    refine ⟨?_, ?_⟩
    · rcases registers.files with same | ⟨ip, hip, same⟩
      · exact moves_same ready same
      · exact (moves_registered ready oneLine hip same).1
    · intro resp answered
      have success : reportsSuccess (deviceAnswer (result.map .enrolled)) = true := by
        rw [answered]
        rfl
      obtain ⟨value, rfl⟩ := ok_of_isOk (isOk_of_reportsSuccess success)
      obtain rfl : value = resp := by
        cases answered
        rfl
      obtain ⟨hip, same, config⟩ := registers.answer value rfl
      obtain ⟨_, a, ha, hresp, address, peers⟩ := moves_registered ready oneLine hip same
      refine ⟨⟨a, ha, hresp, address⟩, ?_, config⟩
      rw [hresp]
      exact peers
  obtain ⟨reply, answered, moves, answers⟩ := Proc.leaves_solo fates served fun _ _ => trivial
  refine ⟨moves, ?_⟩
  intro resp h
  exact answers resp (Option.some.inj (answered.symm.trans h))

theorem webhook_moves {env : DeviceEnv} {event : ThingsboardWebhookEvent} {s : Platform}
    (ready : Ready env s) (fates : Nat → Fate) :
    Moves env (.webhook event) s (deviceRun env s (.webhook event) fates).state := by
  have served : Proc.leaves AnyFate (fun _ s' => Moves env (.webhook event) s s')
      ((serveDevice env (.webhook event)).against hawkBitServer) s := by
    apply leaves_reply (thingsboardWebhook_allocates env event s)
    intro result s' allocates
    rcases allocates with same | ⟨d, same⟩
    · exact moves_same ready same
    · exact moves_allocated ready same
  obtain ⟨reply, _, moves⟩ := Proc.leaves_solo fates served fun _ _ => trivial
  exact moves

theorem deviceRun_moves {env : DeviceEnv} {s : Platform} {call : DeviceCall} (ready : Ready env s)
    (oneLine : OneLine call) (fates : Nat → Fate) :
    Moves env call s (deviceRun env s call fates).state := by
  cases call with
  | enroll d body => exact (enroll_moves ready oneLine fates).1
  | webhook event => exact webhook_moves ready fates

/-! ## The two ends -/

/-- The peer that WireGuard sends to: of several peers with one address the last. -/
def lastPeer (s : Platform) (ip : String) : Option Peer :=
  ((peersIn s).filter fun peer => decide (peer.allowedIps = [ip ++ "/32"])).getLast?

theorem lastPeer_added {s s' : Platform} {ip key : String}
    (peers : peersIn s' = peersIn s ++ [addedPeer ip key]) :
    lastPeer s' ip = some (addedPeer ip key) := by
  have own : [addedPeer ip key].filter (fun peer => decide (peer.allowedIps = [ip ++ "/32"])) =
      [addedPeer ip key] := by
    simp [addedPeer]
  rw [lastPeer, peers, List.filter_append, own, List.getLast?_concat]

theorem lastPeer_other {s s' : Platform} {ip ip' key : String} (other : ip' ≠ ip)
    (peers : peersIn s' = peersIn s ++ [addedPeer ip' key]) : lastPeer s' ip = lastPeer s ip := by
  have apart : ip' ++ "/32" ≠ ip ++ "/32" := by
    intro texts
    have chars := congrArg String.toList texts
    rw [String.toList_append, String.toList_append] at chars
    exact other (String.toList_injective (List.append_cancel_right chars))
  have foreign : [addedPeer ip' key].filter
      (fun peer => decide (peer.allowedIps = [ip ++ "/32"])) = [] := by
    simp [addedPeer, apart]
  rw [lastPeer, peers, List.filter_append, foreign, List.append_nil]
  rfl

variable (site : Site)

/-- The server holds what the answer says, and sends to the key that was posted. -/
structure Up (made : Made) (s : Platform) : Prop where
  address : ∃ a ∈ pool site.api.wg, made.resp.wireguardIp = a.text ∧
    addressOf s site.deviceId = some a.text
  peer : lastPeer s made.resp.wireguardIp =
    some (addedPeer made.resp.wireguardIp (site.tools.pubkey made.wg.wgKey))
  config : made.resp.wireguardConfig = clientConfig site.api site.deviceId made.resp.wireguardIp
    (getServerPubkey site.api.env.py s.1.files)

/-- Calls that are no enrollment of this device. -/
structure Foreign (call : DeviceCall) : Prop where
  oneLine : OneLine call
  other : ∀ body, call ≠ .enroll site.deviceId body

theorem Up.moves {made : Made} {s s' : Platform} {call : DeviceCall} (up : Up site made s)
    (foreign : Foreign site call) (moves : Moves site.api call s s') : Up site made s' := by
  obtain ⟨a, ha, hresp, address⟩ := up.address
  have stays := moves.addresses _ _ address
  refine ⟨⟨a, ha, hresp, stays⟩, ?_, ?_⟩
  · rcases moves.peers with same | ⟨d, body, rfl, a', ha', address', added⟩
    · unfold lastPeer
      rw [same]
      exact up.peer
    · have apart : a'.text ≠ made.resp.wireguardIp := by
        intro same
        rw [same, hresp] at address'
        have device := addressOf_distinct moves.ready.reached ha address' stays
        exact foreign.other body (by rw [device])
      rw [lastPeer_other apart added]
      exact up.peer
  · have server : getServerPubkey site.api.env.py s'.1.files =
        getServerPubkey site.api.env.py s.1.files := by
      unfold getServerPubkey
      rw [moves.publickey]
    rw [server]
    exact up.config

/-- What the device's URL and its config are made of. -/
structure Connected : Prop where
  device : EnrollmentAgreement.UrlPlain site.deviceId
  dots : site.deviceId ≠ "." ∧ site.deviceId ≠ ".."
  forwarded : EnrollmentAgreement.Forwarded site.reaches
    (Source.EnrollClients.bridgeUrlDocker site.env)
  dns : InLine site.api.wg.serverIp.text
  host : InLine site.api.settings.wgServerUrl

theorem deviceId_nonempty : site.deviceId ≠ "" := by
  unfold Site.deviceId Source.EnrollClients.deviceIdDocker Source.EnrollClients.orDefault
  split
  · decide
  · split
    · decide
    next nonempty => exact nonempty

theorem deviceId_inLine {site : Site} (connected : Connected site) : InLine site.deviceId := by
  constructor
  · intro inside
    exact absurd (connected.device _ inside).1 (by decide)
  · intro inside
    exact (connected.device _ inside).2.2 (by decide)

theorem keyText_inLine {key : String} (text : KeyText key) : InLine key := by
  constructor
  · intro inside
    exact absurd (text _ inside) (by decide)
  · intro inside
    exact absurd (text _ inside) (by decide)

/-- The device's own request enrolls the device, with its own public key. -/
theorem own_call {site : Site} (connected : Connected site) {made : Made} {call : DeviceCall}
    (called : site.call (made.request site) = some call) :
    ∃ body, call = .enroll site.deviceId body ∧
      body.wgPublicKey = some (site.tools.pubkey made.wg.wgKey) := by
  have routed : ((made.request site).url.bind site.reaches).bind
      (Source.EnrollmentApi.route (made.request site).method) =
      some (.enrollDevice, [site.deviceId]) :=
    (EnrollmentAgreement.docker_routed_iff connected.forwarded (deviceId_nonempty site)
      connected.device).mpr connected.dots
  unfold Site.call at called
  rw [routed] at called
  dsimp only at called
  rw [Made.request, EnrollmentAgreement.docker_enrollment, Option.map_some] at called
  refine ⟨_, (Option.some.inj called).symm, ?_⟩
  have text := (site.tools.pubkeyText made.wg.wgKey).1
  simp only [Source.InitSubCa.captured_newline, captured_key text]

theorem own_oneLine {site : Site} (connected : Connected site) {made : Made} {call : DeviceCall}
    (called : site.call (made.request site) = some call) : OneLine call := by
  obtain ⟨body, rfl, key⟩ := own_call connected called
  refine ⟨(deviceId_inLine connected).1, ?_⟩
  rw [key, Option.getD_some]
  exact (keyText_inLine (site.tools.pubkeyText made.wg.wgKey).1).1

theorem up_of_answer {site : Site} (connected : Connected site) {made : Made} {s : Platform}
    (ready : Ready site.api s) (called : site.call (made.request site) = some made.call)
    {fates : Nat → Fate}
    (served : (deviceRun site.api s made.call fates).value = some (.enrolled made.resp)) :
    Up site made (deviceRun site.api s made.call fates).state := by
  have oneLine := own_oneLine connected called
  obtain ⟨body, same, key⟩ := own_call connected called
  rw [same] at served oneLine ⊢
  obtain ⟨moves, answers⟩ := enroll_moves ready oneLine fates
  have answer := answers _ served
  have keyed : body.wgPublicKey.getD "" = site.tools.pubkey made.wg.wgKey := by
    rw [key, Option.getD_some]
  have peers := answer.peers (by rw [keyed]; exact (site.tools.pubkeyText made.wg.wgKey).2)
  rw [keyed] at peers
  refine ⟨answer.address, lastPeer_added peers, ?_⟩
  have server : getServerPubkey site.api.env.py
      (deviceRun site.api s (.enroll site.deviceId body) fates).state.1.files =
      getServerPubkey site.api.env.py s.1.files := by
    unfold getServerPubkey
    rw [moves.publickey]
  rw [server]
  exact answer.config

/-! ## Whole runs -/

/-- Once the device has its answer, the server is up for it. -/
def tunnelOutline {site : Site} (connected : Connected site) {may : DeviceCall → Prop}
    (foreign : ∀ call, may call → Foreign site call) :
    Script.Outline (enroll site) (others site may) where
  idle w := Ready site.api w.platform ∧ ((w.certs .enrolledFlag).isSome = true →
    ∃ made, Before site made 10 w ∧ Up site made w.platform)
  before n w := Ready site.api w.platform ∧
    ∃ made, Before site made n w ∧ (4 < n → Up site made w.platform)
  starts := by
    rintro w ⟨ready, _⟩ unmarked
    refine ⟨ready, blank, ⟨?_, ?_⟩, fun later => absurd later (by decide)⟩
    · intro _
      exact Option.not_isSome_iff_eq_none.mp unmarked
    · intro c member
      cases member
  acts := by
    rintro n w w' ⟨ready, made, h, up⟩ acts
    obtain ⟨command, found, acts⟩ := enroll_during site acts
    have next := during_before site h found acts
    rcases acts with ⟨texts, rfl⟩ | ⟨post, request, sent, call, called, fates, rfl⟩
    · exact ⟨ready, made, next, up⟩
    · obtain rfl := (post_place found).mp post
      have payload : w.vars.payload = some (made.request site) :=
        h.left .makePayload (by decide)
      rw [payload] at sent
      obtain rfl : made.request site = request := Option.some.inj sent
      have moves := deviceRun_moves ready (own_oneLine connected called) fates
      exact ⟨moves.ready, made, next, fun later => absurd later (by decide)⟩
  ends := by
    rintro n w w' ⟨ready, made, h, up⟩ ends
    obtain ⟨command, found, ends⟩ := enroll_done site ends
    obtain ⟨made', next, course⟩ := done_before site h found ends
    by_cases answered : n = 4
    · obtain ⟨fates, served, same⟩ := course.answered answered
      have called : site.call (made'.request site) = some made'.call := by
        subst answered
        exact (next.left .post (by decide)).1
      have moves := deviceRun_moves ready (own_oneLine connected called) fates
      rw [same]
      exact ⟨moves.ready, made', next, fun _ => up_of_answer connected ready called served⟩
    · rw [course.aside answered]
      refine ⟨ready, made', next, ?_⟩
      intro later
      have behind : 4 < n := by omega
      rw [course.drawn behind]
      exact up behind
  last := by
    rintro w ⟨ready, made, h, up⟩
    exact ⟨ready, fun marked =>
      ⟨made, h.complete site marked, up (by rw [enroll_length]; decide)⟩⟩
  quits := by
    rintro n w ⟨ready, made, h, up⟩
    refine ⟨ready, ?_⟩
    intro marked
    have late := h.late site marked
    exact ⟨made, h.complete site marked, up (by omega)⟩
  idles := by
    rintro w w' ⟨ready, idle⟩ ⟨call, fates, allowed, rfl⟩
    have moves := deviceRun_moves ready (foreign call allowed).oneLine fates
    refine ⟨moves.ready, ?_⟩
    intro marked
    obtain ⟨made, h, up⟩ := idle marked
    exact ⟨made, h.elsewhere site _, up.moves site (foreign call allowed) moves⟩
  moves := by
    rintro n w w' ⟨ready, made, h, up⟩ ⟨call, fates, allowed, rfl⟩
    have moves := deviceRun_moves ready (foreign call allowed).oneLine fates
    exact ⟨moves.ready, made, h.elsewhere site _,
      fun later => (up later).moves site (foreign call allowed) moves⟩

/-- The files and the server of a device with the address `a`. -/
structure BothEnds (made : Made) (a : IpAddress) (w : World) : Prop where
  enrolled : Enrolled site made w
  inPool : a ∈ pool site.api.wg
  address : addressOf w.platform site.deviceId = some a.text
  peer : lastPeer w.platform a.text = some (addedPeer a.text (site.tools.pubkey made.wg.wgKey))
  config : ∃ conf, w.certs .wgConfig = some conf ∧
    Ini.parse conf = configSections site.api a.text
      (getServerPubkey site.api.env.py w.platform.1.files) (captured (kept made.wg))
  /-- unless tee failed, the key in the config is the one with that public key -/
  ownKey : made.wg.wgKey.toList.length ≤ made.wg.kept → captured (kept made.wg) = made.wg.wgKey

theorem bothEnds {site : Site} (connected : Connected site) {made : Made} {w : World}
    (h : Before site made 10 w) (up : Up site made w.platform)
    (server : InLine (getServerPubkey site.api.env.py w.platform.1.files)) :
    ∃ a, BothEnds site made a w := by
  have enrolled := h.enrolled site
  obtain ⟨a, ha, hresp, address⟩ := up.address
  have peer := up.peer
  have config := enrolled.config
  have scopeless := IpNetwork.scopeless_of_mem_hosts ((mem_pool site.api.wg a).mp ha).1
  have texts : Texts site.api site.deviceId a.text
      (getServerPubkey site.api.env.py w.platform.1.files) :=
    { device := deviceId_inLine connected
      address := inLine_address scopeless
      dns := connected.dns
      host := connected.host
      server := server }
  rw [up.config] at config
  rw [hresp] at peer config
  exact ⟨a, enrolled, ha, address, peer, ⟨_, config, parse_config texts (kept_text made.wg)⟩,
    kept_whole⟩

theorem flag_settled {site : Site} (connected : Connected site) {may : DeviceCall → Prop}
    (foreign : ∀ call, may call → Foreign site call) {start w : World} {place : Option Nat}
    (fresh : start.certs .enrolledFlag = none) (ready : Ready site.api start.platform)
    (run : Script.Reaches (enroll site) (others site may) (start, none) (w, place))
    (marked : (w.certs .enrolledFlag).isSome = true) :
    Ready site.api w.platform ∧ ∃ made, Before site made 10 w ∧ Up site made w.platform := by
  have begins : (tunnelOutline connected foreign).Holds (start, none) := by
    refine ⟨ready, ?_⟩
    intro flag
    rw [fresh] at flag
    cases flag
  have holds := (tunnelOutline connected foreign).reaches begins run
  cases place with
  | none => exact ⟨holds.1, holds.2 marked⟩
  | some n =>
    obtain ⟨ready, made, before, up⟩ := holds
    have late := before.late site marked
    exact ⟨ready, made, before.complete site marked, up (by omega)⟩

theorem simulated_connected : Connected simulated where
  device := by
    unfold EnrollmentAgreement.UrlPlain
    decide +kernel
  dots := by decide
  forwarded := EnrollmentAgreement.forwarded_proxied _
  dns := by
    unfold InLine
    decide +kernel
  host := by
    unfold InLine
    decide +kernel

/-- The volume of a WireGuard server that has just been started. -/
def startedPlatform : Platform :=
  (⟨Source.Runtime.World.empty,
      ⟨none, some "[Interface]\nAddress = 10.13.13.1/24\n", some "c2Vy\n"⟩⟩,
    HawkBit.empty)

theorem started_ready : Ready tenantEnv startedPlatform :=
  ⟨⟨[], rfl⟩, ⟨_, rfl⟩⟩

def startedVolume : World := { emptyVolume with platform := startedPlatform }

theorem simulated_run (may : DeviceCall → Prop) :
    ∃ w, Script.Reaches (enroll simulated) (others simulated may) (startedVolume, none) (w, none) ∧
      (w.certs .enrolledFlag).isSome = true ∧
      w.platform = (deviceRun tenantEnv startedPlatform simulatedCall signing).state := by
  have served : ∃ resp, (deviceRun tenantEnv startedPlatform simulatedCall signing).value =
      some (.enrolled resp) := enrolled_of_isSome (by decide +kernel)
  obtain ⟨resp, served⟩ := served
  exact straight_run simulated may draws rfl (simulated_called resp) served

end CompleteDeviceManagement.Guarantees.Tunnel
