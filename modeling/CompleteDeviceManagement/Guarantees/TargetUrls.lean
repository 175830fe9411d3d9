import CompleteDeviceManagement.Guarantees.DeviceCalls
import CompleteDeviceManagement.Library.Url
import CompleteDeviceManagement.Source.Urls

/-!
# Which hawkBit target a request addresses

The hawkBit client writes the device id into a URL as it is. What hawkBit sees
of it is the path up to the first `?` or `#`, its dot segments resolved and its
segments decoded, so a request is about the named device only if nothing in the
name has a meaning in a URL.
-/

set_option autoImplicit false

namespace CompleteDeviceManagement.Guarantees.TargetUrls
open CompleteDeviceManagement.Library CompleteDeviceManagement.Source.Runtime
  CompleteDeviceManagement.Source.DeviceRuntime CompleteDeviceManagement.Source.HawkBit
  CompleteDeviceManagement.Source.WireGuardPeers CompleteDeviceManagement.Source.DeviceRouters
  CompleteDeviceManagement.Source.Urls CompleteDeviceManagement.Guarantees.Provisioning
  CompleteDeviceManagement.Guarantees.DeviceCalls
open CompleteDeviceManagement.Library.Fallible

/-! ## What a URL addresses -/

def targetsPath : List Url.Text := ["rest".toList, "v1".toList, "targets".toList]

theorem targetsPath_literal : ∀ segment ∈ targetsPath, Url.Literal segment := by
  decide

/-- Neither query nor fragment, and the segment behind `targets` names the
device; `below` is what follows it. -/
structure Addresses (base : Url.Base) (url : String) (below : List Url.Text) (deviceId : String) :
    Prop where
  query : (Url.read url).query = none
  fragment : (Url.read url).fragment = none
  path : ∃ segment, (Url.read url).segments = base.segments ++ targetsPath ++ segment :: below ∧
    Url.Names segment deviceId

/-- Nothing in the id has a meaning in a URL. -/
structure Plain (deviceId : String) : Prop where
  notDot : deviceId.toList ≠ ['.']
  notDots : deviceId.toList ≠ ['.', '.']
  slash : '/' ∉ deviceId.toList
  question : '?' ∉ deviceId.toList
  hash : '#' ∉ deviceId.toList
  unescaped : Url.escaped deviceId.toList = false

theorem read_targetUrl (base : Url.Base) (deviceId : String) :
    Url.read (targetUrl base.text deviceId) =
      { segments := Url.resolve (base.segments ++ targetsPath).reverse
          ((Url.before '?' (Url.before '#' deviceId.toList)).splitOn '/')
        query := Url.behind '?' (Url.before '#' deviceId.toList)
        fragment := Url.behind '#' deviceId.toList } := by
  have text : targetUrl base.text deviceId =
      base.text ++ .ofList (Url.joined targetsPath ++ '/' :: deviceId.toList) := by
    apply String.toList_inj.mp
    simp [targetUrl, Url.joined, targetsPath]
  rw [text, Url.read_below base targetsPath_literal]

theorem Plain.target {deviceId : String} (plain : Plain deviceId) (base : Url.Base) :
    Url.read (targetUrl base.text deviceId) =
      ⟨base.segments ++ targetsPath ++ [deviceId.toList], none, none⟩ := by
  have noQuestion := Url.behind_eq_none_iff.mpr plain.question
  have noHash := Url.behind_eq_none_iff.mpr plain.hash
  rw [read_targetUrl, Url.before_of_not_mem plain.hash, Url.before_of_not_mem plain.question,
    List.splitOn_eq_singleton plain.slash, noQuestion, noHash, Url.resolve,
    if_neg plain.notDot, if_neg plain.notDots, Url.resolve, List.reverse_cons,
    List.reverse_reverse]

theorem Plain.attributes {deviceId : String} (plain : Plain deviceId) (base : Url.Base) :
    Url.read (attributesUrl base.text deviceId) =
      ⟨base.segments ++ targetsPath ++ [deviceId.toList, "attributes".toList], none, none⟩ := by
  have text : attributesUrl base.text deviceId =
      base.text ++ .ofList (Url.joined targetsPath ++
        '/' :: (deviceId.toList ++ '/' :: "attributes".toList)) := by
    apply String.toList_inj.mp
    simp [attributesUrl, Url.joined, targetsPath]
  have question : '?' ∉ deviceId.toList ++ '/' :: "attributes".toList := by
    simpa using plain.question
  have hash : '#' ∉ deviceId.toList ++ '/' :: "attributes".toList := by
    simpa using plain.hash
  have pieces : (deviceId.toList ++ '/' :: "attributes".toList).splitOn '/' =
      [deviceId.toList, "attributes".toList] := by
    rw [List.splitOn_append_cons_self_of_not_mem plain.slash,
      List.splitOn_eq_singleton (by decide)]
  have noQuestion := Url.behind_eq_none_iff.mpr question
  have noHash := Url.behind_eq_none_iff.mpr hash
  rw [text, Url.read_below base targetsPath_literal, Url.before_of_not_mem hash,
    Url.before_of_not_mem question, pieces, noQuestion, noHash, Url.resolve,
    if_neg plain.notDot, if_neg plain.notDots, Url.resolve, if_neg (by decide),
    if_neg (by decide), Url.resolve]
  simp

theorem Plain.names {deviceId : String} (plain : Plain deviceId) :
    Url.Names deviceId.toList deviceId := by
  have own := Url.names_plain plain.unescaped
  rwa [String.ofList_toList] at own

theorem plain_of_literal {deviceId : String} (literal : Url.Literal deviceId.toList) :
    Plain deviceId := by
  obtain ⟨_, dot, dots, chars⟩ := literal
  constructor
  · exact dot
  · exact dots
  · exact fun h => (chars _ h).1 rfl
  · exact fun h => (chars _ h).2.1 rfl
  · exact fun h => (chars _ h).2.2.1 rfl
  · exact Url.escaped_of_no_percent fun h => (chars _ h).2.2.2 rfl

/-- The lookup addresses the device only if its id is plain: the segment that
names it is a piece of the id, or one of the base that the id climbed up to. -/
theorem plain_of_addresses {base : Url.Base} {deviceId : String}
    (addresses : Addresses base (targetUrl base.text deviceId) [] deviceId) : Plain deviceId := by
  obtain ⟨query, fragment, segment, hsegments, names⟩ := addresses
  have hread := read_targetUrl base deviceId
  rw [hread] at query fragment hsegments
  have hash := Url.behind_eq_none_iff.mp fragment
  simp only [Url.before_of_not_mem hash] at query hsegments
  have question := Url.behind_eq_none_iff.mp query
  rw [Url.before_of_not_mem question] at hsegments
  have hmem : segment ∈ Url.resolve (base.segments ++ targetsPath).reverse
      (deviceId.toList.splitOn '/') := by
    rw [hsegments]
    simp
  rcases Url.mem_resolve hmem with above | piece
  · have literal : Url.Literal segment := by
      rcases List.mem_append.mp (List.mem_reverse.mp above) with h | h
      · exact base.literal segment h
      · exact targetsPath_literal segment h
    have unescaped := Url.escaped_of_no_percent fun h => (literal.2.2.2 _ h).2.2.2 rfl
    have own := Url.names_unique names (Url.names_plain unescaped)
    apply plain_of_literal
    rw [own, String.toList_ofList]
    exact literal
  · obtain ⟨part, noSlash⟩ := Url.mem_splitOn piece
    obtain ⟨same, unescaped⟩ := Url.names_part names part
    rw [same] at noSlash unescaped
    rw [List.splitOn_eq_singleton noSlash] at hsegments
    have hlength := congrArg List.length hsegments
    refine ⟨?_, ?_, noSlash, question, hash, unescaped⟩
    · intro dot
      simp [dot, Url.resolve] at hlength
    · intro dots
      simp [dots, Url.resolve, targetsPath] at hlength

/-! ## What a call asks -/

section Yields

variable {α β : Type} {calls : DeviceRequest → Prop}
  {answers : DeviceRequest → HttpResult → Prop} {post : α → Prop}

variable (calls answers) in
/-- It makes such calls only, and what it returns, so answered, is as `post` says. -/
abbrev Yields (post : α → Prop) (x : DeviceApp α) : Prop :=
  Proc.Quiet (fun _ _ => True) calls answers
    (fun result => ∀ value, result = .ok value → post value) x.run

theorem Yields.bind {x : DeviceApp α} {f : α → DeviceApp β} {mid : α → Prop} {post : β → Prop}
    (hx : Yields calls answers mid x)
    (hf : ∀ value, mid value → Yields calls answers post (f value)) :
    Yields calls answers post (x >>= f) :=
  quiet_bind_of hx (fun value h => hf value (h value rfl)) fun _ _ _ h => by cases h

theorem Yields.mono {x : DeviceApp α} {mid : α → Prop} (hx : Yields calls answers mid x)
    (weaker : ∀ value, mid value → post value) : Yields calls answers post x :=
  Proc.Quiet.mono hx fun _ h value heq => weaker value (h value heq)

theorem yields_settled {result : Except DeviceRaised α}
    (h : ∀ value, result = .ok value → post value) :
    Yields calls answers post (settled result) := h

theorem yields_pure {value : α} (h : post value) :
    Yields calls answers post (pure value : DeviceApp α) := by
  intro value' heq
  cases heq
  exact h

theorem yields_fail (error : DeviceRaised) :
    Yields calls answers post (fail error : DeviceApp α) := by
  intro value heq
  cases heq

theorem yields_exchange {request : DeviceRequest} {post : Response → Prop}
    (asked : calls request) (answered : ∀ r, answers request (.response r) → post r) :
    Yields calls answers post (Source.DeviceRuntime.exchange request) := by
  refine ⟨asked, ?_⟩
  intro answer given
  cases answer with
  | response r => exact yields_pure (answered r given)
  | failure text => exact yields_fail _

theorem yields_onFiles (step : WgFiles → Except Source.WireGuard.Error α × WgFiles) :
    Yields calls answers (fun _ => True) (onFiles step) :=
  fun _ => ⟨trivial, fun _ _ => trivial⟩

theorem yields_stepCa {x : App α} (asked : ∀ request, calls (.stepCa request))
    (quiet : Calm (fun _ => True) (fun _ _ => True) (fun _ => True) x) :
    Yields calls answers (fun _ => True) (stepCa x) := by
  have inside : Proc.Quiet (fun _ _ => True) calls answers (fun _ => True)
      (x.run.within DeviceWorld.api (fun api w => { w with api := api }) .stepCa) :=
    Proc.Quiet.within quiet (fun _ _ _ => trivial) (fun request _ => asked request)
      fun _ _ _ _ => trivial
  exact Proc.Quiet.bind_of inside fun _ _ _ _ => trivial

theorem Yields.answering {py : PyText} {isError : DeviceRaised → Bool}
    {unreachable failed : String} {body : DeviceApp α} (hbody : Yields calls answers post body) :
    Yields calls answers post (answering py isError unreachable failed body) := by
  have attempted : Yields calls answers (fun outcome => ∀ value, outcome = .ok value → post value)
      (attempt (fun error => error.isRequestError || isError error) body) := by
    refine quiet_attempt hbody ?_ ?_ ?_
    · intro value h outcome houtcome value' heq
      cases houtcome
      cases heq
      exact h value rfl
    · intro error _ _ outcome houtcome value heq
      cases houtcome
      cases heq
    · intro error _ _ outcome houtcome
      cases houtcome
  refine attempted.bind ?_
  intro outcome h
  cases outcome with
  | ok value => exact yields_pure (h value rfl)
  | error error =>
    show Yields calls answers post (if error.isRequestError then _ else _)
    split
    · exact yields_fail _
    · exact yields_fail _

end Yields

/-- Requests for one device: to hawkBit only under its id, at the configured place. -/
def About (env : DeviceEnv) (deviceId : String) : DeviceRequest → Prop
  | .stepCa _ => True
  | .hawkbit baseUrl _ _ call => baseUrl = (getHawkbitClient env.settings).baseUrl ∧
      match call with
      | .getTarget controllerId => controllerId = deviceId
      | .postTargets controllerId _ => controllerId = deviceId
      | .putAttributes controllerId _ => controllerId = deviceId

def lookupRequest (env : DeviceEnv) (deviceId : String) : DeviceRequest :=
  .hawkbit (getHawkbitClient env.settings).baseUrl (getHawkbitClient env.settings).username
    (getHawkbitClient env.settings).password (.getTarget deviceId)

def creationRequest (env : DeviceEnv) (deviceId : String) (name : Json) : DeviceRequest :=
  .hawkbit (getHawkbitClient env.settings).baseUrl (getHawkbitClient env.settings).username
    (getHawkbitClient env.settings).password (.postTargets deviceId name)

section Calls

variable (answers : DeviceRequest → HttpResult → Prop) (env : DeviceEnv) (deviceId : String)

/-- The lookup was answered, and not with 404. -/
def Found : Prop :=
  ∃ r, answers (lookupRequest env deviceId) (.response r) ∧ r.status ≠ 404

def Created : Prop :=
  ∃ name result, answers (creationRequest env deviceId name) result

theorem getTarget_yields :
    Yields (About env deviceId) answers
      (fun existing => existing.truthy = true → Found answers env deviceId)
      ((getHawkbitClient env.settings).getTarget deviceId) := by
  have asked : Yields (About env deviceId) answers
      (fun r => answers (lookupRequest env deviceId) (.response r))
      ((getHawkbitClient env.settings).request (.getTarget deviceId)) :=
    yields_exchange ⟨rfl, rfl⟩ fun _ h => h
  refine asked.bind ?_
  intro r given
  split
  · apply yields_pure
    intro truthy
    cases truthy
  next answered =>
    split
    · exact yields_settled fun _ _ _ => ⟨r, given, answered⟩
    · exact yields_fail _

theorem putAttributes_yields (attributes : List (String × Json)) :
    Yields (About env deviceId) answers (fun _ => True)
      ((getHawkbitClient env.settings).putAttributes deviceId attributes) := by
  have asked : Yields (About env deviceId) answers (fun _ => True)
      ((getHawkbitClient env.settings).request (.putAttributes deviceId attributes)) :=
    yields_exchange ⟨rfl, rfl⟩ fun _ _ => trivial
  refine asked.bind ?_
  intro r _
  split
  · exact yields_pure trivial
  · exact yields_fail _

theorem createTarget_yields (name : Json) (attributes : List (String × Json)) :
    Yields (About env deviceId) answers (fun _ => Created answers env deviceId)
      ((getHawkbitClient env.settings).createTarget deviceId name attributes) := by
  have asked : Yields (About env deviceId) answers
      (fun _ => Created answers env deviceId)
      ((getHawkbitClient env.settings).request (.postTargets deviceId name)) :=
    yields_exchange ⟨rfl, rfl⟩ fun r h => ⟨name, .response r, h⟩
  refine asked.bind ?_
  intro r created
  split
  · have body : Yields (About env deviceId) answers (fun _ => True) (decoded r) :=
      yields_settled fun _ _ => trivial
    refine body.bind ?_
    intro body _
    have first : Yields (About env deviceId) answers (fun _ => True) (checked body.first) :=
      yields_settled fun _ _ => trivial
    refine first.bind ?_
    intro target _
    split
    · exact yields_pure created
    · refine (putAttributes_yields answers env deviceId attributes).bind ?_
      intro _ _
      exact yields_pure created
  · exact yields_fail _

theorem ensureTarget_yields (body : EnrollmentRequest) :
    Yields (About env deviceId) answers
      (fun _ => Found answers env deviceId ∨ Created answers env deviceId)
      (ensureTarget env deviceId body) := by
  apply Yields.answering
  refine (getTarget_yields answers env deviceId).bind ?_
  intro existing found
  split
  next truthy => exact yields_pure (.inl (found truthy))
  · refine (createTarget_yields answers env deviceId _ _).bind ?_
    intro _ created
    exact yields_pure (.inr created)

theorem enrollDevice_yields (body : EnrollmentRequest) :
    Yields (About env deviceId) answers
      (fun _ => Found answers env deviceId ∨ Created answers env deviceId)
      (enrollDevice env deviceId body) := by
  have valid : Yields (About env deviceId) answers (fun _ => True) (validateCsr env body.csr) := by
    unfold validateCsr
    split
    · exact yields_pure trivial
    · exact yields_fail _
    · exact yields_fail _
  have signed : Yields (About env deviceId) answers (fun _ => True)
      (signDevice env deviceId body.csr) := by
    apply Yields.answering
    apply yields_stepCa fun _ => trivial
    exact Proc.Quiet.mono (signCertificate_calm trivial fun _ _ _ => trivial) fun _ _ => trivial
  refine valid.bind ?_
  intro _ _
  refine signed.bind ?_
  intro certs _
  refine (ensureTarget_yields answers env deviceId body).bind ?_
  intro _ target
  refine (yields_onFiles _).bind ?_
  intro wgIp _
  refine (yields_onFiles _).bind ?_
  intro wgCfg _
  unfold enrollmentResponse
  split
  · exact yields_pure target
  · exact yields_fail _

theorem thingsboardWebhook_yields {event : ThingsboardWebhookEvent}
    (identified : deviceOf env (.webhook event) = some deviceId) :
    Yields (About env deviceId) answers
      (fun _ => Found answers env deviceId ∨ Created answers env deviceId)
      (thingsboardWebhook env event) := by
  have named : (extractDeviceId env event).filter (· ≠ "") = some deviceId := identified
  unfold thingsboardWebhook
  rw [named]
  refine (getTarget_yields answers env deviceId).answering.bind ?_
  intro existing found
  split
  next truthy =>
    refine (yields_onFiles _).bind ?_
    intro wgIp _
    exact yields_pure (.inl (found truthy))
  · refine (createTarget_yields answers env deviceId _ _).answering.bind ?_
    intro _ created
    refine (yields_onFiles _).bind ?_
    intro wgIp _
    exact yields_pure (.inr created)

/-- A call for a device asks hawkBit about that device only, and reports success
only after the lookup was answered or a creation was. -/
theorem serveDevice_yields {call : DeviceCall} (device : deviceOf env call = some deviceId) :
    Proc.Quiet (fun _ _ => True) (About env deviceId) answers
      (fun reply => reportsSuccess reply = true →
        Found answers env deviceId ∨ Created answers env deviceId)
      (serveDevice env call) := by
  have replied : ∀ {α : Type} {x : DeviceApp α} (wrap : α → DeviceReply),
      Yields (About env deviceId) answers
        (fun _ => Found answers env deviceId ∨ Created answers env deviceId) x →
      Proc.Quiet (fun _ _ => True) (About env deviceId) answers
        (fun reply => reportsSuccess reply = true →
          Found answers env deviceId ∨ Created answers env deviceId)
        ((wrap <$> x).run.bind fun result => .ret (deviceAnswer result)) := by
    intro α x wrap hx
    have mapped : Yields (About env deviceId) answers
        (fun _ => Found answers env deviceId ∨ Created answers env deviceId) (wrap <$> x) := by
      rw [map_eq_pure_bind]
      exact hx.bind fun _ h => yields_pure h
    refine Proc.Quiet.bind_of mapped ?_
    intro result h success
    cases result with
    | ok reply => exact h reply rfl
    | error error =>
      let raised : Except DeviceRaised DeviceReply := .error error
      have same : reportsSuccess (deviceAnswer (raised.map fun reply => reply)) = true := success
      cases isOk_of_reportsSuccess same
  cases call with
  | enroll d body =>
    obtain rfl : d = deviceId := Option.some.inj device
    exact replied _ (enrollDevice_yields answers env d body)
  | webhook event => exact replied _ (thingsboardWebhook_yields answers env deviceId device)

end Calls

/-! ## A fleet in front of hawkBit -/

/-- What hawkBit answers to a GET, by what the request carries of its URL. -/
abbrev Site := List Url.Text × Option Url.Text → Response

/-- hawkBit has these targets: a segment that names none of them is answered 404. -/
def Site.Has (site : Site) (base : Url.Base) (targets : Set String) : Prop :=
  ∀ segment query, segment ≠ [] → (∀ controllerId ∈ targets, ¬ Url.Names segment controllerId) →
    (site (base.segments ++ targetsPath ++ [segment], query)).status = 404

/-- A lookup is answered by the site, or fails on the way. -/
def Site.Answers (site : Site) : DeviceRequest → HttpResult → Prop
  | .hawkbit baseUrl _ _ (.getTarget controllerId), result =>
      result = .response (site (Url.read (targetUrl baseUrl controllerId)).sent) ∨
        ∃ text, result = .failure text
  | _, _ => True

def Creates : DeviceRequest → Prop
  | .hawkbit _ _ _ (.postTargets _ _) => True
  | _ => False

/-- The GET and the PUT that are about `deviceId`, read as URLs. -/
def AddressesDevice (base : Url.Base) (deviceId : String) : DeviceRequest → Prop
  | .hawkbit baseUrl _ _ (.getTarget controllerId) =>
      Addresses base (targetUrl baseUrl controllerId) [] deviceId
  | .hawkbit baseUrl _ _ (.putAttributes controllerId _) =>
      Addresses base (attributesUrl baseUrl controllerId) ["attributes".toList] deviceId
  | _ => True

abbrev CallRun := Proc.Run DeviceWorld DeviceRequest HttpResult DeviceReply

def callRun (env : DeviceEnv) (call : DeviceCall) (answers : Nat → HttpResult) (w : DeviceWorld) :
    CallRun :=
  (serveDevice env call).solo answers 0 w

/-- The call reports success and has not asked hawkBit for a new target. -/
def TakenForProvisioned (run : CallRun) : Prop :=
  (∃ reply, run.value = some reply ∧ reportsSuccess reply = true) ∧
    ∀ exchange ∈ run.trace, ¬ Creates exchange.1

/-- The requests of every call for a device of the fleet address it, two devices
never share a lookup, and one that is taken for provisioned has a target. -/
structure NamesDevices (env : DeviceEnv) (base : Url.Base) (fleet : Set String) : Prop where
  requests : ∀ deviceId ∈ fleet, ∀ call answers w, deviceOf env call = some deviceId →
    ∀ exchange ∈ (callRun env call answers w).trace, AddressesDevice base deviceId exchange.1
  separate : ∀ deviceId ∈ fleet, ∀ other ∈ fleet, deviceId ≠ other →
    (Url.read (targetUrl base.text deviceId)).sent ≠ (Url.read (targetUrl base.text other)).sent
  known : ∀ deviceId ∈ fleet, ∀ (targets : Set String) (site : Site), site.Has base targets →
    ∀ call answers w, deviceOf env call = some deviceId →
      (∀ exchange ∈ (callRun env call answers w).trace, site.Answers exchange.1 exchange.2) →
        TakenForProvisioned (callRun env call answers w) → deviceId ∈ targets

section Fleet

variable {env : DeviceEnv} {base : Url.Base} {deviceId : String}

theorem addressesDevice_of_plain
    (configured : (getHawkbitClient env.settings).baseUrl = base.text) (plain : Plain deviceId)
    {request : DeviceRequest} (about : About env deviceId request) :
    AddressesDevice base deviceId request := by
  cases request with
  | stepCa request => trivial
  | hawkbit baseUrl user password call =>
    obtain ⟨place, same⟩ := about
    subst place
    cases call with
    | getTarget controllerId =>
      subst same
      have hread := plain.target base
      unfold AddressesDevice
      rw [configured]
      exact ⟨by rw [hread], by rw [hread], _, by rw [hread], plain.names⟩
    | postTargets controllerId name => trivial
    | putAttributes controllerId attributes =>
      subst same
      have hread := plain.attributes base
      unfold AddressesDevice
      rw [configured]
      exact ⟨by rw [hread], by rw [hread], _, by rw [hread], plain.names⟩

theorem known_of_plain (configured : (getHawkbitClient env.settings).baseUrl = base.text)
    (plain : Plain deviceId) (delivered : deviceId ≠ "") {targets : Set String} {site : Site}
    (has : site.Has base targets) {call : DeviceCall} {answers : Nat → HttpResult}
    {w : DeviceWorld} (device : deviceOf env call = some deviceId)
    (answered : ∀ exchange ∈ (callRun env call answers w).trace,
      site.Answers exchange.1 exchange.2)
    (taken : TakenForProvisioned (callRun env call answers w)) : deviceId ∈ targets := by
  obtain ⟨⟨reply, hvalue, success⟩, uncreated⟩ := taken
  have keeps : ∀ before after : DeviceWorld, True → True → True := fun _ _ _ _ => trivial
  obtain ⟨_, _, reply', hvalue', ends⟩ := Proc.Quiet.solo answers
    (serveDevice_yields (fun request result => site.Answers request result ∧ ¬ Creates request)
      env deviceId device) keeps 0 w trivial
    fun exchange h => ⟨answered exchange h, uncreated exchange h⟩
  obtain rfl : reply' = reply := Option.some.inj (hvalue'.symm.trans hvalue)
  by_contra absent
  rcases ends success with found | created
  · obtain ⟨r, ⟨given, _⟩, status⟩ := found
    have unnamed : ∀ controllerId ∈ targets, ¬ Url.Names deviceId.toList controllerId := by
      intro controllerId hmem names
      exact absent (Url.names_unique names plain.names ▸ hmem)
    have something : deviceId.toList ≠ [] := fun h => delivered (String.toList_eq_nil_iff.mp h)
    rcases given with answer | failure
    · rw [configured, plain.target base] at answer
      cases answer
      exact status (has deviceId.toList none something unnamed)
    · obtain ⟨text, failure⟩ := failure
      cases failure
  · obtain ⟨name, result, _, posts⟩ := created
    exact posts trivial

end Fleet

/-- Every answer is a refusal. -/
def refusal : HttpResult := .failure "refused"

theorem webhook_of_text (env : DeviceEnv) {deviceId : String} (delivered : deviceId ≠ "") :
    deviceOf env (.webhook ⟨[("deviceId", .str deviceId)]⟩) = some deviceId := by
  have truthy : (Json.str deviceId).truthy = true := by
    simpa [Json.truthy] using delivered
  simp [deviceOf, extractDeviceId, Json.field?, truthy, Json.text, delivered]

theorem lookup_reached (env : DeviceEnv) {deviceId : String} (delivered : deviceId ≠ "")
    (w : DeviceWorld) :
    (lookupRequest env deviceId, refusal) ∈
      (callRun env (.webhook ⟨[("deviceId", .str deviceId)]⟩) (fun _ => refusal) w).trace := by
  have named : (extractDeviceId env ⟨[("deviceId", .str deviceId)]⟩).filter (· ≠ "") =
      some deviceId := webhook_of_text env delivered
  unfold callRun serveDevice handleDevice
  dsimp only
  unfold thingsboardWebhook
  rw [named]
  exact List.mem_cons_self

/-- For every fleet of devices with a name: hawkBit is asked about the named
device each time, no two devices share a lookup and none is taken for
provisioned without a target exactly if no id has anything in it that has a
meaning in a URL. -/
theorem devices_named_iff (env : DeviceEnv) (base : Url.Base)
    (configured : (getHawkbitClient env.settings).baseUrl = base.text) (fleet : Set String)
    (delivered : "" ∉ fleet) :
    NamesDevices env base fleet ↔ ∀ deviceId ∈ fleet, Plain deviceId := by
  have something : ∀ deviceId ∈ fleet, deviceId ≠ "" := by
    intro deviceId hmem heq
    exact delivered (heq ▸ hmem)
  constructor
  · intro names deviceId hmem
    have reached := lookup_reached env (something deviceId hmem) ⟨World.empty, ⟨none, none, none⟩⟩
    have addresses := names.requests deviceId hmem _ _ _
      (webhook_of_text env (something deviceId hmem)) _ reached
    unfold AddressesDevice lookupRequest at addresses
    rw [configured] at addresses
    exact plain_of_addresses addresses
  · intro plain
    constructor
    · intro deviceId hmem call answers w device exchange hexchange
      have keeps : ∀ before after : DeviceWorld, True → True → True := fun _ _ _ _ => trivial
      obtain ⟨_, asks, _⟩ := Proc.Quiet.solo answers
        (serveDevice_yields (fun _ _ => True) env deviceId device) keeps 0 w trivial
        fun _ _ => trivial
      exact addressesDevice_of_plain configured (plain deviceId hmem) (asks exchange hexchange)
    · intro deviceId hmem other hother hne same
      rw [(plain deviceId hmem).target base, (plain other hother).target base] at same
      have segments := congrArg Prod.fst same
      simp only [Url.Reading.sent] at segments
      have text : deviceId.toList = other.toList := by
        simpa using List.append_cancel_left segments
      exact hne (String.toList_inj.mp text)
    · intro deviceId hmem targets site has call answers w device answered taken
      exact known_of_plain configured (plain deviceId hmem) (something deviceId hmem) has device
        answered taken

/-- http://hawkbit:8070/hawkbit -/
def hawkbitBase : Url.Base where
  scheme := "http".toList
  authority := "hawkbit:8070".toList
  segments := ["hawkbit".toList]
  schemePlain := Url.http_plain
  authorityPlain := by decide
  literal := by decide

theorem plain_fleet_named : NamesDevices tenantEnv hawkbitBase {"dev-1", "dev 2"} := by
  apply (devices_named_iff tenantEnv hawkbitBase (by decide +kernel) {"dev-1", "dev 2"}
    (by simp)).mpr
  rintro deviceId (rfl | rfl)
  · constructor <;> decide
  · constructor <;> decide

/-- The lookup for `dev-1#2` is the one for `dev-1`. -/
theorem fragment_fleet_not_named : ¬ NamesDevices tenantEnv hawkbitBase {"dev-1", "dev-1#2"} := by
  intro names
  exact names.separate "dev-1" (by simp) "dev-1#2" (by simp) (by decide) (by decide +kernel)

end CompleteDeviceManagement.Guarantees.TargetUrls
