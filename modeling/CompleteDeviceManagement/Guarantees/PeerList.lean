import CompleteDeviceManagement.Library.Ini
import CompleteDeviceManagement.Guarantees.AddressAllocation
import CompleteDeviceManagement.Guarantees.DeviceCalls

/-!
# The peer list of the WireGuard server

cdm_peers.json maps every device to one address; wg0.conf gets a block for
every enrollment. Whatever hawkBit and step-ca answer, a successful enrollment
appends one peer (`peersOf_enrolled`), so the list is the history, and it agrees
with the map exactly when the history names every device once, the keys are
plain texts and the fixed `/32` behind an address is a host route.
-/

set_option autoImplicit false

namespace CompleteDeviceManagement.Guarantees.PeerList
open CompleteDeviceManagement.Library CompleteDeviceManagement.Source.Runtime
  CompleteDeviceManagement.Source.WireGuard
  CompleteDeviceManagement.Source.DeviceRuntime CompleteDeviceManagement.Source.HawkBit
  CompleteDeviceManagement.Source.WireGuardPeers CompleteDeviceManagement.Source.DeviceRouters
  CompleteDeviceManagement.Guarantees.AddressAllocation
  CompleteDeviceManagement.Guarantees.DeviceCalls
open CompleteDeviceManagement.Library.Fallible

/-! ## Reading wg0.conf -/

structure Peer where
  publicKey : Option String
  allowedIps : List String
  deriving DecidableEq

def peerOf (s : Ini.Section) : Peer where
  publicKey := (s.values "publickey").getLast?
  allowedIps := (s.values "allowedips").flatMap fun value =>
    (value.toList.splitOn ',').map String.ofList

def peersOf (conf : String) : List Peer :=
  ((Ini.parse conf).filter fun s => decide (s.title = "peer")).map peerOf

/-- The length of a host route. -/
def hostBits : IpAddress → Nat
  | .v4 _ => 32
  | .v6 _ _ => 128

/-- The entry of AllowedIPs is the address `a`, and no other address. -/
def names (entry : String) (a : IpAddress) : Bool :=
  match entry.toList.splitOn '/' with
  | [address] => decide (IpAddress.ofText (.ofList address) = some a)
  | [address, bits] =>
      decide (IpAddress.ofText (.ofList address) = some a) &&
        decide (IpText.digitsValue 10 bits = some (hostBits a))
  | _ => false

/-- The AllowedIPs of the peer are the address `a`. -/
def Peer.serves (peer : Peer) (a : IpAddress) : Bool :=
  match peer.allowedIps with
  | [entry] => names entry a
  | _ => false

/-! ## Histories of enrollments -/

structure Enrollment where
  deviceId : String
  body : EnrollmentRequest
  fates : Nat → Fate

def Enrollment.key (e : Enrollment) : String := e.body.wgPublicKey.getD ""

def enrollment (env : DeviceEnv) (s : Platform) (e : Enrollment) :
    Proc.Run Platform DeviceLeg Fate DeviceReply :=
  deviceRun env s (.enroll e.deviceId e.body) e.fates

def afterAll (env : DeviceEnv) (s : Platform) (history : List Enrollment) : Platform :=
  history.foldl (fun s e => (enrollment env s e).state) s

/-- Every enrollment of the history is answered with the device's files. -/
def AllEnrolled (env : DeviceEnv) : Platform → List Enrollment → Prop
  | _, [] => True
  | s, e :: rest =>
      (∃ resp, (enrollment env s e).value = some (.enrolled resp)) ∧
        AllEnrolled env (enrollment env s e).state rest

/-- The latest enrollment of `d`. -/
def latest (history : List Enrollment) (d : String) : Option Enrollment :=
  (history.filter fun e => decide (e.deviceId = d)).getLast?

def peersIn (s : Platform) : List Peer := peersOf (s.1.files.wg0.getD "")

/-- In the platform `s`, exactly one peer has the address of `d`, and its key is
`key`. -/
def ServedWith (s : Platform) (d key : String) : Prop :=
  ∃ ip a peer, (loadPeers s.1.files.peersDb).get? d = some ip ∧ IpAddress.ofText ip = some a ∧
    (peersIn s).filter (·.serves a) = [peer] ∧ peer.publicKey = some key

/-- The list follows the history: every enrolled device has one peer, with the
key of its latest enrollment, and a request that repeats the latest one of its
device changes nothing. -/
structure Follows (env : DeviceEnv) (start : Platform) (history : List Enrollment) : Prop where
  agrees : ∀ d e, latest history d = some e → ServedWith (afterAll env start history) d e.key
  repeated : ∀ before e rest, history = before ++ e :: rest →
    (latest before e.deviceId).map Enrollment.body = some e.body →
    peersIn (afterAll env start (before ++ [e])) = peersIn (afterAll env start before)

/-! ## What an enrollment does to the volume -/

section Files

variable {α β : Type}

abbrev AnyFate (_ : DeviceLeg) (_ : Fate) : Prop := True

/-- Whatever becomes of its exchanges, `x` leaves the API and its files alone. -/
def SameWorld (x : DeviceApp α) : Prop :=
  ∀ s, Leaves AnyFate (fun _ s' => s'.1 = s.1) x s

theorem sameWorld_pure (value : α) : SameWorld (pure value : DeviceApp α) :=
  fun _ => leaves_pure rfl

theorem sameWorld_fail (error : DeviceRaised) : SameWorld (fail error : DeviceApp α) :=
  fun _ => leaves_fail rfl

theorem sameWorld_settled (result : Except DeviceRaised α) : SameWorld (settled result) :=
  fun _ => leaves_settled rfl

theorem sameWorld_exchange (request : DeviceRequest) :
    SameWorld (Source.DeviceRuntime.exchange request) :=
  fun _ => leaves_exchange fun _ _ => rfl

theorem SameWorld.bind {x : DeviceApp α} {f : α → DeviceApp β} (hx : SameWorld x)
    (hf : ∀ value, SameWorld (f value)) : SameWorld (x >>= f) := by
  intro s
  apply (hx s).bind
  · intro value s' hs'
    exact leaves_mono (hf value s') fun _ _ h => h.trans hs'
  · intro error s' hs'
    exact hs'

theorem sameWorld_request (client : HawkBitClient) (call : HawkBitCall) :
    SameWorld (client.request call) := sameWorld_exchange _

theorem sameWorld_getTarget (client : HawkBitClient) (d : String) :
    SameWorld (client.getTarget d) := by
  apply (sameWorld_request client _).bind
  intro resp
  split
  · exact sameWorld_pure _
  · split
    · exact sameWorld_settled _
    · exact sameWorld_fail _

theorem sameWorld_putAttributes (client : HawkBitClient) (d : String)
    (attributes : List (String × Json)) : SameWorld (client.putAttributes d attributes) := by
  apply (sameWorld_request client _).bind
  intro resp
  split
  · exact sameWorld_pure _
  · exact sameWorld_fail _

theorem sameWorld_createTarget (client : HawkBitClient) (d : String) (name : Json)
    (attributes : List (String × Json)) : SameWorld (client.createTarget d name attributes) := by
  apply (sameWorld_request client _).bind
  intro resp
  split
  · apply (sameWorld_settled _).bind
    intro created
    apply (sameWorld_settled _).bind
    intro target
    split
    · exact sameWorld_pure _
    · exact (sameWorld_putAttributes client d attributes).bind fun _ => sameWorld_pure _
  · exact sameWorld_fail _

theorem sameWorld_ensureTarget (env : DeviceEnv) (d : String) (body : EnrollmentRequest) :
    SameWorld (ensureTarget env d body) := by
  have steps : SameWorld (do
      let existing ← (getHawkbitClient env.settings).getTarget d
      if existing.truthy then pure ()
      else do
        let _ ← (getHawkbitClient env.settings).createTarget d (.str body.deviceName)
          [("device_type", .str body.deviceType)]
        pure ()) := by
    apply (sameWorld_getTarget _ d).bind
    intro existing
    split
    · exact sameWorld_pure _
    · exact (sameWorld_createTarget _ d _ _).bind fun _ => sameWorld_pure _
  exact fun s => leaves_answering (steps s) (fun _ _ h => h) fun _ _ h _ => h

/-- What a successful enrollment has done to the volume. -/
def Enrolls (env : DeviceEnv) (d key : String) (files files' : WgFiles) : Prop :=
  ∃ ip, (allocateIp env.wg files.peersDb d).1 = .ok ip ∧
    files' = registered d ip key (allocated env d files)

theorem enrollDevice_files (env : DeviceEnv) (d : String) (body : EnrollmentRequest)
    (s : Platform) :
    Leaves AnyFate
      (fun result s' => result.isOk = true →
        Enrolls env d (body.wgPublicKey.getD "") s.1.files s'.1.files)
      (enrollDevice env d body) s := by
  have stopped : ∀ {error : DeviceRaised} {s' : Platform},
      ((.error error : Except DeviceRaised EnrollmentResponse).isOk = true →
        Enrolls env d (body.wgPublicKey.getD "") s.1.files s'.1.files) := by
    intro error s' hok
    cases hok
  unfold enrollDevice
  apply (validateCsr_leaves env body.csr s).bind
  · rintro _ _ rfl
    apply (signDevice_leaves env d body.csr _ _).bind
    · intro certs s₁ hsigned
      apply (sameWorld_ensureTarget env d body s₁).bind
      · rintro _ ⟨w, hb⟩ hw
        obtain rfl : w = s₁.1 := hw
        apply (allocate_leaves env d s₁.1 hb).bind
        · rintro wgIp ⟨w, hb'⟩ ⟨_, ⟨ip, hip, hresult, hallocated⟩ | ⟨error, _, herror, _⟩⟩
          · cases hip
            apply (generateClientConfig_leaves env d wgIp _ w hb').bind
            · rintro wgCfg s' ⟨_, hregistered, _⟩
              dsimp only at hallocated
              rw [hallocated, hsigned.1] at hregistered
              rw [hsigned.1] at hresult
              unfold enrollmentResponse
              split
              · exact leaves_pure fun _ => ⟨wgIp, hresult, hregistered⟩
              · exact leaves_fail stopped
            · intro error s' _
              exact stopped
          · cases herror
        · intro error s' _
          exact stopped
      · intro error s' _
        exact stopped
    · intro error s' _
      exact stopped
  · intro error s' _
    exact stopped

theorem enrollment_files {env : DeviceEnv} {s : Platform} {e : Enrollment}
    {resp : EnrollmentResponse} (h : (enrollment env s e).value = some (.enrolled resp)) :
    Enrolls env e.deviceId e.key s.1.files (enrollment env s e).state.1.files := by
  have served : Proc.leaves AnyFate
      (fun reply s' => reportsSuccess reply = true →
        Enrolls env e.deviceId e.key s.1.files s'.1.files)
      ((serveDevice env (.enroll e.deviceId e.body)).against hawkBitServer) s := by
    refine leaves_reply (enrollDevice_files env e.deviceId e.body s) ?_
    intro result s' done success
    exact done (isOk_of_reportsSuccess success)
  obtain ⟨reply, answered, done⟩ := Proc.leaves_solo e.fates served fun _ _ => trivial
  obtain rfl : reply = .enrolled resp := Option.some.inj (answered.symm.trans h)
  exact done rfl

end Files

/-! ## The peer that a block adds -/

def addedPeer (ip key : String) : Peer :=
  ⟨some (.ofList (Ini.cleaned key.toList)), [ip ++ "/32"]⟩

/-- Nothing but what addresses are written with. -/
structure AddressText (ip : String) : Prop where
  only : ∀ c ∈ ip.toList, IpText.digitValue 16 c ≠ none ∨ c = ':' ∨ c = '.'

theorem addressText_of_pool {wg : WireGuardConfig} {a : IpAddress} (h : a ∈ pool wg) :
    AddressText a.text := by
  constructor
  intro c hc
  by_contra hother
  simp only [not_or, not_not] at hother
  have scopeless := IpNetwork.scopeless_of_mem_hosts ((mem_pool wg a).mp h).1
  exact IpAddress.not_mem_text scopeless hother.1 hother.2.1 hother.2.2 hc

theorem AddressText.not_mem {ip : String} (h : AddressText ip) {c : Char}
    (hdigit : IpText.digitValue 16 c = none) (hcolon : c ≠ ':') (hdot : c ≠ '.') :
    c ∉ ip.toList := by
  intro hc
  rcases h.only c hc with hne | rfl | rfl
  · exact hne hdigit
  · exact hcolon rfl
  · exact hdot rfl

theorem plain_route {ip : String} (h : AddressText ip) : Ini.Plain (ip ++ "/32").toList := by
  have suffix : Ini.Plain "/32".toList := by decide
  intro c hc
  rw [String.toList_append, List.mem_append] at hc
  rcases hc with hc | hc
  · have visible : c.isWhitespace = false := by
      by_contra hspace
      have blank : c = ' ' ∨ c = '\t' ∨ c = '\r' ∨ c = '\n' := by
        simp only [Char.isWhitespace, Bool.not_eq_false] at hspace
        simpa [or_assoc] using hspace
      rcases blank with rfl | rfl | rfl | rfl
      · exact h.not_mem (by decide) (by decide) (by decide) hc
      · exact h.not_mem (by decide) (by decide) (by decide) hc
      · exact h.not_mem (by decide) (by decide) (by decide) hc
      · exact h.not_mem (by decide) (by decide) (by decide) hc
    have uncommented : c ≠ '#' := by
      rintro rfl
      exact h.not_mem (by decide) (by decide) (by decide) hc
    exact ⟨uncommented, visible⟩
  · exact suffix c hc

theorem readLine_publicKey (key : String) :
    Ini.readLine ("PublicKey = " ++ key).toList =
      .member "publickey" (.ofList (Ini.cleaned key.toList)) := by
  have name : Ini.cleaned "PublicKey = ".toList = "PublicKey=".toList := by decide
  have member : Ini.readCleaned ("PublicKey=".toList ++ Ini.cleaned key.toList) =
      .member "publickey" (.ofList (Ini.cleaned key.toList)) :=
    Ini.readCleaned_member (Ini.cleaned key.toList) (c := 'P') (n := "ublicKey".toList)
      (by decide) (by decide)
  unfold Ini.readLine
  rw [String.toList_append, Ini.cleaned_append (by decide), name, member]

theorem readLine_allowedIps {ip : String} (h : AddressText ip) :
    Ini.readLine ("AllowedIPs = " ++ (ip ++ "/32")).toList =
      .member "allowedips" (ip ++ "/32") := by
  have name : Ini.cleaned "AllowedIPs = ".toList = "AllowedIPs=".toList := by decide
  have member : Ini.readCleaned ("AllowedIPs=".toList ++ (ip ++ "/32").toList) =
      .member "allowedips" (.ofList (ip ++ "/32").toList) :=
    Ini.readCleaned_member (ip ++ "/32").toList (c := 'A') (n := "llowedIPs".toList)
      (by decide) (by decide)
  unfold Ini.readLine
  rw [String.toList_append, Ini.cleaned_append (by decide),
    (Ini.cleaned_eq_self_iff _).mpr (plain_route h), name, member, String.ofList_toList]

/-- The block without the line break it starts with. -/
def blockLines (d ip key : String) : String :=
  "[Peer]" ++ "\n" ++ ("# device: " ++ d ++ "\n" ++
    ("PublicKey = " ++ key ++ "\n" ++ ("AllowedIPs = " ++ (ip ++ "/32") ++ "\n" ++ "")))

theorem append_peerBlock (conf d ip key : String) :
    conf ++ peerBlock d ip key = conf ++ "\n" ++ blockLines d ip key := by
  have head : "\n[Peer]\n# device: " = "\n" ++ "[Peer]" ++ "\n" ++ "# device: " := by decide
  have publicKey : "\nPublicKey = " = "\n" ++ "PublicKey = " := by decide
  have allowedIps : "\nAllowedIPs = " = "\n" ++ "AllowedIPs = " := by decide
  have tail : "/32\n" = "/32" ++ "\n" ++ "" := by decide
  unfold peerBlock blockLines
  rw [head, publicKey, allowedIps, tail]
  simp only [String.append_assoc]

theorem linesOf_block {d ip key : String} (oneLine : '\n' ∉ d.toList) (wholeKey : '\n' ∉ key.toList)
    (h : AddressText ip) :
    Ini.linesOf (blockLines d ip key) =
      [.header "peer", .blank, .member "publickey" (.ofList (Ini.cleaned key.toList)),
        .member "allowedips" (ip ++ "/32"), .blank] := by
  have header : Ini.linesOf "[Peer]" = [.header "peer"] := by decide +kernel
  have comment : Ini.linesOf ("# device: " ++ d) = [.blank] := by
    have hash : ("# device: " ++ d).toList = '#' :: (" device: " ++ d).toList := by simp
    rw [Ini.linesOf_line (by simpa using oneLine), hash]
    unfold Ini.readLine
    rw [Ini.cleaned_comment]
    rfl
  have publicKey : Ini.linesOf ("PublicKey = " ++ key) =
      [.member "publickey" (.ofList (Ini.cleaned key.toList))] := by
    rw [Ini.linesOf_line (by simpa using wholeKey), readLine_publicKey]
  have allowedIps : Ini.linesOf ("AllowedIPs = " ++ (ip ++ "/32")) =
      [.member "allowedips" (ip ++ "/32")] := by
    have whole : '\n' ∉ ("AllowedIPs = " ++ (ip ++ "/32")).toList := by
      simpa using h.not_mem (c := '\n') (by decide) (by decide) (by decide)
    rw [Ini.linesOf_line whole, readLine_allowedIps h]
  have last : Ini.linesOf "" = [.blank] := by decide +kernel
  unfold blockLines
  apply Ini.linesOf_cons header
  apply Ini.linesOf_cons comment
  apply Ini.linesOf_cons publicKey
  exact Ini.linesOf_cons allowedIps last

theorem splitOn_route {ip : String} (h : AddressText ip) :
    (ip ++ "/32").toList.splitOn ',' = [(ip ++ "/32").toList] := by
  apply List.splitOn_eq_singleton
  simpa using h.not_mem (c := ',') (by decide) (by decide) (by decide)

/-- The file with a block appended lists the peers it listed, and the new one. -/
theorem peersOf_append_block {conf d ip key : String} (oneLine : '\n' ∉ d.toList)
    (wholeKey : '\n' ∉ key.toList) (h : AddressText ip) :
    peersOf (conf ++ peerBlock d ip key) = peersOf conf ++ [addedPeer ip key] := by
  have lines := linesOf_block oneLine wholeKey h
  have parsed : Ini.parse (blockLines d ip key) =
      [⟨"peer", [("publickey", .ofList (Ini.cleaned key.toList)),
        ("allowedips", ip ++ "/32")]⟩] := by
    unfold Ini.parse
    rw [lines]
    rfl
  have publicKeys : (⟨"peer", [("publickey", .ofList (Ini.cleaned key.toList)),
      ("allowedips", ip ++ "/32")]⟩ : Ini.Section).values "publickey" =
      [.ofList (Ini.cleaned key.toList)] := by
    simp [Ini.Section.values]
  have routes : (⟨"peer", [("publickey", .ofList (Ini.cleaned key.toList)),
      ("allowedips", ip ++ "/32")]⟩ : Ini.Section).values "allowedips" = [ip ++ "/32"] := by
    simp [Ini.Section.values]
  have peer : peerOf ⟨"peer", [("publickey", .ofList (Ini.cleaned key.toList)),
      ("allowedips", ip ++ "/32")]⟩ = addedPeer ip key := by
    unfold peerOf
    rw [publicKeys, routes, List.flatMap_singleton, splitOn_route h, List.map_singleton,
      String.ofList_toList]
    rfl
  unfold peersOf
  rw [append_peerBlock, Ini.parse_append conf lines, parsed, List.filter_append, List.map_append]
  simp [peer]

/-- The fixed prefix length makes a host route of an IPv4 address only. -/
theorem serves_addedPeer {wg : WireGuardConfig} {a' : IpAddress} (h : a' ∈ pool wg) (key : String)
    (a : IpAddress) :
    (addedPeer a'.text key).serves a = (decide (a' = a) && decide (hostBits a = 32)) := by
  have slash : '/' ∉ a'.text.toList :=
    (addressText_of_pool h).not_mem (by decide) (by decide) (by decide)
  have split : (a'.text ++ "/32").toList.splitOn '/' = [a'.text.toList, ['3', '2']] := by
    have chars : (a'.text ++ "/32").toList = a'.text.toList ++ '/' :: ['3', '2'] := by
      rw [String.toList_append]
      rfl
    rw [chars, List.splitOn_append_cons_self_of_not_mem slash]
    rfl
  have address : IpAddress.ofText (.ofList a'.text.toList) = some a' := by
    rw [String.ofList_toList]
    exact ofText_text_of_pool h
  have bits : IpText.digitsValue 10 ['3', '2'] = some 32 := by decide
  show names (a'.text ++ "/32") a = _
  unfold names
  rw [split]
  simp only [address, bits, Option.some.injEq, eq_comm]

/-! ## Whole histories -/

def addressOf (s : Platform) (d : String) : Option String := (loadPeers s.1.files.peersDb).get? d

/-- What the enrollments of a history have made of `s`. -/
structure Extends (env : DeviceEnv) (history : List Enrollment) (s s' : Platform) : Prop where
  reached : ∃ calls, s'.1.files.peersDb = run env.wg none calls
  present : ∃ conf, s'.1.files.wg0 = some conf
  kept : ∀ d ip, addressOf s d = some ip → addressOf s' d = some ip
  assigned : ∀ e ∈ history, ∃ a ∈ pool env.wg, addressOf s' e.deviceId = some a.text
  peers : peersIn s' = peersIn s ++
    history.map fun e => addedPeer ((addressOf s' e.deviceId).getD "") e.key

/-- A key, and neither text with a line break. -/
structure Enrollment.Keyed (e : Enrollment) : Prop where
  key : e.key ≠ ""
  keyLine : '\n' ∉ e.key.toList
  deviceLine : '\n' ∉ e.deviceId.toList

theorem recorded_text {wg : WireGuardConfig} {calls : List String} {d ip : String}
    (h : (loadPeers (run wg none calls)).get? d = some ip) : ∃ a ∈ pool wg, ip = a.text := by
  have start : loadPeers none = Dict.empty := rfl
  have item := (Dict.get?_eq_some_iff _ _ _).mp h
  have all : FromEmpty wg none calls := fromEmpty start calls
  rw [all.recorded] at item
  obtain ⟨a, ha, htext⟩ := List.mem_map.mp (List.of_mem_zip item).2
  exact ⟨a, ha, htext.symm⟩

theorem addressOf_distinct {env : DeviceEnv} {s : Platform}
    (reached : ∃ calls, s.1.files.peersDb = run env.wg none calls) {d d' : String} {a : IpAddress}
    (ha : a ∈ pool env.wg) (hd : addressOf s d = some a.text) (hd' : addressOf s d' = some a.text) :
    d = d' := by
  obtain ⟨calls, hdb⟩ := reached
  unfold addressOf at hd hd'
  rw [hdb] at hd hd'
  have none_recorded : ∀ d ip, (loadPeers none).get? d ≠ some ip := by
    intro d ip h
    cases h
  have start : Sound env.wg (loadPeers none) := by
    constructor
    · intro d ip h
      exact absurd h (none_recorded d ip)
    · rintro d d' a ⟨ip, h, _⟩
      exact absurd h (none_recorded d ip)
  obtain ⟨bound, decodes, fits⟩ := decodes_of_sound start
  have reached := run_refines env.wg decodes calls
  have sound := sound_of_decodes reached (FirstFit.allocateAll_sound fits calls)
  have read := ofText_text_of_pool ha
  exact sound.distinct d d' a ⟨a.text, hd, read⟩ ⟨a.text, hd', read⟩

theorem enrollment_extends {env : DeviceEnv} {s : Platform} {e : Enrollment}
    (reached : ∃ calls, s.1.files.peersDb = run env.wg none calls)
    (present : ∃ conf, s.1.files.wg0 = some conf) (keyed : e.Keyed)
    (enrolled : ∃ resp, (enrollment env s e).value = some (.enrolled resp)) :
    Extends env [e] s (enrollment env s e).state := by
  obtain ⟨resp, hresp⟩ := enrolled
  obtain ⟨calls, hdb⟩ := reached
  obtain ⟨conf, hconf⟩ := present
  obtain ⟨ip, hip, hfiles⟩ := enrollment_files hresp
  generalize (enrollment env s e).state = s' at hfiles ⊢
  have hpeersDb : s'.1.files.peersDb = (allocateIp env.wg s.1.files.peersDb e.deviceId).2 := by
    rw [hfiles]
    unfold registered
    rw [if_neg keyed.key]
    rfl
  have hwg0 : s'.1.files.wg0 = some (conf ++ peerBlock e.deviceId ip e.key) := by
    rw [hfiles]
    unfold registered writeServerPeer allocated
    rw [if_neg keyed.key]
    simp [hconf]
  have reached' : s'.1.files.peersDb = run env.wg none (calls ++ [e.deviceId]) := by
    rw [hpeersDb, hdb]
    simp [run, List.foldl_append]
  have address : addressOf s' e.deviceId = some ip := by
    unfold addressOf
    rw [hpeersDb]
    exact allocateIp_recorded hip
  obtain ⟨a, ha, rfl⟩ : ∃ a ∈ pool env.wg, ip = a.text := by
    unfold addressOf at address
    rw [reached'] at address
    exact recorded_text address
  constructor
  · exact ⟨_, reached'⟩
  · exact ⟨_, hwg0⟩
  · intro d ip hd
    unfold addressOf at hd ⊢
    rw [hpeersDb]
    exact allocateIp_stays hd
  · intro e' he'
    obtain rfl := List.mem_singleton.mp he'
    exact ⟨a, ha, address⟩
  · have appended : peersOf (conf ++ peerBlock e.deviceId a.text e.key) =
        peersOf conf ++ [addedPeer a.text e.key] :=
      peersOf_append_block keyed.deviceLine keyed.keyLine (addressText_of_pool ha)
    simp only [peersIn, hwg0, hconf, Option.getD_some, List.map_cons, List.map_nil, address]
    exact appended

theorem Extends.cons {env : DeviceEnv} {e : Enrollment} {rest : List Enrollment}
    {s s₁ s₂ : Platform} (first : Extends env [e] s s₁) (later : Extends env rest s₁ s₂) :
    Extends env (e :: rest) s s₂ := by
  obtain ⟨a, ha, haddress⟩ := first.assigned e (List.mem_singleton_self e)
  have still := later.kept e.deviceId a.text haddress
  constructor
  · exact later.reached
  · exact later.present
  · intro d ip hd
    exact later.kept d ip (first.kept d ip hd)
  · intro e' he'
    rcases List.mem_cons.mp he' with rfl | he'
    · exact ⟨a, ha, still⟩
    · exact later.assigned e' he'
  · rw [later.peers, first.peers, List.append_assoc]
    simp [haddress, still]

theorem afterAll_extends {env : DeviceEnv} {history : List Enrollment} {s : Platform}
    (reached : ∃ calls, s.1.files.peersDb = run env.wg none calls)
    (present : ∃ conf, s.1.files.wg0 = some conf) (keyed : ∀ e ∈ history, e.Keyed)
    (enrolled : AllEnrolled env s history) :
    Extends env history s (afterAll env s history) := by
  induction history generalizing s with
  | nil =>
    refine ⟨reached, present, fun _ _ h => h, ?_, ?_⟩
    · intro e he
      cases he
    · simp [afterAll]
  | cons e rest ih =>
    have first := enrollment_extends reached present (keyed e (by simp)) enrolled.1
    have later := ih first.reached first.present
      (fun e' he' => keyed e' (List.mem_cons_of_mem e he')) enrolled.2
    exact first.cons later

/-! ## When the list follows the history -/

/-- No peer of `s` has an address that devices can get. -/
def Unserved (env : DeviceEnv) (s : Platform) : Prop :=
  ∀ a ∈ pool env.wg, ∀ peer ∈ peersIn s, peer.serves a = false

/-- The peers for the address of `d` are the enrollments of `d`, if `/32` is a
host route. -/
theorem peers_of_device {env : DeviceEnv} {history : List Enrollment} {s s' : Platform}
    (ext : Extends env history s s') (unserved : Unserved env s) {d : String} {a : IpAddress}
    (ha : a ∈ pool env.wg) (hd : addressOf s' d = some a.text) :
    (peersIn s').filter (·.serves a) =
      (history.filter fun e => decide (e.deviceId = d) && decide (hostBits a = 32)).map
        fun e => addedPeer a.text e.key := by
  have before : (peersIn s).filter (·.serves a) = [] := by
    apply List.filter_eq_nil_iff.mpr
    intro peer hpeer hserves
    rw [unserved a ha peer hpeer] at hserves
    cases hserves
  have same : ∀ e ∈ history,
      (addedPeer ((addressOf s' e.deviceId).getD "") e.key).serves a =
        (decide (e.deviceId = d) && decide (hostBits a = 32)) := by
    intro e he
    obtain ⟨a', ha', haddress⟩ := ext.assigned e he
    have device : a' = a ↔ e.deviceId = d := by
      constructor
      · rintro rfl
        exact addressOf_distinct ext.reached ha haddress hd
      · rintro rfl
        have texts : a'.text = a.text := Option.some.inj (haddress.symm.trans hd)
        have read := ofText_text_of_pool ha'
        rw [texts, ofText_text_of_pool ha] at read
        exact (Option.some.inj read).symm
    rw [haddress, Option.getD_some, serves_addedPeer ha']
    simp only [device]
  rw [ext.peers, List.filter_append, before, List.nil_append, List.filter_map]
  rw [List.filter_congr (q := fun e => decide (e.deviceId = d) && decide (hostBits a = 32)) same]
  apply List.map_congr_left
  intro e he
  obtain ⟨_, hmatch⟩ := List.mem_filter.mp he
  have device : e.deviceId = d := by
    rw [Bool.and_eq_true] at hmatch
    exact of_decide_eq_true hmatch.1
  rw [device, hd, Option.getD_some]

theorem latest_of_mem {history : List Enrollment} {e : Enrollment} (he : e ∈ history) :
    ∃ last, latest history e.deviceId = some last := by
  unfold latest
  have filtered : e ∈ history.filter fun x => decide (x.deviceId = e.deviceId) :=
    List.mem_filter.mpr ⟨he, by simp⟩
  cases hlast : (history.filter fun x => decide (x.deviceId = e.deviceId)).getLast? with
  | some last => exact ⟨last, rfl⟩
  | none =>
    rw [List.getLast?_eq_none_iff.mp hlast] at filtered
    cases filtered

theorem filter_of_nodup {history : List Enrollment}
    (once : (history.map Enrollment.deviceId).Nodup) {e : Enrollment} (he : e ∈ history) :
    (history.filter fun x => decide (x.deviceId = e.deviceId)) = [e] := by
  induction history with
  | nil => cases he
  | cons first rest ih =>
    rw [List.map_cons, List.nodup_cons] at once
    rcases List.mem_cons.mp he with rfl | he
    · have others : (rest.filter fun x => decide (x.deviceId = e.deviceId)) = [] := by
        apply List.filter_eq_nil_iff.mpr
        intro x hx hsame
        exact once.1 (List.mem_map.mpr ⟨x, hx, by simpa using hsame⟩)
      rw [List.filter_cons_of_pos (by simp), others]
    · have different : first.deviceId ≠ e.deviceId := by
        intro hsame
        exact once.1 (List.mem_map.mpr ⟨e, he, hsame.symm⟩)
      rw [List.filter_cons_of_neg (by simpa using different), ih once.2 he]

/-- A device is named once if the enrollments of each are one. -/
theorem nodup_of_filter {history : List Enrollment}
    (once : ∀ e ∈ history, ∃ one,
      (history.filter fun x => decide (x.deviceId = e.deviceId)) = [one]) :
    (history.map Enrollment.deviceId).Nodup := by
  rw [List.nodup_iff_count_le_one]
  intro d
  by_cases hd : d ∈ history.map Enrollment.deviceId
  · obtain ⟨e, he, rfl⟩ := List.mem_map.mp hd
    obtain ⟨one, hone⟩ := once e he
    rw [List.count_eq_countP, List.countP_map, List.countP_eq_length_filter]
    have sameFilter : (history.filter ((fun x => x == e.deviceId) ∘ Enrollment.deviceId)) =
        history.filter fun x => decide (x.deviceId = e.deviceId) := by
      apply List.filter_congr
      intro x _
      exact beq_eq_decide _ _
    rw [sameFilter, hone]
    exact Nat.le_refl 1
  · rw [List.count_eq_zero_of_not_mem hd]
    exact Nat.zero_le 1

theorem hostBits_of_pool {wg : WireGuardConfig} {a : IpAddress} (ha : a ∈ pool wg) :
    hostBits a = 32 ↔ ∃ range, wg.subnet = .v4 range := by
  have host := ((mem_pool wg a).mp ha).1
  cases hsubnet : wg.subnet with
  | v4 range =>
    rw [hsubnet] at host
    obtain ⟨x, _, rfl⟩ := List.mem_map.mp host
    simp [hostBits]
  | v6 range =>
    rw [hsubnet] at host
    obtain ⟨x, _, rfl⟩ := List.mem_map.mp host
    simp [hostBits]

theorem plain_of_key {ip key key' : String} (h : (addedPeer ip key).publicKey = some key')
    (same : key' = key) : Ini.Plain key.toList := by
  subst same
  have read : String.ofList (Ini.cleaned key'.toList) = key' := Option.some.inj h
  apply (Ini.cleaned_eq_self_iff key'.toList).mp
  have chars := congrArg String.toList read
  rwa [String.toList_ofList] at chars

theorem key_of_plain {key : String} (ip : String) (plain : Ini.Plain key.toList) :
    (addedPeer ip key).publicKey = some key := by
  unfold addedPeer
  rw [(Ini.cleaned_eq_self_iff key.toList).mpr plain, String.ofList_toList]

/-- An enrolled device with one peer has one enrollment, a host route, and a key
that the file gives back. -/
theorem once_of_served {env : DeviceEnv} {history : List Enrollment} {s s' : Platform}
    (ext : Extends env history s s') (unserved : Unserved env s) {e last : Enrollment}
    (he : e ∈ history) (hlast : latest history e.deviceId = some last)
    (served : ServedWith s' e.deviceId last.key) :
    (history.filter fun x => decide (x.deviceId = e.deviceId)) = [last] ∧
      Ini.Plain last.key.toList ∧ ∃ range, env.wg.subnet = .v4 range := by
  obtain ⟨a, ha, haddress⟩ := ext.assigned e he
  obtain ⟨ip, a', peer, hip, hread, hone, hkey⟩ := served
  obtain rfl : ip = a.text := Option.some.inj (hip.symm.trans haddress)
  obtain rfl : a' = a := Option.some.inj (hread.symm.trans (ofText_text_of_pool ha))
  rw [peers_of_device ext unserved ha haddress] at hone
  by_cases hbits : hostBits a' = 32
  · simp only [hbits, decide_true, Bool.and_true] at hone
    obtain ⟨x, hx, hpeer⟩ := List.map_eq_singleton_iff.mp hone
    have hsame : x = last := by
      have hx' : latest history e.deviceId = some x := by
        unfold latest
        rw [hx]
        rfl
      exact Option.some.inj (hx'.symm.trans hlast)
    subst hsame
    rw [← hpeer] at hkey
    exact ⟨hx, plain_of_key hkey rfl, (hostBits_of_pool ha).mp hbits⟩
  · simp only [hbits, decide_false, Bool.and_false] at hone
    simp at hone

/-- For every history of successful enrollments with keys, from any reachable
database and a wg0.conf without peers for the pool: the peer list follows the
history if and only if no device is enrolled twice, every key is a plain text,
and the network is one of IPv4. -/
theorem peers_follow_iff (env : DeviceEnv) (start : Platform) (earlier : List String)
    (conf : String) (history : List Enrollment)
    (reached : start.1.files.peersDb = run env.wg none earlier)
    (present : start.1.files.wg0 = some conf) (unserved : Unserved env start)
    (keyed : ∀ e ∈ history, e.Keyed) (enrolled : AllEnrolled env start history) :
    Follows env start history ↔
      (history.map Enrollment.deviceId).Nodup ∧ (∀ e ∈ history, Ini.Plain e.key.toList) ∧
        (history = [] ∨ ∃ range, env.wg.subnet = .v4 range) := by
  have ext := afterAll_extends ⟨earlier, reached⟩ ⟨conf, present⟩ keyed enrolled
  constructor
  · intro follows
    have once : ∀ e ∈ history, ∃ last,
        (history.filter fun x => decide (x.deviceId = e.deviceId)) = [last] ∧
          Ini.Plain last.key.toList ∧ ∃ range, env.wg.subnet = .v4 range := by
      intro e he
      obtain ⟨last, hlast⟩ := latest_of_mem he
      exact ⟨last, once_of_served ext unserved he hlast (follows.agrees e.deviceId last hlast)⟩
    refine ⟨?_, ?_, ?_⟩
    · apply nodup_of_filter
      intro e he
      obtain ⟨last, hfilter, _⟩ := once e he
      exact ⟨last, hfilter⟩
    · intro e he
      obtain ⟨last, hfilter, plain, _⟩ := once e he
      have hmem : e ∈ [last] := hfilter ▸ List.mem_filter.mpr ⟨he, by simp⟩
      rwa [List.mem_singleton.mp hmem]
    · cases history with
      | nil => exact .inl rfl
      | cons e rest =>
        obtain ⟨_, _, _, hsubnet⟩ := once e (by simp)
        exact .inr hsubnet
  · rintro ⟨nodup, plain, subnet⟩
    constructor
    · intro d e hlatest
      have hmem := List.mem_of_getLast? hlatest
      obtain ⟨he, hdevice⟩ := List.mem_filter.mp hmem
      obtain rfl : e.deviceId = d := of_decide_eq_true hdevice
      obtain ⟨a, ha, haddress⟩ := ext.assigned e he
      have hbits : hostBits a = 32 := by
        rcases subnet with rfl | hsubnet
        · cases he
        · exact (hostBits_of_pool ha).mpr hsubnet
      refine ⟨a.text, a, addedPeer a.text e.key, haddress, ofText_text_of_pool ha, ?_,
        key_of_plain a.text (plain e he)⟩
      rw [peers_of_device ext unserved ha haddress]
      simp only [hbits, decide_true, Bool.and_true, filter_of_nodup nodup he, List.map_cons,
        List.map_nil]
    · intro before e rest hsplit hrepeat
      -- a device that is named once repeats nothing
      exfalso
      obtain ⟨first, hfirst, _⟩ := Option.map_eq_some_iff.mp hrepeat
      obtain ⟨hbefore, hdevice⟩ := List.mem_filter.mp (List.mem_of_getLast? hfirst)
      rw [hsplit, List.map_append, List.map_cons, List.nodup_append] at nodup
      have same : first.deviceId = e.deviceId := of_decide_eq_true hdevice
      exact nodup.2.2 _ (List.mem_map_of_mem hbefore) _ (List.mem_cons_self ..) same

/-! ## A device with a new key -/

def wgPlatform : Platform :=
  (⟨World.empty, ⟨none, some "[Interface]\nAddress = 10.13.13.1/24\nListenPort = 51820\n", none⟩⟩,
    HawkBit.empty)

def enrollWith (deviceId key : String) : Enrollment :=
  ⟨deviceId, { csr := "csr", deviceName := deviceId, wgPublicKey := some key }, signing⟩

theorem wgPlatform_unserved : Unserved tenantEnv wgPlatform := by
  have noPeers : peersIn wgPlatform = [] := by decide +kernel
  intro a _ peer hpeer
  rw [noPeers] at hpeer
  cases hpeer

/-- The key of the second enrollment does not replace that of the first, and a
repeated request adds a peer. -/
theorem rekeyed_device_has_two_peers :
    Unserved tenantEnv wgPlatform ∧
      AllEnrolled tenantEnv wgPlatform [enrollWith "dev-1" "key1=", enrollWith "dev-1" "key2="] ∧
      ¬ Follows tenantEnv wgPlatform [enrollWith "dev-1" "key1=", enrollWith "dev-1" "key2="] ∧
      peersIn (afterAll tenantEnv wgPlatform
          [enrollWith "dev-1" "key1=", enrollWith "dev-1" "key1="]) =
        [⟨some "key1=", ["10.13.13.2/32"]⟩, ⟨some "key1=", ["10.13.13.2/32"]⟩] := by
  refine ⟨wgPlatform_unserved, ⟨enrolled_of_isSome (by decide +kernel),
    enrolled_of_isSome (by decide +kernel), trivial⟩, ?_, by decide +kernel⟩
  intro follows
  have peers : peersIn (afterAll tenantEnv wgPlatform
      [enrollWith "dev-1" "key1=", enrollWith "dev-1" "key2="]) =
      [⟨some "key1=", ["10.13.13.2/32"]⟩, ⟨some "key2=", ["10.13.13.2/32"]⟩] := by
    decide +kernel
  have address : addressOf (afterAll tenantEnv wgPlatform
      [enrollWith "dev-1" "key1=", enrollWith "dev-1" "key2="]) "dev-1" = some "10.13.13.2" := by
    decide +kernel
  have read : IpAddress.ofText "10.13.13.2" = some (.v4 0x0A0D0D02#32) := by decide +kernel
  obtain ⟨ip, a, peer, hip, ha, hone, _⟩ :=
    follows.agrees "dev-1" (enrollWith "dev-1" "key2=") (by simp [latest, enrollWith])
  obtain rfl : ip = "10.13.13.2" := Option.some.inj (hip.symm.trans address)
  obtain rfl : a = .v4 0x0A0D0D02#32 := Option.some.inj (ha.symm.trans read)
  rw [peers] at hone
  have two : ((([⟨some "key1=", ["10.13.13.2/32"]⟩, ⟨some "key2=", ["10.13.13.2/32"]⟩] :
      List Peer).filter (·.serves (.v4 0x0A0D0D02#32))).length = 2) := by
    decide +kernel
  rw [hone] at two
  cases two

theorem peers_follow_two_devices :
    Follows tenantEnv wgPlatform [enrollWith "dev-1" "key1=", enrollWith "dev-2" "key2="] := by
  have keyed : ∀ e ∈ [enrollWith "dev-1" "key1=", enrollWith "dev-2" "key2="], e.Keyed := by
    intro e he
    simp only [List.mem_cons, List.not_mem_nil, or_false] at he
    rcases he with rfl | rfl
    · exact ⟨by decide, by decide, by decide⟩
    · exact ⟨by decide, by decide, by decide⟩
  have enrolled : AllEnrolled tenantEnv wgPlatform
      [enrollWith "dev-1" "key1=", enrollWith "dev-2" "key2="] :=
    ⟨enrolled_of_isSome (by decide +kernel), enrolled_of_isSome (by decide +kernel), trivial⟩
  have plain : ∀ e ∈ [enrollWith "dev-1" "key1=", enrollWith "dev-2" "key2="],
      Ini.Plain e.key.toList := by
    intro e he
    simp only [List.mem_cons, List.not_mem_nil, or_false] at he
    rcases he with rfl | rfl
    · decide
    · decide
  exact (peers_follow_iff tenantEnv wgPlatform [] _ _ rfl rfl wgPlatform_unserved keyed
    enrolled).mpr ⟨by decide, plain, .inr ⟨_, rfl⟩⟩

end CompleteDeviceManagement.Guarantees.PeerList
