import CompleteDeviceManagement.Library.Relay
import CompleteDeviceManagement.Source.TerminalProxy

/-!
# Terminal sessions: forwarding and teardown

The path from the browser to the device is a buffering relay
(`traffic_relay`), which gives the forwarding law for every interleaving of
messages and the device handshake. The teardown law holds exactly on the runs
in which the client does not end while the device socket is still CONNECTING:
the client's handlers only close a device socket that is OPEN, and nothing
looks at the client again when the device opens.
-/

set_option autoImplicit false

namespace CompleteDeviceManagement.Guarantees.TerminalSession
open CompleteDeviceManagement.Library CompleteDeviceManagement.Source.TerminalProxy

variable {δ : Type}

theorem flushPending_eq (c : Connection δ) (msgs : List (Message δ)) (h : c.device = .OPEN) :
    flushPending c msgs = { c with toDevice := c.toDevice ++ msgs } := by
  induction msgs generalizing c with
  | nil => simp [flushPending]
  | cons msg rest ih =>
    rw [flushPending, if_pos h, ih _ (by simpa [deviceSend] using h)]
    simp [deviceSend]

theorem run_append (events : List (Event δ)) (event : Event δ) :
    run (events ++ [event]) = step (run events) event := by
  simp [run]

/-! ## Forwarding -/

/-- Events of a connection on which neither side has begun to close or failed. -/
def IsTraffic : Event δ → Prop
  | .clientMessage _ => True
  | .deviceOpen => True
  | .deviceMessage _ => True
  | _ => False

def clientMessages : List (Event δ) → List (Message δ)
  | [] => []
  | .clientMessage msg :: rest => msg :: clientMessages rest
  | _ :: rest => clientMessages rest

/-- The browser-to-device path of a connection, seen as a relay. -/
def toRelay (c : Connection δ) : Relay (Message δ) :=
  ⟨c.device == .OPEN, c.pending, c.toDevice⟩

def relayInput : Event δ → List (Relay.Input (Message δ))
  | .clientMessage msg => [.push msg]
  | .deviceOpen => [.openUp]
  | _ => []

def relayInputs (events : List (Event δ)) : List (Relay.Input (Message δ)) :=
  events.flatMap relayInput

theorem pushed_relayInputs (events : List (Event δ)) :
    Relay.pushed (relayInputs events) = clientMessages events := by
  induction events with
  | nil => rfl
  | cons event rest ih =>
    simp only [relayInputs] at ih ⊢
    rw [List.flatMap_cons, Relay.pushed_append, ih]
    cases event <;> simp [relayInput, Relay.pushed, clientMessages]

theorem openUp_mem_relayInputs (events : List (Event δ)) :
    Relay.Input.openUp ∈ relayInputs events ↔ Event.deviceOpen ∈ events := by
  induction events with
  | nil => simp [relayInputs]
  | cons event rest ih =>
    simp only [relayInputs] at ih ⊢
    rw [List.flatMap_cons, List.mem_append, ih, List.mem_cons]
    cases event <;> simp [relayInput]

/-- What traffic keeps of the two sockets. -/
structure Flowing (c : Connection δ) : Prop where
  client_open : c.client = .OPEN
  device_state : (c.device = .CONNECTING ∧ c.listening = false) ∨
    (c.device = .OPEN ∧ c.listening = true)
  echoed : c.toClient = c.fromDevice

theorem handleUpgrade_flowing : Flowing (handleUpgrade : Connection δ) :=
  ⟨rfl, Or.inl ⟨rfl, rfl⟩, rfl⟩

theorem step_flowing {c : Connection δ} (h : Flowing c) {event : Event δ}
    (traffic : IsTraffic event) : Flowing (step c event) := by
  obtain ⟨hclient, hdevice, hecho⟩ := h
  cases event with
  | clientMessage msg =>
    have hd : delivers c (.clientMessage msg) = true := by
      simp [delivers, hclient, ReadyState.live]
    simp only [step, hd, if_true, dispatch, onClientMessage]
    split
    · exact ⟨hclient, hdevice, hecho⟩
    · exact ⟨hclient, hdevice, hecho⟩
  | deviceOpen =>
    unfold step
    split
    next hd =>
      simp only [dispatch, onDeviceOpen]
      rw [flushPending_eq _ _ rfl]
      exact ⟨hclient, Or.inr ⟨rfl, rfl⟩, hecho⟩
    · exact ⟨hclient, hdevice, hecho⟩
  | deviceMessage msg =>
    unfold step
    split
    · simp only [dispatch, onDeviceMessage, hclient, if_true, clientSend]
      exact ⟨rfl, hdevice, by rw [hecho]⟩
    · exact ⟨hclient, hdevice, hecho⟩
  | _ => exact traffic.elim

theorem run_flowing {events : List (Event δ)} (traffic : ∀ e ∈ events, IsTraffic e) :
    Flowing (run events) := by
  induction events using List.reverseRecOn with
  | nil => exact handleUpgrade_flowing
  | append_singleton events event ih =>
    rw [run_append]
    exact step_flowing (ih fun e he => traffic e (List.mem_append_left _ he))
      (traffic event (by simp))

/-- One event of traffic is one step of the relay. Opening an open relay is
the only event of the two that `ws` cannot deliver, and it changes neither. -/
theorem step_relay {c : Connection δ} (h : Flowing c) {sent : List (Message δ)}
    (carries : Relay.Carries (toRelay c) sent) {event : Event δ} (traffic : IsTraffic event) :
    toRelay (step c event) = (relayInput event).foldl Relay.step (toRelay c) := by
  obtain ⟨hclient, hdevice, -⟩ := h
  cases event with
  | clientMessage msg =>
    have hd : delivers c (.clientMessage msg) = true := by
      simp [delivers, hclient, ReadyState.live]
    simp only [step, hd, if_true, dispatch, onClientMessage, relayInput, List.foldl_cons,
      List.foldl_nil, Relay.step]
    rcases hdevice with ⟨hdev, -⟩ | ⟨hdev, -⟩
    · simp [toRelay, hdev]
    · simp [toRelay, hdev, deviceSend]
  | deviceOpen =>
    rcases hdevice with ⟨hdev, -⟩ | ⟨hdev, -⟩
    · have hd : delivers c (.deviceOpen : Event δ) = true := by simp [delivers, hdev]
      simp only [step, hd, if_true, dispatch, onDeviceOpen]
      rw [flushPending_eq _ _ rfl]
      simp [toRelay, relayInput, Relay.step]
    · have hd : delivers c (.deviceOpen : Event δ) = false := by simp [delivers, hdev]
      have hw : c.pending = [] := carries.flushed (by simp [toRelay, hdev])
      simp [step, hd, toRelay, relayInput, Relay.step, hdev, hw]
  | deviceMessage msg =>
    unfold step
    split
    · simp [dispatch, onDeviceMessage, hclient, clientSend, toRelay, relayInput]
    · simp [relayInput]
  | _ => exact traffic.elim

/-- The browser-to-device path refines the relay on every run of traffic. -/
theorem traffic_relay {events : List (Event δ)} (traffic : ∀ e ∈ events, IsTraffic e) :
    toRelay (run events) = (relayInputs events).foldl Relay.step Relay.init := by
  induction events using List.reverseRecOn with
  | nil => rfl
  | append_singleton events event ih =>
    have before : ∀ e ∈ events, IsTraffic e := fun e he =>
      traffic e (List.mem_append_left _ he)
    have carries := Relay.run_carries (relayInputs events)
    rw [← ih before] at carries
    rw [run_append, step_relay (run_flowing before) carries (traffic event (by simp)), ih before]
    simp [relayInputs, List.foldl_append]

theorem relay_opened (inputs : List (Relay.Input (Message δ))) :
    (inputs.foldl Relay.step Relay.init).opened = true ↔ Relay.Input.openUp ∈ inputs := by
  induction inputs using List.reverseRecOn with
  | nil => simp [Relay.init]
  | append_singleton inputs input ih =>
    rw [List.foldl_append, List.mem_append]
    cases input with
    | push m =>
      simp only [List.foldl_cons, List.foldl_nil, Relay.step]
      split <;> simp_all
    | openUp => simp [Relay.step]

/-- Forwarding is faithful as long as neither side has closed or failed:
nothing reaches the device before `open`; from the open handler on, what was
handed to the device is what the client sent so far, in order and once each,
with its binary flag; and what was handed to the client is what the device
sent. -/
theorem streams_forwarded (events : List (Event δ)) (traffic : ∀ e ∈ events, IsTraffic e) :
    (Event.deviceOpen ∉ events → (run events).toDevice = []) ∧
    (Event.deviceOpen ∈ events → (run events).toDevice = clientMessages events) ∧
    (run events).toClient = (run events).fromDevice := by
  have carries := Relay.run_carries (relayInputs events)
  have opened := relay_opened (relayInputs events)
  rw [openUp_mem_relayInputs] at opened
  rw [← traffic_relay traffic, pushed_relayInputs] at carries
  rw [← traffic_relay traffic] at opened
  refine ⟨fun hclosed => ?_, fun hopen => ?_, (run_flowing traffic).echoed⟩
  · have : (toRelay (run events)).opened = false := by
      cases ho : (toRelay (run events)).opened with
      | false => rfl
      | true => exact absurd (opened.mp ho) hclosed
    exact carries.closed this
  · have conserved := carries.conserved
    rw [carries.flushed (opened.mpr hopen), List.append_nil] at conserved
    exact conserved

/-- A message before and one after the handshake, and an answer of the device. -/
theorem streams_forwarded_around_open :
    (run [Event.clientMessage ⟨1, true⟩, .deviceOpen, .clientMessage ⟨2, false⟩,
      .deviceMessage ⟨3, true⟩]).toDevice = [⟨1, true⟩, ⟨2, false⟩] :=
  (streams_forwarded [Event.clientMessage ⟨1, true⟩, .deviceOpen, .clientMessage ⟨2, false⟩,
    .deviceMessage ⟨3, true⟩] (by
      intro e he
      simp only [List.mem_cons, List.not_mem_nil, or_false] at he
      rcases he with rfl | rfl | rfl | rfl <;> trivial)).2.1 (by simp)

/-! ## Teardown -/

/-- Whichever side has closed or failed, the other side is gone or going, and
no open device shell is left without its client. -/
structure TornDown (c : Connection δ) : Prop where
  device_ends : c.clientEnded = true →
    c.device = .CLOSED ∨ c.device = .CLOSING ∨ 0 < c.deviceCloses
  client_ends : c.deviceEnded = true → c.client = .CLOSED ∨ c.client = .CLOSING
  no_shell : c.clientEnded = true → c.device ≠ .OPEN

/-- The teardown law along one run: in every state reached, and nothing more is
handed to the device once the client has closed or failed. -/
def NoOrphans (events : List (Event δ)) : Prop :=
  (∀ before after, events = before ++ after → TornDown (run before)) ∧
  (∀ before event after, events = before ++ event :: after →
    (run before).clientEnded = true →
    (run (before ++ [event])).toDevice = (run before).toDevice)

def EndsClient : Event δ → Prop
  | .clientClose => True
  | .clientError => True
  | _ => False

/-- No close or error of the client arrives while the device is CONNECTING. -/
def ClientOutlastsHandshake (events : List (Event δ)) : Prop :=
  ∀ before event after, events = before ++ event :: after → EndsClient event →
    (run before).device ≠ .CONNECTING

/-- The invariant behind the law: an ended side has taken the other one with it. -/
structure Paired (c : Connection δ) : Prop where
  device_going : c.clientEnded = true → c.device = .CLOSING ∨ c.device = .CLOSED
  client_going : c.deviceEnded = true → c.client = .CLOSING ∨ c.client = .CLOSED
  client_started : c.client ≠ .CONNECTING

theorem Paired.tornDown {c : Connection δ} (h : Paired c) : TornDown c := by
  refine ⟨fun hc => ?_, fun hd => (h.client_going hd).symm, fun hc => ?_⟩
  · rcases h.device_going hc with closing | closed
    · exact Or.inr (Or.inl closing)
    · exact Or.inl closed
  · rcases h.device_going hc with closing | closed
    · simp [closing]
    · simp [closed]

theorem handleUpgrade_paired : Paired (handleUpgrade : Connection δ) :=
  ⟨fun h => by simp [handleUpgrade] at h, fun h => by simp [handleUpgrade] at h,
    by simp [handleUpgrade]⟩

theorem closeDeviceIfOpen_going {c : Connection δ} (h : c.device ≠ .CONNECTING) :
    (closeDeviceIfOpen c).device = .CLOSING ∨ (closeDeviceIfOpen c).device = .CLOSED := by
  unfold closeDeviceIfOpen
  split
  · exact Or.inl rfl
  next hopen => cases hd : c.device <;> simp_all

theorem closeClientIfOpen_going {c : Connection δ} (code : Nat) (reason : String)
    (h : c.client ≠ .CONNECTING) :
    (closeClientIfOpen c code reason).client = .CLOSING ∨
      (closeClientIfOpen c code reason).client = .CLOSED := by
  unfold closeClientIfOpen
  split
  · exact Or.inl rfl
  next hopen => cases hc : c.client <;> simp_all

@[simp] theorem closeDeviceIfOpen_client (c : Connection δ) :
    (closeDeviceIfOpen c).client = c.client ∧
      (closeDeviceIfOpen c).deviceEnded = c.deviceEnded := by
  unfold closeDeviceIfOpen
  split <;> exact ⟨rfl, rfl⟩

@[simp] theorem closeClientIfOpen_device (c : Connection δ) (code : Nat) (reason : String) :
    (closeClientIfOpen c code reason).device = c.device ∧
      (closeClientIfOpen c code reason).clientEnded = c.clientEnded := by
  unfold closeClientIfOpen
  split <;> exact ⟨rfl, rfl⟩

/-- Only an ending client that finds the device CONNECTING breaks the pairing. -/
theorem step_paired {c : Connection δ} (h : Paired c) (event : Event δ)
    (outlasts : EndsClient event → c.device ≠ .CONNECTING) : Paired (step c event) := by
  obtain ⟨hdevice, hclient, hstarted⟩ := h
  unfold step
  split
  case isFalse => exact ⟨hdevice, hclient, hstarted⟩
  case isTrue hd =>
    cases event with
    | clientMessage msg =>
      simp only [dispatch, onClientMessage]
      split <;> exact ⟨hdevice, hclient, hstarted⟩
    | clientClosing =>
      exact ⟨hdevice, fun _ => Or.inl rfl, by simp [dispatch]⟩
    | clientClose =>
      simp only [dispatch]
      refine ⟨fun _ => closeDeviceIfOpen_going (outlasts trivial), fun _ => ?_, ?_⟩
      · simp
      · simp
    | clientError =>
      simp only [dispatch]
      refine ⟨fun _ => closeDeviceIfOpen_going (outlasts trivial), fun _ => ?_, ?_⟩
      · simp
      · simp
    | deviceOpen =>
      -- an ended client has the device CLOSING or CLOSED, so `open` cannot come
      have hconn : c.device = .CONNECTING := by simpa [delivers] using hd
      simp only [dispatch, onDeviceOpen]
      rw [flushPending_eq _ _ rfl]
      refine ⟨fun hc => ?_, hclient, hstarted⟩
      rcases hdevice hc with going | going <;> simp [hconn] at going
    | deviceMessage msg =>
      simp only [dispatch, onDeviceMessage]
      split <;> exact ⟨hdevice, hclient, hstarted⟩
    | deviceClosing =>
      exact ⟨fun _ => Or.inl rfl, hclient, hstarted⟩
    | deviceClose =>
      simp only [dispatch]
      refine ⟨fun _ => by simp, fun _ => closeClientIfOpen_going _ _ hstarted, ?_⟩
      rcases closeClientIfOpen_going
        (c := { c with device := .CLOSED, deviceEnded := true }) 1001 "Device disconnected"
        hstarted with going | going <;> simp [going]
    | deviceError =>
      simp only [dispatch]
      refine ⟨fun _ => by simp, fun _ => closeClientIfOpen_going _ _ hstarted, ?_⟩
      rcases closeClientIfOpen_going
        (c := { c with device := .CLOSING, deviceEnded := true }) 1011 "Device connection error"
        hstarted with going | going <;> simp [going]

/-- A device socket that is closing or closed is handed nothing. -/
theorem step_toDevice {c : Connection δ} (event : Event δ)
    (h : c.device = .CLOSING ∨ c.device = .CLOSED) :
    (step c event).toDevice = c.toDevice := by
  unfold step
  split
  case isFalse => rfl
  case isTrue hd =>
    cases event with
    | clientMessage msg =>
      have hne : c.device ≠ .OPEN := by rcases h with h | h <;> simp [h]
      simp [dispatch, onClientMessage, hne]
    | deviceOpen =>
      rcases h with h | h <;> simp [delivers, h] at hd
    | deviceMessage msg =>
      simp only [dispatch, onDeviceMessage]
      split <;> rfl
    | clientClosing => rfl
    | deviceClosing => rfl
    | clientClose => simp only [dispatch, closeDeviceIfOpen]; split <;> rfl
    | clientError => simp only [dispatch, closeDeviceIfOpen]; split <;> rfl
    | deviceClose => simp only [dispatch, closeClientIfOpen]; split <;> rfl
    | deviceError => simp only [dispatch, closeClientIfOpen]; split <;> rfl

theorem run_paired {events : List (Event δ)} (outlasts : ClientOutlastsHandshake events) :
    Paired (run events) := by
  induction events using List.reverseRecOn with
  | nil => exact handleUpgrade_paired
  | append_singleton events event ih =>
    rw [run_append]
    refine step_paired (ih fun before e after he hends => ?_) event fun hends => ?_
    · exact outlasts before e (after ++ [event]) (by simp [he]) hends
    · exact outlasts events event [] rfl hends

/-- What the record of a connection says about its sockets: a CLOSED client has
been seen to close, and a CONNECTING device has not been asked to close. -/
structure Recorded (c : Connection δ) : Prop where
  closed_ended : c.client = .CLOSED → c.clientEnded = true
  connecting_unasked : c.device = .CONNECTING → c.deviceCloses = 0

theorem closeDeviceIfOpen_recorded {c : Connection δ} (h : Recorded c) :
    Recorded (closeDeviceIfOpen c) := by
  unfold closeDeviceIfOpen
  split
  · exact ⟨h.closed_ended, by simp⟩
  · exact h

theorem closeClientIfOpen_recorded {c : Connection δ} (h : Recorded c) (code : Nat)
    (reason : String) : Recorded (closeClientIfOpen c code reason) := by
  unfold closeClientIfOpen
  split
  · exact ⟨by simp, h.connecting_unasked⟩
  · exact h

theorem step_recorded {c : Connection δ} (h : Recorded c) (event : Event δ) :
    Recorded (step c event) := by
  obtain ⟨hclosed, hasked⟩ := h
  unfold step
  split
  case isFalse => exact ⟨hclosed, hasked⟩
  case isTrue =>
    cases event with
    | clientMessage msg =>
      simp only [dispatch, onClientMessage]
      split <;> exact ⟨hclosed, hasked⟩
    | clientClosing => exact ⟨by simp [dispatch], hasked⟩
    | clientClose => exact closeDeviceIfOpen_recorded ⟨fun _ => rfl, hasked⟩
    | clientError => exact closeDeviceIfOpen_recorded ⟨by simp, hasked⟩
    | deviceOpen =>
      simp only [dispatch, onDeviceOpen]
      rw [flushPending_eq _ _ rfl]
      exact ⟨hclosed, by simp⟩
    | deviceMessage msg =>
      simp only [dispatch, onDeviceMessage]
      split <;> exact ⟨hclosed, hasked⟩
    | deviceClosing => exact ⟨hclosed, by simp [dispatch]⟩
    | deviceClose =>
      exact closeClientIfOpen_recorded
        (c := { c with device := .CLOSED, deviceEnded := true }) ⟨hclosed, nofun⟩ _ _
    | deviceError =>
      exact closeClientIfOpen_recorded
        (c := { c with device := .CLOSING, deviceEnded := true }) ⟨hclosed, nofun⟩ _ _

theorem run_recorded (events : List (Event δ)) : Recorded (run events) := by
  induction events using List.reverseRecOn with
  | nil => exact ⟨by simp [run, handleUpgrade], fun _ => rfl⟩
  | append_singleton events event ih =>
    rw [run_append]
    exact step_recorded ih event

/-- The client ends while the device socket is CONNECTING: the handler leaves
the device socket alone, so the law fails in that very state. -/
theorem ends_while_connecting {events : List (Event δ)} {event : Event δ}
    (ends : EndsClient event) (connecting : (run events).device = .CONNECTING)
    (torn : TornDown (run events)) : ¬ TornDown (run (events ++ [event])) := by
  intro after
  have closes := (run_recorded events).connecting_unasked connecting
  by_cases hclosed : (run events).client = .CLOSED
  · -- the client had closed before; it was an orphan already then
    rcases torn.device_ends ((run_recorded events).closed_ended hclosed) with h | h | h
    · simp [connecting] at h
    · simp [connecting] at h
    · omega
  · rw [run_append] at after
    have ended : (step (run events) event).clientEnded = true ∧
        (step (run events) event).device = .CONNECTING ∧
        (step (run events) event).deviceCloses = 0 := by
      cases event with
      | clientClose =>
        simp [step, delivers, hclosed, dispatch, closeDeviceIfOpen, connecting, closes]
      | clientError =>
        simp [step, delivers, hclosed, dispatch, closeDeviceIfOpen, connecting, closes]
      | _ => exact ends.elim
    rcases after.device_ends ended.1 with h | h | h
    · simp [ended.2.1] at h
    · simp [ended.2.1] at h
    · omega

/-- No orphaned session on exactly those runs in which the client does not
close or fail while the device socket is still CONNECTING. -/
theorem noOrphans_iff (events : List (Event δ)) :
    NoOrphans events ↔ ClientOutlastsHandshake events := by
  constructor
  · rintro ⟨torn, -⟩ before event after he ends connecting
    exact ends_while_connecting ends connecting (torn before (event :: after) he)
      (torn (before ++ [event]) after (by simp [he]))
  · intro outlasts
    have paired : ∀ before after, events = before ++ after → Paired (run before) := by
      intro before after he
      exact run_paired fun b e rest hb => outlasts b e (rest ++ after) (by simp [he, hb])
    refine ⟨fun before after he => (paired before after he).tornDown, ?_⟩
    intro before event after he ended
    rw [run_append]
    exact step_toDevice event ((paired before (event :: after) he).device_going ended)

/-- The browser tab is closed during the device handshake: the shell opens
afterwards, stays open, and is fed what the client had typed. -/
theorem orphaned_shell :
    ¬ NoOrphans [Event.clientMessage ⟨"reboot", false⟩, .clientClose, .deviceOpen] := by
  rintro ⟨torn, -⟩
  have h := (torn [Event.clientMessage ⟨"reboot", false⟩, .clientClose, .deviceOpen] []
    (by simp)).no_shell rfl
  exact h rfl

end CompleteDeviceManagement.Guarantees.TerminalSession
