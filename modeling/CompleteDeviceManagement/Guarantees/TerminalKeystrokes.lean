import CompleteDeviceManagement.Library.Runs
import CompleteDeviceManagement.Source.TerminalWidget

/-!
# Keystrokes of the terminal widget

`onopen` gives the terminal a further callback and takes none away, and
`onclose` forgets the current socket whichever socket closed. A run keeps the law
exactly if keystrokes are typed into the first socket that ever opened, and events
of older sockets come when they have nothing to change.
-/

set_option autoImplicit false

namespace CompleteDeviceManagement.Guarantees.TerminalKeystrokes
open CompleteDeviceManagement.Library CompleteDeviceManagement.Source.TerminalWidget
open CompleteDeviceManagement.Source.TerminalProxy (ReadyState)

variable {δ : Type}

/-! ## The law and the condition -/

/-- The most recently created socket. -/
def Newest (w : Widget δ) (socket : Nat) : Prop := socket + 1 = w.sockets.length

def Older (w : Widget δ) (socket : Nat) : Prop := socket + 1 < w.sockets.length

/-- What a keystroke is to send: once on the newest socket if it is open. -/
def due (w : Widget δ) (data : δ) : List (Nat × δ) :=
  if w.stateOf (w.sockets.length - 1) = some .OPEN then [(w.sockets.length - 1, data)] else []

def typed (w : Widget δ) : Event δ → List (Nat × δ)
  | .keystroke data => due w data
  | _ => []

/-- The socket an event comes from. -/
def sender : Event δ → Option Nat
  | .opened socket => some socket
  | .closing socket => some socket
  | .error socket => some socket
  | .closed socket => some socket
  | _ => none

/-- Every keystroke is sent once, and an older socket changes nothing of a newer one. -/
structure Lawful (page : Page) (w : Widget δ) (event : Event δ) : Prop where
  sends : (step page w event).sent = w.sent ++ typed w event
  spares : ∀ socket, sender event = some socket → Older w socket →
    (step page w event).ws = w.ws ∧ (step page w event).connected = w.connected

/-- A keystroke for an open socket finds one callback, and an event of an older
socket finds the status, and `ws`, as it would leave them. -/
def Undisturbed (w : Widget δ) : Event δ → Prop
  | .keystroke _ => w.stateOf (w.sockets.length - 1) = some .OPEN → w.onData = 1
  | .opened socket => Older w socket → w.stateOf socket = some .CONNECTING → w.connected = true
  | .error socket => Older w socket → delivers w (.error socket) = true → w.connected = false
  | .closed socket => Older w socket → delivers w (.closed socket) = true →
      w.connected = false ∧ w.ws = none
  | _ => True

/-! ## A keystroke -/

theorem forward_open {w : Widget δ} {socket : Nat} (hws : w.ws = some socket)
    (isOpen : w.stateOf socket = some .OPEN) (data : δ) :
    forward data w = { w with sent := w.sent ++ [(socket, data)] } := by
  rw [forward, hws]
  simp only [isOpen, if_true]

theorem keystroke_open {w : Widget δ} {socket : Nat} (hws : w.ws = some socket)
    (isOpen : w.stateOf socket = some .OPEN) (data : δ) :
    (keystroke data w).sent = w.sent ++ List.replicate w.onData (socket, data) := by
  have every : ∀ (n : Nat) (v : Widget δ), v.ws = some socket → v.stateOf socket = some .OPEN →
      ((forward data)^[n] v).sent = v.sent ++ List.replicate n (socket, data) := by
    intro n
    induction n with
    | zero =>
      intro v _ _
      rw [List.replicate_zero, List.append_nil]
      rfl
    | succ n ih =>
      intro v hv hopen
      have sent : (forward data v).sent = v.sent ++ [(socket, data)] := by
        rw [forward_open hv hopen]
      have same : (forward data v).ws = some socket ∧
          (forward data v).stateOf socket = some .OPEN := by
        rw [forward_open hv hopen]
        exact ⟨hv, hopen⟩
      rw [Function.iterate_succ_apply, ih _ same.1 same.2, sent, List.append_assoc,
        List.replicate_succ]
      rfl
  exact every w.onData w hws isOpen

theorem keystroke_silent {w : Widget δ}
    (silent : ∀ socket, w.ws = some socket → w.stateOf socket ≠ some .OPEN) (data : δ) :
    keystroke data w = w := by
  apply Function.iterate_fixed
  unfold forward
  split
  · rfl
  next socket hws => rw [if_neg (silent socket hws)]

/-! ## The other events -/

theorem connect_sent (page : Page) (w : Widget δ) : (connect page w).sent = w.sent := by
  unfold connect
  split
  · rfl
  · split
    · rfl
    · split
      · rfl
      · split
        · rfl
        · rfl

theorem disconnect_sent (w : Widget δ) : (disconnect w).sent = w.sent := by
  unfold disconnect
  split
  · rfl
  · split
    · rfl
    · rfl
    · rfl

/-- Only keystrokes are sent. -/
theorem step_sent (page : Page) (w : Widget δ) {event : Event δ}
    (other : ∀ data, event ≠ .keystroke data) : (step page w event).sent = w.sent := by
  unfold step
  split
  · cases event with
    | connect => exact connect_sent page w
    | disconnect => exact disconnect_sent w
    | keystroke data => exact absurd rfl (other data)
    | opened socket => rfl
    | closing socket => rfl
    | error socket => rfl
    | closed socket => rfl
  · rfl

theorem typed_other (w : Widget δ) {event : Event δ} (other : ∀ data, event ≠ .keystroke data) :
    typed w event = [] := by
  cases event with
  | keystroke data => exact absurd rfl (other data)
  | _ => rfl

/-! ## The invariant -/

/-- `ws` is the newest socket or none, and the newest as long as that is connecting or open. -/
structure Current (w : Widget δ) : Prop where
  newest : ∀ socket, w.ws = some socket → Newest w socket
  live : ∀ socket, Newest w socket →
    w.stateOf socket = some .CONNECTING ∨ w.stateOf socket = some .OPEN → w.ws = some socket

theorem initial_current : Current (initial : Widget δ) := by
  constructor
  · intro socket h
    cases h
  · intro socket h
    cases h

/-- The invariant is about the sockets and `ws` only. -/
theorem Current.congr {w v : Widget δ} (current : Current w) (sockets : v.sockets = w.sockets)
    (ws : v.ws = w.ws) : Current v := by
  constructor
  · intro socket h
    unfold Newest
    rw [sockets]
    exact current.newest socket (ws.symm.trans h)
  · intro socket newest live
    unfold Newest at newest
    rw [sockets] at newest
    unfold Widget.stateOf at live
    rw [sockets] at live
    rw [ws]
    exact current.live socket newest live

theorem stateOf_modify (w : Widget δ) (socket other : Nat) (state : ReadyState)
    (f : Socket → Socket) (changes : ∀ s, (f s).readyState = state) :
    ((w.sockets.modify socket f)[other]?).map Socket.readyState =
      if socket = other then (w.stateOf socket).map fun _ => state else w.stateOf other := by
  rw [List.getElem?_modify, Widget.stateOf, Widget.stateOf]
  split
  next same =>
    rw [same]
    cases w.sockets[other]? with
    | none => rfl
    | some s => simp [changes]
  · cases w.sockets[other]? with
    | none => rfl
    | some s => rfl

/-- A socket that changes its state, and is not alive after it if it was not before. -/
theorem Current.setState {w : Widget δ} (current : Current w) {socket : Nat} {state : ReadyState}
    (older : state = .CONNECTING ∨ state = .OPEN →
      w.stateOf socket = some .CONNECTING ∨ w.stateOf socket = some .OPEN) :
    Current (w.setState socket state) := by
  have length : (w.setState socket state).sockets.length = w.sockets.length :=
    List.length_modify _ _ _
  constructor
  · intro other h
    unfold Newest
    rw [length]
    exact current.newest other h
  · intro other newest live
    unfold Newest at newest
    rw [length] at newest
    unfold Widget.stateOf at live
    rw [Widget.setState, stateOf_modify w socket other state _ fun _ => rfl] at live
    split at live
    next same =>
      rw [same] at live older
      have before : w.stateOf other = some .CONNECTING ∨ w.stateOf other = some .OPEN := by
        cases hstate : w.stateOf other with
        | none => simp [hstate] at live
        | some _ =>
          rw [hstate] at live older
          apply older
          simpa using live
      exact current.live other newest before
    · exact current.live other newest live

theorem keystroke_frame (data : δ) (w : Widget δ) :
    (keystroke data w).sockets = w.sockets ∧ (keystroke data w).ws = w.ws := by
  have one : ∀ v : Widget δ, (forward data v).sockets = v.sockets ∧ (forward data v).ws = v.ws := by
    intro v
    unfold forward
    split
    · exact ⟨rfl, rfl⟩
    · split
      · exact ⟨rfl, rfl⟩
      · exact ⟨rfl, rfl⟩
  have every : ∀ (n : Nat) (v : Widget δ), ((forward data)^[n] v).sockets = v.sockets ∧
      ((forward data)^[n] v).ws = v.ws := by
    intro n
    induction n with
    | zero => exact fun _ => ⟨rfl, rfl⟩
    | succ n ih =>
      intro v
      rw [Function.iterate_succ_apply]
      exact ⟨(ih _).1.trans (one v).1, (ih _).2.trans (one v).2⟩
  exact every w.onData w

theorem connect_current (page : Page) {w : Widget δ} (current : Current w) :
    Current (connect page w) := by
  unfold connect
  split
  · exact current
  · split
    · exact current
    · split
      · exact current
      next url _ =>
        split
        · constructor
          · intro socket h
            cases h
            simp [Newest]
          · intro socket newest _
            simp only [Newest, List.length_append, List.length_singleton, Nat.add_right_cancel_iff]
              at newest
            rw [newest]
        · exact current

/-- The socket that is let go is the newest, and it is not alive any more. -/
theorem disconnect_current {w : Widget δ} (current : Current w) : Current (disconnect w) := by
  unfold disconnect
  split
  · exact current
  next socket hws =>
    have newest := current.newest socket hws
    have gone : ∀ v : Widget δ, v.sockets.length = w.sockets.length → v.ws = none →
        (v.stateOf socket ≠ some .CONNECTING ∧ v.stateOf socket ≠ some .OPEN) → Current v := by
      intro v length none dead
      constructor
      · intro other h
        rw [none] at h
        cases h
      · intro other hnewest live
        unfold Newest at hnewest newest
        have same : other = socket := by omega
        rw [same] at live
        rcases live with h | h
        · exact absurd h dead.1
        · exact absurd h dead.2
    have closing : (w.setState socket .CLOSING).stateOf socket ≠ some .CONNECTING ∧
        (w.setState socket .CLOSING).stateOf socket ≠ some .OPEN := by
      rw [Widget.stateOf, Widget.setState, stateOf_modify w socket socket .CLOSING _ fun _ => rfl,
        if_pos rfl]
      cases w.stateOf socket with
      | none => simp
      | some state => simp
    split
    · exact gone _ (List.length_modify _ _ _) rfl closing
    · exact gone _ (List.length_modify _ _ _) rfl closing
    next dead opened => exact gone _ rfl rfl ⟨dead, opened⟩

/-- The close of an older socket finds `ws` forgotten already. -/
theorem closed_current {w : Widget δ} (current : Current w) {socket : Nat}
    (delivered : delivers w (.closed socket : Event δ) = true)
    (undisturbed : Undisturbed w (.closed socket)) :
    Current (onclose { w with sockets := w.sockets.modify socket fun s =>
      { s with readyState := .CLOSED, ended := true } }) := by
  constructor
  · intro other h
    cases h
  · intro other newest live
    exfalso
    have newest : Newest w other := newest.trans (List.length_modify _ _ _)
    have after : (if socket = other then (w.stateOf socket).map fun _ => ReadyState.CLOSED
        else w.stateOf other) = some .CONNECTING ∨
        (if socket = other then (w.stateOf socket).map fun _ => ReadyState.CLOSED
        else w.stateOf other) = some .OPEN := by
      rw [← stateOf_modify w socket other .CLOSED
        (fun s => { s with readyState := .CLOSED, ended := true }) fun _ => rfl]
      exact live
    split at after
    · cases hstate : w.stateOf socket with
      | none => simp [hstate] at after
      | some state => simp [hstate] at after
    next differ =>
      have created : socket < w.sockets.length := by
        by_contra beyond
        rw [delivers, List.getElem?_eq_none (by omega)] at delivered
        cases delivered
      have older : Older w socket := by
        unfold Older
        unfold Newest at newest
        omega
      have forgotten : w.ws = none := (undisturbed older delivered).2
      have kept : w.ws = some other := current.live other newest after
      rw [forgotten] at kept
      cases kept

/-! ## One step -/

theorem step_current (page : Page) {w : Widget δ} (current : Current w) {event : Event δ}
    (undisturbed : Undisturbed w event) : Current (step page w event) := by
  by_cases delivered : delivers w event = true
  · rw [step, if_pos delivered]
    cases event with
    | connect => exact connect_current page current
    | disconnect => exact disconnect_current current
    | keystroke data => exact current.congr (keystroke_frame data w).1 (keystroke_frame data w).2
    | opened socket =>
      have connecting : w.stateOf socket = some .CONNECTING := by simpa [delivers] using delivered
      have after : Current (w.setState socket .OPEN) := current.setState fun _ => .inl connecting
      exact after.congr rfl rfl
    | closing socket =>
      have after : Current (w.setState socket .CLOSING) := current.setState (by simp)
      exact after.congr rfl rfl
    | error socket =>
      have after : Current (w.setState socket .CLOSED) := current.setState (by simp)
      exact after.congr rfl rfl
    | closed socket => exact closed_current current delivered undisturbed
  · rw [step, if_neg delivered]
    exact current

/-- Where nothing is due, nothing is sent: `ws` is the newest socket or none. -/
theorem keystroke_lawful {w : Widget δ} (current : Current w) (data : δ) :
    (keystroke data w).sent = w.sent ++ due w data ↔
      (w.stateOf (w.sockets.length - 1) = some .OPEN → w.onData = 1) := by
  by_cases isOpen : w.stateOf (w.sockets.length - 1) = some .OPEN
  · have created : w.sockets.length ≠ 0 := by
      intro none
      rw [Widget.stateOf, List.eq_nil_of_length_eq_zero none] at isOpen
      cases isOpen
    have newest : Newest w (w.sockets.length - 1) := by
      unfold Newest
      omega
    rw [keystroke_open (current.live _ newest (.inr isOpen)) isOpen, due, if_pos isOpen,
      List.append_cancel_left_eq]
    constructor
    · intro same _
      simpa using congrArg List.length same
    · intro once
      rw [once isOpen]
      rfl
  · have silent : ∀ socket, w.ws = some socket → w.stateOf socket ≠ some .OPEN := by
      intro socket hws
      have newest := current.newest socket hws
      have same : socket = w.sockets.length - 1 := by
        unfold Newest at newest
        omega
      rw [same]
      exact isOpen
    rw [keystroke_silent silent, due, if_neg isOpen, List.append_nil]
    simp [isOpen]

/-- An event that sends nothing is lawful if it spares the newer sockets. -/
theorem lawful_of_silent (page : Page) {w : Widget δ} {event : Event δ}
    (other : ∀ data, event ≠ .keystroke data) :
    Lawful page w event ↔ ∀ socket, sender event = some socket → Older w socket →
      (step page w event).ws = w.ws ∧ (step page w event).connected = w.connected := by
  constructor
  · intro lawful
    exact lawful.spares
  · intro spares
    refine ⟨?_, spares⟩
    rw [step_sent page w other, typed_other w other, List.append_nil]

/-- On current states the law of a step is the condition. -/
theorem lawful_iff (page : Page) {w : Widget δ} (current : Current w) (event : Event δ) :
    Lawful page w event ↔ Undisturbed w event := by
  cases event with
  | connect =>
    rw [lawful_of_silent page (by simp)]
    simp [sender, Undisturbed]
  | disconnect =>
    rw [lawful_of_silent page (by simp)]
    simp [sender, Undisturbed]
  | keystroke data =>
    have law : Lawful page w (.keystroke data) ↔
        (keystroke data w).sent = w.sent ++ due w data := by
      constructor
      · intro lawful
        exact lawful.sends
      · intro sends
        exact ⟨sends, by simp [sender]⟩
    rw [law]
    exact keystroke_lawful current data
  | opened socket =>
    rw [lawful_of_silent page (by simp)]
    by_cases connecting : w.stateOf socket = some .CONNECTING
    · simp [sender, step, delivers, connecting, dispatch, onopen, setStatus, Widget.setState,
        Undisturbed]
    · simp [step, delivers, connecting, Undisturbed]
  | closing socket =>
    rw [lawful_of_silent page (by simp)]
    by_cases isOpen : w.stateOf socket = some .OPEN
    · simp [sender, step, delivers, isOpen, dispatch, Widget.setState, Undisturbed]
    · simp [step, delivers, isOpen, Undisturbed]
  | error socket =>
    rw [lawful_of_silent page (by simp)]
    by_cases delivered : delivers w (.error socket) = true
    · simp [sender, step, delivered, dispatch, onerror, setStatus, Widget.setState, Undisturbed]
    · simp [step, delivered, Undisturbed]
  | closed socket =>
    rw [lawful_of_silent page (by simp)]
    by_cases delivered : delivers w (.closed socket) = true
    · simp [sender, step, delivered, dispatch, onclose, setStatus, Undisturbed,
        @eq_comm _ none, and_comm]
    · simp [step, delivered, Undisturbed]

/-! ## Runs -/

/-- A run of the page is lawful exactly if no event of it disturbs a newer socket,
and keystrokes come while one callback is registered. -/
theorem sent_once_iff (page : Page) (events : List (Event δ)) :
    Runs.EveryStep (step page) (Lawful page) initial events ↔
      Runs.EveryStep (step page) Undisturbed initial events :=
  Runs.everyStep_congr (fun w event (current : Current w) => lawful_iff page current event)
    (fun _ _ current undisturbed => step_current page current undisturbed) initial_current events

/-! ## The second connection -/

def page : Page := ⟨[100, 49], [116], "localhost", "7681", fun _ => true⟩

/-- The user connects, disconnects, connects again and types a letter. -/
def again : List (Event Char) :=
  [.connect, .opened 0, .disconnect, .closed 0, .connect, .opened 1, .keystroke 'x']

/-- The letter is sent twice. -/
theorem second_connection_doubles :
    (Runs.run (step page) initial again).sent = [(1, 'x'), (1, 'x')] ∧
      ¬ Runs.EveryStep (step page) (Lawful page) initial again := by
  have sent : (Runs.run (step page) initial again).sent = [(1, 'x'), (1, 'x')] := by
    decide +kernel
  refine ⟨sent, ?_⟩
  intro lawful
  have last := (Runs.everyStep_iff initial again).mp lawful
    [.connect, .opened 0, .disconnect, .closed 0, .connect, .opened 1] (.keystroke 'x') [] rfl
  have sends := last.sends
  revert sends
  decide +kernel

end CompleteDeviceManagement.Guarantees.TerminalKeystrokes
