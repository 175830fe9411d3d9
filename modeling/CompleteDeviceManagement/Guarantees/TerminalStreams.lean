import CompleteDeviceManagement.Guarantees.TerminalKeystrokes
import CompleteDeviceManagement.Guarantees.TerminalSession
import CompleteDeviceManagement.Source.TerminalPath

/-!
# The streams of a terminal, end to end

Whatever closes or fails on the way: what a device was handed is a beginning of
what the widget sent on that socket, what the rest of it still waits for is
known, and what the terminal shows of a socket is a beginning of what its device
said. Nothing changes its order or its connection.
-/

set_option autoImplicit false

namespace CompleteDeviceManagement.Guarantees.TerminalStreams
open CompleteDeviceManagement.Library CompleteDeviceManagement.Source
open CompleteDeviceManagement.Source.TerminalPath
open CompleteDeviceManagement.Source.TerminalWidget (Page Widget)
open CompleteDeviceManagement.Source.TerminalProxy (Connection Message handleUpgrade)
open CompleteDeviceManagement.Guarantees.TerminalSession (flushPending_eq)
open CompleteDeviceManagement.Guarantees.TerminalKeystrokes

variable {δ : Type}

/-! ## The proxy -/

/-- What came from the client has been handed on or is pending, and the client
has been handed a beginning of what the device said. -/
structure Conserved (c : Connection δ) : Prop where
  forward : c.toDevice ++ c.pending = c.fromClient
  early : c.device = .CONNECTING → c.toDevice = []
  flushed : c.device = .OPEN → c.pending = []
  echo : c.toClient <+: c.fromDevice
  live : c.client = .OPEN → c.toClient = c.fromDevice

theorem handleUpgrade_conserved : Conserved (handleUpgrade : Connection δ) where
  forward := rfl
  early := fun _ => rfl
  flushed := fun _ => rfl
  echo := List.prefix_rfl
  live := fun _ => rfl

section Closing

open CompleteDeviceManagement.Source.TerminalProxy hiding step run

/-- A closing socket changes its state, and no message. -/
theorem closeDeviceIfOpen_conserved {c : Connection δ} (h : Conserved c) :
    Conserved (closeDeviceIfOpen c) := by
  unfold closeDeviceIfOpen
  split
  · exact ⟨h.forward, (by intro closing; cases closing), (by intro closing; cases closing), h.echo,
      h.live⟩
  · exact h

theorem closeClientIfOpen_conserved {c : Connection δ} (h : Conserved c) (code : Nat)
    (reason : String) : Conserved (closeClientIfOpen c code reason) := by
  unfold closeClientIfOpen
  split
  · exact ⟨h.forward, h.early, h.flushed, h.echo, (by intro closing; cases closing)⟩
  · exact h

theorem step_conserved {c : Connection δ} (h : Conserved c) (event : Event δ) :
    Conserved (TerminalProxy.step c event) := by
  unfold TerminalProxy.step
  split
  next delivered =>
    cases event with
    | clientMessage msg =>
      simp only [dispatch, onClientMessage]
      split
      next isOpen =>
        have empty := h.flushed isOpen
        have forward := h.forward
        rw [empty, List.append_nil] at forward
        refine ⟨?_, ?_, h.flushed, h.echo, h.live⟩
        · simp [deviceSend, empty, forward]
        · intro connecting
          rw [show c.device = .CONNECTING from connecting] at isOpen
          cases isOpen
      next notOpen =>
        refine ⟨?_, h.early, fun isOpen => absurd isOpen notOpen, h.echo, h.live⟩
        rw [← List.append_assoc, h.forward]
    | clientClosing =>
      exact ⟨h.forward, h.early, h.flushed, h.echo, (by intro closing; cases closing)⟩
    | clientClose =>
      apply closeDeviceIfOpen_conserved
      exact ⟨h.forward, h.early, h.flushed, h.echo, (by intro closing; cases closing)⟩
    | clientError =>
      apply closeDeviceIfOpen_conserved
      exact ⟨h.forward, h.early, h.flushed, h.echo, (by intro closing; cases closing)⟩
    | deviceOpen =>
      have connecting : c.device = .CONNECTING := by simpa [delivers] using delivered
      have none := h.early connecting
      have forward := h.forward
      rw [none, List.nil_append] at forward
      simp only [dispatch, onDeviceOpen]
      rw [flushPending_eq _ _ rfl]
      refine ⟨?_, (by intro isOpen; cases isOpen), fun _ => rfl, h.echo, h.live⟩
      simp [none, forward]
    | deviceMessage msg =>
      simp only [dispatch, onDeviceMessage]
      split
      next isOpen =>
        have same := h.live isOpen
        refine ⟨h.forward, h.early, h.flushed, ?_, ?_⟩
        · simp [clientSend, same]
        · intro _
          simp [clientSend, same]
      next notOpen =>
        refine ⟨h.forward, h.early, h.flushed, ?_, fun isOpen => absurd isOpen notOpen⟩
        exact h.echo.trans (List.prefix_append _ _)
    | deviceClosing =>
      exact ⟨h.forward, (by intro closing; cases closing), (by intro closing; cases closing),
        h.echo, h.live⟩
    | deviceClose =>
      apply closeClientIfOpen_conserved
      exact ⟨h.forward, (by intro closing; cases closing), (by intro closing; cases closing),
        h.echo, h.live⟩
    | deviceError =>
      apply closeClientIfOpen_conserved
      exact ⟨h.forward, (by intro closing; cases closing), (by intro closing; cases closing),
        h.echo, h.live⟩
  · exact h

theorem closeDeviceIfOpen_streams (c : Connection δ) :
    (closeDeviceIfOpen c).fromClient = c.fromClient ∧
      (closeDeviceIfOpen c).toClient = c.toClient := by
  unfold closeDeviceIfOpen
  split
  · exact ⟨rfl, rfl⟩
  · exact ⟨rfl, rfl⟩

theorem closeClientIfOpen_streams (c : Connection δ) (code : Nat) (reason : String) :
    (closeClientIfOpen c code reason).fromClient = c.fromClient ∧
      (closeClientIfOpen c code reason).toClient = c.toClient := by
  unfold closeClientIfOpen
  split
  · exact ⟨rfl, rfl⟩
  · exact ⟨rfl, rfl⟩

/-- Only a frame of the client adds to what came from it. -/
theorem step_fromClient (c : Connection δ) {event : Event δ}
    (other : ∀ msg, event ≠ .clientMessage msg) :
    (TerminalProxy.step c event).fromClient = c.fromClient := by
  unfold TerminalProxy.step
  split
  · cases event with
    | clientMessage msg => exact absurd rfl (other msg)
    | clientClosing => rfl
    | clientClose => exact (closeDeviceIfOpen_streams _).1
    | clientError => exact (closeDeviceIfOpen_streams _).1
    | deviceOpen =>
      simp only [dispatch, onDeviceOpen]
      rw [flushPending_eq _ _ rfl]
    | deviceMessage msg =>
      simp only [dispatch, onDeviceMessage]
      split
      · rfl
      · rfl
    | deviceClosing => rfl
    | deviceClose => exact (closeClientIfOpen_streams _ _ _).1
    | deviceError => exact (closeClientIfOpen_streams _ _ _).1
  · rfl

theorem step_clientMessage {c : Connection δ} {msg : Message δ}
    (delivered : delivers c (.clientMessage msg) = true) :
    (TerminalProxy.step c (.clientMessage msg)).fromClient = c.fromClient ++ [msg] := by
  rw [TerminalProxy.step, if_pos delivered]
  simp only [dispatch, onClientMessage]
  split
  · rfl
  · rfl

/-- Nothing that was handed to the client is taken back. -/
theorem step_toClient (c : Connection δ) (event : Event δ) :
    c.toClient <+: (TerminalProxy.step c event).toClient := by
  unfold TerminalProxy.step
  split
  · cases event with
    | clientMessage msg =>
      simp only [dispatch, onClientMessage]
      split
      · exact List.prefix_rfl
      · exact List.prefix_rfl
    | clientClosing => exact List.prefix_rfl
    | clientClose =>
      rw [dispatch, (closeDeviceIfOpen_streams _).2]
    | clientError =>
      rw [dispatch, (closeDeviceIfOpen_streams _).2]
    | deviceOpen =>
      simp only [dispatch, onDeviceOpen]
      rw [flushPending_eq _ _ rfl]
    | deviceMessage msg =>
      simp only [dispatch, onDeviceMessage]
      split
      · exact List.prefix_append _ _
      · exact List.prefix_rfl
    | deviceClosing => exact List.prefix_rfl
    | deviceClose =>
      rw [dispatch, (closeClientIfOpen_streams _ _ _).2]
    | deviceError =>
      rw [dispatch, (closeClientIfOpen_streams _ _ _).2]
  · exact List.prefix_rfl

end Closing

/-! ## The widget -/

section Widget

open CompleteDeviceManagement.Source.TerminalWidget hiding step

theorem forward_extends (data : δ) (w : Widget δ) : w.sent <+: (forward data w).sent := by
  unfold forward
  split
  · exact List.prefix_rfl
  · split
    · exact List.prefix_append _ _
    · exact List.prefix_rfl

theorem keystroke_extends (data : δ) (w : Widget δ) : w.sent <+: (keystroke data w).sent := by
  have every : ∀ (n : Nat) (v : Widget δ), v.sent <+: ((forward data)^[n] v).sent := by
    intro n
    induction n with
    | zero =>
      intro v
      exact List.prefix_rfl
    | succ n ih =>
      intro v
      rw [Function.iterate_succ_apply]
      exact (forward_extends data v).trans (ih _)
  exact every w.onData w

/-- What was sent stays sent. -/
theorem step_extends (page : Page) (w : Widget δ) (event : TerminalWidget.Event δ) :
    w.sent <+: (TerminalWidget.step page w event).sent := by
  cases event with
  | keystroke data => exact keystroke_extends data w
  | _ =>
    rw [step_sent page w (by simp)]

end Widget

/-! ## The frames of one socket -/

theorem frames_append (socket : Nat) (before after : List (Nat × δ)) :
    frames socket (before ++ after) = frames socket before ++ frames socket after := by
  rw [frames, List.filter_append, List.map_append]
  rfl

theorem writtenFrom_append (socket other : Nat) (written : List (Nat × Message δ))
    (msg : Message δ) : writtenFrom socket (written ++ [(other, msg)]) =
      writtenFrom socket written ++ if other = socket then [msg] else [] := by
  rw [writtenFrom, List.filter_append, List.map_append, writtenFrom]
  congr 1
  by_cases same : other = socket
  · simp [same]
  · simp [same]

/-- What a longer list has behind a shorter one. -/
theorem append_drop {α : Type} {shorter longer : List α} (begins : shorter <+: longer) :
    shorter ++ longer.drop shorter.length = longer := by
  obtain ⟨rest, same⟩ := begins
  rw [← same, List.drop_left]

/-! ## The invariant of the whole path -/

/-- What the widget sent is at the proxy or on its way, and what the proxy handed
out is on the screen or on its way, each on its own socket. -/
structure Carried (p : Path δ) : Prop where
  proxied : ∀ socket, Conserved (p.proxied socket)
  upward : ∀ socket, (p.proxied socket).fromClient ++ p.up socket = frames socket p.widget.sent
  downward : ∀ socket,
    writtenFrom socket p.written ++ p.down socket = (p.proxied socket).toClient

theorem start_carried : Carried (start : Path δ) where
  proxied := fun _ => handleUpgrade_conserved
  upward := fun _ => rfl
  downward := fun _ => rfl

theorem atPage_carried (page : Page) {p : Path δ} (h : Carried p)
    (event : TerminalWidget.Event δ) : Carried (atPage page p event) where
  proxied := h.proxied
  upward := by
    intro socket
    have longer := append_drop (step_extends page p.widget event)
    simp only [atPage]
    rw [← List.append_assoc, h.upward, ← frames_append, longer]
  downward := h.downward

/-- An event at the proxy that is no frame of the client. -/
theorem atProxy_downward {p : Path δ} (h : Carried p) (socket : Nat)
    (event : TerminalProxy.Event δ) (other : Nat) :
    writtenFrom other (atProxy p socket event).written ++ (atProxy p socket event).down other =
      ((atProxy p socket event).proxied other).toClient := by
  have before := h.downward other
  simp only [atProxy]
  by_cases same : other = socket
  · rw [same, Function.update_self, Function.update_self]
    rw [same] at before
    rw [← List.append_assoc, before, append_drop (step_toClient _ event)]
  · rw [Function.update_of_ne same, Function.update_of_ne same]
    exact before

theorem atProxy_proxied {p : Path δ} (h : Carried p) (socket : Nat)
    (event : TerminalProxy.Event δ) (other : Nat) :
    Conserved ((atProxy p socket event).proxied other) := by
  simp only [atProxy]
  by_cases same : other = socket
  · rw [same, Function.update_self]
    exact step_conserved (h.proxied socket) event
  · rw [Function.update_of_ne same]
    exact h.proxied other

theorem atProxy_carried {p : Path δ} (h : Carried p) (socket : Nat)
    {event : TerminalProxy.Event δ} (no_frame : ∀ msg, event ≠ .clientMessage msg) :
    Carried (atProxy p socket event) where
  proxied := atProxy_proxied h socket event
  upward := by
    intro other
    have before := h.upward other
    simp only [atProxy]
    by_cases same : other = socket
    · rw [same] at before ⊢
      rw [Function.update_self, step_fromClient _ no_frame]
      exact before
    · rw [Function.update_of_ne same]
      exact before
  downward := atProxy_downward h socket event

/-- A frame leaves the network for the proxy. -/
theorem arrives_carried {p : Path δ} (h : Carried p) {socket : Nat} {msg : Message δ}
    {rest : List (Message δ)} (waiting : p.up socket = msg :: rest)
    (delivered : TerminalProxy.delivers (p.proxied socket) (.clientMessage msg) = true) :
    Carried { atProxy p socket (.clientMessage msg) with
      up := Function.update p.up socket rest } where
  proxied := atProxy_proxied h socket _
  upward := by
    intro other
    have before := h.upward other
    simp only [atProxy]
    by_cases same : other = socket
    · rw [same] at before ⊢
      rw [waiting] at before
      rw [Function.update_self, Function.update_self, step_clientMessage delivered,
        List.append_assoc]
      exact before
    · rw [Function.update_of_ne same, Function.update_of_ne same]
      exact before
  downward := atProxy_downward h socket _

/-- A frame leaves the network for the screen. -/
theorem shows_carried {p : Path δ} (h : Carried p) {socket : Nat} {msg : Message δ}
    {rest : List (Message δ)} (waiting : p.down socket = msg :: rest) :
    Carried { p with
      down := Function.update p.down socket rest
      written := p.written ++ [(socket, msg)] } where
  proxied := h.proxied
  upward := h.upward
  downward := by
    intro other
    have before := h.downward other
    simp only
    rw [writtenFrom_append]
    by_cases same : other = socket
    · rw [same] at before ⊢
      rw [waiting] at before
      rw [Function.update_self, if_pos rfl, List.append_assoc]
      exact before
    · rw [Function.update_of_ne same, if_neg (fun eq => same eq.symm), List.append_nil]
      exact before

theorem step_carried (page : Page) {p : Path δ} (h : Carried p) (event : PathEvent δ) :
    Carried (step page p event) := by
  cases event with
  | page event => exact atPage_carried page h event
  | arrives socket =>
    simp only [step]
    split
    · exact h
    next msg rest waiting =>
      split
      next delivered => exact arrives_carried h waiting delivered
      · exact h
  | proxy socket event =>
    cases event with
    | clientMessage msg => exact h
    | _ => exact atProxy_carried h socket (by simp)
  | shows socket =>
    simp only [step]
    split
    · exact h
    next msg rest waiting =>
      split
      · exact shows_carried h waiting
      · exact h

theorem run_carried (page : Page) {p : Path δ} (h : Carried p) (events : List (PathEvent δ)) :
    Carried (Runs.run (step page) p events) := by
  induction events generalizing p with
  | nil => exact h
  | cons event rest ih => exact ih (step_carried page h event)

def typedAt (p : Path δ) : PathEvent δ → List (Nat × δ)
  | .page event => typed p.widget event
  | _ => []

/-- The keystrokes of a run, each with the newest socket if that is open. -/
def keystrokes (page : Page) : Path δ → List (PathEvent δ) → List (Nat × δ)
  | _, [] => []
  | p, event :: rest => typedAt p event ++ keystrokes page (step page p event) rest

/-- The condition under which the widget sends a keystroke once. -/
def Calm (p : Path δ) : PathEvent δ → Prop
  | .page event => Undisturbed p.widget event
  | _ => True

/-- Away from the page the widget stays as it is. -/
theorem step_widget (page : Page) (p : Path δ) {event : PathEvent δ}
    (away : ∀ e, event ≠ .page e) : (step page p event).widget = p.widget := by
  cases event with
  | page event => exact absurd rfl (away event)
  | arrives socket =>
    simp only [step]
    split
    · rfl
    · split
      · rfl
      · rfl
  | proxy socket event =>
    cases event with
    | _ => rfl
  | shows socket =>
    simp only [step]
    split
    · rfl
    · split
      · rfl
      · rfl

theorem typedAt_away (p : Path δ) {event : PathEvent δ} (away : ∀ e, event ≠ .page e) :
    typedAt p event = [] := by
  cases event with
  | page event => exact absurd rfl (away event)
  | _ => rfl

theorem calm_step (page : Page) {p : Path δ} (current : Current p.widget) {event : PathEvent δ}
    (calm : Calm p event) : Current (step page p event).widget ∧
      (step page p event).widget.sent = p.widget.sent ++ typedAt p event := by
  by_cases isPage : ∃ e, event = .page e
  · obtain ⟨e, rfl⟩ := isPage
    have undisturbed : Undisturbed p.widget e := calm
    have lawful := (lawful_iff page current e).mpr undisturbed
    exact ⟨step_current page current undisturbed, lawful.sends⟩
  · have away : ∀ e, event ≠ .page e := by
      intro e same
      exact isPage ⟨e, same⟩
    rw [step_widget page p away, typedAt_away p away, List.append_nil]
    exact ⟨current, rfl⟩

theorem calm_run (page : Page) {p : Path δ} (current : Current p.widget)
    {events : List (PathEvent δ)} (calm : Runs.EveryStep (step page) Calm p events) :
    (Runs.run (step page) p events).widget.sent = p.widget.sent ++ keystrokes page p events := by
  induction events generalizing p with
  | nil =>
    rw [keystrokes, List.append_nil]
    rfl
  | cons event rest ih =>
    have one := calm_step page current calm.1
    have others := ih one.1 calm.2
    rw [one.2, List.append_assoc] at others
    exact others

/-- On a calm run every device is handed the keystrokes typed for its own socket,
in order and once each, up to those the proxy holds or that are under way. -/
theorem keystrokes_delivered (page : Page) (events : List (PathEvent δ))
    (calm : Runs.EveryStep (step page) Calm start events) (socket : Nat) :
    let p := Runs.run (step page) start events
    (p.proxied socket).toDevice ++ (p.proxied socket).pending ++ p.up socket =
      frames socket (keystrokes page start events) := by
  intro p
  have carried := run_carried page start_carried events
  have sent := calm_run page (p := start) initial_current calm
  rw [(carried.proxied socket).forward, carried.upward socket, sent]
  rfl

/-- Two letters: the first arrives before the device is open, the second is under way. -/
def session : List (PathEvent Char) :=
  [.page .connect, .page (.opened 0), .page (.keystroke 'l'), .arrives 0,
    .page (.keystroke 's'), .proxy 0 .deviceOpen]

theorem session_delivered :
    ((Runs.run (step TerminalKeystrokes.page) start session).proxied 0).toDevice = [⟨'l', false⟩] ∧
      ((Runs.run (step TerminalKeystrokes.page) start session).proxied 0).toDevice ++
          ((Runs.run (step TerminalKeystrokes.page) start session).proxied 0).pending ++
          (Runs.run (step TerminalKeystrokes.page) start session).up 0 =
        frames 0 (keystrokes TerminalKeystrokes.page start session) := by
  have calm : Runs.EveryStep (step TerminalKeystrokes.page) Calm start session := by
    refine ⟨trivial, ?_, fun _ => by decide +kernel, trivial, fun _ => by decide +kernel,
      trivial, trivial⟩
    intro older
    unfold Older at older
    exact absurd older (by decide +kernel)
  exact ⟨by decide +kernel, keystrokes_delivered _ session calm 0⟩

end CompleteDeviceManagement.Guarantees.TerminalStreams
