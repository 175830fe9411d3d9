import CompleteDeviceManagement.Source.TerminalProxy
import CompleteDeviceManagement.Source.TerminalUrl

/-!
# The terminal widget

Source: tenant-stack/thingsboard/widgets/terminal-widget.html, `connect`,
`disconnect` and `setStatus`. Handlers of the terminal stay registered until the
page goes; the browser delivers `open` to a socket that is connecting, and
`close` once to every socket, whenever it is done with it. What the widget
writes into its own terminal is left out.
-/

set_option autoImplicit false

namespace CompleteDeviceManagement.Source.TerminalWidget
open CompleteDeviceManagement.Library CompleteDeviceManagement.Source.TerminalUrl
open CompleteDeviceManagement.Source.TerminalProxy (ReadyState)

/-- What the page has when a button is clicked: the settings, and whether the
browser takes a URL for a `new WebSocket`. -/
structure Page where
  deviceId : JsString
  jwtToken : JsString
  proxyHost : String
  proxyPort : String
  takes : Url.Text → Bool

structure Socket where
  url : Url.Text
  readyState : ReadyState
  /-- the close event has been delivered -/
  ended : Bool

/-- `ws` is the place of its socket among those created so far. -/
structure Widget (δ : Type) where
  sockets : List Socket
  ws : Option Nat
  /-- the displayed status is Connected -/
  connected : Bool
  /-- callbacks given to `term.onData` -/
  onData : Nat
  /-- data given to `send`, with the socket it was sent on -/
  sent : List (Nat × δ)

inductive Event (δ : Type) where
  | connect
  | disconnect
  | keystroke (data : δ)
  | opened (socket : Nat)
  /-- the other side has begun to close -/
  | closing (socket : Nat)
  | error (socket : Nat)
  | closed (socket : Nat)

variable {δ : Type}

def initial : Widget δ := ⟨[], none, false, 0, []⟩

def Widget.stateOf (w : Widget δ) (socket : Nat) : Option ReadyState :=
  (w.sockets[socket]?).map Socket.readyState

def Widget.setState (w : Widget δ) (socket : Nat) (state : ReadyState) : Widget δ :=
  { w with sockets := w.sockets.modify socket fun s => { s with readyState := state } }

def setStatus (connected : Bool) (w : Widget δ) : Widget δ := { w with connected := connected }

/-- `encodeURIComponent` and the constructor may throw, and then `ws` stays. -/
def connect (page : Page) (w : Widget δ) : Widget δ :=
  if page.deviceId = [] then w
  else if page.jwtToken = [] then w
  else
    match terminalUrl page.proxyHost page.proxyPort page.deviceId page.jwtToken with
    | none => w
    | some url =>
        if page.takes url then
          { w with
            sockets := w.sockets ++ [⟨url, .CONNECTING, false⟩]
            ws := some w.sockets.length }
        else w

/-- `ws.close(1000, 'User disconnected')` is without effect on a socket that is
closing or closed. -/
def disconnect (w : Widget δ) : Widget δ :=
  match w.ws with
  | none => w
  | some socket =>
      match w.stateOf socket with
      | some .CONNECTING => { w.setState socket .CLOSING with ws := none }
      | some .OPEN => { w.setState socket .CLOSING with ws := none }
      | _ => { w with ws := none }

/-- One callback of `term.onData`. -/
def forward (data : δ) (w : Widget δ) : Widget δ :=
  match w.ws with
  | none => w
  | some socket =>
      if w.stateOf socket = some .OPEN then { w with sent := w.sent ++ [(socket, data)] } else w

/-- The terminal calls every callback it was given. -/
def keystroke (data : δ) (w : Widget δ) : Widget δ := (forward data)^[w.onData] w

def onopen (w : Widget δ) : Widget δ :=
  let shown := setStatus true w
  { shown with onData := shown.onData + 1 }

def onclose (w : Widget δ) : Widget δ := { setStatus false w with ws := none }

def onerror (w : Widget δ) : Widget δ := setStatus false w

/-! ## Events -/

/-- What a browser can deliver. -/
def delivers (w : Widget δ) : Event δ → Bool
  | .opened socket => w.stateOf socket = some .CONNECTING
  | .closing socket => w.stateOf socket = some .OPEN
  | .error socket =>
      match w.stateOf socket with
      | none => false
      | some state => state ≠ .CLOSED
  | .closed socket =>
      match w.sockets[socket]? with
      | none => false
      | some s => !s.ended
  | _ => true

/-- The socket changes its state, and its handler runs. -/
def dispatch (page : Page) (w : Widget δ) : Event δ → Widget δ
  | .connect => connect page w
  | .disconnect => disconnect w
  | .keystroke data => keystroke data w
  | .opened socket => onopen (w.setState socket .OPEN)
  | .closing socket => w.setState socket .CLOSING
  | .error socket => onerror (w.setState socket .CLOSED)
  | .closed socket => onclose
      { w with sockets := w.sockets.modify socket fun s =>
          { s with readyState := .CLOSED, ended := true } }

def step (page : Page) (w : Widget δ) (event : Event δ) : Widget δ :=
  if delivers w event then dispatch page w event else w

end CompleteDeviceManagement.Source.TerminalWidget
