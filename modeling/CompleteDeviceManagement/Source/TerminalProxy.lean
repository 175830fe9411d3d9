import Mathlib.Data.List.Basic

/-!
# terminal-proxy: one proxied connection

Source: glue-services/terminal-proxy/src/server.ts, the `handleUpgrade`
callback of `createProxyServer`. The two sockets are `ws` sockets: `readyState`
moves CONNECTING → OPEN → CLOSING → CLOSED, `error` puts a socket into CLOSING
and is followed by `close`, a close frame of the peer puts it into CLOSING
before `close` is delivered, and `close()` moves an OPEN socket to CLOSING.
The client socket is already OPEN when the callback runs; the device socket
starts in CONNECTING. An event that `ws` cannot deliver in the state a socket
is in changes nothing.
-/

set_option autoImplicit false

namespace CompleteDeviceManagement.Source.TerminalProxy

inductive ReadyState where
  | CONNECTING | OPEN | CLOSING | CLOSED
  deriving DecidableEq, Repr

structure Message (δ : Type) where
  data : δ
  isBinary : Bool
  deriving DecidableEq, Repr

inductive Event (δ : Type) where
  | clientMessage (msg : Message δ)
  | clientClosing
  | clientClose
  | clientError
  | deviceOpen
  | deviceMessage (msg : Message δ)
  | deviceClosing
  | deviceClose
  | deviceError
  deriving Repr

/-- `clientWs`, `deviceWs`, `pending` and whether the device's message listener
is registered; the remaining fields record what has happened on the two sockets. -/
structure Connection (δ : Type) where
  client : ReadyState
  device : ReadyState
  pending : List (Message δ)
  listening : Bool
  /-- messages `ws` delivered from the client and from the device -/
  fromClient : List (Message δ)
  fromDevice : List (Message δ)
  /-- messages handed to `deviceWs.send` and to `clientWs.send` -/
  toDevice : List (Message δ)
  toClient : List (Message δ)
  /-- `deviceWs.close()` and `clientWs.close(code, reason)` calls -/
  deviceCloses : Nat
  clientCloses : List (Nat × String)
  /-- a close or error event has been delivered on that side -/
  clientEnded : Bool
  deviceEnded : Bool

variable {δ : Type}

def handleUpgrade : Connection δ where
  client := .OPEN
  device := .CONNECTING
  pending := []
  listening := false
  fromClient := []
  fromDevice := []
  toDevice := []
  toClient := []
  deviceCloses := 0
  clientCloses := []
  clientEnded := false
  deviceEnded := false

/-! ## What ws can deliver -/

def ReadyState.live : ReadyState → Bool
  | .OPEN => true
  | .CLOSING => true
  | .CONNECTING => false
  | .CLOSED => false

def delivers (c : Connection δ) : Event δ → Bool
  | .clientMessage _ => c.client.live
  | .clientClosing => c.client == .OPEN
  | .clientClose => c.client != .CLOSED
  | .clientError => c.client != .CLOSED
  | .deviceOpen => c.device == .CONNECTING
  | .deviceMessage _ => c.device.live && c.listening
  | .deviceClosing => c.device == .OPEN
  | .deviceClose => c.device != .CLOSED
  | .deviceError => c.device != .CLOSED

/-! ## The calls the handlers make -/

def deviceSend (c : Connection δ) (msg : Message δ) : Connection δ :=
  { c with toDevice := c.toDevice ++ [msg] }

def clientSend (c : Connection δ) (msg : Message δ) : Connection δ :=
  { c with toClient := c.toClient ++ [msg] }

/-- `if (deviceWs.readyState === WebSocket.OPEN) deviceWs.close()` -/
def closeDeviceIfOpen (c : Connection δ) : Connection δ :=
  if c.device = .OPEN then { c with device := .CLOSING, deviceCloses := c.deviceCloses + 1 } else c

/-- `if (clientWs.readyState === WebSocket.OPEN) clientWs.close(code, reason)` -/
def closeClientIfOpen (c : Connection δ) (code : Nat) (reason : String) : Connection δ :=
  if c.client = .OPEN then
    { c with client := .CLOSING, clientCloses := c.clientCloses ++ [(code, reason)] }
  else c

/-- `clientWs.on("message")` -/
def onClientMessage (c : Connection δ) (msg : Message δ) : Connection δ :=
  if c.device = .OPEN then deviceSend c msg else { c with pending := c.pending ++ [msg] }

/-- The loop of the open handler over the buffered messages. -/
def flushPending (c : Connection δ) : List (Message δ) → Connection δ
  | [] => c
  | msg :: rest => flushPending (if c.device = .OPEN then deviceSend c msg else c) rest

/-- `deviceWs.on("open")` -/
def onDeviceOpen (c : Connection δ) : Connection δ :=
  { flushPending c c.pending with pending := [], listening := true }

/-- `deviceWs.on("message")`, registered by the open handler. -/
def onDeviceMessage (c : Connection δ) (msg : Message δ) : Connection δ :=
  if c.client = .OPEN then clientSend c msg else c

/-! ## One event -/

/-- The state change `ws` makes when it delivers the event, then the handler. -/
def dispatch (c : Connection δ) : Event δ → Connection δ
  | .clientMessage msg => onClientMessage { c with fromClient := c.fromClient ++ [msg] } msg
  | .clientClosing => { c with client := .CLOSING }
  | .clientClose => closeDeviceIfOpen { c with client := .CLOSED, clientEnded := true }
  | .clientError => closeDeviceIfOpen { c with client := .CLOSING, clientEnded := true }
  | .deviceOpen => onDeviceOpen { c with device := .OPEN }
  | .deviceMessage msg => onDeviceMessage { c with fromDevice := c.fromDevice ++ [msg] } msg
  | .deviceClosing => { c with device := .CLOSING }
  | .deviceClose =>
      closeClientIfOpen { c with device := .CLOSED, deviceEnded := true } 1001
        "Device disconnected"
  | .deviceError =>
      closeClientIfOpen { c with device := .CLOSING, deviceEnded := true } 1011
        "Device connection error"

def step (c : Connection δ) (event : Event δ) : Connection δ :=
  if delivers c event then dispatch c event else c

def run (events : List (Event δ)) : Connection δ := events.foldl step handleUpgrade

/-- The device refuses the connection: the client is told 1011 and its socket
is closing when the device socket reports its own close. -/
example : (run [Event.clientMessage ⟨1, true⟩, .deviceError, .deviceClose]).clientCloses =
    [(1011, "Device connection error")] := by rfl

end CompleteDeviceManagement.Source.TerminalProxy
