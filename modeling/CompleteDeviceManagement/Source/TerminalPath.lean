import CompleteDeviceManagement.Library.Runs
import CompleteDeviceManagement.Source.TerminalWidget
import Mathlib.Logic.Function.Basic

/-!
# From the widget through the proxy to ttyd, and back

Sources: tenant-stack/thingsboard/widgets/terminal-widget.html, `connect` with its
`onmessage`, and glue-services/terminal-proxy/src/server.ts. Every socket of the
widget has its own connection at the proxy, and a connection the proxy refuses is
one whose events do not come. Between the two frames keep their order; what is
under way when an end no longer takes it stays where it is.
-/

set_option autoImplicit false

namespace CompleteDeviceManagement.Source.TerminalPath
open CompleteDeviceManagement.Source.TerminalWidget (Page Widget initial)
open CompleteDeviceManagement.Source.TerminalProxy (Connection Message handleUpgrade)

variable {δ : Type}

/-- `written` is what `onmessage` gave the terminal, with the socket it came from. -/
structure Path (δ : Type) where
  widget : Widget δ
  proxied : Nat → Connection δ
  /-- sent by the widget and by the proxy, and not yet there -/
  up : Nat → List (Message δ)
  down : Nat → List (Message δ)
  written : List (Nat × Message δ)

inductive PathEvent (δ : Type) where
  | page (event : TerminalWidget.Event δ)
  /-- a frame of the widget reaches the proxy -/
  | arrives (socket : Nat)
  /-- any other event of the connection -/
  | proxy (socket : Nat) (event : TerminalProxy.Event δ)
  /-- a frame of the proxy reaches the widget -/
  | shows (socket : Nat)

def start : Path δ := ⟨initial, fun _ => handleUpgrade, fun _ => [], fun _ => [], []⟩

/-- `ws.send` of a string makes a text frame. -/
def frames (socket : Nat) (sent : List (Nat × δ)) : List (Message δ) :=
  (sent.filter fun s => s.1 == socket).map fun s => ⟨s.2, false⟩

def writtenFrom (socket : Nat) (written : List (Nat × Message δ)) : List (Message δ) :=
  (written.filter fun s => s.1 == socket).map Prod.snd

def atPage (page : Page) (p : Path δ) (event : TerminalWidget.Event δ) : Path δ :=
  let widget := TerminalWidget.step page p.widget event
  { p with
    widget := widget
    up := fun i => p.up i ++ frames i (widget.sent.drop p.widget.sent.length) }

def atProxy (p : Path δ) (socket : Nat) (event : TerminalProxy.Event δ) : Path δ :=
  let c := TerminalProxy.step (p.proxied socket) event
  { p with
    proxied := Function.update p.proxied socket c
    down := Function.update p.down socket
      (p.down socket ++ c.toClient.drop (p.proxied socket).toClient.length) }

def step (page : Page) (p : Path δ) : PathEvent δ → Path δ
  | .page event => atPage page p event
  | .arrives socket =>
      match p.up socket with
      | [] => p
      | msg :: rest =>
          if TerminalProxy.delivers (p.proxied socket) (.clientMessage msg) then
            { atProxy p socket (.clientMessage msg) with up := Function.update p.up socket rest }
          else p
  | .proxy _ (.clientMessage _) => p
  | .proxy socket event => atProxy p socket event
  | .shows socket =>
      match p.down socket with
      | [] => p
      | msg :: rest =>
          -- a browser drops what comes for a socket that is not open
          if p.widget.stateOf socket = some .OPEN then
            { p with
              down := Function.update p.down socket rest
              written := p.written ++ [(socket, msg)] }
          else p

end CompleteDeviceManagement.Source.TerminalPath
