import CompleteDeviceManagement.Library.JsonText
import CompleteDeviceManagement.Library.WebUrl
import CompleteDeviceManagement.Source.TerminalUpgrade

/-!
# The URL of a terminal, written and read

Sources: tenant-stack/thingsboard/widgets/terminal-widget.html, the URL that
`connect` makes, and glue-services/terminal-proxy/src/server.ts, `new URL(rawUrl,
"ws://localhost")`. Strings of JavaScript are sequences of UTF-16 code units; the
URL is text.
-/

set_option autoImplicit false

namespace CompleteDeviceManagement.Source.TerminalUrl
open CompleteDeviceManagement.Library

abbrev JsString := List UInt16

/-- The text of a string, if no surrogate in it stands alone. -/
def textOf (s : JsString) : Option Url.Text := JsonText.chars (s.map UInt16.toNat)

/-- What `encodeURIComponent` leaves as it is. -/
def unreserved (c : Char) : Bool :=
  c.isAlphanum || c ∈ ['-', '_', '.', '!', '~', '*', '\'', '(', ')']

/-- `encodeURIComponent(s)`, which throws at a lone surrogate. -/
def encodeURIComponent (s : JsString) : Option Url.Text := (textOf s).map (Url.escape unreserved)

/-- The `url` of `connect`. -/
def terminalUrl (proxyHost proxyPort : String) (deviceId jwtToken : JsString) :
    Option Url.Text := do
  let device ← encodeURIComponent deviceId
  let token ← encodeURIComponent jwtToken
  some ("ws://".toList ++ (proxyHost.toList ++ ':' :: (proxyPort.toList ++
    ("/terminal/".toList ++ (device ++ ("?token=".toList ++ token))))))

/-- What the URL parser of Node is asked beyond paths: references that are not
absolute paths, and bytes that are no UTF-8. -/
structure UrlParser where
  elsewhere : String → Option TerminalUpgrade.Url
  malformed : List UInt8 → Url.Text

def UrlParser.decode (parser : UrlParser) (bytes : List UInt8) : String :=
  .ofList ((Utf8.decode bytes).getD (parser.malformed bytes))

/-- `new URL(rawUrl, "ws://localhost")` -/
def newUrl (parser : UrlParser) (rawUrl : String) : Option TerminalUpgrade.Url :=
  match WebUrl.readAbsolute rawUrl.toList with
  | none => parser.elsewhere rawUrl
  | some parsed => some
      { pathname := .ofList parsed.pathname
        searchParams := (Url.pairs (parsed.query.getD [])).map fun pair =>
          (parser.decode pair.1, parser.decode pair.2) }

end CompleteDeviceManagement.Source.TerminalUrl
