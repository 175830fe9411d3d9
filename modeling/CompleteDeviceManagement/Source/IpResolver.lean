import CompleteDeviceManagement.Source.PeersFile

/-!
# terminal-proxy: the resolver among the objects of JavaScript

Source: glue-services/terminal-proxy/src/ipResolver.ts, `createFileIpResolver`.
`JSON.parse` makes every member of an object an own property, `__proto__` as
well, and what is no own property is looked for on `Object.prototype`. How a
parsed value that is no object is indexed, and what text a value other than a
text becomes in a template, is left to the engine.
-/

set_option autoImplicit false

namespace CompleteDeviceManagement.Source.IpResolver
open CompleteDeviceManagement.Library

/-- A value of the file, or what `Object.prototype` has under a name: a
function, or under `__proto__` itself. -/
inductive JsValue where
  | parsed (value : Json)
  | builtin (name : String)

structure Engine where
  /-- `value[name]` for a value that is neither an object nor null -/
  indexed : Json → String → Option JsValue
  /-- a number with a fraction or an exponent is zero -/
  zero : String → Bool
  /-- the text of a value other than a text; `none` where the conversion throws -/
  template : Json → Option String

def objectPrototypeNames : List String :=
  ["constructor", "__defineGetter__", "__defineSetter__", "hasOwnProperty", "__lookupGetter__",
    "__lookupSetter__", "isPrototypeOf", "propertyIsEnumerable", "toString", "valueOf",
    "__proto__", "toLocaleString"]

def objectPrototype (name : String) : Option JsValue :=
  if name ∈ objectPrototypeNames then some (.builtin name) else none

/-- `object[name]`: an own property, or else one of the prototype. -/
def property (fields : List (String × Json)) (name : String) : Option JsValue :=
  match Json.field? name fields with
  | some value => some (.parsed value)
  | none => objectPrototype name

def JsValue.nullish : JsValue → Bool
  | .parsed .null => true
  | _ => false

section Resolver

variable (engine : Engine)

/-- `peers[deviceId]`; a property of null throws. -/
def lookup (deviceId : String) : Json → Option JsValue
  | .null => none
  | .obj fields => property fields deviceId
  | value => engine.indexed value deviceId

/-- `resolve`, where null is `none`; `content` is what `readFileSync` returns, and
`none` where it throws. -/
def resolve (content : Option String) (deviceId : String) : Option JsValue :=
  match content.bind JsonText.parse with
  | none => none
  | some peers => (lookup engine deviceId peers).filter fun value => !value.nullish

/-- `Boolean(value)` -/
def truthy : JsValue → Bool
  | .parsed .null => false
  | .parsed (.bool b) => b
  | .parsed (.int n) => n != 0
  | .parsed (.float text) => !engine.zero text
  | .parsed (.str s) => s != ""
  | .parsed (.arr _) => true
  | .parsed (.obj _) => true
  | .builtin _ => true

/-- What a template puts in the place of the value. -/
def textOf : JsValue → Option String
  | .parsed (.str s) => some s
  | .parsed value => engine.template value
  | .builtin name => TerminalUpgrade.inherited name

end Resolver

end CompleteDeviceManagement.Source.IpResolver
