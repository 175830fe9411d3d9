import Mathlib.Data.List.Basic

/-!
# JSON values as Python sees them

What `json.loads` returns, the operations a program applies to such a value
without checking its type first, and the exceptions they raise. Text operations
that depend on the Unicode database are fields of `PyText`, with the laws that
hold of ASCII in every version of it.
-/

set_option autoImplicit false

namespace CompleteDeviceManagement.Library

/-- Exceptions of the language itself, with the text of `str(exc)`; a
`KeyError` prints the `repr` of its key. -/
inductive PyError where
  | keyError (key : String)
  | indexError (text : String)
  | valueError (text : String)
  | attributeError (text : String)
  | typeError (text : String)
  deriving DecidableEq, Repr

/-! ## Text -/

namespace Ascii

def isUpper (c : Char) : Bool := 'A' ≤ c && c ≤ 'Z'

def isLower (c : Char) : Bool := 'a' ≤ c && c ≤ 'z'

def isDigit (c : Char) : Bool := '0' ≤ c && c ≤ '9'

def isAlnum (c : Char) : Bool := isUpper c || isLower c || isDigit c

def isSpace (c : Char) : Bool := c.toNat == 32 || (9 ≤ c.toNat && c.toNat ≤ 13) ||
  (28 ≤ c.toNat && c.toNat ≤ 31)

def toLower (c : Char) : Char := if isUpper c then Char.ofNat (c.toNat + 32) else c

end Ascii

/-- The Unicode database and the text functions built on it. -/
structure PyText where
  isAlnum : Char → Bool
  isLower : Char → Bool
  isUpper : Char → Bool
  isTitle : Char → Bool
  isSpace : Char → Bool
  xidStart : Char → Bool
  xidContinue : Char → Bool
  lower : String → String
  capitalize : String → String
  repr : String → String
  alnum_ascii : ∀ c, c.toNat < 128 → isAlnum c = Ascii.isAlnum c
  lower_ascii : ∀ c, c.toNat < 128 → isLower c = Ascii.isLower c
  upper_ascii : ∀ c, c.toNat < 128 → isUpper c = Ascii.isUpper c
  title_ascii : ∀ c, c.toNat < 128 → isTitle c = false
  space_ascii : ∀ c, c.toNat < 128 → isSpace c = Ascii.isSpace c
  start_ascii : ∀ c, c.toNat < 128 → xidStart c = (Ascii.isUpper c || Ascii.isLower c)
  continue_ascii : ∀ c, c.toNat < 128 → xidContinue c = (Ascii.isAlnum c || c == '_')
  lower_text : ∀ s : String, (∀ c ∈ s.toList, c.toNat < 128) →
    lower s = .ofList (s.toList.map Ascii.toLower)

namespace PyText

variable (py : PyText)

/-- `s.isalnum()` -/
def isalnum (s : String) : Bool := s.toList ≠ [] && s.toList.all py.isAlnum

/-- `s.islower()`: a lowercase character, and none that is upper or title case. -/
def islower (s : String) : Bool :=
  s.toList.all (fun c => !(py.isUpper c || py.isTitle c)) && s.toList.any py.isLower

/-- `s.isidentifier()` -/
def isidentifier (s : String) : Bool :=
  match s.toList with
  | [] => false
  | c :: rest => (py.xidStart c || c == '_') && rest.all py.xidContinue

/-- `s.strip()` -/
def strip (s : String) : String :=
  .ofList ((s.toList.dropWhile py.isSpace).reverse.dropWhile py.isSpace).reverse

/-- A hyphen is in no identifier. -/
theorem hyphen_not_mem_identifier {s : String} (h : py.isidentifier s = true) :
    '-' ∉ s.toList := by
  unfold isidentifier at h
  split at h
  · cases h
  next c rest hs =>
    rw [Bool.and_eq_true, List.all_eq_true] at h
    rw [hs, List.mem_cons]
    rintro (rfl | hmem)
    · have hstart := py.start_ascii '-' (by decide)
      have hfalse : (Ascii.isUpper '-' || Ascii.isLower '-') = false := by decide
      rw [hfalse] at hstart
      have hfirst := h.1
      rw [hstart] at hfirst
      exact absurd hfirst (by decide)
    · have hcontinue := h.2 '-' hmem
      rw [py.continue_ascii '-' (by decide)] at hcontinue
      exact absurd hcontinue (by decide)

/-- The tables cut down to ASCII. -/
def ascii : PyText where
  isAlnum := Ascii.isAlnum
  isLower := Ascii.isLower
  isUpper := Ascii.isUpper
  isTitle := fun _ => false
  isSpace := Ascii.isSpace
  xidStart := fun c => Ascii.isUpper c || Ascii.isLower c
  xidContinue := fun c => Ascii.isAlnum c || c == '_'
  lower := fun s => .ofList (s.toList.map Ascii.toLower)
  capitalize := fun s => s
  repr := fun s => "'" ++ s ++ "'"
  alnum_ascii := fun _ _ => rfl
  lower_ascii := fun _ _ => rfl
  upper_ascii := fun _ _ => rfl
  title_ascii := fun _ _ => rfl
  space_ascii := fun _ _ => rfl
  start_ascii := fun _ _ => rfl
  continue_ascii := fun _ _ => rfl
  lower_text := fun _ _ => rfl

end PyText

/-! ## Values -/

/-- A float is kept as the text `repr` gives it; an object lists its members in
order, each name once. -/
inductive Json where
  | null
  | bool (b : Bool)
  | int (n : Int)
  | float (text : String)
  | str (s : String)
  | arr (items : List Json)
  | obj (fields : List (String × Json))

namespace Json

def typeName : Json → String
  | .null => "NoneType"
  | .bool _ => "bool"
  | .int _ => "int"
  | .float _ => "float"
  | .str _ => "str"
  | .arr _ => "list"
  | .obj _ => "dict"

def truthy : Json → Bool
  | .null => false
  | .bool b => b
  | .int n => n != 0
  | .float text => text != "0.0" && text != "-0.0"
  | .str s => s != ""
  | .arr items => !items.isEmpty
  | .obj fields => !fields.isEmpty

/-- `value == s` for a text `s`. -/
def isText (s : String) : Json → Bool
  | .str t => t == s
  | _ => false

def field? (key : String) (fields : List (String × Json)) : Option Json :=
  (fields.find? fun member => member.1 == key).map Prod.snd

/-- `value.get(key, default)` -/
def get (value : Json) (key : String) (fallback : Json) : Except PyError Json :=
  match value with
  | .obj fields => .ok ((field? key fields).getD fallback)
  | v => .error (.attributeError ("'" ++ v.typeName ++ "' object has no attribute 'get'"))

/-- `value[key]` for a text `key`. -/
def item (value : Json) (key : String) : Except PyError Json :=
  match value with
  | .obj fields =>
      match field? key fields with
      | some v => .ok v
      | none => .error (.keyError key)
  | .arr _ => .error (.typeError "list indices must be integers or slices, not str")
  | .str _ => .error (.typeError "string indices must be integers, not 'str'")
  | v => .error (.typeError ("'" ++ v.typeName ++ "' object is not subscriptable"))

/-- `value[0]` -/
def first (value : Json) : Except PyError Json :=
  match value with
  | .arr (v :: _) => .ok v
  | .arr [] => .error (.indexError "list index out of range")
  | .str s =>
      match s.toList with
      | c :: _ => .ok (.str (.ofList [c]))
      | [] => .error (.indexError "string index out of range")
  | .obj _ => .error (.keyError "0")
  | v => .error (.typeError ("'" ++ v.typeName ++ "' object is not subscriptable"))

/-- What `for x in value` goes over. -/
def iter (value : Json) : Except PyError (List Json) :=
  match value with
  | .arr items => .ok items
  | .obj fields => .ok (fields.map fun member => .str member.1)
  | .str s => .ok (s.toList.map fun c => .str (.ofList [c]))
  | v => .error (.typeError ("'" ++ v.typeName ++ "' object is not iterable"))

def hashable : Json → Bool
  | .arr _ => false
  | .obj _ => false
  | _ => true

/-- `bool(set(value) & names)` -/
def meets (value : Json) (names : List String) : Except PyError Bool := do
  let items ← value.iter
  match items.find? fun v => !v.hashable with
  | some v => .error (.typeError ("unhashable type: '" ++ v.typeName ++ "'"))
  | none => .ok (items.any fun v => names.any fun name => v.isText name)

mutual

/-- `repr(value)` -/
def repr (py : PyText) : Json → String
  | .null => "None"
  | .bool true => "True"
  | .bool false => "False"
  | .int n => toString n
  | .float text => text
  | .str s => py.repr s
  | .arr items => "[" ++ reprItems py items ++ "]"
  | .obj fields => "\x7b" ++ reprFields py fields ++ "\x7d"

def reprItems (py : PyText) : List Json → String
  | [] => ""
  | [v] => repr py v
  | v :: rest => repr py v ++ ", " ++ reprItems py rest

def reprFields (py : PyText) : List (String × Json) → String
  | [] => ""
  | [(key, v)] => py.repr key ++ ": " ++ repr py v
  | (key, v) :: rest => py.repr key ++ ": " ++ repr py v ++ ", " ++ reprFields py rest

end

/-- `str(value)` -/
def text (py : PyText) : Json → String
  | .str s => s
  | v => v.repr py

/-- A text member that may be `None`. -/
def ofOption : Option String → Json
  | some s => .str s
  | none => .null

end Json

end CompleteDeviceManagement.Library
