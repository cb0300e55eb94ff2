/-!
JSON values and their texts.

A number is kept as it is written, so that a value nobody looks at may hold a number of any size.
Fields keep their order, and a key may occur more than once. A text stands on one line, or each item on
a line of its own with two spaces of indentation for each level.
-/
set_option autoImplicit false

namespace ScrollTimeline

/-- The content of a JSON string; absent when an escape names half of a surrogate pair, which is no
character. -/
abbrev JsonText := Option String

inductive Json where
  | null
  | bool (value : Bool)
  | number (literal : String)
  | string (text : JsonText)
  | array (items : List Json)
  | object (fields : List (JsonText × Json))
deriving Inhabited

namespace Json

def ofString (s : String) : Json := .string (some s)

def ofNat (n : Nat) : Json := .number (toString n)

def ofFields (fields : List (String × Json)) : Json :=
  .object (fields.map fun (key, value) => (some key, value))

/-- The values that stand under a key, in order. -/
def under (key : String) (fields : List (JsonText × Json)) : List Json :=
  (fields.filter fun field => field.1 = some key).map Prod.snd

/-! ### Texts -/

def hexPair (n : Nat) : List Char := [Nat.digitChar (n / 16), Nat.digitChar (n % 16)]

def escape (c : Char) : List Char :=
  if c = '"' then ['\\', '"']
  else if c = '\\' then ['\\', '\\']
  else if c = '\x08' then ['\\', 'b']
  else if c = '\x0c' then ['\\', 'f']
  else if c = '\n' then ['\\', 'n']
  else if c = '\r' then ['\\', 'r']
  else if c = '\t' then ['\\', 't']
  else if c.toNat < 0x20 then ['\\', 'u', '0', '0'] ++ hexPair c.toNat
  else [c]

/-- A JSON string; half a surrogate pair cannot be written and leaves an empty string. -/
def quoted (text : JsonText) : List Char :=
  ['"'] ++ (text.getD "").toList.flatMap escape ++ ['"']

structure Spacing where
  before : Nat → List Char
  afterColon : List Char

def Spacing.compact : Spacing := ⟨fun _ => [], []⟩

def Spacing.indented : Spacing := ⟨fun depth => '\n' :: List.replicate (2 * depth) ' ', [' ']⟩

mutual

def chars (spacing : Spacing) (depth : Nat) : Json → List Char
  | .null => "null".toList
  | .bool true => "true".toList
  | .bool false => "false".toList
  | .number literal => literal.toList
  | .string text => quoted text
  | .array [] => ['[', ']']
  | .array (item :: items) =>
    ['['] ++ spacing.before (depth + 1) ++ item.chars spacing (depth + 1) ++
      charsOfItems spacing (depth + 1) items ++ spacing.before depth ++ [']']
  | .object [] => ['\x7b', '\x7d']
  | .object ((key, value) :: fields) =>
    ['\x7b'] ++ spacing.before (depth + 1) ++ quoted key ++ [':'] ++ spacing.afterColon ++
      value.chars spacing (depth + 1) ++ charsOfFields spacing (depth + 1) fields ++
      spacing.before depth ++ ['\x7d']

def charsOfItems (spacing : Spacing) (depth : Nat) : List Json → List Char
  | [] => []
  | item :: items =>
    [','] ++ spacing.before depth ++ item.chars spacing depth ++ charsOfItems spacing depth items

def charsOfFields (spacing : Spacing) (depth : Nat) : List (JsonText × Json) → List Char
  | [] => []
  | (key, value) :: fields =>
    [','] ++ spacing.before depth ++ quoted key ++ [':'] ++ spacing.afterColon ++
      value.chars spacing depth ++ charsOfFields spacing depth fields

end

def compact (json : Json) : String := String.ofList (json.chars .compact 0)

def indented (json : Json) : String := String.ofList (json.chars .indented 0)

end Json

end ScrollTimeline
