import ScrollTimeline.Json.Basic

/-!
Reading a JSON text.

The grammar is strict: no comments, no trailing commas, no control characters inside strings, no
leading zeros, and nothing but white space after the value. Each reader takes what it needs from the
front of the text and answers what is left.
-/
set_option autoImplicit false

namespace ScrollTimeline.Json

def isBlank (c : Char) : Bool := c = ' ' || c = '\n' || c = '\t' || c = '\r'

def skipBlanks (text : List Char) : List Char := text.dropWhile isBlank

def takeWord : List Char → List Char → Option (List Char)
  | [], text => some text
  | c :: word, d :: text => if c = d then takeWord word text else none
  | _ :: _, [] => none

def takeDigits (text : List Char) : Option (List Char × List Char) :=
  let digits := text.takeWhile Char.isDigit
  if digits = [] then none else some (digits, text.dropWhile Char.isDigit)

/-- The digits before the point; a zero stands alone. -/
def takeWhole : List Char → Option (List Char × List Char)
  | '0' :: rest => if (rest.headD ' ').isDigit then none else some (['0'], rest)
  | text => takeDigits text

def takePoint : List Char → Option (List Char × List Char)
  | '.' :: rest => (takeDigits rest).map fun (digits, rest) => ('.' :: digits, rest)
  | text => some ([], text)

def takeExponentSign : List Char → List Char × List Char
  | '-' :: rest => (['-'], rest)
  | '+' :: rest => (['+'], rest)
  | text => ([], text)

def takeExponent : List Char → Option (List Char × List Char)
  | c :: text =>
    if c = 'e' ∨ c = 'E' then
      let (sign, rest) := takeExponentSign text
      (takeDigits rest).map fun (digits, rest) => (c :: sign ++ digits, rest)
    else some ([], c :: text)
  | [] => some ([], [])

def takeUnsigned (text : List Char) : Option (List Char × List Char) := do
  let (whole, rest) ← takeWhole text
  let (fraction, rest) ← takePoint rest
  let (exponent, rest) ← takeExponent rest
  return (whole ++ fraction ++ exponent, rest)

def takeNumber : List Char → Option (Json × List Char)
  | '-' :: text =>
    (takeUnsigned text).map fun (literal, rest) => (.number (String.ofList ('-' :: literal)), rest)
  | text => (takeUnsigned text).map fun (literal, rest) => (.number (String.ofList literal), rest)

def hexDigit? (c : Char) : Option Nat :=
  if c.isDigit then some (c.toNat - '0'.toNat)
  else if 'a' ≤ c ∧ c ≤ 'f' then some (c.toNat - 'a'.toNat + 10)
  else if 'A' ≤ c ∧ c ≤ 'F' then some (c.toNat - 'A'.toNat + 10)
  else none

def hexQuad? (a b c d : Char) : Option Nat := do
  let a ← hexDigit? a
  let b ← hexDigit? b
  let c ← hexDigit? c
  let d ← hexDigit? d
  return ((a * 16 + b) * 16 + c) * 16 + d

def shortEscape? : Char → Option Char
  | '"' => some '"'
  | '\\' => some '\\'
  | '/' => some '/'
  | 'b' => some '\x08'
  | 'f' => some '\x0c'
  | 'n' => some '\n'
  | 'r' => some '\r'
  | 't' => some '\t'
  | _ => none

/-- What has been read of a string: its characters, last one first, whether all of them are
characters, and the first half of a surrogate pair that waits for its second half. -/
structure Gathered where
  reversed : List Char
  sound : Bool
  half : Option Nat

namespace Gathered

def empty : Gathered := ⟨[], true, none⟩

/-- A first half that no second half follows makes the string unsound. -/
def settle (g : Gathered) : Gathered := { g with sound := g.sound && g.half.isNone, half := none }

def push (g : Gathered) (c : Char) : Gathered :=
  let settled := g.settle
  { settled with reversed := c :: settled.reversed }

def pushUnit (g : Gathered) (unit : Nat) : Gathered :=
  if 0xdc00 ≤ unit ∧ unit ≤ 0xdfff then
    match g.half with
    | some high =>
      { g with
        reversed := Char.ofNat (0x10000 + (high - 0xd800) * 0x400 + (unit - 0xdc00)) :: g.reversed
        half := none }
    | none => { g with sound := false }
  else if 0xd800 ≤ unit ∧ unit ≤ 0xdbff then { g.settle with half := some unit }
  else g.push (Char.ofNat unit)

def text (g : Gathered) : JsonText :=
  let settled := g.settle
  if settled.sound then some (String.ofList settled.reversed.reverse) else none

end Gathered

def takeString (g : Gathered) : List Char → Option (JsonText × List Char)
  | '"' :: rest => some (g.text, rest)
  | '\\' :: 'u' :: a :: b :: c :: d :: rest =>
    match hexQuad? a b c d with
    | some unit => takeString (g.pushUnit unit) rest
    | none => none
  | '\\' :: e :: rest =>
    match shortEscape? e with
    | some c => takeString (g.push c) rest
    | none => none
  | c :: rest => if c.toNat < 0x20 ∨ c = '\\' then none else takeString (g.push c) rest
  | [] => none

def takeKey : List Char → Option (JsonText × List Char)
  | '"' :: rest =>
    match takeString .empty rest with
    | some (key, rest) =>
      match skipBlanks rest with
      | ':' :: rest => some (key, rest)
      | _ => none
    | none => none
  | _ => none

mutual

/-- A value, after any white space. The first argument bounds the depth of the steps; twice the length
of the text is enough, since each two of them take a character. -/
def takeValue : Nat → List Char → Option (Json × List Char)
  | 0, _ => none
  | fuel + 1, text =>
    match skipBlanks text with
    | '"' :: rest => (takeString .empty rest).map fun (text, rest) => (.string text, rest)
    | '[' :: rest =>
      match skipBlanks rest with
      | ']' :: rest => some (.array [], rest)
      | rest => (takeItems fuel rest).map fun (items, rest) => (.array items, rest)
    | '\x7b' :: rest =>
      match skipBlanks rest with
      | '\x7d' :: rest => some (.object [], rest)
      | rest => (takeFields fuel rest).map fun (fields, rest) => (.object fields, rest)
    | 'n' :: rest => (takeWord "ull".toList rest).map fun rest => (.null, rest)
    | 't' :: rest => (takeWord "rue".toList rest).map fun rest => (.bool true, rest)
    | 'f' :: rest => (takeWord "alse".toList rest).map fun rest => (.bool false, rest)
    | rest => takeNumber rest

def takeItems : Nat → List Char → Option (List Json × List Char)
  | 0, _ => none
  | fuel + 1, text => do
    let (item, rest) ← takeValue fuel text
    match skipBlanks rest with
    | ',' :: rest =>
      let (items, rest) ← takeItems fuel rest
      return (item :: items, rest)
    | ']' :: rest => return ([item], rest)
    | _ => none

def takeFields : Nat → List Char → Option (List (JsonText × Json) × List Char)
  | 0, _ => none
  | fuel + 1, text => do
    let (key, rest) ← takeKey (skipBlanks text)
    let (value, rest) ← takeValue fuel rest
    match skipBlanks rest with
    | ',' :: rest =>
      let (fields, rest) ← takeFields fuel rest
      return ((key, value) :: fields, rest)
    | '\x7d' :: rest => return ([(key, value)], rest)
    | _ => none

end

def read? (text : String) : Option Json :=
  let chars := text.toList
  match takeValue (2 * chars.length + 1) chars with
  | some (json, rest) => if skipBlanks rest = [] then some json else none
  | none => none

end ScrollTimeline.Json
