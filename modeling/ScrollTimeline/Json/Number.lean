import ScrollTimeline.Decimal.Layout
import ScrollTimeline.Json.Basic
import ScrollTimeline.Number.Numeral

/-!
Doubles in JSON texts.

A double is written with its shortest digits. A number is read in two steps: the leading digits that
fit into 64 bits are rounded to a double, and that is multiplied or divided by a power of ten, which
is a rounded double as well. For up to fifteen digits and small powers this is the nearest double;
beyond that it may be its neighbour.
-/
set_option autoImplicit false

namespace ScrollTimeline.Json

def ofFloat (x : Float) : Json :=
  if x.isFinite then .number (Decimal.Layout.json.text x) else .null

def significandBound : Nat := 0x10000000000000000

/-- Appends digits to a significand while it needs at most 64 bits, and answers the digits left over. -/
def gather : Nat → List Char → Nat × List Char
  | significand, [] => (significand, [])
  | significand, c :: rest =>
    let longer := 10 * significand + Numeral.ofDigits [c]
    if longer < significandBound then gather longer rest else (significand, c :: rest)

def power (exponent : Nat) : Float := Binary.nearest 1 false exponent

def topPower : Nat := 308

/-- Divides by `10^exponent`, in several steps where that is no double. -/
def scaleDown (x : Float) (exponent : Nat) : Float :=
  if exponent ≤ topPower then x / power exponent
  else if x == 0.0 then x
  else scaleDown (x / power topPower) (exponent - topPower)
termination_by exponent
decreasing_by
  simp only [topPower] at *
  omega

def scaleUp (x : Float) (exponent : Nat) : Option Float :=
  if exponent ≤ topPower then
    let product := x * power exponent
    if product.isFinite then some product else none
  else if x == 0.0 then some x
  else none

def floatOfLiteral? (literal : String) : Option Float :=
  let (negative, body) := Numeral.takeSign literal.toList
  let whole := body.takeWhile Char.isDigit
  let (fraction, rest) := Numeral.takeFraction (body.dropWhile Char.isDigit)
  let (head, dropped) := gather 0 whole
  let (significand, unread) := gather head fraction
  match Numeral.exponent? rest with
  | none => none
  | some written =>
    let exponent := written + dropped.length - (fraction.length - unread.length)
    let size := Binary.nearest significand false 0
    let scaled :=
      if exponent < 0 then some (scaleDown size exponent.natAbs) else scaleUp size exponent.toNat
    scaled.map fun x => if negative then -x else x

def float? : Json → Option Float
  | .number literal => floatOfLiteral? literal
  | _ => none

def text? : Json → Option String
  | .string text => text
  | _ => none

end ScrollTimeline.Json
