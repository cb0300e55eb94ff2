import ScrollTimeline.Number.Arithmetic

/-!
Numbers as they are written. A `Numeral` keeps the decimal itself, so that it can be read as a
double as well as an exact fraction.
-/
set_option autoImplicit false

namespace ScrollTimeline

/-- The decimal `± mantissa · 10^exponent`. A negative zero differs from a positive one. -/
structure Numeral where
  negative : Bool
  mantissa : Nat
  exponent : Int
deriving DecidableEq, Repr

namespace Numeral

def zero : Numeral := ⟨false, 0, 0⟩

def negate (n : Numeral) : Numeral := { n with negative := !n.negative }

def value {α : Type} [Arithmetic α] (n : Numeral) : α :=
  let size : α := OfScientific.ofScientific n.mantissa (decide (n.exponent < 0)) n.exponent.natAbs
  if n.negative then -size else size

def isBounded (n : Numeral) : Bool := (n.value : Float).isFinite

def ofDigits (digits : List Char) : Nat :=
  digits.foldl (fun n c => 10 * n + (c.toNat - '0'.toNat)) 0

def ofParts (negative : Bool) (whole fraction : List Char) : Numeral :=
  ⟨negative, ofDigits (whole ++ fraction), -(fraction.length : Int)⟩

def takeSign : List Char → Bool × List Char
  | '-' :: rest => (true, rest)
  | '+' :: rest => (false, rest)
  | text => (false, text)

def takeFraction : List Char → List Char × List Char
  | '.' :: rest => (rest.takeWhile Char.isDigit, rest.dropWhile Char.isDigit)
  | text => ([], text)

def exponent? : List Char → Option Int
  | [] => some 0
  | mark :: rest =>
    let (negative, digits) := takeSign rest
    if (mark = 'e' ∨ mark = 'E') ∧ digits ≠ [] ∧ digits.all Char.isDigit then
      some (if negative then -(ofDigits digits : Int) else ofDigits digits)
    else none

/-- Reads a free-standing number: an optional sign, digits with at most one point among or around
them and at least one digit, and an optional exponent. -/
def ofWord? (word : List Char) : Option Numeral :=
  let (negative, body) := takeSign word
  let whole := body.takeWhile Char.isDigit
  let (fraction, rest) := takeFraction (body.dropWhile Char.isDigit)
  if whole = [] ∧ fraction = [] then none
  else
    (exponent? rest).map fun shift =>
      let plain := ofParts negative whole fraction
      { plain with exponent := plain.exponent + shift }

end Numeral

/-- The words for numbers that are not finite, in any case and with an optional sign. -/
inductive BoundlessWord where
  | infinity (negative : Bool)
  | undefined
deriving DecidableEq, Repr

namespace BoundlessWord

def ofWord? (word : List Char) : Option BoundlessWord :=
  let (negative, body) := Numeral.takeSign word
  match String.ofList (body.map Char.toLower) with
  | "inf" | "infinity" => some (.infinity negative)
  | "nan" => some .undefined
  | _ => none

def value : BoundlessWord → Float
  | .infinity false => 1.0 / 0.0
  | .infinity true => -1.0 / 0.0
  | .undefined => 0.0 / 0.0

end BoundlessWord

def Binary.ofWord? (word : List Char) : Option Float :=
  match Numeral.ofWord? word with
  | some n => some n.value
  | none => (BoundlessWord.ofWord? word).map BoundlessWord.value

end ScrollTimeline
