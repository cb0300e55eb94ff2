/-!
The numbers that scroll positions, times and progress are made of, and the few helpers that every
channel shares.

Everything that moves an element is written once over `Arithmetic α` and read twice: over binary
floating point, which is what a program runs, and over exact fractions, in which the laws of
curves, tracks and fades are stated. The order of operations inside an expression is part of its
meaning, since floating point is not associative.

An undefined number is the only one that differs from itself. `lesser` and `greater` pass over one, and
`clamp` answers one.
-/
set_option autoImplicit false

namespace ScrollTimeline

/-- Numbers that a timeline computes with. Comparisons are those of the number type itself, so an
undefined number is neither below, nor equal to, nor above any other. -/
class Arithmetic (α : Type) extends
    Add α, Sub α, Mul α, Div α, Neg α, LT α, LE α, BEq α, NatCast α, OfScientific α where
  decidableLT : DecidableLT α
  decidableLE : DecidableLE α
  isFinite : α → Bool
  floorNat : α → Nat
  /-- A total order that refines `<`; undefined numbers stand before all others and a negative
  zero stands before a positive one. -/
  order : α → α → Ordering

namespace Arithmetic

variable {α : Type} [Arithmetic α]

instance : DecidableLT α := Arithmetic.decidableLT

instance : DecidableLE α := Arithmetic.decidableLE

def isUndefined (a : α) : Bool := a != a

def lesser (a b : α) : α := if b < a || isUndefined a then b else a

def greater (a b : α) : α := if a < b || isUndefined a then b else a

def clamp (low high a : α) : α :=
  let raised := if a < low then low else a
  if high < raised then high else raised

def clampUnit (a : α) : α := clamp 0.0 1.0 a

def blend (a b t : α) : α := a * (1.0 - t) + b * t

def magnitude (a : α) : α := if a < 0.0 then -a else a

end Arithmetic

instance : Arithmetic Rat where
  decidableLT := inferInstance
  decidableLE := inferInstance
  isFinite _ := true
  floorNat q := q.floor.toNat
  order p q := if p < q then .lt else if q < p then .gt else .eq

end ScrollTimeline

/-! ### Binary floating point -/

namespace ScrollTimeline.Binary

def digitCount (n : Nat) : Nat := if n = 0 then 0 else (Nat.toDigits 10 n).length

/-- The double nearest to `mantissa · 10^exponent`, or to `mantissa · 10^-exponent` when `below`
is set; a tie goes to the even neighbour. Values whose first digit stands above the 310th place are
infinite and those whose first digit stands below the 330th decimal are zero, so the power of ten
is never formed when it could not matter. -/
def nearest (mantissa : Nat) (below : Bool) (exponent : Nat) : Float :=
  let digits := digitCount mantissa
  if digits = 0 then 0.0
  else if below then
    if digits + 330 < exponent then 0.0 else Float.ofScientific mantissa true exponent
  else if 310 < digits + exponent then 1.0 / 0.0
  else Float.ofScientific mantissa false exponent

def signBit : Nat := 0x8000000000000000

def rank (x : Float) : Int :=
  if x.isNaN then -0x10000000000000000
  else
    let bits := x.toBits.toNat
    if bits < signBit then bits else (signBit : Int) - 1 - bits

instance : Arithmetic Float where
  natCast n := nearest n false 0
  ofScientific := nearest
  decidableLT := inferInstance
  decidableLE := inferInstance
  isFinite x := x.isFinite
  floorNat x := x.floor.toUInt64.toNat
  order x y := compare (rank x) (rank y)

end ScrollTimeline.Binary
