/-!
The fewest decimal digits that read back as a given double.

A positive double is `mantissa · 2^exponent`. All reals between the midpoints to its two neighbours
round to it, and so do the midpoints themselves when the mantissa is even. Decimal grids
`10^k · ℕ` are tried from the coarsest on; the first grid that has a point in that interval has one
next to the double itself, just below or just above, and of two such points the nearer one is
taken. Every comparison is one between natural numbers.
-/
set_option autoImplicit false

namespace ScrollTimeline.Decimal

inductive Tie where
  | up
  | even
deriving DecidableEq, Repr

structure Digits where
  significand : Nat
  exponent : Int
deriving DecidableEq, Repr

/-- A positive double, as `mantissa · 2^exponent`; `narrow` says that the neighbour below is half
as far away as the one above. -/
structure Binary64 where
  mantissa : Nat
  exponent : Int
  narrow : Bool
deriving DecidableEq, Repr

def hiddenBit : Nat := 0x10000000000000

def Binary64.ofBits (bits : Nat) : Binary64 :=
  let field : Nat := bits / hiddenBit % 0x800
  let fraction : Nat := bits % hiddenBit
  if field = 0 then ⟨fraction, -1074, false⟩
  else ⟨hiddenBit + fraction, (field : Int) - 1075, decide (fraction = 0 ∧ 1 < field)⟩

/-- The reals that round to a double, over one common denominator: the ends, whether they belong to
the interval, and the double itself. -/
structure Interval where
  low : Nat
  value : Nat
  high : Nat
  denominator : Nat
  closed : Bool
deriving Repr

def Interval.ofBinary64 (b : Binary64) : Interval :=
  let scale := Nat.pow 2 b.exponent.toNat
  let below := if b.narrow then 1 else 2
  { low := (4 * b.mantissa - below) * scale
    value := 4 * b.mantissa * scale
    high := (4 * b.mantissa + 2) * scale
    denominator := 4 * Nat.pow 2 (-b.exponent).toNat
    closed := b.mantissa % 2 = 0 }

def Interval.contains (i : Interval) (point unit : Nat) : Bool :=
  let p := point * i.denominator
  if i.closed then i.low * unit ≤ p ∧ p ≤ i.high * unit
  else i.low * unit < p ∧ p < i.high * unit

def Interval.onGrid (i : Interval) (tie : Tie) (k : Int) : Option Nat :=
  let step := Nat.pow 10 k.toNat
  let unit := Nat.pow 10 (-k).toNat
  let below := i.value * unit / (i.denominator * step)
  let above := below + 1
  let lowFits := i.contains (below * step) unit
  let highFits := i.contains (above * step) unit
  if lowFits && highFits then
    let twice := 2 * i.value * unit
    let middle := (below + above) * step * i.denominator
    if twice < middle then some below
    else if middle < twice then some above
    else match tie with
      | .up => some above
      | .even => some (if below % 2 = 0 then below else above)
  else if lowFits then some below
  else if highFits then some above
  else none

def Interval.search (i : Interval) (tie : Tie) : Nat → Int → Digits
  | 0, k => ⟨(i.onGrid tie k).getD 0, k⟩
  | grids + 1, k =>
    match i.onGrid tie k with
    | some point => ⟨point, k⟩
    | none => i.search tie grids (k - 1)

def magnitude (numerator denominator : Nat) : Int :=
  ((Nat.toDigits 10 numerator).length : Int) - (Nat.toDigits 10 denominator).length + 1

/-- The shortest digits of a positive double. Nineteen grids below its magnitude always suffice,
since seventeen digits tell all doubles apart. -/
def shortest (tie : Tie) (b : Binary64) : Digits :=
  let i := Interval.ofBinary64 b
  i.search tie 19 (magnitude i.value i.denominator)

end ScrollTimeline.Decimal
