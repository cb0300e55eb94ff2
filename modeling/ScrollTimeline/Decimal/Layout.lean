import ScrollTimeline.Decimal.Shortest
import ScrollTimeline.Number.Arithmetic

/-!
How a double is laid out as text.

A `Layout` holds the decisions of one output format: what becomes of two shortest decimals that lie
equally near, which numbers are written without an exponent, whether whole numbers end in `.0`, and
whether an exponent that is not negative has a sign. `plain` is the layout of messages and of sampled
values, `token` that inside the description of a token, and `json` that of JSON texts.

A number becomes a list of pieces, in the order in which they are written; its text is their
concatenation, and a writer that may fail between two pieces can write them one by one.
-/
set_option autoImplicit false

namespace ScrollTimeline.Decimal

structure Layout where
  tie : Tie
  /-- The powers of ten of a leading digit, from the first up to but not including the second, that
  are written without an exponent; all of them when absent. -/
  positional : Option (Int × Int)
  pointZero : Bool
  exponentPlus : Bool
deriving Repr

def Layout.plain : Layout := ⟨.up, none, false, false⟩

def Layout.token : Layout := ⟨.up, some (-4, 16), true, false⟩

def Layout.json : Layout := ⟨.even, some (-5, 16), true, true⟩

def zeroRun : Nat := 64

/-- A run of zeros, in pieces of at most `zeroRun`. -/
def zeros (n : Nat) : List String :=
  List.replicate (n / zeroRun) ("".pushn '0' zeroRun) ++
    (if n % zeroRun = 0 then [] else ["".pushn '0' (n % zeroRun)])

def positionalPieces (layout : Layout) (digits : Digits) : List String :=
  let text := (Nat.toDigits 10 digits.significand)
  let point := (text.length : Int) + digits.exponent
  if point ≤ 0 then
    ["0."] ++ zeros (-point).toNat ++ [String.ofList text]
  else if point < text.length then
    [String.ofList (text.take point.toNat), ".", String.ofList (text.drop point.toNat)]
  else
    [String.ofList text] ++ zeros (point.toNat - text.length) ++
      (if layout.pointZero then [".0"] else [])

def exponentPieces (layout : Layout) (digits : Digits) : List String :=
  let text := Nat.toDigits 10 digits.significand
  let exponent := (text.length : Int) + digits.exponent - 1
  let mantissa :=
    match text.drop 1 with
    | [] => [String.ofList text]
    | rest => [String.ofList (text.take 1), ".", String.ofList rest]
  let sign := if exponent < 0 then "-" else if layout.exponentPlus then "+" else ""
  mantissa ++ ["e" ++ sign ++ toString exponent.natAbs]

def Layout.digitPieces (layout : Layout) (digits : Digits) : List String :=
  let leading := ((Nat.toDigits 10 digits.significand).length : Int) + digits.exponent - 1
  match layout.positional with
  | none => positionalPieces layout digits
  | some (first, last) =>
    if first ≤ leading ∧ leading < last then positionalPieces layout digits
    else exponentPieces layout digits

def Layout.pieces (layout : Layout) (x : Float) : List String :=
  let bits := x.toBits.toNat
  let magnitude := bits % Binary.signBit
  if x.isNaN then ["NaN"]
  else
    let sign := if bits < Binary.signBit then [] else ["-"]
    if x.isInf then sign ++ ["inf"]
    else if magnitude = 0 then sign ++ [if layout.pointZero then "0.0" else "0"]
    else sign ++ layout.digitPieces (shortest layout.tie (.ofBits magnitude))

def Layout.text (layout : Layout) (x : Float) : String := String.join (layout.pieces x)

def plain (x : Float) : String := Layout.plain.text x

end ScrollTimeline.Decimal
