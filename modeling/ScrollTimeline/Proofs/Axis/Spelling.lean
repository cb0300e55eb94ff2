import ScrollTimeline.Directive.Basic
import ScrollTimeline.Text

/-!
The argument of an axis as it may be written.

Each form has a text, the tokens of that text, and a meaning. A span can be spelled in several ways
that all mean the same.
-/
set_option autoImplicit false

namespace ScrollTimeline.Spelling

/-- Digits, and more of them after a point unless `fraction` is empty. -/
structure Magnitude where
  whole : List Char
  fraction : List Char
  nonempty : whole ≠ []
  digits : ∀ c ∈ whole ++ fraction, c.isDigit = true

structure Literal where
  negative : Bool
  magnitude : Magnitude

/-- An id without anything in it that could end it. -/
structure Id where
  chars : List Char
  nonempty : chars ≠ []
  clean : ∀ c ∈ chars, Text.isBlank c = false ∧ c ≠ ':' ∧ c ≠ '|' ∧ c ≠ ';'

inductive Position where
  | literal (l : Literal)
  | like (target : Id)

inductive Curve where
  | given (x1 y1 x2 y2 : Literal)
  | like (target : Id)

inductive Time where
  | literal (l : Literal)
  | after (l : Literal)
  | reference (edge : ClauseEdge) (target : Id)

/-- From a start to a stop. The dash between them stands for itself, or reads like the sign of the
stop, or is glued to the two of them. -/
inductive Span where
  | spaced (start : Option Position) (stop : Position)
  | signed (start : Option Position) (stop : Magnitude)
  | glued (start : Literal) (stop : Magnitude)

structure Clause where
  time : Time
  span : Span
  curve : Option Curve

inductive Axis where
  | waypoints (first : Position) (others : List Position) (curve : Option Curve)
  | timeline (initial : Position) (first : Clause) (others : List Clause)

namespace Magnitude

def text (m : Magnitude) : List Char :=
  m.whole ++ (if m.fraction = [] then [] else '.' :: m.fraction)

def numeral (negative : Bool) (m : Magnitude) : Numeral := .ofParts negative m.whole m.fraction

theorem negate_numeral (m : Magnitude) : (m.numeral true).negate = m.numeral false := rfl

end Magnitude

namespace Literal

def text (l : Literal) : List Char :=
  if l.negative then '-' :: l.magnitude.text else l.magnitude.text

def numeral (l : Literal) : Numeral := l.magnitude.numeral l.negative

def token (l : Literal) : Token := .number l.numeral

end Literal

namespace Id

def name (id : Id) : String := String.ofList id.chars

end Id

namespace Position

def text : Position → List Char
  | literal l => l.text
  | like target => "like".toList ++ ' ' :: target.chars

def tokens : Position → List Token
  | literal l => [l.token]
  | like target => [.word "like", .word target.name]

def meaning : Position → Scalar
  | literal l => .literal l.numeral
  | like target => .like target.name

end Position

namespace Curve

def text : Curve → List Char
  | given x1 y1 x2 y2 =>
    '|' :: ' ' :: (x1.text ++ ' ' :: (y1.text ++ ' ' :: (x2.text ++ ' ' :: (y2.text ++ [' ', '|']))))
  | like target => '|' :: ' ' :: ("like".toList ++ ' ' :: (target.chars ++ [' ', '|']))

def tokens : Curve → List Token
  | given x1 y1 x2 y2 => [.pipe, x1.token, y1.token, x2.token, y2.token, .pipe]
  | like target => [.pipe, .word "like", .word target.name, .pipe]

def meaning : Curve → CurveArg
  | given x1 y1 x2 y2 => .given ⟨x1.numeral, y1.numeral, x2.numeral, y2.numeral⟩
  | like target => .like target.name

/-- A curve that may be left out stands behind a space. -/
def optionalText (curve : Option Curve) : List Char := curve.elim [] fun c => ' ' :: c.text

def optionalTokens (curve : Option Curve) : List Token := curve.elim [] tokens

end Curve

def edgeWord : ClauseEdge → String
  | .like => "like"
  | .withEntry => "with-entry"
  | .withExit => "with-exit"

namespace Time

def text : Time → List Char
  | literal l => l.text
  | after l => '+' :: l.text
  | reference edge target => (edgeWord edge).toList ++ ' ' :: target.chars

def tokens : Time → List Token
  | literal l => [l.token]
  | after l => [.plus, l.token]
  | reference edge target => [.word (edgeWord edge), .word target.name]

def meaning : Time → ClauseTime
  | literal l => .literal l.numeral
  | after l => .after l.numeral
  | reference edge target => .reference edge target.name

end Time

namespace Span

def startText (start : Option Position) : List Char := start.elim [] fun s => s.text ++ [' ']

def startTokens (start : Option Position) : List Token := start.elim [] Position.tokens

/-- `S - E` or `- E`, `S -N` or `-N`, and `S-N`. -/
def text : Span → List Char
  | spaced start stop => startText start ++ '-' :: ' ' :: stop.text
  | signed start stop => startText start ++ '-' :: stop.text
  | glued start stop => start.text ++ '-' :: stop.text

def tokens : Span → List Token
  | spaced start stop => startTokens start ++ .dash :: stop.tokens
  | signed start stop => startTokens start ++ [.number (stop.numeral true)]
  | glued start stop => [start.token, .dash, .number (stop.numeral false)]

def start : Span → Option Scalar
  | spaced start _ => start.map Position.meaning
  | signed start _ => start.map Position.meaning
  | glued start _ => some (.literal start.numeral)

def stop : Span → Scalar
  | spaced _ stop => stop.meaning
  | signed _ stop => .literal (stop.numeral false)
  | glued _ stop => .literal (stop.numeral false)

end Span

namespace Clause

def text (clause : Clause) : List Char :=
  clause.time.text ++ ':' :: ' ' :: (clause.span.text ++ Curve.optionalText clause.curve)

def tokens (clause : Clause) : List Token :=
  clause.time.tokens ++ .colon :: (clause.span.tokens ++ Curve.optionalTokens clause.curve)

def meaning (clause : Clause) : ScrollTimeline.Clause :=
  ⟨clause.time.meaning, clause.span.start, clause.span.stop, clause.curve.map Curve.meaning⟩

end Clause

namespace Axis

def text : Axis → List Char
  | waypoints first others curve =>
    first.text ++ (others.flatMap (fun position => ' ' :: position.text) ++
      Curve.optionalText curve)
  | timeline initial first others =>
    initial.text ++ ' ' :: '.' :: ' ' ::
      (first.text ++ others.flatMap fun clause => ' ' :: clause.text)

def tokens : Axis → List Token
  | waypoints first others curve =>
    first.tokens ++ (others.flatMap Position.tokens ++ Curve.optionalTokens curve)
  | timeline initial first others =>
    initial.tokens ++ .dot :: (first.tokens ++ others.flatMap Clause.tokens)

def meaning : Axis → AxisArg
  | waypoints first others curve =>
    .waypoints (first.meaning :: others.map Position.meaning) (curve.map Curve.meaning)
  | timeline initial first others =>
    .timeline initial.meaning (first.meaning :: others.map Clause.meaning)

end Axis

end ScrollTimeline.Spelling
