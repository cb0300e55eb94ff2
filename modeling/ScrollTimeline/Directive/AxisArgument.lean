import ScrollTimeline.Directive.Lexeme

/-!
The argument of an axis, read from its tokens.

An axis has either a list of positions with an optional curve, or an initial position, a dot and the
clauses `time: start - stop | curve |` of a custom timeline, of which start and curve may be left
out. Each reader takes tokens off the front and answers what is left; the last token, which is
`eof`, is never taken.
-/
set_option autoImplicit false

namespace ScrollTimeline

namespace Lexeme

def head : List Lexeme → Token
  | [] => .eof
  | lexeme :: _ => lexeme.token

def position : List Lexeme → Nat
  | [] => 0
  | lexeme :: _ => lexeme.start

def advance : List Lexeme → List Lexeme
  | _ :: next :: rest => next :: rest
  | lexemes => lexemes

def unexpected {β : Type} (what : Expectation) (lexemes : List Lexeme) : Except Malformation β :=
  .error (.expected what (head lexemes) (position lexemes))

/-- The error at a token that has been taken; it is reported at the position that follows. -/
def unexpectedTaken {β : Type} (what : Expectation) (lexemes : List Lexeme) :
    Except Malformation β :=
  .error (.expected what (head lexemes) (position (advance lexemes)))

def expect (token : Token) (lexemes : List Lexeme) : Except Malformation (List Lexeme) :=
  if head lexemes = token then .ok (advance lexemes) else unexpected (.token token) lexemes

/-- Reads items as long as the next token allows for one more, at most `steps` of them. -/
def many {β : Type} (more : Token → Bool)
    (item : List Lexeme → Except Malformation (β × List Lexeme)) :
    Nat → List Lexeme → Except Malformation (List β × List Lexeme)
  | 0, lexemes => .ok ([], lexemes)
  | steps + 1, lexemes =>
    if more (head lexemes) then do
      let (b, lexemes) ← item lexemes
      let (bs, lexemes) ← many more item steps lexemes
      return (b :: bs, lexemes)
    else .ok ([], lexemes)

end Lexeme

open Lexeme

def Numeral.take (lexemes : List Lexeme) : Except Malformation (Numeral × List Lexeme) :=
  match head lexemes with
  | .number n => .ok (n, advance lexemes)
  | _ => unexpectedTaken .number lexemes

def takeElementId (lexemes : List Lexeme) : Except Malformation (String × List Lexeme) :=
  match head lexemes with
  | .word id => .ok (id, advance lexemes)
  | _ => unexpectedTaken .elementId lexemes

namespace Scalar

def starts : Token → Bool
  | .number _ => true
  | .word text => text = "like"
  | _ => false

def take (lexemes : List Lexeme) : Except Malformation (Scalar × List Lexeme) :=
  match head lexemes with
  | .number n => .ok (.literal n, advance lexemes)
  | .word "like" => do
    let (target, lexemes) ← takeElementId (advance lexemes)
    return (.like target, lexemes)
  | _ => unexpectedTaken .scalar lexemes

end Scalar

namespace CurveArg

def takeBody (lexemes : List Lexeme) : Except Malformation (CurveArg × List Lexeme) :=
  if head lexemes = .word "like" then do
    let (target, lexemes) ← takeElementId (advance lexemes)
    let lexemes ← expect .pipe lexemes
    return (.like target, lexemes)
  else do
    let (x1, lexemes) ← Numeral.take lexemes
    let (y1, lexemes) ← Numeral.take lexemes
    let (x2, lexemes) ← Numeral.take lexemes
    let (y2, lexemes) ← Numeral.take lexemes
    let lexemes ← expect .pipe lexemes
    return (.given ⟨x1, y1, x2, y2⟩, lexemes)

def takeOptional (lexemes : List Lexeme) :
    Except Malformation (Option CurveArg × List Lexeme) :=
  if head lexemes = .pipe then do
    let (curve, lexemes) ← takeBody (advance lexemes)
    return (some curve, lexemes)
  else .ok (none, lexemes)

end CurveArg

namespace ClauseEdge

def ofText? : String → Option ClauseEdge
  | "like" => some like
  | "with-entry" => some withEntry
  | "with-exit" => some withExit
  | _ => none

end ClauseEdge

def ClauseTime.take (lexemes : List Lexeme) : Except Malformation (ClauseTime × List Lexeme) :=
  match head lexemes with
  | .plus => do
    let (n, lexemes) ← Numeral.take (advance lexemes)
    return (.after n, lexemes)
  | .number n => .ok (.literal n, advance lexemes)
  | .word text =>
    match ClauseEdge.ofText? text with
    | none => .error (.unknownClauseTime text (position (advance lexemes)))
    | some edge => do
      let (target, lexemes) ← takeElementId (advance lexemes)
      return (.reference edge target, lexemes)
  | _ => unexpected .clauseTime lexemes

namespace Clause

/-- After the start of a clause, a negative number is the separating dash and an unsigned end, unless
a colon or a dash after it shows that it belongs to the next clause or to a range. -/
def takeSignedStop? (lexemes : List Lexeme) : Option (Scalar × List Lexeme) :=
  match head lexemes with
  | .number n =>
    let next := head (advance lexemes)
    if n.negative ∧ next ≠ .dash ∧ next ≠ .colon then
      some (.literal n.negate, advance lexemes)
    else none
  | _ => none

/-- `start - stop`, `start -N`, `- stop` or `-N`. -/
def takeSpan (lexemes : List Lexeme) :
    Except Malformation ((Option Scalar × Scalar) × List Lexeme) :=
  if head lexemes = .dash then do
    let (stop, lexemes) ← Scalar.take (advance lexemes)
    return ((none, stop), lexemes)
  else do
    let (first, lexemes) ← Scalar.take lexemes
    if head lexemes = .dash then
      let (stop, lexemes) ← Scalar.take (advance lexemes)
      return ((some first, stop), lexemes)
    else
      match takeSignedStop? lexemes with
      | some (stop, lexemes) => return ((some first, stop), lexemes)
      | none =>
        match first with
        | .literal n =>
          if n.negative then return ((none, .literal n.negate), lexemes)
          else .error (.noDash (position lexemes))
        | .like _ => .error (.noDash (position lexemes))

def take (lexemes : List Lexeme) : Except Malformation (Clause × List Lexeme) := do
  let (time, lexemes) ← ClauseTime.take lexemes
  let lexemes ← expect .colon lexemes
  let ((start, stop), lexemes) ← takeSpan lexemes
  let (curve, lexemes) ← CurveArg.takeOptional lexemes
  return (⟨time, start, stop, curve⟩, lexemes)

end Clause

namespace AxisArg

def takeTimeline (initial : Scalar) (lexemes : List Lexeme) :
    Except Malformation (AxisArg × List Lexeme) := do
  let (clauses, lexemes) ← many (· ≠ .eof) Clause.take lexemes.length lexemes
  if clauses = [] then .error (.noClause (position lexemes))
  else return (.timeline initial clauses, lexemes)

def take (lexemes : List Lexeme) : Except Malformation (AxisArg × List Lexeme) :=
  if Scalar.starts (head lexemes) then do
    let (first, lexemes) ← Scalar.take lexemes
    if head lexemes = .dot then takeTimeline first (advance lexemes)
    else
      let (others, lexemes) ← many Scalar.starts Scalar.take lexemes.length lexemes
      let (curve, lexemes) ← CurveArg.takeOptional lexemes
      return (.waypoints (first :: others) curve, lexemes)
  else .error (.noPosition (position lexemes))

def ofLexemes (lexemes : List Lexeme) : Except Malformation AxisArg := do
  let (arg, lexemes) ← take lexemes
  let _ ← expect .eof lexemes
  return arg

def ofText (text : List Char) : Except Malformation AxisArg := do
  ofLexemes (← Lexeme.ofText text)

end AxisArg

end ScrollTimeline
