import ScrollTimeline.Decimal.Layout
import ScrollTimeline.Scene
import ScrollTimeline.Text

/-!
The wording of what is wrong with a scene, from a token of a directive to the scene as a whole.
-/
set_option autoImplicit false

namespace ScrollTimeline

def EasingError.message : EasingError Float → String
  | nonFinite x1 y1 x2 y2 =>
    s!"bezier control point is not finite: ({Decimal.plain x1}, {Decimal.plain y1}, {Decimal.plain x2}, {Decimal.plain y2})"
  | xOutOfRange x1 x2 =>
    s!"bezier x values must be in [0, 1], got x1={Decimal.plain x1} x2={Decimal.plain x2}"

/-! ### Directives -/

def Token.description : Token → String
  | number n => "Number(" ++ Decimal.Layout.token.text n.value ++ ")"
  | word text => "Word(" ++ Text.quoted text ++ ")"
  | colon => "Colon"
  | pipe => "Pipe"
  | dash => "Dash"
  | plus => "Plus"
  | dot => "Dot"
  | eof => "Eof"

def Expectation.description : Expectation → String
  | token t => t.description
  | number => "a number"
  | elementId => "an element id"
  | scalar => "a number or 'like ID'"
  | clauseTime => "a clause time"

def Malformation.message : Malformation → String
  | notANumber word => s!"expected a number, got '{word}'"
  | notFinite word => s!"number must be finite, got '{word}'"
  | unknownReference word => s!"unknown reference form '{word}'"
  | missingOffset => "after-entry/after-exit need an offset"
  | trailingWords words => s!"unexpected trailing arguments {Text.quotedList words}"
  | noMoment => "expected a number or a reference"
  | notAScalar => "expected a number or 'like ID'"
  | controlCount count => s!"expected 4 numbers, got {count}"
  | fadeCount count => s!"expected 4 or 8 numbers, got {count}"
  | secondFraction text position => s!"invalid number '{text}' at byte {position}"
  | unexpectedCharacter c position => s!"unexpected character '{c}' at byte {position}"
  | expected what found position =>
    s!"expected {what.description}, found {found.description} (at byte {position})"
  | unknownClauseTime word position => s!"unknown clause time '{word}' (at byte {position})"
  | noPosition position => s!"expected at least one position (at byte {position})"
  | noClause position =>
    s!"expected at least one 'time: start - end' clause (at byte {position})"
  | noDash position => s!"expected '-' before the end position (at byte {position})"

namespace DirectiveError

def malformed (keyword : Keyword) (problem : String) : String :=
  s!"malformed '{keyword.text}' directive: {problem}"

def unresolvedMessage : Unresolved → String
  | .noSuchElement => "no element with this id"
  | .notCompiled => "element is not compiled yet"
  | .notFixed => "axis does not resolve to a single fixed position"
  | .noWaypointCurve => "axis has no waypoint curve"

def message : DirectiveError Float → String
  | unreadable (.unknownKeyword word) => s!"unknown directive '{word}'"
  | unreadable (.malformed keyword problem) => malformed keyword problem.message
  | invalidMode keyword true => s!"'{keyword.text}' cannot be used in !absolute mode"
  | invalidMode keyword false => s!"'{keyword.text}' cannot be used without !absolute"
  | unresolvable target reason =>
    s!"cannot resolve reference to '{target}': {unresolvedMessage reason}"
  | invalidCurve error => s!"invalid curve: {error.message}"
  | badDuration keyword duration =>
    malformed keyword s!"duration must be positive, got {Decimal.plain duration}"

end DirectiveError

/-! ### Pages and scenes -/

def invalidInput (problem : String) : String := s!"validation error: {problem}"

def DirectiveError.causes (error : DirectiveError Float) : List String :=
  match error with
  | invalidCurve curve => [error.message, curve.message]
  | _ => [error.message]

namespace CompileError

def message : CompileError Float → String
  | duplicateId id earlier later =>
    invalidInput s!"duplicate element id '{id}' (entries {earlier} and {later})"
  | cyclicReference cycle => "cyclic reference: " ++ String.intercalate " -> " cycle
  | dropped diagnostic =>
    s!"directive error in element '{diagnostic.id}': {diagnostic.error.message}"

def causes (error : CompileError Float) : List String :=
  match error with
  | dropped diagnostic => error.message :: diagnostic.error.causes
  | _ => [error.message]

end CompileError

namespace SceneError

def message : SceneError Float → String
  | badViewport height =>
    invalidInput s!"viewport_height must be positive and finite, got {Decimal.plain height}"
  | badHeight index height =>
    invalidInput
      s!"element {index}: height must be non-negative and finite, got {Decimal.plain height}"
  | uncompilable error => error.message

def causes (error : SceneError Float) : List String :=
  match error with
  | uncompilable inner => inner.causes
  | _ => [error.message]

end SceneError

end ScrollTimeline
