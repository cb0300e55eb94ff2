import ScrollTimeline.Directive.Argument
import ScrollTimeline.Directive.AxisArgument
import ScrollTimeline.Text

/-!
The directive text of one element.

Semicolons stand between the directives; the first part may be the flag `!absolute` instead. A part
that is no directive is left out and reported.
-/
set_option autoImplicit false

namespace ScrollTimeline

namespace Directive

def splitKeyword (part : List Char) : String × List Char :=
  (String.ofList (part.takeWhile fun c => !Text.isBlank c),
    Text.trim (part.dropWhile fun c => !Text.isBlank c))

def ofParameters (keyword : Keyword) (parameters : List Char) : Except Malformation Directive :=
  let words := (Text.words parameters).map String.ofList
  match keyword with
  | .enter => do return enter (← Moment.ofWords words)
  | .leave => do return leave (← Moment.ofWords words)
  | .duration => do return duration (← Scalar.ofWords words)
  | .ease => do return ease (← CurveArg.ofWords words)
  | .opacityEase => do return opacityEase (← OpacityArg.ofWords words)
  | .x => do return position .x (← AxisArg.ofText parameters)
  | .y => do return position .y (← AxisArg.ofText parameters)

def ofPart (part : List Char) : Except ParseError Directive :=
  let (word, parameters) := splitKeyword part
  match Keyword.ofText? word with
  | none => .error (.unknownKeyword word)
  | some keyword => (ofParameters keyword parameters).mapError (.malformed keyword)

/-- The order of application: by rank, and in each rank as written. -/
def inOrder (directives : List Directive) : List Directive :=
  directives.filter (·.rank = 0) ++ directives.filter (·.rank = 1) ++
    directives.filter (·.rank = 2)

end Directive

/-- What the directive text of an element says: its mode, its directives in the order in which they
are applied, and the errors of the parts that are none, in the order of the text. -/
structure Script where
  absolute : Bool
  directives : List Directive
  errors : List ParseError
deriving DecidableEq, Repr

namespace Script

def parts (text : String) : List (List Char) :=
  ((Text.splitWhere (· = ';') text.toList).map Text.trim).filter (· ≠ [])

def absoluteFlag : List Char := "!absolute".toList

def ofParts (absolute : Bool) (parts : List (List Char)) : Script :=
  let readings := parts.map Directive.ofPart
  { absolute := absolute
    directives := Directive.inOrder (readings.filterMap Except.toOption)
    errors := readings.filterMap fun
      | .ok _ => none
      | .error problem => some problem }

def ofText (text : String) : Script :=
  match parts text with
  | [] => ofParts false []
  | first :: rest =>
    if first = absoluteFlag then ofParts true rest else ofParts false (first :: rest)

def meaningful (script : Script) : List Directive :=
  script.directives.filter (Directive.isAllowed script.absolute)

end Script

end ScrollTimeline
