import ScrollTimeline.Number.Numeral

/-!
Directives: what an author says about one element.

A directive sets one thing: when the element enters or leaves, how long it lives, how its rise and
its fade are eased, and where it stands on an axis. Each value is either written out or read from
another element, which is named by its id. The argument of an axis is written in tokens; those of the
other directives are words.
-/
set_option autoImplicit false

namespace ScrollTimeline

inductive Keyword where
  | enter
  | leave
  | duration
  | ease
  | opacityEase
  | x
  | y
deriving DecidableEq, Repr

namespace Keyword

def text : Keyword → String
  | enter => "enter"
  | leave => "leave"
  | duration => "duration"
  | ease => "ease"
  | opacityEase => "opacity-ease"
  | x => "x"
  | y => "y"

def all : List Keyword := [enter, leave, duration, ease, opacityEase, x, y]

def ofText? (word : String) : Option Keyword := all.find? fun keyword => keyword.text = word

theorem ofText?_text (keyword : Keyword) : ofText? keyword.text = some keyword := by
  cases keyword <;> decide

end Keyword

inductive Reference where
  | like
  | withEntry
  | withExit
  | afterEntry
  | afterExit
deriving DecidableEq, Repr

namespace Reference

def text : Reference → String
  | like => "like"
  | withEntry => "with-entry"
  | withExit => "with-exit"
  | afterEntry => "after-entry"
  | afterExit => "after-exit"

def all : List Reference := [like, withEntry, withExit, afterEntry, afterExit]

def ofText? (word : String) : Option Reference := all.find? fun reference => reference.text = word

def takesOffset : Reference → Bool
  | afterEntry => true
  | afterExit => true
  | _ => false

end Reference

/-- A time of entry or exit: written out, or that of another element. `like` reads the same edge of
the other element, and the forms that take an offset add it; the others have offset zero. -/
inductive Moment where
  | literal (n : Numeral)
  | reference (form : Reference) (target : String) (offset : Numeral)
deriving DecidableEq, Repr

inductive Scalar where
  | literal (n : Numeral)
  | like (target : String)
deriving DecidableEq, Repr

structure Controls where
  x1 : Numeral
  y1 : Numeral
  x2 : Numeral
  y2 : Numeral
deriving DecidableEq, Repr

inductive CurveArg where
  | given (controls : Controls)
  | like (target : String)
deriving DecidableEq, Repr

inductive OpacityArg where
  | symmetric (controls : Controls)
  | split (fadeIn fadeOut : Controls)
  | like (target : String)
deriving DecidableEq, Repr

inductive ClauseEdge where
  | like
  | withEntry
  | withExit
deriving DecidableEq, Repr

/-- When a clause of a custom timeline ends: counted from the element's own entry, or from the end of
the clause written before it, or at an edge of another element. -/
inductive ClauseTime where
  | literal (n : Numeral)
  | after (n : Numeral)
  | reference (edge : ClauseEdge) (target : String)
deriving DecidableEq, Repr

/-- One clause of a custom timeline. Without a start it goes on from where the clause before it
ended. -/
structure Clause where
  time : ClauseTime
  start : Option Scalar
  stop : Scalar
  curve : Option CurveArg
deriving DecidableEq, Repr

inductive AxisArg where
  | waypoints (values : List Scalar) (curve : Option CurveArg)
  | timeline (initial : Scalar) (clauses : List Clause)
deriving DecidableEq, Repr

inductive Axis where
  | x
  | y
deriving DecidableEq, Repr

def Axis.keyword : Axis → Keyword
  | x => .x
  | y => .y

inductive Directive where
  | enter (moment : Moment)
  | leave (moment : Moment)
  | duration (value : Scalar)
  | ease (curve : CurveArg)
  | opacityEase (arg : OpacityArg)
  | position (axis : Axis) (arg : AxisArg)
deriving DecidableEq, Repr

namespace Moment

def targets : Moment → List String
  | literal _ => []
  | reference _ target _ => [target]

end Moment

namespace Scalar

def targets : Scalar → List String
  | literal _ => []
  | like target => [target]

end Scalar

namespace CurveArg

def targets : CurveArg → List String
  | given _ => []
  | like target => [target]

end CurveArg

namespace OpacityArg

def targets : OpacityArg → List String
  | like target => [target]
  | _ => []

end OpacityArg

namespace Clause

def timeTargets : ClauseTime → List String
  | .reference _ target => [target]
  | _ => []

def targets (clause : Clause) : List String :=
  timeTargets clause.time ++ clause.start.elim [] Scalar.targets ++ clause.stop.targets ++
    clause.curve.elim [] CurveArg.targets

end Clause

namespace AxisArg

def targets : AxisArg → List String
  | waypoints values curve => values.flatMap Scalar.targets ++ curve.elim [] CurveArg.targets
  | timeline initial clauses => initial.targets ++ clauses.flatMap Clause.targets

end AxisArg

namespace Directive

def keyword : Directive → Keyword
  | enter _ => .enter
  | leave _ => .leave
  | duration _ => .duration
  | ease _ => .ease
  | opacityEase _ => .opacityEase
  | position axis _ => axis.keyword

/-- Directives of a higher rank are applied after all of a lower one: an exit reads the entry, and a
vertical track reads both. -/
def rank : Directive → Nat
  | leave _ => 1
  | position .y _ => 2
  | _ => 0

/-- The easing of the default rise has no meaning for an absolute element, and positions have none
for any other. -/
def isAllowed (absolute : Bool) : Directive → Bool
  | ease _ => !absolute
  | position _ _ => absolute
  | _ => true

def targets : Directive → List String
  | enter moment => moment.targets
  | leave moment => moment.targets
  | duration value => value.targets
  | ease curve => curve.targets
  | opacityEase arg => arg.targets
  | position _ arg => arg.targets

end Directive

/-! ### The tokens of an axis -/

inductive Token where
  | number (n : Numeral)
  | word (text : String)
  | colon
  | pipe
  | dash
  | plus
  | dot
  | eof
deriving DecidableEq, Repr

/-- A token and the bytes of the text, encoded in UTF-8, that it was read from: those from `start` up
to but not including `stop`. -/
structure Lexeme where
  token : Token
  start : Nat
  stop : Nat
deriving DecidableEq, Repr

namespace Token

def isOperand : Token → Bool
  | number _ => true
  | word _ => true
  | _ => false

def announcesId : Token → Bool
  | word text => text = "like" || text = "with-entry" || text = "with-exit"
  | _ => false

end Token

end ScrollTimeline
