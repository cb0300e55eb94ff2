import ScrollTimeline.Directive.Basic
import ScrollTimeline.Easing.Basic

/-!
Why a directive is dropped.
-/
set_option autoImplicit false

namespace ScrollTimeline

inductive Expectation where
  | token (token : Token)
  | number
  | elementId
  | scalar
  | clauseTime
deriving DecidableEq, Repr

/-- How the text of a directive departs from its grammar. Positions count bytes of the parameters,
encoded in UTF-8. -/
inductive Malformation where
  | notANumber (word : String)
  | notFinite (word : String)
  | unknownReference (word : String)
  | missingOffset
  | trailingWords (words : List String)
  | noMoment
  | notAScalar
  | controlCount (count : Nat)
  | fadeCount (count : Nat)
  | secondFraction (text : String) (position : Nat)
  | unexpectedCharacter (c : Char) (position : Nat)
  | expected (what : Expectation) (found : Token) (position : Nat)
  | unknownClauseTime (word : String) (position : Nat)
  | noPosition (position : Nat)
  | noClause (position : Nat)
  | noDash (position : Nat)
deriving DecidableEq, Repr

inductive ParseError where
  | unknownKeyword (word : String)
  | malformed (keyword : Keyword) (problem : Malformation)
deriving DecidableEq, Repr

inductive Unresolved where
  | noSuchElement
  | notCompiled
  | notFixed
  | noWaypointCurve
deriving DecidableEq, Repr

inductive DirectiveError (α : Type) where
  | unreadable (error : ParseError)
  | invalidMode (keyword : Keyword) (absolute : Bool)
  | unresolvable (target : String) (reason : Unresolved)
  | invalidCurve (error : EasingError α)
  | badDuration (keyword : Keyword) (duration : α)
deriving DecidableEq, Repr

structure Diagnostic (α : Type) where
  id : String
  error : DirectiveError α
deriving DecidableEq, Repr

end ScrollTimeline
