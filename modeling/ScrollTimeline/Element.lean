import ScrollTimeline.Track.Resolution
import ScrollTimeline.Directive.Script

/-!
Compiling one element.

Its directives are applied one after the other to a draft that starts from the defaults. A directive
that fails leaves the draft as it was and is reported.
-/
set_option autoImplicit false

namespace ScrollTimeline

/-- An element that is ready to be compiled. Its height is counted like a scroll position. -/
structure Element (α : Type) where
  id : String
  handle : Nat
  height : α
  script : Script

structure Draft (α : Type) where
  enterAt : α
  duration : α
  positionCurve : Easing α
  opacity : Opacity α
  x : Track α
  y : Track α
deriving DecidableEq, Repr

structure Compiled (α : Type) where
  record : Record α
  errors : List (DirectiveError α)
deriving DecidableEq, Repr

variable {α : Type} [Arithmetic α]

def Draft.initial : Draft α :=
  { enterAt := 0.0
    duration := 100.0
    positionCurve := .linear
    opacity := .constant
    x := .unpositioned
    y := .unpositioned }

/-- The fraction of its lifetime that an element takes to come fully into view. Its fades start that
much later, so they follow what can be seen of it. -/
def fadeOffset (absolute : Bool) (height : α) : α :=
  if absolute || height ≤ 0.0 then 0.0
  else Arithmetic.lesser (height / (viewportSpan + height)) 0.5

def checkDuration (keyword : Keyword) (duration : α) : Except (DirectiveError α) α :=
  if Arithmetic.isFinite duration && 0.0 < duration then .ok duration
  else .error (.badDuration keyword duration)

def OpacityArg.resolve (lookup : Lookup α) (offset : α) :
    OpacityArg → Except (DirectiveError α) (Opacity α)
  | .symmetric controls => do return .symmetric (← controls.resolve) offset
  | .split fadeIn fadeOut => do
    let fadeIn ← fadeIn.resolve
    let fadeOut ← fadeOut.resolve
    return .split fadeIn fadeOut offset
  | .like target => do return (← lookup.record target).opacity

namespace Directive

def effect (lookup : Lookup α) (offset : α) (draft : Draft α) :
    Directive → Except (DirectiveError α) (Draft α)
  | enter moment => do return { draft with enterAt := ← moment.resolve lookup .enter }
  | leave moment => do
    let leaveAt ← moment.resolve lookup .leave
    return { draft with duration := ← checkDuration .leave (leaveAt - draft.enterAt) }
  | duration (.literal n) => do
    return { draft with duration := ← checkDuration .duration n.value }
  | duration (.like target) => do
    return { draft with duration := (← lookup.record target).duration }
  | ease (.given controls) => do
    return { draft with positionCurve := ← controls.resolve }
  | ease (.like target) => do
    return { draft with positionCurve := (← lookup.record target).positionCurve }
  | opacityEase arg => do return { draft with opacity := ← arg.resolve lookup offset }
  | position .x arg => do return { draft with x := ← arg.resolve lookup .x draft.enterAt }
  | position .y arg => do return { draft with y := ← arg.resolve lookup .y draft.enterAt }

def apply (lookup : Lookup α) (absolute : Bool) (offset : α) (draft : Draft α)
    (directive : Directive) : Except (DirectiveError α) (Draft α) :=
  if directive.isAllowed absolute then directive.effect lookup offset draft
  else .error (.invalidMode directive.keyword absolute)

def applyAll (lookup : Lookup α) (absolute : Bool) (offset : α) (draft : Draft α) :
    List Directive → Draft α × List (DirectiveError α)
  | [] => (draft, [])
  | directive :: rest =>
    match directive.apply lookup absolute offset draft with
    | .ok next => applyAll lookup absolute offset next rest
    | .error error =>
      let (last, errors) := applyAll lookup absolute offset draft rest
      (last, error :: errors)

end Directive

namespace Element

def offset (element : Element α) : α := fadeOffset element.script.absolute element.height

def finish (element : Element α) (draft : Draft α) : Record α :=
  { id := element.id
    handle := element.handle
    enterAt := draft.enterAt
    duration := draft.duration
    leaveAt := draft.enterAt + draft.duration
    absolute := element.script.absolute
    height := element.height
    positionCurve := draft.positionCurve
    opacity := draft.opacity
    x := draft.x
    y := draft.y }

def compile (lookup : Lookup α) (element : Element α) : Compiled α :=
  let (draft, errors) :=
    Directive.applyAll lookup element.script.absolute element.offset .initial
      element.script.directives
  ⟨element.finish draft, errors⟩

def targets (element : Element α) : List String :=
  element.script.meaningful.flatMap Directive.targets

end Element

end ScrollTimeline
