import ScrollTimeline.Directive.Error
import ScrollTimeline.Record

/-!
Reading from other elements while one is compiled.
-/
set_option autoImplicit false

namespace ScrollTimeline

/-- What is known of the element with an id: its record, or why there is none. -/
abbrev Lookup (α : Type) := String → Except Unresolved (Record α)

inductive Edge where
  | enter
  | leave
deriving DecidableEq, Repr

variable {α : Type}

def Record.edge (record : Record α) : Edge → α
  | .enter => record.enterAt
  | .leave => record.leaveAt

def Record.track (record : Record α) : Axis → Track α
  | .x => record.x
  | .y => record.y

namespace Lookup

def record (lookup : Lookup α) (id : String) : Except (DirectiveError α) (Record α) :=
  (lookup id).mapError (.unresolvable id)

def fixed (lookup : Lookup α) (axis : Axis) (id : String) : Except (DirectiveError α) α := do
  let other ← lookup.record id
  match (other.track axis).fixed? with
  | some value => return value
  | none => .error (.unresolvable id .notFixed)

def waypointCurve (lookup : Lookup α) (axis : Axis) (id : String) :
    Except (DirectiveError α) (Easing α) := do
  let other ← lookup.record id
  match (other.track axis).curve? with
  | some curve => return curve
  | none => .error (.unresolvable id .noWaypointCurve)

end Lookup

variable [Arithmetic α]

/-- The time that a moment stands for when it sets the given edge. -/
def Moment.resolve (lookup : Lookup α) (edge : Edge) : Moment → Except (DirectiveError α) α
  | .literal n => .ok n.value
  | .reference form target offset => do
    let other ← lookup.record target
    match form with
    | .like => return other.edge edge
    | .withEntry => return other.enterAt
    | .withExit => return other.leaveAt
    | .afterEntry => return other.enterAt + offset.value
    | .afterExit => return other.leaveAt + offset.value

def Controls.resolve (controls : Controls) : Except (DirectiveError α) (Easing α) :=
  (Easing.ofControls controls.x1.value controls.y1.value controls.x2.value
    controls.y2.value).mapError .invalidCurve

end ScrollTimeline
