import ScrollTimeline.Lookup

/-!
From the argument of an axis to its track.
-/
set_option autoImplicit false

namespace ScrollTimeline

variable {α : Type} [Arithmetic α]

def Scalar.resolve (lookup : Lookup α) (axis : Axis) : Scalar → Except (DirectiveError α) α
  | .literal n => .ok n.value
  | .like target => lookup.fixed axis target

def Scalar.resolveOr (lookup : Lookup α) (axis : Axis) (default : α) :
    Option Scalar → Except (DirectiveError α) α
  | none => .ok default
  | some scalar => scalar.resolve lookup axis

def CurveArg.resolve (lookup : Lookup α) (axis : Axis) :
    CurveArg → Except (DirectiveError α) (Easing α)
  | .given controls => controls.resolve
  | .like target => lookup.waypointCurve axis target

def CurveArg.resolveOr (lookup : Lookup α) (axis : Axis) :
    Option CurveArg → Except (DirectiveError α) (Easing α)
  | none => .ok .linear
  | some curve => curve.resolve lookup axis

/-- The time at which a clause ends, counted from the element's own entry; `previous` is the time of
the clause written before it. -/
def ClauseTime.resolve (lookup : Lookup α) (enterAt previous : α) :
    ClauseTime → Except (DirectiveError α) α
  | .literal n => .ok n.value
  | .after n => .ok (previous + n.value)
  | .reference edge target => do
    let other ← lookup.record target
    match edge with
    | .withExit => return other.leaveAt - enterAt
    | .withEntry => return other.enterAt - enterAt
    | .like => return other.enterAt - enterAt

def Clause.resolve (lookup : Lookup α) (axis : Axis) (enterAt : α) (index : Nat)
    (previousTime previousStop : α) (clause : Clause) :
    Except (DirectiveError α) (Segment α) := do
  let endTime ← clause.time.resolve lookup enterAt previousTime
  let startPos ← Scalar.resolveOr lookup axis previousStop clause.start
  let endPos ← clause.stop.resolve lookup axis
  let easing ← CurveArg.resolveOr lookup axis clause.curve
  return ⟨index, endTime, startPos, endPos, easing⟩

def Clause.resolveAll (lookup : Lookup α) (axis : Axis) (enterAt : α) :
    Nat → α → α → List Clause → Except (DirectiveError α) (List (Segment α))
  | _, _, _, [] => .ok []
  | index, previousTime, previousStop, clause :: rest => do
    let segment ← clause.resolve lookup axis enterAt index previousTime previousStop
    let later ← resolveAll lookup axis enterAt (index + 1) segment.endTime segment.endPos rest
    return segment :: later

/-- A segment stands before those that end earlier, and before those that end at the same time but
were written earlier. -/
def Segment.precedes (a b : Segment α) : Bool :=
  match Arithmetic.order b.endTime a.endTime with
  | .lt => true
  | .eq => b.clause ≤ a.clause
  | .gt => false

def Segment.place (a : Segment α) : List (Segment α) → List (Segment α)
  | [] => [a]
  | b :: rest => if a.precedes b then a :: b :: rest else b :: a.place rest

def Segment.latestFirst (segments : List (Segment α)) : List (Segment α) :=
  segments.foldr Segment.place []

namespace AxisArg

/-- A single position is pinned, and a curve written with it is not looked at. -/
def resolveWaypoints (lookup : Lookup α) (axis : Axis) (values : List Scalar)
    (curve : Option CurveArg) : Except (DirectiveError α) (Track α) := do
  match ← values.mapM (Scalar.resolve lookup axis) with
  | [value] => return .fixed value
  | positions => return .waypoints positions (← CurveArg.resolveOr lookup axis curve)

def resolveTimeline (lookup : Lookup α) (axis : Axis) (enterAt : α) (initial : Scalar)
    (clauses : List Clause) : Except (DirectiveError α) (Track α) := do
  let initial ← initial.resolve lookup axis
  let segments ← Clause.resolveAll lookup axis enterAt 0 0.0 initial clauses
  return .custom initial (Segment.latestFirst segments)

def resolve (lookup : Lookup α) (axis : Axis) (enterAt : α) :
    AxisArg → Except (DirectiveError α) (Track α)
  | waypoints values curve => resolveWaypoints lookup axis values curve
  | timeline initial clauses => resolveTimeline lookup axis enterAt initial clauses

end AxisArg

end ScrollTimeline
