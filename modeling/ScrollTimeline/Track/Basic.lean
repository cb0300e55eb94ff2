import ScrollTimeline.Easing.Evaluation

/-!
Where an element stands on one axis.

A track is not driven at all, pinned to one position, moves along evenly spaced waypoints, or follows
a custom timeline of explicitly timed segments, which stand with the latest first.
-/
set_option autoImplicit false

namespace ScrollTimeline

/-- One step of a custom timeline: it ends at `endTime`, counted in scroll distance from the
element's entry, and moves from `startPos` to `endPos`. `clause` is its place in the directive. -/
structure Segment (α : Type) where
  clause : Nat
  endTime : α
  startPos : α
  endPos : α
  easing : Easing α
deriving DecidableEq, Repr

inductive Track (α : Type) where
  | unpositioned
  | fixed (value : α)
  | waypoints (values : List α) (curve : Easing α)
  | custom (initial : α) (segments : List (Segment α))
deriving DecidableEq, Repr

variable {α : Type} [Arithmetic α]

namespace Waypoints

def legOf (legs : Nat) (scaled : α) : Nat := min (Arithmetic.floorNat scaled) (legs - 1)

def between (values : List α) (leg : Nat) (inside : leg + 1 < values.length) (t : α) : α :=
  Arithmetic.blend values[leg] values[leg + 1] t

/-- Position at `progress`. All legs take the same share of the progress and the curve eases each
of them; without waypoints the position is 0. -/
def evaluate (values : List α) (curve : Easing α) (progress : α) : α :=
  match values with
  | [] => 0.0
  | [only] => only
  | first :: second :: rest =>
    let values := first :: second :: rest
    if progress ≤ 0.0 then first
    else if 1.0 ≤ progress then values.getLast (by simp [values])
    else
      let legs := rest.length + 1
      let scaled := progress * (legs : α)
      let leg := legOf legs scaled
      between values leg
        (by have := Nat.min_le_right (Arithmetic.floorNat scaled) (legs - 1)
            simp only [leg, legOf, legs, values, List.length_cons] at *
            omega)
        (curve.evaluate (scaled - (leg : α)))

end Waypoints

namespace Timeline

def phase (elapsed start stop : α) : α :=
  if stop ≤ start then (if stop ≤ elapsed then 1.0 else 0.0)
  else Arithmetic.clampUnit ((elapsed - start) / (stop - start))

def ease (segment : Segment α) (origin t : α) : α :=
  Arithmetic.blend origin segment.endPos (segment.easing.evaluate t)

def firstWritten (best : Segment α) : List (Segment α) → Segment α
  | [] => best
  | segment :: rest => firstWritten (if segment.clause < best.clause then segment else best) rest

def afterEnd? (elapsed : α) (active : Segment α) : List (Segment α) → Option α
  | [] => none
  | segment :: earlier =>
    if segment.endTime ≤ elapsed then
      some (ease active active.startPos (phase elapsed segment.endTime active.endTime))
    else afterEnd? elapsed segment earlier

/-- Position after `elapsed` scroll distance. Once the latest segment has ended its end position
holds; after some segment has ended, the next later one moves; before any has, the segment
written first moves away from the initial position. -/
def evaluate (initial : α) (segments : List (Segment α)) (elapsed : α) : α :=
  match segments with
  | [] => initial
  | latest :: earlier =>
    if latest.endTime ≤ elapsed then latest.endPos
    else
      match afterEnd? elapsed latest earlier with
      | some position => position
      | none =>
        let first := firstWritten latest earlier
        ease first initial (phase elapsed 0.0 first.endTime)

end Timeline

namespace Track

def evaluate (track : Track α) (progress duration : α) : Option α :=
  match track with
  | unpositioned => none
  | fixed value => some value
  | waypoints values curve => some (Waypoints.evaluate values curve progress)
  | custom initial segments => some (Timeline.evaluate initial segments (progress * duration))

def fixed? {α : Type} : Track α → Option α
  | fixed value => some value
  | _ => none

def curve? {α : Type} : Track α → Option (Easing α)
  | waypoints _ curve => some curve
  | _ => none

end Track

end ScrollTimeline
