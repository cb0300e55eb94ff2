import ScrollTimeline.Decimal.Layout
import ScrollTimeline.Track.Basic

/-!
The compiled behaviour of one element and its evaluation at a scroll position.

Scroll positions, times and heights are counted in hundredths of the viewport's height. The lifetime of
an element starts at `enterAt` and ends at `leaveAt`; its progress is 0 at the start and 1 at the end. An
absolute element is positioned by its tracks and shown during its lifetime only. Any other rises through
the viewport, from just below it to just above it, and has no horizontal position.
-/
set_option autoImplicit false

namespace ScrollTimeline

/-- A horizontal distance in hundredths of the viewport's width, a vertical one in hundredths of its
height, an opacity, or a channel that is not driven and stays as it is. -/
inductive Output (α : Type) where
  | vw (value : α)
  | vh (value : α)
  | opacity (value : α)
  | auto
deriving DecidableEq, Repr

namespace Output

def value? {α : Type} : Output α → Option α
  | vw value => some value
  | vh value => some value
  | opacity value => some value
  | auto => none

def pieces : Output Float → List String
  | vw value => Decimal.Layout.plain.pieces value ++ ["vw"]
  | vh value => Decimal.Layout.plain.pieces value ++ ["vh"]
  | opacity value => Decimal.Layout.plain.pieces value
  | auto => ["auto"]

def text (output : Output Float) : String := String.join output.pieces

end Output

/-- Opacity as a function of progress: constant, one fade that runs backwards in the second half, or a
fade in and a fade out of their own. The offset is the fraction of the lifetime that the fades leave out
at both ends. -/
inductive Opacity (α : Type) where
  | constant
  | symmetric (curve : Easing α) (offset : α)
  | split (fadeIn fadeOut : Easing α) (offset : α)
deriving DecidableEq, Repr

structure Record (α : Type) where
  id : String
  handle : Nat
  enterAt : α
  duration : α
  leaveAt : α
  absolute : Bool
  height : α
  positionCurve : Easing α
  opacity : Opacity α
  x : Track α
  y : Track α
deriving DecidableEq, Repr

structure Sample (α : Type) where
  id : String
  handle : Nat
  visible : Bool
  progress : α
  x : Output α
  y : Output α
  opacity : Output α
deriving DecidableEq, Repr

variable {α : Type} [Arithmetic α]

namespace Opacity

def leastSpan : α := 1.0 / 4503599627370496.0

/-- Carries the distance to the nearer end of the lifetime onto `[0, 1]`: 0 up to the offset and 1 in
the middle. A fade not longer than 2^-52 of the lifetime is a step. -/
def fadePhase (distance offset : α) : α :=
  let span := 0.5 - offset
  if span ≤ leastSpan then (if offset ≤ distance then 1.0 else 0.0)
  else Arithmetic.clampUnit ((distance - offset) / span)

def evaluate (opacity : Opacity α) (progress : α) : α :=
  match opacity with
  | constant => 1.0
  | symmetric curve offset =>
    curve.evaluate (fadePhase (Arithmetic.lesser progress (1.0 - progress)) offset)
  | split fadeIn fadeOut offset =>
    if progress ≤ 0.5 then fadeIn.evaluate (fadePhase progress offset)
    else fadeOut.evaluate (fadePhase (1.0 - progress) offset)

end Opacity

def viewportSpan : α := 100.0

namespace Record

def progressAt (record : Record α) (scroll : α) : α := (scroll - record.enterAt) / record.duration

def visibleAt (record : Record α) (scroll : α) : Bool :=
  !record.absolute || !(scroll < record.enterAt || record.leaveAt < scroll)

def xAt (record : Record α) (progress : α) : Output α :=
  if record.absolute then (record.x.evaluate progress record.duration).elim .auto .vw else .auto

def yAt (record : Record α) (progress : α) : Output α :=
  if record.absolute then (record.y.evaluate progress record.duration).elim .auto .vh
  else
    let travelled := record.positionCurve.evaluate progress
    .vh (viewportSpan - travelled * (viewportSpan + record.height))

def opacityAt (record : Record α) (progress : α) : Output α :=
  .opacity (record.opacity.evaluate progress)

def sample (record : Record α) (scroll : α) : Sample α :=
  let progress := record.progressAt scroll
  { id := record.id
    handle := record.handle
    visible := record.visibleAt scroll
    progress := progress
    x := record.xAt progress
    y := record.yAt progress
    opacity := record.opacityAt progress }

end Record

end ScrollTimeline
