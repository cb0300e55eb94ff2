import ScrollTimeline.Easing.Basic

/-!
The value of an easing curve at a time.

The horizontal coordinate `X` of the curve is a cubic in the curve's parameter. To find the
parameter at which it reaches a time, `X` is tabulated at the eleven tenths of the parameter range,
the tenth that contains the time is searched for, and the parameter guessed by linear interpolation
there is improved: by Newton's method where the curve is steep enough, by bisection where it is
nearly flat.
-/
set_option autoImplicit false

namespace ScrollTimeline

variable {α : Type} [Arithmetic α]

namespace Cubic

/-- Coefficient of the third power in one coordinate of a cubic curve from 0 to 1 with the controls
`first` and `second`. -/
def third (first second : α) : α := 1.0 - 3.0 * second + 3.0 * first

def square (first second : α) : α := 3.0 * second - 6.0 * first

def linear (first : α) : α := 3.0 * first

def coordinate (first second t : α) : α :=
  ((third first second * t + square first second) * t + linear first) * t

def slope (first second t : α) : α :=
  3.0 * third first second * t * t + 2.0 * square first second * t + linear first

end Cubic

namespace Easing

def x (c : Easing α) (t : α) : α := Cubic.coordinate c.x1 c.x2 t

def y (c : Easing α) (t : α) : α := Cubic.coordinate c.y1 c.y2 t

def xSlope (c : Easing α) (t : α) : α := Cubic.slope c.x1 c.x2 t

def tenth : α := 1.0 / 10.0

def sample (c : Easing α) (index : Nat) : α := c.x ((index : α) * tenth)

structure Interval (α : Type) where
  index : Nat
  start : α

def advance (c : Easing α) (time : α) : Nat → Interval α → Interval α
  | 0, here => here
  | steps + 1, here =>
    if c.sample (here.index + 1) ≤ time then
      c.advance time steps ⟨here.index + 1, here.start + tenth⟩
    else here

def locate (c : Easing α) (time : α) : Interval α := c.advance time 9 ⟨0, 0.0⟩

def guess (c : Easing α) (time : α) (here : Interval α) : α :=
  let low := c.sample here.index
  let span := c.sample (here.index + 1) - low
  let fraction := if 0.0 < span then (time - low) / span else 0.0
  here.start + fraction * tenth

def newton (c : Easing α) (time : α) : Nat → α → α
  | 0, t => t
  | steps + 1, t =>
    let slope := c.xSlope t
    if slope == 0.0 then t else c.newton time steps (t - (c.x t - time) / slope)

/-- Halves `[low, high]` until the middle is within 1e-7 of the time or the steps run out, and
answers the last middle. -/
def bisect (c : Easing α) (time : α) : Nat → (low high last : α) → α
  | 0, _, _, last => last
  | steps + 1, low, high, _ =>
    let middle := low + (high - low) / 2.0
    let excess := c.x middle - time
    if Arithmetic.magnitude excess ≤ 1e-7 then middle
    else if 0.0 < excess then c.bisect time steps low middle middle
    else c.bisect time steps middle high middle

def steep : α := 0.001

def parameter (c : Easing α) (time : α) : α :=
  let here := c.locate time
  let start := c.guess time here
  let slope := c.xSlope start
  if steep ≤ slope then c.newton time 4 start
  else if slope == 0.0 then start
  else c.bisect time 10 here.start (here.start + tenth) here.start

/-- The eased value of `progress`. An identity curve returns it untouched, even outside `[0, 1]`;
every other curve is 0 up to progress 0 and 1 from progress 1 on. -/
def evaluate (c : Easing α) (progress : α) : α :=
  if c.isIdentity then progress
  else if progress ≤ 0.0 then 0.0
  else if 1.0 ≤ progress then 1.0
  else c.y (c.parameter progress)

end Easing

end ScrollTimeline
