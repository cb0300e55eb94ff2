import ScrollTimeline.Number.Arithmetic

/-!
Easing curves: cubic curves from (0, 0) to (1, 1) with two control points.

A curve's horizontal coordinate never turns back when both its x controls lie in `[0, 1]`, so it
passes each time exactly once. `ofControls` admits just those curves.
-/
set_option autoImplicit false

namespace ScrollTimeline

structure Easing (α : Type) where
  x1 : α
  y1 : α
  x2 : α
  y2 : α
deriving DecidableEq, Repr

inductive EasingError (α : Type) where
  | nonFinite (x1 y1 x2 y2 : α)
  | xOutOfRange (x1 x2 : α)
deriving DecidableEq, Repr

variable {α : Type} [Arithmetic α]

def inUnit (a : α) : Bool := 0.0 ≤ a && a ≤ 1.0

namespace Easing

def linear : Easing α := ⟨0.0, 0.0, 1.0, 1.0⟩

def isFinite (c : Easing α) : Bool :=
  Arithmetic.isFinite c.x1 && Arithmetic.isFinite c.y1 &&
    Arithmetic.isFinite c.x2 && Arithmetic.isFinite c.y2

def Admissible (c : Easing α) : Prop :=
  c.isFinite = true ∧ inUnit c.x1 = true ∧ inUnit c.x2 = true

instance (c : Easing α) : Decidable c.Admissible :=
  inferInstanceAs (Decidable (_ ∧ _ ∧ _))

/-- The curve with the given controls. Finiteness is looked at before the range. -/
def ofControls (x1 y1 x2 y2 : α) : Except (EasingError α) (Easing α) :=
  let curve : Easing α := ⟨x1, y1, x2, y2⟩
  if !curve.isFinite then .error (.nonFinite x1 y1 x2 y2)
  else if !inUnit x1 || !inUnit x2 then .error (.xOutOfRange x1 x2)
  else .ok curve

theorem ofControls_eq_ok_iff (x1 y1 x2 y2 : α) (c : Easing α) :
    ofControls x1 y1 x2 y2 = .ok c ↔ c = ⟨x1, y1, x2, y2⟩ ∧ c.Admissible := by
  unfold ofControls Admissible
  dsimp only
  constructor
  · intro made
    split at made
    · cases made
    · rename_i finite
      split at made
      · cases made
      · rename_i inside
        cases made
        simp only [Bool.not_eq_true', Bool.not_eq_false] at finite
        simp only [Bool.or_eq_true, Bool.not_eq_true', not_or, Bool.not_eq_false] at inside
        exact ⟨rfl, finite, inside.1, inside.2⟩
  · rintro ⟨rfl, finite, first, second⟩
    dsimp only at first second
    simp only [finite, first, second, Bool.not_true, Bool.false_eq_true, ↓reduceIte, Bool.or_self]

def isIdentity (c : Easing α) : Bool := c.x1 == c.y1 && c.x2 == c.y2

/-- The same controls; a negative zero equals a positive one. -/
def sameControls (c d : Easing α) : Bool :=
  c.x1 == d.x1 && c.y1 == d.y1 && c.x2 == d.x2 && c.y2 == d.y2

end Easing

end ScrollTimeline
