import Mathlib
import ScrollTimeline.Proofs.Number.Exact
import ScrollTimeline.Report

/-!
What the records of a page rely on in their numbers.

The few laws hold of doubles and of exact fractions alike. For doubles they are read off the unpacked
form: packing keeps the sign of a number and keeps it from being undefined, and no operation makes a
minus out of two pluses.
-/
set_option autoImplicit false

namespace ScrollTimeline

open Arithmetic

/-- Numbers of which a sum with a finite one, a share of a whole and an order can be relied on. -/
class LawfulArithmetic (α : Type) [Arithmetic α] : Prop where
  isFinite_value (n : Numeral) : n.isBounded = true → isFinite (n.value : α) = true
  isUndefined_of_isFinite {a : α} : isFinite a = true → isUndefined a = false
  isUndefined_add {a b : α} :
    isUndefined a = false → isFinite b = true → isUndefined (a + b) = false
  le_of_not_lt {a b : α} :
    isUndefined a = false → isUndefined b = false → ¬ b < a → a ≤ b
  share_nonneg {a : α} :
    ¬ a ≤ 0.0 → isUndefined (a / (viewportSpan + a)) = false → 0.0 ≤ a / (viewportSpan + a)
  isSize_viewportSpan : Geometry.isSize (viewportSpan : α) = true
  inUnit_zero : inUnit (0.0 : α) = true
  inUnit_one : inUnit (1.0 : α) = true
  isFinite_zero : isFinite (0.0 : α) = true
  isFinite_half : isFinite (0.5 : α) = true
  isFinite_one : isFinite (1.0 : α) = true
  zero_le_half : (0.0 : α) ≤ 0.5
  half_le_half : (0.5 : α) ≤ 0.5
  transCmp_order : Std.TransCmp (order : α → α → Ordering)

namespace Binary

open Float.Model Float.Model.UnpackedFloat

/-! ### Unpacked numbers -/

/-- The sign of a number; one that is undefined counts as positive. -/
def sign : UnpackedFloat → Sign
  | .notANumber => .positive
  | .infinity s => s
  | .zero s => s
  | .finite s _ _ _ => s

theorem sign_of_isNaN {x : UnpackedFloat} (undefined : x.isNaN = true) : sign x = .positive := by
  cases x with
  | notANumber => rfl
  | _ => cases undefined

variable {format : Format}

theorem sign_unpack (bits : BitVec format.numBits)
    (defined : (UnpackedFloat.unpack format bits).isNaN = false) :
    sign (UnpackedFloat.unpack format bits) = Sign.ofBitVec (unpackSign bits) := by
  simp only [UnpackedFloat.unpack] at defined ⊢
  split_ifs at defined ⊢
  · rfl
  · cases defined
  · rfl
  · rfl
  · rfl

/-- All ones are the exponent of infinities and undefined numbers only. -/
theorem isNaN_unpack_iff (bits : BitVec format.numBits) :
    (UnpackedFloat.unpack format bits).isNaN = true ↔
      unpackExponent bits = -1#_ ∧ unpackMantissa bits ≠ 0#_ := by
  simp only [UnpackedFloat.unpack]
  split_ifs <;> simp_all [UnpackedFloat.isNaN]

theorem ofNat_ne_allOnes {n : Nat} (small : n + 1 < 2 ^ format.exponentBits) :
    BitVec.ofNat format.exponentBits n ≠ -1#_ := by
  intro same
  have equal := congrArg BitVec.toNat same
  rw [BitVec.neg_one_eq_allOnes, BitVec.toNat_allOnes, BitVec.toNat_ofNat,
    Nat.mod_eq_of_lt (by omega)] at equal
  omega

theorem zero_ne_allOnes : BitVec.ofNat format.exponentBits 0 ≠ -1#_ :=
  ofNat_ne_allOnes (Nat.one_lt_two_pow format.he.ne')

/-- A number is packed with its sign, and with the exponent and mantissa of an undefined one only if it
is. -/
theorem pack_eq_packComponents (format : Format) (x : UnpackedFloat) :
    ∃ exponent mantissa, UnpackedFloat.pack format x = packComponents format (sign x) exponent mantissa ∧
      (x.isNaN = true ↔ exponent = -1#_ ∧ mantissa ≠ 0#_) := by
  cases x with
  | notANumber =>
    refine ⟨_, _, rfl, ?_⟩
    have one : BitVec.ofNat format.mantissaBitsWithoutImplicit 1 <<<
        (format.mantissaBitsWithoutImplicit - 1) ≠ 0#_ := by
      intro same
      have equal := congrArg BitVec.toNat same
      have width := format.hm
      simp only [BitVec.toNat_shiftLeft, BitVec.toNat_ofNat, Nat.zero_mod,
        Nat.mod_eq_of_lt (Nat.one_lt_two_pow width.ne'), Nat.one_shiftLeft] at equal
      rw [Nat.mod_eq_of_lt (Nat.pow_lt_pow_right (by omega) (by omega))] at equal
      exact (Nat.two_pow_pos _).ne' equal
    simp [UnpackedFloat.isNaN, one]
  | infinity s => exact ⟨_, _, rfl, by simp [UnpackedFloat.isNaN]⟩
  | zero s => exact ⟨_, _, rfl, by simp [UnpackedFloat.isNaN]⟩
  | finite s m e positive =>
    simp only [UnpackedFloat.pack, UnpackedFloat.isNaN, Bool.false_eq_true, false_iff]
    split_ifs with large normal
    · exact ⟨_, _, rfl, by simp⟩
    · exact ⟨_, _, rfl, fun ones => ofNat_ne_allOnes (by omega) ones.1⟩
    · exact ⟨_, _, rfl, fun ones => zero_ne_allOnes ones.1⟩

theorem isNaN_unpack_pack (x : UnpackedFloat) :
    (UnpackedFloat.unpack format (UnpackedFloat.pack format x)).isNaN = x.isNaN := by
  obtain ⟨exponent, mantissa, packed, undefined⟩ := pack_eq_packComponents format x
  rw [Bool.eq_iff_iff, isNaN_unpack_iff, packed, unpackExponent_packComponents,
    unpackMantissa_packComponents, undefined]

theorem sign_unpack_pack (x : UnpackedFloat) :
    sign (UnpackedFloat.unpack format (UnpackedFloat.pack format x)) = sign x := by
  obtain ⟨exponent, mantissa, packed, _⟩ := pack_eq_packComponents format x
  cases undefined : x.isNaN with
  | false =>
    rw [sign_unpack _ (isNaN_unpack_pack x ▸ undefined), packed, unpackSign_packComponents,
      Sign.ofBitVec_toBitVec]
  | true =>
    rw [sign_of_isNaN undefined, sign_of_isNaN ((isNaN_unpack_pack x).trans undefined)]

/-! ### Operations -/

theorem isNaN_roundWithAccuracy (s : Sign) (m : Nat) (e : Int) (accuracy : Accuracy) :
    (roundWithAccuracy format s m e accuracy).isNaN = false := by
  simp only [roundWithAccuracy]
  split_ifs <;> rfl

theorem sign_roundWithAccuracy (s : Sign) (m : Nat) (e : Int) (accuracy : Accuracy) :
    sign (roundWithAccuracy format s m e accuracy) = s := by
  simp only [roundWithAccuracy]
  split_ifs <;> rfl

theorem isNaN_normalize (m e : Int) (s : Sign) : (UnpackedFloat.normalize format m e s).isNaN = false := by
  simp only [UnpackedFloat.normalize, UnpackedFloat.round]
  split
  · exact isNaN_roundWithAccuracy ..
  · rfl
  · exact isNaN_roundWithAccuracy ..

theorem sign_normalize {m : Int} (e : Int) (positive : 0 ≤ m) :
    sign (UnpackedFloat.normalize format m e .positive) = .positive := by
  simp only [UnpackedFloat.normalize, UnpackedFloat.round]
  split
  · rename_i below
    exact absurd (Int.compare_eq_lt.mp below) (Int.not_lt.mpr positive)
  · rfl
  · exact sign_roundWithAccuracy ..

theorem isNaN_add {x y : UnpackedFloat} (defined : x.isNaN = false) (finite : y.isFinite = true) :
    (UnpackedFloat.add format x y).isNaN = false := by
  cases x with
  | notANumber => cases defined
  | infinity s =>
    cases y with
    | zero t => rfl
    | finite t n f p => rfl
    | _ => cases finite
  | zero s =>
    cases y with
    | zero t => cases s <;> cases t <;> rfl
    | finite t n f p => rfl
    | _ => cases finite
  | finite s m e p =>
    cases y with
    | zero t => rfl
    | finite t n f q => exact isNaN_normalize ..
    | _ => cases finite

theorem sign_add {x y : UnpackedFloat} (plus : sign x = .positive) (plus' : sign y = .positive) :
    sign (UnpackedFloat.add format x y) = .positive := by
  cases x <;> cases y <;> cases plus <;> cases plus'
  case finite.finite => exact sign_normalize _ (Int.add_nonneg (Int.natCast_nonneg _) (Int.natCast_nonneg _))
  all_goals rfl

theorem sign_div {x y : UnpackedFloat} (plus : sign x = .positive) (plus' : sign y = .positive) :
    sign (UnpackedFloat.div format x y) = .positive := by
  cases x <;> cases y <;> cases plus <;> cases plus'
  case finite.finite => exact sign_roundWithAccuracy ..
  all_goals rfl

theorem compare_swap (x y : UnpackedFloat) :
    x.compare y = (y.compare x).map Ordering.swap := by
  have keys : ∀ (e f : Int) (m n : Nat), (compare e f).then (compare m n) =
      ((compare f e).then (compare n m)).swap := by
    intro e f m n
    rw [Ordering.swap_then, Int.compare_swap, Nat.compare_swap]
  cases x with
  | notANumber => cases y <;> rfl
  | infinity s =>
    cases y with
    | infinity t => cases s <;> cases t <;> rfl
    | _ => cases s <;> rfl
  | zero s =>
    cases y with
    | infinity t => cases t <;> rfl
    | finite t n f q => cases t <;> rfl
    | _ => rfl
  | finite s m e p =>
    cases y with
    | infinity t => cases s <;> cases t <;> rfl
    | finite t n f q =>
      cases s <;> cases t
      · simp only [UnpackedFloat.compare, Option.map_some, ← keys]
      · rfl
      · rfl
      · simp only [UnpackedFloat.compare, Option.map_some, ← keys]
    | _ => cases s <;> rfl

theorem isSome_compare {x y : UnpackedFloat} (defined : x.isNaN = false)
    (defined' : y.isNaN = false) : (x.compare y).isSome = true := by
  cases x with
  | notANumber => cases defined
  | infinity s =>
    cases y with
    | notANumber => cases defined'
    | _ => cases s <;> rfl
  | zero s =>
    cases y with
    | notANumber => cases defined'
    | infinity t => cases t <;> rfl
    | finite t n f q => cases t <;> rfl
    | zero t => rfl
  | finite s m e p =>
    cases y with
    | notANumber => cases defined'
    | infinity t => cases s <;> cases t <;> rfl
    | finite t n f q => cases s <;> cases t <;> rfl
    | zero t => cases s <;> rfl

theorem isNaN_of_isFinite {x : UnpackedFloat} (finite : x.isFinite = true) : x.isNaN = false := by
  cases x with
  | zero s => rfl
  | finite s m e p => rfl
  | _ => cases finite

/-! ### Doubles -/

def unpacked (x : Float) : UnpackedFloat := x.toModel.unpack

theorem sign_add_unpacked {x y : Float} (plus : sign (unpacked x) = .positive)
    (plus' : sign (unpacked y) = .positive) : sign (unpacked (x + y)) = .positive :=
  (sign_unpack_pack _).trans (sign_add plus plus')

theorem sign_div_unpacked {x y : Float} (plus : sign (unpacked x) = .positive)
    (plus' : sign (unpacked y) = .positive) : sign (unpacked (x / y)) = .positive :=
  (sign_unpack_pack _).trans (sign_div plus plus')

theorem isUndefined_eq (x : Float) : isUndefined x = (unpacked x).isNaN := by
  have same : isUndefined x = !((unpacked x).compare (unpacked x) == some .eq) := rfl
  rw [same]
  cases unpacked x with
  | notANumber => rfl
  | infinity s => cases s <;> rfl
  | zero s => rfl
  | finite s m e p => cases s <;> simp [UnpackedFloat.compare, UnpackedFloat.isNaN]

theorem le_iff (x y : Float) :
    x ≤ y ↔ ((unpacked x).compare (unpacked y)).any Ordering.isLE = true :=
  decide_eq_true_iff

theorem lt_iff (x y : Float) : x < y ↔ (unpacked x).compare (unpacked y) = some .lt :=
  decide_eq_true_iff.trans beq_iff_eq

/-- A positive number is not below zero, and no other defined one is above it. -/
theorem zero_le_of_sign {x : Float} (plus : sign (unpacked x) = .positive)
    (defined : (unpacked x).isNaN = false) : (0.0 : Float) ≤ x := by
  rw [le_iff]
  have zero : unpacked 0.0 = .zero .positive := rfl
  rw [zero]
  cases known : unpacked x with
  | notANumber =>
    rw [known] at defined
    cases defined
  | _ =>
    rw [known] at plus
    cases plus
    rfl

theorem sign_of_not_le_zero {x : Float} (above : ¬ x ≤ (0.0 : Float)) :
    sign (unpacked x) = .positive := by
  rw [le_iff] at above
  have zero : unpacked 0.0 = .zero .positive := rfl
  rw [zero] at above
  cases known : unpacked x with
  | notANumber => rfl
  | zero s =>
    rw [known] at above
    exact absurd rfl above
  | infinity s =>
    rw [known] at above
    cases s with
    | negative => exact absurd rfl above
    | positive => rfl
  | finite s m e p =>
    rw [known] at above
    cases s with
    | negative => exact absurd rfl above
    | positive => rfl

instance : LawfulArithmetic Float where
  isFinite_value n bounded := bounded
  isUndefined_of_isFinite {x} finite := by
    rw [isUndefined_eq]
    exact isNaN_of_isFinite finite
  isUndefined_add {x y} defined finite := by
    rw [isUndefined_eq] at defined ⊢
    exact (isNaN_unpack_pack _).trans (isNaN_add defined finite)
  le_of_not_lt {x y} defined defined' notBelow := by
    rw [isUndefined_eq] at defined defined'
    obtain ⟨between, known⟩ := Option.isSome_iff_exists.mp (isSome_compare defined defined')
    have back : ¬ (unpacked y).compare (unpacked x) = some .lt := mt (lt_iff y x).mpr notBelow
    rw [compare_swap, known] at back
    refine (le_iff x y).mpr ?_
    rw [known]
    cases between with
    | gt => exact absurd rfl back
    | _ => rfl
  share_nonneg {x} above defined := by
    rw [isUndefined_eq] at defined
    have plus : sign (unpacked x) = .positive := sign_of_not_le_zero above
    have whole : sign (unpacked (viewportSpan : Float)) = .positive :=
      sign_of_not_le_zero (by decide +kernel)
    exact zero_le_of_sign (sign_div_unpacked plus (sign_add_unpacked whole plus)) defined
  isSize_viewportSpan := by decide +kernel
  inUnit_zero := by decide +kernel
  inUnit_one := by decide +kernel
  isFinite_zero := by decide +kernel
  isFinite_half := by decide +kernel
  isFinite_one := by decide +kernel
  zero_le_half := by decide +kernel
  half_le_half := by decide +kernel
  transCmp_order := inferInstanceAs (Std.TransCmp (compareOn rank))

end Binary

theorem isLE_cmp_iff (p q : Rat) : (cmp p q).isLE = true ↔ p ≤ q := by
  rw [Ordering.isLE_iff_ne_gt, cmp_eq_gt_iff, not_lt]

instance : LawfulArithmetic Rat where
  isFinite_value _ _ := rfl
  isUndefined_of_isFinite _ := isUndefined_rat _
  isUndefined_add _ _ := isUndefined_rat _
  le_of_not_lt _ _ notBelow := not_lt.mp notBelow
  share_nonneg {a} above _ := by
    have whole : (0 : Rat) ≤ viewportSpan := by decide +kernel
    rw [zero_rat] at above ⊢
    have positive : 0 ≤ a := (not_le.mp above).le
    exact div_nonneg positive (add_nonneg whole positive)
  isSize_viewportSpan := by decide +kernel
  inUnit_zero := by decide +kernel
  inUnit_one := by decide +kernel
  isFinite_zero := rfl
  isFinite_half := rfl
  isFinite_one := rfl
  zero_le_half := by decide +kernel
  half_le_half := by decide +kernel
  transCmp_order :=
    { eq_swap := fun {p q} => (cmp_swap q p).symm
      isLE_trans := fun {p q r} below above =>
        (isLE_cmp_iff p r).mpr (((isLE_cmp_iff p q).mp below).trans ((isLE_cmp_iff q r).mp above)) }

end ScrollTimeline
