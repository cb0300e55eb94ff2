import ScrollTimeline.Proofs.Number.Lawful

/-!
Which decimals are finite as doubles.

A decimal without exponent has a finite double if at most 308 digits stand before its point. The bound on
its size is followed through rounding and packing as a bound on the exponent.
-/
set_option autoImplicit false

namespace ScrollTimeline

namespace Binary

open Float.Model Float.Model.UnpackedFloat

/-! ### Rounding -/

/-- The number is finite and its least digit counts `2^bound` at most. -/
inductive ExponentAtMost (bound : Int) : UnpackedFloat → Prop where
  | zero (s : Sign) : ExponentAtMost bound (.zero s)
  | finite (s : Sign) (mantissa : Nat) (exponent : Int) (positive : 0 < mantissa)
      (below : exponent ≤ bound) : ExponentAtMost bound (.finite s mantissa exponent positive)

theorem mantissa_shiftRight (extended : ExtendedMantissa) (count : Nat) :
    (extended >>> count).mantissa = extended.mantissa / 2 ^ count := by
  change (count.repeat ExtendedMantissa.shiftRightOne extended).mantissa = _
  induction count with
  | zero => simp [Nat.repeat]
  | succ count ih =>
    have halved : ((count + 1).repeat ExtendedMantissa.shiftRightOne extended).mantissa =
        (count.repeat ExtendedMantissa.shiftRightOne extended).mantissa / 2 := rfl
    rw [halved, ih, Nat.div_div_eq_div_mul, pow_succ]

theorem roundedMantissa_le (extended : ExtendedMantissa) :
    extended.roundedMantissa ≤ extended.mantissa + 1 := by
  have parity : extended.mantissa % 2 ≤ 1 := by omega
  rw [ExtendedMantissa.roundedMantissa]
  cases extended.accuracy with
  | exact => exact Nat.le_succ _
  | inexact side =>
    cases side with
    | lt => exact Nat.le_succ _
    | eq => exact Nat.add_le_add_left parity _
    | gt => exact le_rfl

theorem mantissa_ofMantissaAndAccuracy (mantissa : Nat) (accuracy : Accuracy) :
    (ExtendedMantissa.ofMantissaAndAccuracy mantissa accuracy).mantissa = mantissa := by
  cases accuracy with
  | exact => rfl
  | inexact side => cases side <;> rfl

/-- How far a mantissa is moved to the right so that 53 bits or, for small numbers, fewer are left. -/
def excess (mantissa : Nat) (exponent : Int) : Nat :=
  (max ((mantissa.log2 : Int) + 1 + exponent - 53) (-1074) - exponent).toNat

theorem shiftToTargetExponent_eq (mantissa : Nat) (exponent : Int) (accuracy : Accuracy) :
    (shiftToTargetExponent Format.binary64 mantissa exponent accuracy).1.mantissa =
        mantissa / 2 ^ excess mantissa exponent ∧
      (shiftToTargetExponent Format.binary64 mantissa exponent accuracy).2 =
        exponent + excess mantissa exponent := by
  refine ⟨?_, rfl⟩
  rw [shiftToTargetExponent, shiftToExponent, mantissa_shiftRight, mantissa_ofMantissaAndAccuracy]
  rfl

theorem log2_lt_of_lt {n k : Nat} (positive : 0 < k) (below : n < 2 ^ k) : n.log2 < k := by
  by_cases zero : n = 0
  · rw [zero, Nat.log2_zero]
    exact positive
  · exact (Nat.log2_lt zero).mpr below

/-- A number below the greatest one of the given exponent is rounded to one of at most that exponent. -/
theorem exponentAtMost_round {bound exponent : Int} {mantissa : Nat} (sign : Sign) (accuracy : Accuracy)
    (large : -1074 ≤ bound) (below : exponent ≤ bound)
    (small : mantissa < (2 ^ 53 - 1) * 2 ^ (bound - exponent).toNat) :
    ExponentAtMost bound (roundWithAccuracy Format.binary64 sign mantissa exponent accuracy) := by
  obtain ⟨shifted, raised⟩ := shiftToTargetExponent_eq mantissa exponent accuracy
  simp only [roundWithAccuracy]
  generalize shiftToTargetExponent Format.binary64 mantissa exponent accuracy = first at *
  obtain ⟨again, raisedAgain⟩ := shiftToTargetExponent_eq first.1.roundedMantissa first.2 .exact
  generalize shiftToTargetExponent Format.binary64 first.1.roundedMantissa first.2 .exact = last at *
  split
  · exact .zero _
  have bits : mantissa.log2 < 53 + (bound - exponent).toNat := by
    refine log2_lt_of_lt (by omega) (small.trans_le ?_)
    rw [pow_add]
    exact Nat.mul_le_mul_right _ (by norm_num)
  have left : mantissa / 2 ^ excess mantissa exponent < 2 ^ 53 := by
    refine Nat.div_lt_of_lt_mul (Nat.lt_log2_self.trans_le ?_)
    rw [← pow_add]
    refine Nat.pow_le_pow_right (by norm_num) ?_
    rw [excess]
    omega
  have rounded := roundedMantissa_le first.1
  refine .finite _ _ _ _ ?_
  rw [raisedAgain]
  have within : first.2 ≤ bound := by
    rw [raised, excess]
    omega
  -- Only a mantissa of 53 ones could be carried beyond the bound, and at the bound there is none.
  rcases within.lt_or_eq with less | reached
  · have bitsLeft : first.1.roundedMantissa.log2 < 54 := by
      refine log2_lt_of_lt (by norm_num) ?_
      omega
    rw [excess]
    omega
  · have distance : excess mantissa exponent = (bound - exponent).toNat := by omega
    have fewer : first.1.mantissa < 2 ^ 53 - 1 := by
      rw [shifted, distance]
      exact Nat.div_lt_of_lt_mul (by rwa [Nat.mul_comm])
    have bitsLeft : first.1.roundedMantissa.log2 < 53 := by
      refine log2_lt_of_lt (by norm_num) ?_
      omega
    rw [excess]
    omega

/-! ### Packing -/

theorem isFinite_unpack_iff (bits : BitVec Format.binary64.numBits) :
    (UnpackedFloat.unpack Format.binary64 bits).isFinite = true ↔ unpackExponent bits ≠ -1#_ := by
  simp only [UnpackedFloat.unpack]
  split_ifs <;> simp_all [UnpackedFloat.isFinite]

theorem exponentAtMost_unpack {bits : BitVec Format.binary64.numBits} {bound : Int}
    (large : -1074 ≤ bound) (finite : unpackExponent bits ≠ -1#_)
    (below : (unpackExponent bits).toNat ≤ bound + 1075) :
    ExponentAtMost bound (UnpackedFloat.unpack Format.binary64 bits) := by
  have offset : (Format.binary64.exponentBias : Int) +
      Format.binary64.mantissaBitsWithoutImplicit = 1075 := by decide
  simp only [UnpackedFloat.unpack]
  rw [if_neg finite]
  split_ifs with subnormal zero
  · exact .zero _
  · refine .finite _ _ _ _ ?_
    rw [offset, subnormal]
    simp only [BitVec.toNat_ofNat, Nat.zero_mod]
    omega
  · refine .finite _ _ _ _ ?_
    rw [offset]
    omega

theorem exponentAtMost_unpack_packComponents {bound : Int} (sign : Sign) (exponent : Nat)
    (mantissa : BitVec Format.binary64.mantissaBitsWithoutImplicit) (large : -1074 ≤ bound)
    (below : exponent ≤ bound + 1075) (representable : exponent < 2047) :
    ExponentAtMost bound (UnpackedFloat.unpack Format.binary64
      (packComponents Format.binary64 sign (BitVec.ofNat _ exponent) mantissa)) := by
  have same : (BitVec.ofNat Format.binary64.exponentBits exponent).toNat = exponent := by
    rw [BitVec.toNat_ofNat]
    exact Nat.mod_eq_of_lt (representable.trans (by decide))
  refine exponentAtMost_unpack large ?_ ?_
  · rw [unpackExponent_packComponents]
    intro ones
    rw [ones] at same
    have top : (-1#(Format.binary64.exponentBits)).toNat = 2047 := by decide
    omega
  · rw [unpackExponent_packComponents, same]
    exact below

theorem exponentAtMost_unpack_pack {bound : Int} {x : UnpackedFloat} (large : -1074 ≤ bound)
    (representable : bound ≤ 971) (small : ExponentAtMost bound x) :
    ExponentAtMost bound
      (UnpackedFloat.unpack Format.binary64 (UnpackedFloat.pack Format.binary64 x)) := by
  cases small with
  | zero s => exact exponentAtMost_unpack_packComponents s 0 0 large (by omega) (by norm_num)
  | finite s mantissa exponent positive below =>
    have biased : exponent + (Format.binary64.exponentBias : Int) +
        (Format.binary64.mantissaBitsWithoutImplicit : Int) = exponent + 1075 := by
      have bias : (Format.binary64.exponentBias : Int) = 1023 := by decide
      have width : (Format.binary64.mantissaBitsWithoutImplicit : Int) = 52 := rfl
      omega
    have room : 2 ^ Format.binary64.exponentBits = 2048 := by decide
    simp only [UnpackedFloat.pack, biased, room]
    rw [if_neg (by omega)]
    split_ifs
    · exact exponentAtMost_unpack_packComponents s _ _ large (by omega) (by omega)
    · exact exponentAtMost_unpack_packComponents s 0 _ large (by omega) (by norm_num)

theorem mantissa_lt_of_unpack {bits : BitVec Format.binary64.numBits} {s : Sign} {mantissa : Nat}
    {exponent : Int} {positive : 0 < mantissa}
    (unpacked : UnpackedFloat.unpack Format.binary64 bits = .finite s mantissa exponent positive) :
    mantissa < 2 ^ 53 := by
  simp only [UnpackedFloat.unpack] at unpacked
  split_ifs at unpacked
  · injection unpacked with _ same
    rw [← same]
    exact (BitVec.isLt _).trans (by decide)
  · injection unpacked with _ same
    rw [← same]
    exact BitVec.isLt _

/-! ### Operations -/

theorem isFinite_of_exponentAtMost {bound : Int} {x : Float}
    (small : ExponentAtMost bound (unpacked x)) : x.isFinite = true := by
  have same : x.isFinite = (unpacked x).isFinite := rfl
  rw [same]
  generalize unpacked x = y at small
  cases small <;> rfl

theorem isFinite_ofModel_pack {x : UnpackedFloat} (small : ExponentAtMost 971 x) :
    (Float.ofModel (Float.Model.pack x)).isFinite = true :=
  isFinite_of_exponentAtMost (exponentAtMost_unpack_pack (by norm_num) le_rfl small)

theorem isFinite_neg {x : Float} (finite : x.isFinite = true) : (-x).isFinite = true := by
  have known : (unpacked x).isFinite = true := finite
  refine isFinite_ofModel_pack (x := (unpacked x).neg) ?_
  have small : ExponentAtMost 971 (unpacked x) := by
    have exponent := (isFinite_unpack_iff _).mp known
    refine exponentAtMost_unpack (by norm_num) exponent ?_
    have bound := (@unpackExponent Format.binary64 x.toModel.toBits.toBitVec).isLt
    have top : 2 ^ Format.binary64.exponentBits = 2048 := by decide
    have proper : (@unpackExponent Format.binary64 x.toModel.toBits.toBitVec).toNat ≠
        2047 := by
      intro same
      exact exponent (BitVec.eq_of_toNat_eq same)
    omega
  generalize unpacked x = y at small
  cases small with
  | zero s => exact .zero _
  | finite s mantissa exponent positive below => exact .finite _ _ _ _ below

theorem exponentAtMost_toFloat (n : UInt64) : ExponentAtMost 12 (unpacked n.toFloat) := by
  refine exponentAtMost_unpack_pack (by norm_num) (by norm_num) ?_
  have small : n.toNat < 2 ^ 64 := n.toNat_lt
  rw [UnpackedFloat.ofUInt64, UnpackedFloat.ofNat, UnpackedFloat.ofInt, UnpackedFloat.normalize]
  split
  · rename_i below
    exact absurd (Int.compare_eq_lt.mp below) (Int.not_lt.mpr (Int.natCast_nonneg _))
  · exact .zero _
  · rw [UnpackedFloat.round, decreaseExponent]
    generalize Format.binary64.targetExponent _ = target
    refine exponentAtMost_round _ _ (by norm_num) (by omega) ?_
    rw [Int.toNat_natCast, Nat.shiftLeft_eq]
    have distance : (12 - (0 - ((0 - target).toNat : Int))).toNat = 12 + (0 - target).toNat := by
      omega
    rw [distance, pow_add, ← Nat.mul_assoc]
    exact Nat.mul_lt_mul_of_pos_right (small.trans (by norm_num)) (by positivity)

/-- A quotient of natural numbers below `10^308` is rounded to a finite number, whatever bits of it are
computed. -/
theorem exponentAtMost_div {m₁ m₂ : Nat} {e₁ e₂ : Int} {positive₁ : 0 < m₁} {positive₂ : 0 < m₂}
    (s₁ s₂ : Sign) (below : e₁ - e₂ ≤ 971)
    (small : m₁ < (2 ^ 53 - 1) * 2 ^ (971 - (e₁ - e₂)).toNat * m₂) :
    ExponentAtMost 971 (UnpackedFloat.div Format.binary64 (.finite s₁ m₁ e₁ positive₁)
      (.finite s₂ m₂ e₂ positive₂)) := by
  simp only [UnpackedFloat.div, divCore]
  generalize Format.binary64.targetExponent _ = target
  have lower : min (e₁ - e₂) target ≤ e₁ - e₂ := min_le_left _ _
  generalize min (e₁ - e₂) target = exponent at *
  refine exponentAtMost_round _ _ (by norm_num) (lower.trans below) ?_
  rw [Nat.div_lt_iff_lt_mul positive₂, Nat.shiftLeft_eq]
  have distance : (971 - exponent).toNat = (971 - (e₁ - e₂)).toNat + (e₁ - e₂ - exponent).toNat := by
    omega
  rw [distance, pow_add]
  calc m₁ * 2 ^ (e₁ - e₂ - exponent).toNat
      < (2 ^ 53 - 1) * 2 ^ (971 - (e₁ - e₂)).toNat * m₂ * 2 ^ (e₁ - e₂ - exponent).toNat :=
        Nat.mul_lt_mul_of_pos_right small (by positivity)
    _ = _ := by ring

theorem exponentAtMost_mul {m₁ m₂ : Nat} {e₁ e₂ : Int} {positive₁ : 0 < m₁} {positive₂ : 0 < m₂}
    (s₁ s₂ : Sign) (below : e₁ + e₂ ≤ 971)
    (small : m₁ * m₂ < (2 ^ 53 - 1) * 2 ^ (971 - (e₁ + e₂)).toNat) :
    ExponentAtMost 971 (UnpackedFloat.mul Format.binary64 (.finite s₁ m₁ e₁ positive₁)
      (.finite s₂ m₂ e₂ positive₂)) := by
  simp only [UnpackedFloat.mul]
  exact exponentAtMost_round _ _ (by norm_num) below small

def HasPowerExponent : UnpackedFloat → Prop
  | .finite _ _ exponent _ => -52 ≤ exponent ∧ exponent ≤ 22
  | _ => False

instance : DecidablePred HasPowerExponent := fun x =>
  match x with
  | .notANumber => inferInstanceAs (Decidable False)
  | .infinity _ => inferInstanceAs (Decidable False)
  | .zero _ => inferInstanceAs (Decidable False)
  | .finite _ _ exponent _ => inferInstanceAs (Decidable (-52 ≤ exponent ∧ exponent ≤ 22))

theorem hasPowerExponent {power : Float} (member : power ∈ Float.exactlyRepresentablePowersOfTen) :
    HasPowerExponent (unpacked power) := by
  have all : ∀ power ∈ Float.exactlyRepresentablePowersOfTen.toList,
      HasPowerExponent (unpacked power) := by
    decide +kernel
  exact all power (Array.mem_toList_iff.mpr member)

/-- A short mantissa is divided by an exact power of ten, or multiplied by it. -/
theorem isFinite_exact (n : UInt64) {power : Float}
    (member : power ∈ Float.exactlyRepresentablePowersOfTen) :
    (n.toFloat / power).isFinite = true ∧ (n.toFloat * power).isFinite = true := by
  have numerator := exponentAtMost_toFloat n
  have exponents := hasPowerExponent member
  have quotient : n.toFloat / power = Float.ofModel (Float.Model.pack
      (UnpackedFloat.div Format.binary64 (unpacked n.toFloat) (unpacked power))) := rfl
  have product : n.toFloat * power = Float.ofModel (Float.Model.pack
      (UnpackedFloat.mul Format.binary64 (unpacked n.toFloat) (unpacked power))) := rfl
  rw [quotient, product]
  cases unpackedPower : unpacked power with
  | finite s₂ m₂ e₂ positive₂ =>
    rw [unpackedPower] at exponents
    obtain ⟨above, below⟩ := exponents
    cases unpackedNumber : unpacked n.toFloat with
    | zero s₁ => exact ⟨isFinite_ofModel_pack (.zero _), isFinite_ofModel_pack (.zero _)⟩
    | finite s₁ m₁ e₁ positive₁ =>
      rw [unpackedNumber] at numerator
      have limit : e₁ ≤ 12 := by
        cases numerator
        assumption
      have bits₁ := mantissa_lt_of_unpack unpackedNumber
      have bits₂ := mantissa_lt_of_unpack unpackedPower
      refine ⟨isFinite_ofModel_pack (exponentAtMost_div s₁ s₂ (by omega) ?_),
        isFinite_ofModel_pack (exponentAtMost_mul s₁ s₂ (by omega) ?_)⟩
      · refine (bits₁.trans_le ?_).trans_le (Nat.le_mul_of_pos_right _ positive₂)
        have room : 2 ^ 1 ≤ 2 ^ (971 - (e₁ - e₂)).toNat :=
          Nat.pow_le_pow_right (by norm_num) (by omega)
        omega
      · have room : 2 ^ 54 ≤ 2 ^ (971 - (e₁ + e₂)).toNat :=
          Nat.pow_le_pow_right (by norm_num) (by omega)
        calc m₁ * m₂ < 2 ^ 53 * 2 ^ 53 := Nat.mul_lt_mul'' bits₁ bits₂
          _ ≤ (2 ^ 53 - 1) * 2 ^ 54 := by norm_num
          _ ≤ _ := Nat.mul_le_mul_left _ room
    | _ =>
      rw [unpackedNumber] at numerator
      cases numerator
  | _ =>
    rw [unpackedPower] at exponents
    cases exponents

theorem powerOfTen_lt : 10 ^ 308 < (2 ^ 53 - 1) * 2 ^ 971 := by decide +kernel

/-- A decimal with at most 308 digits before its point is read as a finite number. -/
theorem isFinite_ofScientific {mantissa places : Nat} (below : Bool)
    (whole : below = false → places = 0) (small : mantissa < 10 ^ (308 + places)) :
    (Float.ofScientific mantissa below places).isFinite = true := by
  rw [Float.ofScientific]
  split
  · cases below with
    | true => exact (isFinite_exact mantissa.toUInt64 (Array.getElem_mem _)).1
    | false => exact (isFinite_exact mantissa.toUInt64 (Array.getElem_mem _)).2
  · refine isFinite_ofModel_pack ?_
    have shift : (if below = true then Int.negOfNat places else Int.ofNat places) =
        -(places : Int) := by
      cases below with
      | true => exact Int.negOfNat_eq
      | false =>
        rw [whole rfl]
        rfl
    rw [shift, UnpackedFloat.ofScientific]
    split_ifs with nothing large tiny integral
    · exact .zero _
    · have powers : (0 : Int) ≤ 2 ^ Format.binary64.exponentBits := by positivity
      exact absurd large (by linarith [Int.natCast_nonneg places])
    · exact .zero _
    · obtain rfl : places = 0 := Int.natCast_eq_zero.mp (by linarith [Int.natCast_nonneg places])
      rw [Nat.add_zero] at small
      have width : Format.binary64.mantissaBits = 53 := rfl
      have distance : (971 - (-(53 : Int) + 0)).toNat = 971 + 53 := by decide
      simp only [width, Nat.cast_zero, neg_zero, Int.toNat_zero, pow_zero]
      refine exponentAtMost_mul _ _ (by decide) ?_
      rw [Nat.cast_ofNat, distance, Nat.shiftLeft_eq, pow_add, ← Nat.mul_assoc, mul_one]
      have bound := lt_trans small powerOfTen_lt
      gcongr
    · refine exponentAtMost_div _ _ (by decide) ?_
      have distance : (971 - (0 - 0) : Int).toNat = 971 := by decide
      rw [distance, neg_neg, Int.toNat_natCast]
      rw [pow_add] at small
      refine lt_trans small ?_
      have bound := powerOfTen_lt
      gcongr

theorem isFinite_nearest {mantissa places : Nat} (below : Bool)
    (whole : below = false → places = 0) (small : mantissa < 10 ^ (308 + places)) :
    (nearest mantissa below places).isFinite = true := by
  rw [nearest]
  split
  · decide +kernel
  cases below with
  | true =>
    rw [if_pos rfl]
    split
    · decide +kernel
    · exact isFinite_ofScientific true whole small
  | false =>
    have digits : digitCount mantissa ≤ 308 + places := by
      rw [digitCount]
      split
      · exact Nat.zero_le _
      · exact Nat.toDigits_length 10 mantissa (308 + places) (by omega) small
    have none : places = 0 := whole rfl
    have few : ¬ 310 < digitCount mantissa + places := by
      clear small
      omega
    rw [if_neg Bool.false_ne_true, if_neg few]
    exact isFinite_ofScientific false whole small

end Binary

namespace Numeral

theorem ofDigits_append_singleton (digits : List Char) (c : Char) :
    ofDigits (digits ++ [c]) = 10 * ofDigits digits + (c.toNat - '0'.toNat) := by
  rw [ofDigits, List.foldl_append]
  rfl

theorem ofDigits_lt {digits : List Char} (all : ∀ c ∈ digits, c.isDigit = true) :
    ofDigits digits < 10 ^ digits.length := by
  induction digits using List.reverseRecOn with
  | nil => decide
  | append_singleton digits c ih =>
    have before := ih fun d member => all d (List.mem_append_left _ member)
    have last : c.isDigit = true := all c (List.mem_append_right _ (List.mem_singleton_self c))
    have digit : c.toNat - '0'.toNat ≤ 9 := by
      simp only [Char.isDigit, Bool.and_eq_true, decide_eq_true_eq] at last
      have above : c.toNat ≤ 57 := UInt32.le_iff_toNat_le.mp last.2
      have zero : '0'.toNat = 48 := rfl
      omega
    rw [ofDigits_append_singleton, List.length_append, List.length_singleton, pow_succ]
    omega

theorem isBounded_ofParts (negative : Bool) {whole fraction : List Char}
    (digits : ∀ c ∈ whole ++ fraction, c.isDigit = true) (short : whole.length ≤ 308) :
    (ofParts negative whole fraction).isBounded = true := by
  have size : (Binary.nearest (ofDigits (whole ++ fraction))
      (decide (-(fraction.length : Int) < 0)) fraction.length).isFinite = true := by
    refine Binary.isFinite_nearest _ ?_ ?_
    · intro notBelow
      have := of_decide_eq_false notBelow
      omega
    · refine (ofDigits_lt digits).trans_le (Nat.pow_le_pow_right (by norm_num) ?_)
      rw [List.length_append]
      omega
  have read : (ofParts negative whole fraction).value = if negative then
      -(Binary.nearest (ofDigits (whole ++ fraction)) (decide (-(fraction.length : Int) < 0))
        fraction.length)
      else Binary.nearest (ofDigits (whole ++ fraction)) (decide (-(fraction.length : Int) < 0))
        fraction.length := by
    rw [value, ofParts]
    simp only [Int.natAbs_neg, Int.natAbs_natCast]
    rfl
  rw [isBounded, read]
  cases negative with
  | false => exact size
  | true => exact Binary.isFinite_neg size

end Numeral

end ScrollTimeline
