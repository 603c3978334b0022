import Mathlib
import NamedQuery.Decimal.Whole

/-!
# The numbers that doubles are

Every finite double is a rational number, and `whole?` tells whether that number is an integer from
the significand and the exponent alone:

* `value?` — the number that a double is. Infinities and the undefined number are none;
* `ofFloat?_finite` — the parts of a double are read off its bits;
* `whole?_eq_some_iff` — the integers among the doubles.
-/

namespace NamedQuery.Decimal

open Float.Model Float.Model.UnpackedFloat

/-- The number that a sign, a significand and an exponent stand for. -/
def rational? : UnpackedFloat → Option ℚ
  | .zero _ => some 0
  | .finite sign m e _ => some (sign.apply m * 2 ^ e)
  | .infinity _ | .notANumber => none

/-- The number that a double is. -/
def value? (x : Float) : Option ℚ :=
  rational? x.toModel.unpack

variable {x : Float}

/-- The significand and the exponent of a finite number other than zero. -/
def parts? : UnpackedFloat → Option (Nat × Int)
  | .finite _ m e _ => some (m, e)
  | .zero _ | .infinity _ | .notANumber => none

/-! ### Bits -/

/-- The leading place of a significand is left out in the bits. -/
theorem toNat_one_append (fraction : BitVec 52) :
    (1#1 ++ fraction).toNat = Nat.pow 2 52 + fraction.toNat := by
  rw [BitVec.toNat_append, ← Nat.shiftLeft_add_eq_or_of_lt fraction.isLt, Nat.shiftLeft_eq]
  rfl

/-- What the fields of the bits stand for. -/
theorem parts?_unpack (bits : BitVec 64) :
    parts? (UnpackedFloat.unpack .binary64 bits) =
      if bits.toNat / Nat.pow 2 52 % 2048 = 2047 then none
      else if bits.toNat / Nat.pow 2 52 % 2048 = 0 then
        if bits.toNat % Nat.pow 2 52 = 0 then none
        else some (bits.toNat % Nat.pow 2 52, -1074)
      else
        some (Nat.pow 2 52 + bits.toNat % Nat.pow 2 52,
          ((bits.toNat / Nat.pow 2 52 % 2048 : Nat) : Int) - 1075) := by
  -- the fields of the bits are quotients and remainders of the number they spell
  have hfield : (@unpackExponent .binary64 bits).toNat =
      bits.toNat / Nat.pow 2 52 % 2048 := by
    simp [unpackExponent, BitVec.extractLsb_toNat, Nat.shiftRight_eq_div_pow]
  have hfraction : (@unpackMantissa .binary64 bits).toNat = bits.toNat % Nat.pow 2 52 := by
    simp [unpackMantissa, BitVec.extractLsb_toNat]
  -- what is special about an exponent or a fraction is told by its number
  have htop : @unpackExponent .binary64 bits = -1#_ ↔
      bits.toNat / Nat.pow 2 52 % 2048 = 2047 := by
    rw [← hfield, ← BitVec.toNat_inj]
    rfl
  have hbottom : @unpackExponent .binary64 bits = 0#_ ↔
      bits.toNat / Nat.pow 2 52 % 2048 = 0 := by
    rw [← hfield, ← BitVec.toNat_inj]
    rfl
  have hempty : @unpackMantissa .binary64 bits = 0#_ ↔
      bits.toNat % Nat.pow 2 52 = 0 := by
    rw [← hfraction, ← BitVec.toNat_inj]
    rfl
  rw [← hfield, ← hfraction] at *
  unfold UnpackedFloat.unpack
  simp only [htop, hbottom]
  -- the exponent decides between what is no number, the small numbers and the normal ones
  split
  · split <;> rfl
  split
  · next hzero =>
    simp only [hempty]
    split
    · rfl
    · rw [parts?, hzero]
      rfl
  · rw [parts?, toNat_one_append]
    rfl

/-- **The parts of a double** are read off its bits. -/
theorem ofFloat?_eq_parts (x : Float) :
    (Binary.ofFloat? x).map (fun b => (b.significand, b.exponent)) =
      parts? x.toModel.unpack := by
  -- the model unpacks the same bits
  have hunpack : x.toModel.unpack = UnpackedFloat.unpack .binary64 x.toBits.toBitVec := rfl
  rw [hunpack, parts?_unpack, UInt64.toNat_toBitVec]
  simp only [Binary.ofFloat?, beq_iff_eq]
  split
  · rfl
  split
  · split <;> rfl
  · rfl

/-! ### Integers -/

/-- Whether a number with a power of two is whole is told by dividing. -/
theorem mul_two_zpow_eq_iff {m k : Nat} {e : Int} :
    (m : ℚ) * 2 ^ e = k ↔
      m % 2 ^ (-e).toNat = 0 ∧ m / 2 ^ (-e).toNat * 2 ^ e.toNat = k := by
  -- a power with a positive exponent divides nothing, so only the other ones leave a remainder
  rcases Int.le_total 0 e with he | he
  · obtain ⟨i, rfl⟩ := Int.eq_ofNat_of_zero_le he
    rw [zpow_natCast, Int.toNat_neg_natCast, Int.toNat_natCast, Nat.pow_zero, Nat.mod_one,
      Nat.div_one]
    exact_mod_cast (and_iff_right rfl).symm
  · obtain ⟨i, rfl⟩ : ∃ i : Nat, e = -i := ⟨e.natAbs, by omega⟩
    have hpos : (2 : ℚ) ^ i ≠ 0 := pow_ne_zero i two_ne_zero
    rw [zpow_neg, zpow_natCast, neg_neg, Int.toNat_natCast, Int.toNat_neg_natCast, Nat.pow_zero,
      Nat.mul_one, ← div_eq_mul_inv, div_eq_iff hpos]
    have hcast : (m : ℚ) = k * 2 ^ i ↔ m = k * 2 ^ i := by exact_mod_cast Iff.rfl
    rw [hcast]
    constructor
    · rintro rfl
      exact ⟨Nat.mul_mod_left _ _, Nat.mul_div_cancel _ (Nat.two_pow_pos i)⟩
    · rintro ⟨hrest, rfl⟩
      exact (Nat.div_mul_cancel (Nat.dvd_of_mod_eq_zero hrest)).symm

/-- The same for an integer, which is no less than zero then. -/
theorem mul_two_zpow_eq_intCast_iff {m : Nat} {n e : Int} :
    (m : ℚ) * 2 ^ e = n ↔
      m % 2 ^ (-e).toNat = 0 ∧ ((m / 2 ^ (-e).toNat * 2 ^ e.toNat : Nat) : Int) = n := by
  -- only a number that is not negative can be the value of a significand without a sign
  rcases lt_or_ge n 0 with hneg | hpos
  · refine iff_of_false (fun heq => ?_) fun h => ?_
    · have hle : (0 : ℚ) ≤ n := heq ▸ mul_nonneg (Nat.cast_nonneg m) (zpow_nonneg zero_le_two e)
      exact absurd (Int.cast_nonneg_iff.mp hle) (Int.not_le.mpr hneg)
    · exact absurd (h.2 ▸ Int.natCast_nonneg _) (Int.not_le.mpr hneg)
  · obtain ⟨k, rfl⟩ := Int.eq_ofNat_of_zero_le hpos
    rw [Int.cast_natCast, mul_two_zpow_eq_iff, Int.natCast_inj]

theorem beq_zero_iff : (x == 0) = true ↔ ∃ sign, x.toModel.unpack = .zero sign := by
  -- the other zero compares equal, so the sign plays no part
  have hzero : (0 : Float).toModel.unpack = .zero .positive := rfl
  show (x.toModel.unpack.compare (0 : Float).toModel.unpack == some .eq) = true ↔ _
  rw [hzero]
  cases x.toModel.unpack with
  | finite sign m e hpos => cases sign <;> simp [UnpackedFloat.compare]
  | infinity sign => cases sign <;> simp [UnpackedFloat.compare]
  | zero sign => simp [UnpackedFloat.compare]
  | notANumber => simp [UnpackedFloat.compare]

theorem lt_zero_iff {sign : Sign} {m : Nat} {e : Int} {hpos : 0 < m}
    (h : x.toModel.unpack = .finite sign m e hpos) : x < 0 ↔ sign = .negative := by
  have hzero : (0 : Float).toModel.unpack = .zero .positive := rfl
  have hlt : x < 0 ↔ (x.toModel.unpack.compare (0 : Float).toModel.unpack == some .lt) = true :=
    decide_eq_true_iff
  rw [hlt, hzero, h]
  cases sign <;> simp [UnpackedFloat.compare]

/-- **The integers among the doubles.** -/
theorem whole?_eq_some_iff {n : Int} : whole? x = some n ↔ value? x = some (n : ℚ) := by
  have hparts := ofFloat?_eq_parts x
  have hnonzero := beq_zero_iff (x := x)
  unfold whole? value?
  -- the two readings agree form by form; only a finite number has parts to compare
  cases hunpack : x.toModel.unpack with
  | zero sign =>
    rw [if_pos (beq_zero_iff.mpr ⟨sign, hunpack⟩), rational?, Option.some_inj, Option.some_inj]
    exact_mod_cast Iff.rfl
  | infinity sign =>
    rw [hunpack] at hnonzero hparts
    rw [if_neg (by simp [hnonzero]), Option.map_eq_none_iff.mp hparts, rational?]
    simp
  | notANumber =>
    rw [hunpack] at hnonzero hparts
    rw [if_neg (by simp [hnonzero]), Option.map_eq_none_iff.mp hparts, rational?]
    simp
  | finite sign m e hpos =>
    have hsign := lt_zero_iff hunpack
    rw [hunpack] at hnonzero hparts
    obtain ⟨b, hb, hfields⟩ := Option.map_eq_some_iff.mp hparts
    obtain ⟨rfl, rfl⟩ := Prod.mk.inj hfields
    rw [if_neg (by simp [hnonzero]), hb, rational?, Option.some_inj]
    simp only [beq_iff_eq, Option.ite_none_right_eq_some, Option.some_inj]
    -- the sign is read off on both sides and cancelled
    cases sign with
    | positive =>
      rw [if_neg (by simp [hsign])]
      exact mul_two_zpow_eq_intCast_iff.symm
    | negative =>
      rw [if_pos (hsign.mpr rfl), neg_eq_iff_eq_neg, Sign.apply, Int.cast_neg, neg_mul,
        neg_eq_iff_eq_neg, ← Int.cast_neg]
      exact mul_two_zpow_eq_intCast_iff.symm

end NamedQuery.Decimal
