import Mathlib
import NamedQuery.Decimal.Whole

/-!
# Sums of whole numbers

Counters and totals are doubles, and what they add up are whole numbers. As long as a sum stays
below `2 ^ 53` it is exact. A counter that goes up by one stands still there, since `2 ^ 53 + 1` is
rounded to its even neighbour.

* `significand`, `ofWhole`, `ofInteger` — a whole number as the sign, significand and exponent that
  its double has;
* `roundWithAccuracy_shifted` — zeros behind a significand of full length are dropped by rounding,
  and nothing else is;
* `normalize_shifted` — so an integer keeps its value, however far it was shifted;
* `ofInt_add`, `ofNat_add` — the sum of two doubles that are whole numbers;
* `tally` — counting by one.
-/

namespace NamedQuery.Decimal

open Float.Model Float.Model.UnpackedFloat

/-- A whole number with zeros behind it, up to 53 binary places. -/
def significand (n : Nat) : Nat :=
  n * 2 ^ (52 - n.log2)

/-- The parts of the double that a whole number below `2 ^ 53` is. -/
def ofWhole (n : Nat) : UnpackedFloat :=
  if h : 0 < n then
    .finite .positive (significand n) (n.log2 - 52) (Nat.mul_pos h (Nat.two_pow_pos _))
  else
    .zero .positive

theorem significand_pos {n : Nat} (h : 0 < n) : 0 < significand n :=
  Nat.mul_pos h (Nat.two_pow_pos _)

/-- The sign of an integer. Zero is positive. -/
def signOf (z : Int) : Sign :=
  if z < 0 then .negative else .positive

/-- The parts of the double that an integer between `-2 ^ 53` and `2 ^ 53` is. -/
def ofInteger (z : Int) : UnpackedFloat :=
  if h : 0 < z.natAbs then
    .finite (signOf z) (significand z.natAbs) (z.natAbs.log2 - 52) (significand_pos h)
  else
    .zero .positive

variable {m n : Nat} {z : Int}

theorem ofInteger_natCast (n : Nat) : ofInteger (n : Int) = ofWhole n := rfl

theorem log2_le (h : n < 2 ^ 53) : n.log2 ≤ 52 := by
  by_cases hn : n = 0
  · rw [hn]
    decide
  · exact Nat.le_of_lt_succ ((Nat.log2_lt hn).mpr h)

/-- Each zero behind a number makes it longer by one place. -/
theorem log2_mul_two_pow (hpos : 0 < n) (k : Nat) : (n * 2 ^ k).log2 = n.log2 + k := by
  have hne : n ≠ 0 := Nat.ne_of_gt hpos
  -- doubling keeps a number between the next powers of two
  have hlow : 2 ^ (n.log2 + k) ≤ n * 2 ^ k := by
    rw [Nat.pow_add]
    exact Nat.mul_le_mul_right _ (Nat.log2_self_le hne)
  have hhigh : n * 2 ^ k < 2 ^ (n.log2 + k + 1) := by
    rw [Nat.add_right_comm, Nat.pow_add]
    exact Nat.mul_lt_mul_of_pos_right Nat.lt_log2_self (Nat.two_pow_pos _)
  exact (Nat.log2_eq_iff (Nat.mul_ne_zero hne (Nat.ne_of_gt (Nat.two_pow_pos k)))).mpr ⟨hlow, hhigh⟩

/-- A significand has its full length. -/
theorem log2_significand (hpos : 0 < n) (h : n < 2 ^ 53) : (significand n).log2 = 52 := by
  rw [significand, log2_mul_two_pow hpos, Nat.add_sub_cancel' (log2_le h)]

/-! ### Rounding -/

/-- The last place of a number is the 53rd from its first one, but no lower than that of the
smallest doubles. -/
theorem targetExponent_eq (total : Int) :
    Format.binary64.targetExponent total = max (total - 53) (-1074) := rfl

/-- Shifting takes the zeros off a significand. -/
theorem shiftRight_exact (k : Nat) :
    (⟨m * 2 ^ k, false, false⟩ : ExtendedMantissa) >>> k = ⟨m, false, false⟩ := by
  induction k generalizing m with
  | zero => rw [Nat.pow_zero, Nat.mul_one]; rfl
  | succ k ih =>
    -- all but the last of the steps leave one zero behind
    have hsteps : (⟨m * 2 ^ (k + 1), false, false⟩ : ExtendedMantissa) >>> k =
        ⟨m * 2, false, false⟩ := by
      rw [Nat.pow_succ', ← Nat.mul_assoc]
      exact ih
    show ((⟨m * 2 ^ (k + 1), false, false⟩ : ExtendedMantissa) >>> k).shiftRightOne = _
    rw [hsteps]
    simp [ExtendedMantissa.shiftRightOne]

theorem shiftToExponent_exact {e target : Int} {k : Nat} (h : (target - e).toNat = k) :
    shiftToExponent (m * 2 ^ k) e .exact target = (⟨m, false, false⟩, e + k) := by
  unfold shiftToExponent
  simp only [h]
  exact congrArg (·, e + (k : Int)) (shiftRight_exact k)

/-- **Rounding** what has zeros behind a significand of full length drops the zeros. -/
theorem roundWithAccuracy_shifted (sign : Sign) (hlog : m.log2 = 52) (k : Nat) {e : Int}
    (he : -1074 ≤ e) (hpos : 0 < m) :
    roundWithAccuracy .binary64 sign (m * 2 ^ k) (e - k) .exact = .finite sign m e hpos := by
  have hne : m ≠ 0 := Nat.ne_of_gt hpos
  -- whatever the shift, the exponent that is aimed at is the same
  have htarget : ∀ j : Nat, ((Format.binary64.targetExponent (totalExponent (m * 2 ^ j) (e - j))) -
      (e - j)).toNat = j := by
    intro j
    rw [totalExponent, log2_mul_two_pow hpos, hlog, targetExponent_eq]
    omega
  have hshift : ∀ j : Nat, shiftToTargetExponent .binary64 (m * 2 ^ j) (e - j) .exact =
      (⟨m, false, false⟩, e) := by
    intro j
    rw [shiftToTargetExponent, shiftToExponent_exact (htarget j), Int.sub_add_cancel]
  -- the significand is not rounded up, so the second shift has nothing to do
  have hagain : shiftToTargetExponent .binary64 m e .exact = (⟨m, false, false⟩, e) := by
    simpa using hshift 0
  rw [roundWithAccuracy, hshift k]
  simp only [ExtendedMantissa.roundedMantissa, ExtendedMantissa.accuracy,
    Accuracy.roundToNearestEven, hagain, hne, dite_false]

/-- **Rounding a whole number** that was shifted to the left. Its last place is where the first one
says, wherever it was before. -/
theorem round_shifted (sign : Sign) (hpos : 0 < n) (h : n < 2 ^ 53) (k : Nat) :
    UnpackedFloat.round .binary64 sign (n * 2 ^ k) (-k) =
      .finite sign (significand n) (n.log2 - 52) (significand_pos hpos) := by
  have hlog := log2_le h
  have htarget : Format.binary64.targetExponent (totalExponent (n * 2 ^ k) (-k)) =
      n.log2 - 52 := by
    rw [totalExponent, log2_mul_two_pow hpos, targetExponent_eq]
    omega
  -- the number gets as many zeros as its significand has at least
  obtain ⟨j, hj, hzeros⟩ : ∃ j : Nat, (-(k : Int) - ((n.log2 : Int) - 52)).toNat = j ∧
      52 - n.log2 ≤ k + j := ⟨_, rfl, by omega⟩
  -- with these zeros the number is its significand, shifted by what is left over
  have hsplit : n * 2 ^ k * 2 ^ j = significand n * 2 ^ (k + j - (52 - n.log2)) := by
    rw [significand, Nat.mul_assoc, Nat.mul_assoc, ← Nat.pow_add, ← Nat.pow_add,
      Nat.add_sub_cancel' hzeros]
  have hexponent : -(k : Int) - (j : Int) =
      (n.log2 - 52 : Int) - ((k + j - (52 - n.log2) : Nat) : Int) := by omega
  simp only [UnpackedFloat.round, decreaseExponent, htarget, hj, Nat.shiftLeft_eq]
  rw [hsplit, hexponent]
  exact roundWithAccuracy_shifted sign (log2_significand hpos h) _ (by omega) _

/-- **An integer that was shifted to the left** keeps its value. -/
theorem normalize_shifted (h : z.natAbs < 2 ^ 53) (k : Nat) :
    UnpackedFloat.normalize .binary64 (z * 2 ^ k) (-k) .positive = ofInteger z := by
  have hpow : (0 : Int) < 2 ^ k := Int.pow_pos (by decide)
  have hcast : ((2 ^ k : Nat) : Int) = 2 ^ k := Int.natCast_pow 2 k
  -- the sign decides which amount is rounded; its size is that of the integer in any case
  rcases Int.lt_trichotomy z 0 with hneg | rfl | hpos
  · have hcompare : compare (z * 2 ^ k) 0 = .lt :=
      Int.compare_eq_lt.mpr (Int.mul_neg_of_neg_of_pos hneg hpow)
    have habs : (-(z * 2 ^ k)).toNat = z.natAbs * 2 ^ k := by
      rw [← Int.neg_mul, ← hcast, show -z = (z.natAbs : Int) by omega, ← Int.natCast_mul,
        Int.toNat_natCast]
    have hpart : 0 < z.natAbs := Int.natAbs_pos.mpr (Int.ne_of_lt hneg)
    simp only [UnpackedFloat.normalize, hcompare, habs]
    rw [round_shifted .negative hpart h, ofInteger, dif_pos hpart, signOf, if_pos hneg]
  · rw [Int.zero_mul]
    rfl
  · have hcompare : compare (z * 2 ^ k) 0 = .gt :=
      Int.compare_eq_gt.mpr (Int.mul_pos hpos hpow)
    have habs : (z * 2 ^ k).toNat = z.natAbs * 2 ^ k := by
      rw [← hcast, show z = (z.natAbs : Int) by omega, ← Int.natCast_mul, Int.toNat_natCast,
        Int.natAbs_natCast]
    have hpart : 0 < z.natAbs := Int.natAbs_pos.mpr (Int.ne_of_gt hpos)
    simp only [UnpackedFloat.normalize, hcompare, habs]
    rw [round_shifted .positive hpart h, ofInteger, dif_pos hpart, signOf,
      if_neg (Int.not_lt.mpr (Int.le_of_lt hpos))]

/-! ### Packing -/

/-- The leading place of a significand is implied. -/
theorem toNat_implied (hlog : m.log2 = 52) (hpos : 0 < m) :
    (1#1 ++ BitVec.ofNat 52 m).toNat = m := by
  obtain ⟨hlow, hhigh⟩ := (Nat.log2_eq_iff (Nat.ne_of_gt hpos)).mp hlog
  rw [BitVec.toNat_append, ← Nat.shiftLeft_add_eq_or_of_lt (BitVec.ofNat 52 m).isLt,
    BitVec.toNat_ofNat, Nat.shiftLeft_eq]
  simp only [BitVec.toNat_ofNat]
  omega

/-- A double with a significand of full length is what it is packed as. -/
theorem unpack_pack_finite (sign : Sign) (hlog : m.log2 = 52) (hpos : 0 < m) {e : Int}
    (hlow : -1074 ≤ e) (hhigh : e ≤ 971) :
    (Float.Model.pack (.finite sign m e hpos)).unpack = .finite sign m e hpos := by
  -- the exponent fits its field, so nothing of it is lost
  have hbiased : (e + Format.binary64.exponentBias +
      Format.binary64.mantissaBitsWithoutImplicit).toNat = (e + 1075).toNat := by
    show (e + (2 ^ (11 - 1) - 1 : Nat) + (52 : Nat)).toNat = _
    omega
  have hfield : (BitVec.ofNat 11 (e + 1075).toNat).toNat = (e + 1075).toNat := by
    rw [BitVec.toNat_ofNat]
    omega
  -- the exponent is neither that of infinity nor that of zero
  have hnotTop : BitVec.ofNat 11 (e + 1075).toNat ≠ -1#11 := by
    intro heq
    have htop := congrArg BitVec.toNat heq
    rw [hfield] at htop
    simp at htop
    omega
  have hnotZero : BitVec.ofNat 11 (e + 1075).toNat ≠ 0#11 := by
    intro heq
    have hzero := congrArg BitVec.toNat heq
    rw [hfield] at hzero
    simp at hzero
    omega
  -- the fields are read back one by one
  show UnpackedFloat.unpack .binary64 (UnpackedFloat.pack .binary64 _) = _
  rw [UnpackedFloat.pack]
  simp only [hlog, hbiased]
  rw [if_neg (by omega), if_pos (by rfl), UnpackedFloat.unpack]
  simp only [unpackMantissa_packComponents, unpackExponent_packComponents,
    unpackSign_packComponents, Sign.ofBitVec_toBitVec]
  rw [if_neg hnotTop, if_neg hnotZero]
  simp only [toNat_implied hlog hpos, hfield]
  congr 1
  show ((e + 1075).toNat : Int) - ((2 ^ (11 - 1) - 1 : Nat) + (52 : Nat)) = e
  omega

theorem unpack_pack_ofInteger (h : z.natAbs < 2 ^ 53) :
    (Float.Model.pack (ofInteger z)).unpack = ofInteger z := by
  unfold ofInteger
  split
  · next hpos =>
    have hlog := log2_le h
    exact unpack_pack_finite _ (log2_significand hpos h) _ (by omega) (by omega)
  · rfl

/-! ### Whole numbers -/

/-- A whole number, as it is converted from a machine word. -/
theorem ofNat_parts (h : n < 2 ^ 53) : UnpackedFloat.ofNat .binary64 n = ofWhole n := by
  have hnormal := @normalize_shifted (n : Int) h 0
  rwa [Int.pow_zero, Int.mul_one] at hnormal

/-- **A whole number among the doubles.** -/
theorem ofNat_eq (h : n < 2 ^ 53) : Float.ofNat n = .ofModel (.pack (ofWhole n)) := by
  -- a number below the bound survives the way through the machine word
  have hword : n.toUInt64.toNat = n := by
    rw [Nat.toUInt64_eq, UInt64.toNat_ofNat']
    omega
  have hscaled : Float.ofNat n = n.toUInt64.toFloat * Float.ofBits 0x3FF0000000000000 := by
    show Float.ofScientific n false 0 = _
    rw [Float.ofScientific, dif_pos ⟨h, by decide⟩]
    rfl
  have hone : (Float.ofBits 0x3FF0000000000000).toModel.unpack =
      .finite .positive (2 ^ 52) (-52) (by decide) := rfl
  have hparts : n.toUInt64.toFloat.toModel.unpack = ofWhole n := by
    show (Float.Model.pack (UnpackedFloat.ofNat .binary64 n.toUInt64.toNat)).unpack = _
    rw [hword, ofNat_parts h]
    exact @unpack_pack_ofInteger (n : Int) h
  rw [hscaled]
  show Float.ofModel (.pack (UnpackedFloat.mul .binary64 _ _)) = _
  rw [hparts, hone]
  congr 2
  -- a product with one is rounded to what it was
  unfold ofWhole
  split
  · next hpos =>
    have hlog := log2_le h
    have hrounded := roundWithAccuracy_shifted .positive (log2_significand hpos h) 52
      (e := n.log2 - 52) (by omega) (significand_pos hpos)
    exact hrounded
  · rfl

/-- The parts of a negative integer. -/
theorem ofInteger_negSucc (n : Nat) :
    ofInteger (.negSucc n) = UnpackedFloat.neg (ofInteger (n + 1 : Nat)) := by
  have hneg : 0 < (Int.negSucc n).natAbs := Nat.succ_pos n
  have hpos : 0 < ((n + 1 : Nat) : Int).natAbs := Nat.succ_pos n
  rw [ofInteger, dif_pos hneg, ofInteger, dif_pos hpos, signOf, if_pos (Int.negSucc_lt_zero n),
    signOf, if_neg (by omega)]
  rfl

/-- **An integer among the doubles.** -/
theorem ofInt_eq (h : z.natAbs < 2 ^ 53) : Float.ofInt z = .ofModel (.pack (ofInteger z)) := by
  -- a negative number is the negation of a positive one, whose parts are known
  cases z with
  | ofNat n => exact ofNat_eq h
  | negSucc n =>
    have hparts := @unpack_pack_ofInteger (n + 1 : Nat) h
    show Float.neg (Float.ofNat (n + 1)) = _
    rw [@ofNat_eq (n + 1) h, ofInteger_negSucc]
    show Float.ofModel (.pack (UnpackedFloat.neg (Float.Model.pack _).unpack)) = _
    rw [← ofInteger_natCast, hparts]

/-! ### Sums -/

/-- The value of an integer, if its double is written with `k` places behind the point. -/
theorem decreaseExponent_significand {k : Nat} (h : n.log2 ≤ 52) (hk : 52 - n.log2 ≤ k) :
    decreaseExponent (significand n) (n.log2 - 52) (-(k : Int)) = (n * 2 ^ k, -(k : Int)) := by
  have hshift : ((n.log2 : Int) - 52 - -(k : Int)).toNat = k - (52 - n.log2) := by omega
  rw [decreaseExponent, hshift, Nat.shiftLeft_eq, significand, Nat.mul_assoc, ← Nat.pow_add,
    Nat.add_sub_cancel' hk]
  exact congrArg (n * 2 ^ k, ·) (by omega)

theorem apply_signOf (z : Int) (k : Nat) :
    (signOf z).apply ((z.natAbs * 2 ^ k : Nat) : Int) = z * 2 ^ k := by
  unfold signOf
  -- the sign turns the number over, and the power stays
  split
  · next hneg =>
    show -((z.natAbs * 2 ^ k : Nat) : Int) = _
    rw [Int.natCast_mul, Int.natCast_pow, ← Int.neg_mul, show -(z.natAbs : Int) = z by omega]
    rfl
  · next hneg =>
    show ((z.natAbs * 2 ^ k : Nat) : Int) = _
    rw [Int.natCast_mul, Int.natCast_pow, show (z.natAbs : Int) = z by omega]
    rfl

/-- The sum of two integers, as it is computed from their parts. -/
theorem add_parts {y z : Int} (hy : y.natAbs < 2 ^ 53) (hz : z.natAbs < 2 ^ 53)
    (h : (y + z).natAbs < 2 ^ 53) :
    UnpackedFloat.add .binary64 (ofInteger y) (ofInteger z) = ofInteger (y + z) := by
  -- a sum with zero is not rounded at all
  rcases Nat.eq_zero_or_pos y.natAbs with hyzero | hypos
  · obtain rfl : y = 0 := Int.natAbs_eq_zero.mp hyzero
    rw [Int.zero_add, ofInteger, dif_neg (by decide)]
    unfold ofInteger
    split <;> rfl
  rcases Nat.eq_zero_or_pos z.natAbs with hzzero | hzpos
  · obtain rfl : z = 0 := Int.natAbs_eq_zero.mp hzzero
    rw [Int.add_zero, ofInteger, dif_pos hypos]
    rfl
  have hlogy := log2_le hy
  have hlogz := log2_le hz
  -- both numbers are written with as many places behind the point as the smaller one has
  obtain ⟨k, hky, hkz, hmin⟩ : ∃ k : Nat, 52 - y.natAbs.log2 ≤ k ∧ 52 - z.natAbs.log2 ≤ k ∧
      min ((y.natAbs.log2 : Int) - 52) ((z.natAbs.log2 : Int) - 52) = -(k : Int) :=
    ⟨52 - min y.natAbs.log2 z.natAbs.log2, by omega, by omega, by omega⟩
  rw [ofInteger, dif_pos hypos, ofInteger, dif_pos hzpos]
  simp only [UnpackedFloat.add, hmin, decreaseExponent_significand hlogy hky,
    decreaseExponent_significand hlogz hkz, apply_signOf]
  rw [← Int.add_mul]
  exact normalize_shifted h k

/-- **Integers add up exactly** as long as they and their sum are between `-2 ^ 53` and `2 ^ 53`. -/
theorem ofInt_add {y z : Int} (hy : y.natAbs < 2 ^ 53) (hz : z.natAbs < 2 ^ 53)
    (h : (y + z).natAbs < 2 ^ 53) : Float.ofInt y + Float.ofInt z = Float.ofInt (y + z) := by
  rw [ofInt_eq hy, ofInt_eq hz, ofInt_eq h]
  show Float.ofModel (.pack (UnpackedFloat.add .binary64 (Float.Model.pack (ofInteger y)).unpack
    (Float.Model.pack (ofInteger z)).unpack)) = _
  rw [unpack_pack_ofInteger hy, unpack_pack_ofInteger hz, add_parts hy hz h]

/-- **Whole numbers add up exactly** as long as their sum is below `2 ^ 53`. -/
theorem ofNat_add (h : m + n < 2 ^ 53) :
    Float.ofNat m + Float.ofNat n = Float.ofNat (m + n) :=
  ofInt_add (y := m) (z := n) (Nat.lt_of_le_of_lt (Nat.le_add_right m n) h)
    (Nat.lt_of_le_of_lt (Nat.le_add_left n m) h) h

/-! ### Counting -/

/-- What a double comes to that counts by one. It stands still at `2 ^ 53`. -/
def tally (n : Nat) : Float :=
  Float.ofNat (min n (2 ^ 53))

/-- Up to there it is the number itself. -/
theorem tally_eq (h : n ≤ 2 ^ 53) : tally n = Float.ofNat n := by
  rw [tally, Nat.min_eq_left h]

/-- **Counting by one**, without a bound. -/
theorem tally_add_one (n : Nat) : tally n + 1 = tally (n + 1) := by
  -- a count grows until the bound of exact numbers, and from there on it stays
  rcases Nat.lt_trichotomy (n + 1) (2 ^ 53) with hlt | heq | hgt
  · rw [tally_eq (Nat.le_of_lt (Nat.lt_of_succ_lt hlt)), tally_eq (Nat.le_of_lt hlt)]
    exact ofNat_add hlt
  · obtain rfl : n = 2 ^ 53 - 1 := by omega
    decide
  · rw [tally, tally, Nat.min_eq_right (Nat.le_of_lt_succ hgt), Nat.min_eq_right (Nat.le_of_lt hgt)]
    decide

end NamedQuery.Decimal
