import Mathlib
import NamedQuery.Metrics
import NamedQuery.Proofs.Decimal.Sums

/-!
# Integers among the doubles

Between `-2 ^ 53` and `2 ^ 53` doubles are compared as the integers they are, so the smaller and the
larger of them are those of the integers.

* `IsSafe` — the integers that doubles tell apart from their neighbours;
* `compare_parts`, `ofInt_lt_iff` — the order of two integers, from their parts;
* `smaller_ofInt`, `larger_ofInt` — their extremes;
* `foldl_ofInt` — what is computed from integers one by one stays an integer;
* `SumsSafely`, `of?_map_ofInt` — so a summary of integers is exact, if their running totals are.
-/

namespace NamedQuery.Decimal

open Float.Model Float.Model.UnpackedFloat

/-- Integers between `-2 ^ 53` and `2 ^ 53`. -/
def IsSafe (z : Int) : Prop :=
  z.natAbs < 2 ^ 53

instance : DecidablePred IsSafe := fun z => inferInstanceAs (Decidable (z.natAbs < 2 ^ 53))

variable {m n : Nat} {y z : Int}

/-! ### Order -/

/-- Two comparisons agree if they agree on both sides. -/
theorem compare_congr {α β : Type} [LinearOrder α] [LinearOrder β] {a b : α} {c d : β}
    (hlt : a < b ↔ c < d) (hgt : b < a ↔ d < c) : compare a b = compare c d := by
  rcases lt_trichotomy a b with h | rfl | h
  · rw [compare_lt_iff_lt.mpr h, compare_lt_iff_lt.mpr (hlt.mp h)]
  · have hsame : c = d := le_antisymm (not_lt.mp (mt hgt.mpr (lt_irrefl a)))
      (not_lt.mp (mt hlt.mpr (lt_irrefl a)))
    rw [compare_eq_iff_eq.mpr rfl, compare_eq_iff_eq.mpr hsame]
  · rw [compare_gt_iff_gt.mpr h, compare_gt_iff_gt.mpr (hgt.mp h)]

/-- Whole numbers are compared by their length, and by their significands if it is the same. -/
theorem compare_significand (hm : 0 < m) (hn : 0 < n) :
    (compare ((m.log2 : Int) - 52) ((n.log2 : Int) - 52)).then
      (compare (significand m) (significand n)) = compare m n := by
  -- the exponent decides where the numbers have different lengths
  have hshorter : ∀ {i j : Nat}, 0 < j → i.log2 < j.log2 → i < j := by
    intro i j hj hlog
    calc i < 2 ^ (i.log2 + 1) := Nat.lt_log2_self
      _ ≤ 2 ^ j.log2 := Nat.pow_le_pow_right (by decide) hlog
      _ ≤ j := Nat.log2_self_le (Nat.ne_of_gt hj)
  rcases Nat.lt_trichotomy m.log2 n.log2 with hlt | heq | hgt
  · rw [Int.compare_eq_lt.mpr (by omega), Nat.compare_eq_lt.mpr (hshorter hn hlt)]
    rfl
  · -- of two numbers of one length the significands are the numbers, shifted alike
    have hpow := Nat.two_pow_pos (52 - n.log2)
    have hscaled : compare (significand m) (significand n) = compare m n := by
      rw [significand, significand, heq]
      exact compare_congr (Nat.mul_lt_mul_right hpow) (Nat.mul_lt_mul_right hpow)
    rw [heq, Int.compare_eq_eq.mpr rfl, hscaled]
    rfl
  · rw [Int.compare_eq_gt.mpr (by omega), Nat.compare_eq_gt.mpr (hshorter hm hgt)]
    rfl

/-- The parts of an integer tell whether it is negative. -/
theorem ofInteger_cases (z : Int) :
    (∃ h : 0 < z.natAbs, z < 0 ∧ ofInteger z =
      .finite .negative (significand z.natAbs) (z.natAbs.log2 - 52) (significand_pos h)) ∨
    (z = 0 ∧ ofInteger z = .zero .positive) ∨
    (∃ h : 0 < z.natAbs, 0 < z ∧ ofInteger z =
      .finite .positive (significand z.natAbs) (z.natAbs.log2 - 52) (significand_pos h)) := by
  rcases Int.lt_trichotomy z 0 with hneg | rfl | hpos
  · have h : 0 < z.natAbs := Int.natAbs_pos.mpr (Int.ne_of_lt hneg)
    exact .inl ⟨h, hneg, by rw [ofInteger, dif_pos h, signOf, if_pos hneg]⟩
  · exact .inr (.inl ⟨rfl, rfl⟩)
  · have h : 0 < z.natAbs := Int.natAbs_pos.mpr (Int.ne_of_gt hpos)
    exact .inr (.inr ⟨h, hpos, by rw [ofInteger, dif_pos h, signOf, if_neg (by omega)]⟩)

/-- **The order of two integers**, as it is computed from their parts. -/
theorem compare_parts (y z : Int) :
    UnpackedFloat.compare (ofInteger y) (ofInteger z) = some (compare y z) := by
  rcases ofInteger_cases y with ⟨hy, hyneg, hyparts⟩ | ⟨hyzero, hyparts⟩ | ⟨hy, hypos, hyparts⟩
  · rcases ofInteger_cases z with ⟨hz, hzneg, hzparts⟩ | ⟨hzero, hzparts⟩ | ⟨hz, hzpos, hzparts⟩
    · -- of two negative integers the one with the smaller amount is the larger one
      have hswap : compare y z = (compare y.natAbs z.natAbs).swap := by
        rw [Nat.compare_swap]
        exact compare_congr (by omega) (by omega)
      rw [hyparts, hzparts, hswap, ← compare_significand hy hz]
      rfl
    · -- a negative number is below zero and below the positive ones
      rw [hyparts, hzparts, Int.compare_eq_lt.mpr (by omega)]
      rfl
    · rw [hyparts, hzparts, Int.compare_eq_lt.mpr (by omega)]
      rfl
  · subst hyzero
    -- zero lies between the two signs
    rcases ofInteger_cases z with ⟨hz, hzneg, hzparts⟩ | ⟨rfl, -⟩ | ⟨hz, hzpos, hzparts⟩
    · rw [hyparts, hzparts, Int.compare_eq_gt.mpr hzneg]
      rfl
    · rfl
    · rw [hyparts, hzparts, Int.compare_eq_lt.mpr hzpos]
      rfl
  · rcases ofInteger_cases z with ⟨hz, hzneg, hzparts⟩ | ⟨hzero, hzparts⟩ | ⟨hz, hzpos, hzparts⟩
    · -- a positive number is above all others, unless the other one is positive as well
      rw [hyparts, hzparts, Int.compare_eq_gt.mpr (by omega)]
      rfl
    · rw [hyparts, hzparts, Int.compare_eq_gt.mpr (by omega)]
      rfl
    · have hsame : compare y z = compare y.natAbs z.natAbs :=
        compare_congr (by omega) (by omega)
      rw [hyparts, hzparts, hsame, ← compare_significand hy hz]
      rfl

/-- **Integers are in order** as doubles as they are without. -/
theorem ofInt_lt_iff (hy : IsSafe y) (hz : IsSafe z) : Float.ofInt y < Float.ofInt z ↔ y < z := by
  rw [ofInt_eq hy, ofInt_eq hz]
  show decide ((UnpackedFloat.compare (Float.Model.pack (ofInteger y)).unpack
    (Float.Model.pack (ofInteger z)).unpack == some .lt) = true) = true ↔ _
  rw [unpack_pack_ofInteger hy, unpack_pack_ofInteger hz, compare_parts, decide_eq_true_iff,
    beq_iff_eq, Option.some_inj, Int.compare_eq_lt]

/-- Integers are numbers. -/
theorem ofInt_isNaN (hz : IsSafe z) : (Float.ofInt z).isNaN = false := by
  rw [ofInt_eq hz]
  show UnpackedFloat.isNaN (Float.Model.pack (ofInteger z)).unpack = false
  rw [unpack_pack_ofInteger hz]
  unfold ofInteger
  split <;> rfl

/-! ### Extremes -/

theorem smaller_ofInt (hy : IsSafe y) (hz : IsSafe z) :
    smaller (Float.ofInt y) (Float.ofInt z) = Float.ofInt (min y z) := by
  rw [smaller, ofInt_isNaN hy, ofInt_isNaN hz]
  simp only [ofInt_lt_iff hy hz, ofInt_lt_iff hz hy]
  rcases Int.lt_trichotomy y z with hlt | rfl | hgt
  · simp [hlt, Int.min_eq_left (Int.le_of_lt hlt)]
  · simp
  · simp [hgt, Int.not_lt.mpr (Int.le_of_lt hgt), Int.min_eq_right (Int.le_of_lt hgt)]

theorem larger_ofInt (hy : IsSafe y) (hz : IsSafe z) :
    larger (Float.ofInt y) (Float.ofInt z) = Float.ofInt (max y z) := by
  rw [larger, ofInt_isNaN hy, ofInt_isNaN hz]
  simp only [ofInt_lt_iff hy hz, ofInt_lt_iff hz hy]
  rcases Int.lt_trichotomy y z with hlt | rfl | hgt
  · simp [hlt, Int.max_eq_right (Int.le_of_lt hlt)]
  · simp
  · simp [hgt, Int.not_lt.mpr (Int.le_of_lt hgt), Int.max_eq_left (Int.le_of_lt hgt)]

/-! ### Running totals -/

/-- **What is computed from integers one by one** is computed as from doubles, as long as it stays
within the bounds. -/
theorem foldl_ofInt {op : Float → Float → Float} {op' : Int → Int → Int}
    (hop : ∀ {y z : Int}, IsSafe y → IsSafe z → IsSafe (op' y z) →
      op (Float.ofInt y) (Float.ofInt z) = Float.ofInt (op' y z))
    {zs : List Int} (hzs : ∀ z ∈ zs, IsSafe z) {y : Int}
    (hsafe : ∀ k, IsSafe ((zs.take k).foldl op' y)) :
    (zs.map Float.ofInt).foldl op (Float.ofInt y) = Float.ofInt (zs.foldl op' y) := by
  induction zs generalizing y with
  | nil => rfl
  | cons z zs ih =>
    -- the next sum is safe, as every sum of a front is
    obtain ⟨hz, hzs⟩ := List.forall_mem_cons.mp hzs
    have hy : IsSafe y := hsafe 0
    have hnext : IsSafe (op' y z) := hsafe 1
    rw [List.map_cons, List.foldl_cons, List.foldl_cons, hop hy hz hnext]
    exact ih hzs fun k => hsafe (k + 1)

/-- An extreme of integers is one of them. -/
theorem foldl_safe {op : Int → Int → Int}
    (hop : ∀ {y z : Int}, IsSafe y → IsSafe z → IsSafe (op y z)) {zs : List Int}
    (hzs : ∀ z ∈ zs, IsSafe z) (hy : IsSafe y) : IsSafe (zs.foldl op y) :=
  List.foldlRecOn zs op hy fun _ hacc z hz => hop hacc (hzs z hz)

/-- Integers that can be added one by one. -/
structure SumsSafely (zs : List Int) : Prop where
  each : ∀ z ∈ zs, IsSafe z
  totals : ∀ k, IsSafe (zs.take k).sum

/-- **The total of integers**, as it is computed from doubles. -/
theorem foldl_add_ofInt {zs : List Int} (h : SumsSafely zs) :
    (zs.map Float.ofInt).foldl (· + ·) 0 = Float.ofInt zs.sum := by
  have hzero : (0 : Float) = Float.ofInt 0 := rfl
  rw [hzero, List.sum_eq_foldl]
  refine foldl_ofInt (fun hy hz hsum => ofInt_add hy hz hsum) h.each fun k => ?_
  rw [← List.sum_eq_foldl]
  exact h.totals k

end NamedQuery.Decimal

namespace NamedQuery.Summary

open NamedQuery.Decimal

/-- The summary of some integers, if there are any. -/
def ofIntegers? (zs : List Int) : Option Summary :=
  match zs.min?, zs.max? with
  | some low, some high =>
    some
      { count := zs.length
        sum := Float.ofInt zs.sum
        min := Float.ofInt low
        max := Float.ofInt high }
  | _, _ => none

/-- **A summary of integers** has their number, their sum and their extremes. -/
theorem of?_map_ofInt {zs : List Int} (h : SumsSafely zs) :
    of? (zs.map Float.ofInt) = ofIntegers? zs := by
  cases zs with
  | nil => rfl
  | cons z zs =>
    obtain ⟨hz, hzs⟩ := List.forall_mem_cons.mp h.each
    -- the extremes stay among the numbers that were there, so they stay exact
    have htaken : ∀ k, ∀ x ∈ zs.take k, IsSafe x := fun k x hx => hzs x (List.mem_of_mem_take hx)
    have hmin : (zs.map Float.ofInt).foldl smaller (Float.ofInt z) =
        Float.ofInt (zs.foldl Min.min z) :=
      foldl_ofInt (fun hy hz _ => smaller_ofInt hy hz) hzs fun k =>
        foldl_safe (fun hy hz => min_rec (fun _ => hy) fun _ => hz) (htaken k) hz
    have hmax : (zs.map Float.ofInt).foldl larger (Float.ofInt z) =
        Float.ofInt (zs.foldl Max.max z) :=
      foldl_ofInt (fun hy hz _ => larger_ofInt hy hz) hzs fun k =>
        foldl_safe (fun hy hz => max_rec (fun _ => hy) fun _ => hz) (htaken k) hz
    -- the sum is the only one whose steps have to be bounded
    have hsum := foldl_add_ofInt h
    rw [ofIntegers?, List.min?_cons', List.max?_cons']
    show some _ = some _
    rw [List.length_map, ← List.map_cons, hsum, hmin, hmax]
    rfl

end NamedQuery.Summary
