import Mathlib
import NamedQuery.Text.Collation

/-!
# Alphabetical order of labels, as an order

Labels are compared by lists of numbers, three times over. So the comparison is that of a total
preorder, which takes labels for one only if they agree in all three lists. Labels in printable
ASCII are then the same, since each character has a place of its own but for its case, and its look
tells the case.

* `compareLabels_eq_eq_iff` — when alphabetical order takes two labels for one;
* `weights_of_printable` — the weights of a label in printable ASCII;
* `eq_of_compareLabels_eq` — no two such labels are taken for one.
-/

namespace NamedQuery.Text

variable {a b : String} {c d : Char}

/-- Labels are compared by their places, their marks and their looks. -/
instance : Std.TransCmp compareLabels := by
  let _ : Ord (List Nat) := ⟨fun xs ys => compareOfLessAndEq xs ys⟩
  -- lists of numbers are compared by their linear order
  have : Std.TransOrd (List Nat) :=
    Std.TransCmp.compareOfLessAndEq_of_irrefl_of_trans_of_antisymm (lt_irrefl ·) lt_trans
      fun hnot hnot' => le_antisymm (not_lt.mp hnot') (not_lt.mp hnot)
  exact inferInstanceAs (Std.TransCmp (compareLex
    (compareLex (compareOn fun label => (weights label).filterMap Weight.place)
      (compareOn fun label => (weights label).map Weight.mark))
    (compareOn fun label => (weights label).map Weight.look)))

/-- **Alphabetical order takes two labels for one** if they agree in all that it looks at. -/
theorem compareLabels_eq_eq_iff :
    compareLabels a b = .eq ↔
      (weights a).filterMap Weight.place = (weights b).filterMap Weight.place ∧
        (weights a).map Weight.mark = (weights b).map Weight.mark ∧
          (weights a).map Weight.look = (weights b).map Weight.look := by
  have heq : ∀ xs ys : List Nat, compareOfLessAndEq xs ys = .eq ↔ xs = ys := fun xs ys =>
    compareOfLessAndEq_eq_eq le_refl not_le
  show ((compareOfLessAndEq _ _).then (compareOfLessAndEq _ _)).then (compareOfLessAndEq _ _) = _ ↔
    _
  rw [Ordering.then_eq_eq, Ordering.then_eq_eq, heq, heq, heq, and_assoc]

/-- The characters from the space to the tilde. -/
def IsPrintable (c : Char) : Prop :=
  ' ' ≤ c ∧ c ≤ '~'

/-- What holds of them one by one. -/
theorem printable_induction {motive : Char → Prop}
    (h : ∀ i : Fin 95, motive (Char.ofNat (i + 32))) (hc : IsPrintable c) : motive c := by
  have hlow : 32 ≤ c.toNat := hc.1
  have hhigh : c.toNat ≤ 126 := hc.2
  have hchar := h ⟨c.toNat - 32, by omega⟩
  rwa [Nat.sub_add_cancel hlow, Char.ofNat_toNat] at hchar

theorem asciiPlace?_isSome (hc : IsPrintable c) : (asciiPlace? c.toLower).isSome :=
  @printable_induction c (fun c => (asciiPlace? c.toLower).isSome) (by decide +kernel) hc

/-- A character is told by its small letter and its case. -/
theorem eq_of_toLower_eq (hc : IsPrintable c) (hd : IsPrintable d) (hsmall : c.toLower = d.toLower)
    (hcase : isCapital c = isCapital d) : c = d := by
  have hback : ∀ {e : Char}, IsPrintable e →
      e = if isCapital e then e.toLower.toUpper else e.toLower := fun he =>
    @printable_induction _ (fun e => e = if isCapital e then e.toLower.toUpper else e.toLower)
      (by decide +kernel) he
  rw [hback hc, hback hd, hsmall, hcase]

/-- Each place is that of one character. -/
theorem asciiPlace?_inj (h : asciiPlace? c = asciiPlace? d) (hsome : (asciiPlace? c).isSome) :
    c = d := by
  obtain ⟨place, hplace⟩ := Option.isSome_iff_exists.mp hsome
  obtain ⟨i, hi, hat⟩ := Option.map_eq_some_iff.mp hplace
  obtain ⟨j, hj, hat'⟩ := Option.map_eq_some_iff.mp (h ▸ hplace)
  -- the places are numbered with equal gaps, so the number tells the index
  have hsame : i = j := by
    have hprod : (i + 1) * asciiGap = (j + 1) * asciiGap := hat.trans hat'.symm
    exact Nat.succ_injective (Nat.eq_of_mul_eq_mul_right (by decide) hprod)
  subst hsame
  -- one index stands for one character
  obtain ⟨_, hc, -⟩ := List.findIdx?_eq_some_iff_getElem.mp hi
  obtain ⟨_, hd, -⟩ := List.findIdx?_eq_some_iff_getElem.mp hj
  exact (beq_iff_eq.mp hc).symm.trans (beq_iff_eq.mp hd)

/-- The weight of a printable character. -/
def printedWeight (c : Char) : Weight :=
  { place := asciiPlace? c.toLower
    mark := 0
    look := plainLook + if isCapital c then capitalLook else 0 }

theorem printedWeight_place (hc : IsPrintable c) : ∃ place, (printedWeight c).place = some place :=
  Option.isSome_iff_exists.mp (asciiPlace?_isSome hc)

theorem printedWeight_inj (hc : IsPrintable c) (hd : IsPrintable d)
    (hplace : (printedWeight c).place = (printedWeight d).place)
    (hlook : (printedWeight c).look = (printedWeight d).look) : c = d := by
  refine eq_of_toLower_eq hc hd (asciiPlace?_inj hplace (asciiPlace?_isSome hc)) ?_
  simp only [printedWeight] at hlook
  cases hcase : isCapital c <;> cases hcase' : isCapital d <;>
    simp [hcase, hcase', capitalLook] at hlook ⊢

/-- **The weights of a label in printable ASCII** are those of its characters. -/
theorem weights_of_printable (h : ∀ c ∈ a.toList, IsPrintable c) :
    weights a = a.toList.map printedWeight := by
  -- a printable character is an ASCII one, so every one of them has its own weights
  have hascii : a.toList.all (fun c => c.toNat < 128) = true := by
    refine List.all_eq_true.mpr fun c hc => decide_eq_true ?_
    have hhigh : c.toNat ≤ 126 := (h c hc).2
    omega
  rw [weights, if_pos hascii, ← List.flatMap_singleton' (a.toList.map _), List.flatMap_map]
  refine List.flatMap_congr fun c hc => ?_
  obtain ⟨place, hplace⟩ := Option.isSome_iff_exists.mp (asciiPlace?_isSome (h c hc))
  simp only [asciiWeights, printedWeight, hplace]

theorem map_printedWeight_inj {cs ds : List Char} (hcs : ∀ c ∈ cs, IsPrintable c)
    (hds : ∀ d ∈ ds, IsPrintable d)
    (hplaces : (cs.map printedWeight).filterMap Weight.place =
      (ds.map printedWeight).filterMap Weight.place)
    (hlooks : (cs.map printedWeight).map Weight.look = (ds.map printedWeight).map Weight.look) :
    cs = ds := by
  -- the induction is on both texts, which have as many looks as characters
  induction cs generalizing ds with
  | nil =>
    cases ds with
    | nil => rfl
    | cons d ds => simp at hlooks
  | cons c cs ih =>
    cases ds with
    | nil => simp at hlooks
    | cons d ds =>
      obtain ⟨hc, hcs⟩ := List.forall_mem_cons.mp hcs
      obtain ⟨hd, hds⟩ := List.forall_mem_cons.mp hds
      obtain ⟨hlook, hlooks⟩ := List.cons.inj hlooks
      obtain ⟨place, hplace⟩ := printedWeight_place hc
      obtain ⟨place', hplace'⟩ := printedWeight_place hd
      -- both characters have a place, so the others are compared by those of their own
      rw [List.map_cons, List.map_cons, List.filterMap_cons_some hplace,
        List.filterMap_cons_some hplace'] at hplaces
      obtain ⟨hsame, hplaces⟩ := List.cons.inj hplaces
      rw [printedWeight_inj hc hd (hplace.trans (hsame ▸ hplace'.symm)) hlook,
        ih hcs hds hplaces hlooks]

/-- **No two labels in printable ASCII** are taken for one. -/
theorem eq_of_compareLabels_eq (ha : ∀ c ∈ a.toList, IsPrintable c)
    (hb : ∀ c ∈ b.toList, IsPrintable c) (h : compareLabels a b = .eq) : a = b := by
  obtain ⟨hplaces, -, hlooks⟩ := compareLabels_eq_eq_iff.mp h
  rw [weights_of_printable ha, weights_of_printable hb] at hplaces hlooks
  exact String.toList_injective (map_printedWeight_inj ha hb hplaces hlooks)

end NamedQuery.Text
