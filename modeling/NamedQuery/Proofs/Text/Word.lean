import NamedQuery.Proofs.Text.Keyword

/-!
# Words of a camel-case text

A word is a capital and small letters behind it, so the next capital ends it. In words that are put
together without anything between them, a keyword that is itself a word stands only where one of
them is that keyword:

* `IsWord` — a capital and small letters behind it;
* `mem_of_occurs_flatten` — a word in front of a capital or of the end is one of the words;
* `getLast?_of_suffix_flatten` — a word at the end is the last of the words.
-/

namespace NamedQuery.Text

/-- A capital and small letters behind it. -/
def IsWord : List Char → Prop
  | [] => False
  | c :: rest => isCapital c = true ∧ ∀ d ∈ rest, d.isLower = true

instance : DecidablePred IsWord
  | [] => .isFalse id
  | c :: rest =>
    decidable_of_iff (isCapital c = true ∧ rest.all Char.isLower = true) (by simp [IsWord])

variable {word word' : List Char} {words : List (List Char)}

theorem isCapital_eq_false_of_isLower {c : Char} (h : c.isLower = true) : isCapital c = false := by
  have hrange : (decide ('a'.val ≤ c.val) && decide (c.val ≤ 'z'.val)) = true := h
  simp only [Bool.and_eq_true, decide_eq_true_eq] at hrange
  simp only [isCapital, Bool.and_eq_false_iff, decide_eq_false_iff_not, Char.le_def]
  -- the small letters stand behind the capitals
  exact Or.inr fun hle => absurd (UInt32.le_trans hrange.1 hle) (by decide)

namespace IsWord

theorem ne_nil (h : IsWord word) : word ≠ [] := by
  rintro rfl
  exact h

theorem startsWithCapital (h : IsWord word) : startsWithCapital word = true := by
  cases word with
  | nil => exact h.elim
  | cons c rest => exact h.1

/-- Only the first letter of a word is a capital. -/
theorem eq_nil_of_append {front tail : List Char} (h : IsWord (front ++ tail))
    (htail : Text.startsWithCapital tail = true) : front = [] := by
  -- the front ends before a capital, and only the first letter of a word is one
  cases front with
  | nil => rfl
  | cons c front =>
    cases tail with
    | nil => exact absurd htail (by decide)
    | cons d tail =>
      have hsmall := h.2 d (List.mem_append_right front List.mem_cons_self)
      have hcapital : isCapital d = true := htail
      exact absurd (isCapital_eq_false_of_isLower hsmall) (by simp [hcapital])

/-- No word is the end of another one. -/
theorem eq_of_suffix (h : IsWord word) (h' : IsWord word') (hsuffix : word' <:+ word) :
    word' = word := by
  obtain ⟨front, rfl⟩ := hsuffix
  rw [h.eq_nil_of_append h'.startsWithCapital, List.nil_append]

/-- No word stands in another one, up to the end of a word. -/
theorem eq_of_occurs (h : IsWord word) (h' : IsWord word')
    (hoccurs : Occurs word' atWordEnd word) : word' = word := by
  obtain ⟨before, after, rfl, hafter⟩ := hoccurs
  have hbehind : after = [] := by
    cases after with
    | nil => rfl
    | cons c after =>
      -- a capital behind the keyword would be a second one
      have hfront := h.eq_nil_of_append hafter
      exact absurd (List.append_eq_nil_iff.mp hfront).2 h'.ne_nil
  rw [hbehind, List.append_nil] at h ⊢
  exact h.eq_of_suffix h' (List.suffix_append before word')

end IsWord

/-- A word that stands in words, up to the end of a word, is one of them. -/
theorem mem_of_occurs_flatten (hwords : ∀ word ∈ words, IsWord word) (h : IsWord word)
    (hoccurs : Occurs word atWordEnd words.flatten) : word ∈ words := by
  obtain ⟨c, rest, rfl⟩ := List.exists_cons_of_ne_nil h.ne_nil
  -- the induction is on the words, at whose seams no word can lie
  induction words with
  | nil => exact absurd hoccurs (occurs_nil_iff (by simp))
  | cons first words ih =>
    have hfirst : IsWord first := hwords first List.mem_cons_self
    rw [List.flatten_cons] at hoccurs
    cases words with
    | nil =>
      rw [List.flatten_nil, List.append_nil] at hoccurs
      exact List.mem_singleton.mpr (hfirst.eq_of_occurs h hoccurs)
    | cons next words =>
      have hnext : IsWord next := hwords next (by simp)
      obtain ⟨d, others, rfl⟩ := List.exists_cons_of_ne_nil hnext.ne_nil
      -- the capital of the next word is none of the small letters of the keyword
      have hd : d ∉ rest := fun hmem =>
        absurd (isCapital_eq_false_of_isLower (h.2 d hmem)) (by simp [hnext.1])
      -- the word lies in the first one or behind it
      rcases hoccurs.of_append testsCapital_atWordEnd hd with hoccurs | hoccurs
      · exact hfirst.eq_of_occurs h hoccurs ▸ List.mem_cons_self
      · exact List.mem_cons_of_mem _
          (ih (fun word hword => hwords word (List.mem_cons_of_mem _ hword)) hoccurs)

/-- A word at the end of words is the last of them. -/
theorem getLast?_of_suffix_flatten (hwords : ∀ word ∈ words, IsWord word) (h : IsWord word)
    (hsuffix : word <:+ words.flatten) : words.getLast? = some word := by
  rcases List.eq_nil_or_concat words with rfl | ⟨others, last, rfl⟩
  · rw [List.flatten_nil, List.suffix_nil] at hsuffix
    exact absurd hsuffix h.ne_nil
  · have hlast : IsWord last := hwords last (by simp)
    rw [List.concat_eq_append, List.flatten_append, List.flatten_singleton] at hsuffix
    -- of two ends of a text the shorter one is the end of the other
    have heq : word = last := by
      rcases List.suffix_or_suffix_of_suffix hsuffix (List.suffix_append _ last) with hle | hle
      · exact hlast.eq_of_suffix h hle
      · exact (h.eq_of_suffix hlast hle).symm
    rw [heq, List.concat_eq_append, List.getLast?_concat]

end NamedQuery.Text
