import Mathlib.Data.List.Nodup
import NamedQuery.Proofs.Query.Bound
import NamedQuery.Proofs.Text.Keyword

/-!
# The longest keyword wins

A segment such as `StatusIsNotNull` ends in several keywords at once, and a property may end in one
of its own. What a segment means is said here without an order of the keywords: the operator is that
of the longest one that leaves a property of the entity, and where there is none the segment is a
property, or else it is refused for the longest keyword that is known and cannot be served.

* `IsLongest`, `NoneLeaves` — which keyword of a list is the longest that leaves something of use;
* `SegmentMeans` — what a segment means, as an operator on a property or as a refusal;
* `SegmentMeans.unique` — it means one thing at most, since the ends of a text that are of one
  length are the same;
* `Query.criterionBy` — reading a segment by tables of keywords that are not sorted yet
  (`Query.criterion_eq`), which finds what the segment means (`Query.exists_meaning`);
* `Query.bind_longest` — what becomes of a segment of a name that is held against an entity.
-/

namespace NamedQuery

/-! ### Keywords at the end of a segment -/

/-- What stands in front of a keyword is all that is left of the segment, and there is something. -/
theorem beforeKeyword?_eq_some_iff {segment keyword text : String} :
    beforeKeyword? segment keyword = some text ↔ segment = text ++ keyword ∧ text ≠ "" := by
  have hleft : ∀ chars, Text.before? keyword.toList segment.toList = some chars ↔
      segment = String.ofList chars ++ keyword := by
    intro chars
    rw [Text.before?_eq_some_iff, ← String.toList_inj, String.toList_append, String.toList_ofList]
  unfold beforeKeyword?
  split
  · next c chars h =>
    rw [hleft] at h
    -- something is left in front of the keyword, so the text is not empty
    constructor
    · intro heq
      obtain rfl := Option.some.inj heq
      exact ⟨h, by simp⟩
    · rintro ⟨htext, -⟩
      rw [h, String.append_left_inj] at htext
      rw [htext]
  · next h =>
    refine iff_of_false (by simp) ?_
    rintro ⟨hsegment, hne⟩
    -- the characters of the text would have been found
    cases hchars : text.toList with
    | nil => exact hne (String.toList_eq_nil_iff.mp hchars)
    | cons c chars =>
      exact h c chars ((hleft _).mpr (by rw [← hchars, String.ofList_toList]; exact hsegment))

/-- No keyword of a list leaves a text of use in front of it. -/
def NoneLeaves (words : List String) (ofUse : String → Prop) (segment : String) : Prop :=
  ∀ keyword ∈ words, ∀ text, segment = text ++ keyword → text ≠ "" → ¬ofUse text

/-- The longest keyword of a list that leaves a text of use in front of it. -/
structure IsLongest (words : List String) (ofUse : String → Prop) (segment keyword text : String) :
    Prop where
  mem : keyword ∈ words
  splits : segment = text ++ keyword
  nonempty : text ≠ ""
  leaves : ofUse text
  longest : ∀ keyword' ∈ words, ∀ text', segment = text' ++ keyword' → text' ≠ "" → ofUse text' →
    keyword'.length ≤ keyword.length

section Longest

variable {words words' : List String} {ofUse : String → Prop}
  {segment keyword keyword' text text' : String}

theorem NoneLeaves.congr (hwords : ∀ word, word ∈ words ↔ word ∈ words')
    (h : NoneLeaves words ofUse segment) : NoneLeaves words' ofUse segment :=
  fun word hword => h word ((hwords word).mpr hword)

theorem NoneLeaves.not_isLongest (h : NoneLeaves words ofUse segment) :
    ¬IsLongest words ofUse segment keyword text :=
  fun hlongest => h keyword hlongest.mem text hlongest.splits hlongest.nonempty hlongest.leaves

namespace IsLongest

theorem congr (hwords : ∀ word, word ∈ words ↔ word ∈ words')
    (h : IsLongest words ofUse segment keyword text) :
    IsLongest words' ofUse segment keyword text where
  mem := (hwords keyword).mp h.mem
  splits := h.splits
  nonempty := h.nonempty
  leaves := h.leaves
  longest word hword := h.longest word ((hwords word).mpr hword)

/-- Keywords of one length at the end of a segment are the same. -/
theorem unique (h : IsLongest words ofUse segment keyword text)
    (h' : IsLongest words ofUse segment keyword' text') : keyword = keyword' ∧ text = text' := by
  -- each of the two is at least as long as the other
  have hlength : keyword.length = keyword'.length := Nat.le_antisymm
    (h'.longest keyword h.mem text h.splits h.nonempty h.leaves)
    (h.longest keyword' h'.mem text' h'.splits h'.nonempty h'.leaves)
  have hends : text.toList ++ keyword.toList = text'.toList ++ keyword'.toList := by
    rw [← String.toList_append, ← String.toList_append, ← h.splits, ← h'.splits]
  obtain ⟨htext, hkeyword⟩ := List.append_inj' hends hlength
  exact ⟨String.toList_inj.mp hkeyword, String.toList_inj.mp htext⟩

end IsLongest

end Longest

/-! ### Searching a sorted table -/

section Search

variable {α β : Type} {word : α → String} {use : α → String → Option β} {table : List α}
  {segment : String}

theorem findSome?_filterMap {γ : Type} (f : α → Option β) (g : β → Option γ) (l : List α) :
    (l.filterMap f).findSome? g = l.findSome? fun a => (f a).bind g := by
  rw [← List.head?_filterMap, List.filterMap_filterMap, List.head?_filterMap]

/-- The first of the texts in front of keywords that can be used. -/
theorem findSome?_stripped {γ : Type} (make : α → String → β) (g : β → Option γ) :
    (table.filterMap fun a => (beforeKeyword? segment (word a)).map (make a)).findSome? g =
      table.findSome? fun a => (beforeKeyword? segment (word a)).bind fun text =>
        g (make a text) := by
  rw [findSome?_filterMap]
  congr 1
  funext a
  rw [Option.bind_map]
  rfl

theorem head?_stripped (make : α → String → β) :
    (table.filterMap fun a => (beforeKeyword? segment (word a)).map (make a)).head? =
      table.findSome? fun a => (beforeKeyword? segment (word a)).bind fun text =>
        some (make a text) := by
  rw [List.head?_filterMap]
  simp only [Option.map_eq_bind]
  rfl

/-- Where the longer keywords come first, the first that leaves a text of use is the longest. -/
theorem exists_isLongest (word : α → String) (ofUse : String → Prop)
    (hsorted : table.Pairwise fun a a' => (word a').length ≤ (word a).length)
    (huse : ∀ a text, (use a text).isSome = true ↔ ofUse text) {b : β}
    (h : (table.findSome? fun a => (beforeKeyword? segment (word a)).bind (use a)) = some b) :
    ∃ a ∈ table, ∃ text, IsLongest (table.map word) ofUse segment (word a) text ∧
      use a text = some b := by
  obtain ⟨front, a, back, rfl, hfound, hfront⟩ := List.findSome?_eq_some_iff.mp h
  obtain ⟨text, htext, hb⟩ := Option.bind_eq_some_iff.mp hfound
  obtain ⟨hsegment, hne⟩ := beforeKeyword?_eq_some_iff.mp htext
  have hmem : a ∈ front ++ a :: back := by simp
  refine ⟨a, hmem, text, ⟨List.mem_map_of_mem hmem, hsegment, hne,
    (huse a text).mp (by rw [hb, Option.isSome_some]), ?_⟩, hb⟩
  intro keyword hkeyword text' hsegment' hne' hofUse'
  obtain ⟨a', ha', rfl⟩ := List.mem_map.mp hkeyword
  rcases List.mem_append.mp ha' with ha' | ha'
  · -- an entry in front of the first one would have been found
    have hnone := hfront a' ha'
    rw [beforeKeyword?_eq_some_iff.mpr ⟨hsegment', hne'⟩, Option.bind_some] at hnone
    exact absurd ((huse a' text').mpr hofUse') (by simp [hnone])
  · -- an entry behind the first one is no longer, since the table is sorted
    obtain ⟨-, hback, -⟩ := List.pairwise_append.mp hsorted
    rcases List.mem_cons.mp ha' with rfl | ha'
    · exact Nat.le_refl _
    · exact (List.pairwise_cons.mp hback).1 a' ha'

theorem noneLeaves_of_findSome? (word : α → String) (ofUse : String → Prop)
    (huse : ∀ a text, (use a text).isSome = true ↔ ofUse text)
    (h : (table.findSome? fun a => (beforeKeyword? segment (word a)).bind (use a)) = none) :
    NoneLeaves (table.map word) ofUse segment := by
  intro keyword hkeyword text hsegment hne hofUse
  obtain ⟨a, ha, rfl⟩ := List.mem_map.mp hkeyword
  have hnone := List.findSome?_eq_none_iff.mp h a ha
  rw [beforeKeyword?_eq_some_iff.mpr ⟨hsegment, hne⟩, Option.bind_some] at hnone
  exact absurd ((huse a text).mpr hofUse) (by simp [hnone])

end Search

/-! ### What a segment means -/

/-- The keywords of operators, and those that no condition can express, in any order. -/
structure KeywordTable where
  supported : List (String × Operator)
  unsupported : List String

namespace KeywordTable

/-- The keywords of method names. -/
def standard : KeywordTable where
  supported := keywords
  unsupported := unsupportedKeywords

/-- The keywords that stand for an operator. -/
def words (table : KeywordTable) : List String :=
  table.supported.map Prod.fst

/-- Two tables hold the same keywords. -/
structure Rearranges (table table' : KeywordTable) : Prop where
  supported : table.supported.Perm table'.supported
  unsupported : table.unsupported.Perm table'.unsupported

/-- The keywords with the longer ones first. -/
def sort (table : KeywordTable) : KeywordTable where
  supported := table.supported.mergeSort fun a b => decide (b.1.length ≤ a.1.length)
  unsupported := table.unsupported.mergeSort fun a b => decide (b.length ≤ a.length)

/-- The longer keywords come first. -/
structure IsSorted (table : KeywordTable) : Prop where
  supported : table.supported.Pairwise fun a b => b.1.length ≤ a.1.length
  unsupported : table.unsupported.Pairwise fun a b => b.length ≤ a.length

variable {table table' : KeywordTable}

theorem Rearranges.words_perm (h : table.Rearranges table') : table.words.Perm table'.words :=
  h.supported.map _

theorem Rearranges.refl (table : KeywordTable) : table.Rearranges table :=
  ⟨.refl _, .refl _⟩

theorem Rearranges.symm (h : table.Rearranges table') : table'.Rearranges table :=
  ⟨h.supported.symm, h.unsupported.symm⟩

theorem sort_rearranges (table : KeywordTable) : table.sort.Rearranges table :=
  ⟨List.mergeSort_perm _ _, List.mergeSort_perm _ _⟩

/-- Sorting by a length puts the greater ones first. -/
theorem pairwise_mergeSort_length {α : Type} (length : α → Nat) (l : List α) :
    (l.mergeSort fun a b => decide (length b ≤ length a)).Pairwise
      fun a b => length b ≤ length a := by
  have h : (l.mergeSort fun a b => decide (length b ≤ length a)).Pairwise
      fun a b => decide (length b ≤ length a) = true :=
    List.pairwise_mergeSort (by simp only [decide_eq_true_eq]; omega)
      (by simp only [Bool.or_eq_true, decide_eq_true_eq]; omega) l
  simpa only [decide_eq_true_eq] using h

theorem isSorted_sort (table : KeywordTable) : table.sort.IsSorted :=
  ⟨pairwise_mergeSort_length _ _, pairwise_mergeSort_length _ _⟩

theorem sort_standard : standard.sort = standard := by
  -- both tables are sorted as they stand
  have hsupported :
      keywords.mergeSort (fun a b => decide (b.1.length ≤ a.1.length)) = keywords :=
    List.mergeSort_of_pairwise (by simpa only [decide_eq_true_eq] using keywords_sorted)
  have hunsupported :
      unsupportedKeywords.mergeSort (fun a b => decide (b.length ≤ a.length)) =
        unsupportedKeywords :=
    List.mergeSort_of_pairwise (by simpa only [decide_eq_true_eq] using unsupportedKeywords_sorted)
  rw [sort, standard, hsupported, hunsupported]

/-- No keyword stands for two operators. -/
theorem nodup_words_standard : standard.words.Nodup := by decide

end KeywordTable

/-- A text means a property of an entity. -/
def Entity.Resolves (e : Entity) (text : String) : Prop :=
  (e.resolveProperty text).isSome = true

/-- The text that a segment seems to use for a property: without its longest keyword, whatever that
leaves, or all of it if it ends in none. -/
inductive SeemsToName (words : List String) (segment : String) : String → Prop
  | keyword {keyword text : String}
      (longest : IsLongest words (fun _ => True) segment keyword text) :
      SeemsToName words segment text
  | whole (none : NoneLeaves words (fun _ => True) segment) : SeemsToName words segment segment

/-- **What a segment means**, in terms of the keywords of a table. -/
inductive SegmentMeans (table : KeywordTable) (e : Entity) (segment : String) :
    Except Cause (PropertyPath × Operator) → Prop
  /-- The longest keyword that leaves a property. -/
  | keyword {keyword text : String} {operator : Operator} {path : PropertyPath}
      (entry : (keyword, operator) ∈ table.supported)
      (longest : IsLongest table.words e.Resolves segment keyword text)
      (resolves : e.resolveProperty text = some path) :
      SegmentMeans table e segment (.ok (path, operator))
  /-- A property alone, if no keyword leaves one. -/
  | whole {path : PropertyPath} (none : NoneLeaves table.words e.Resolves segment)
      (resolves : e.resolveProperty segment = some path) :
      SegmentMeans table e segment (.ok (path, .equals))
  /-- The longest of the other keywords that leaves a property. -/
  | unsupported {keyword text : String} (none : NoneLeaves table.words e.Resolves segment)
      (unknown : e.resolveProperty segment = .none)
      (longest : IsLongest table.unsupported e.Resolves segment keyword text) :
      SegmentMeans table e segment (.error (.unsupportedKeyword keyword))
  | unknown {text : String} (none : NoneLeaves table.words e.Resolves segment)
      (unknown : e.resolveProperty segment = .none)
      (noneUnsupported : NoneLeaves table.unsupported e.Resolves segment)
      (seems : SeemsToName table.words segment text) :
      SegmentMeans table e segment (.error (.unknownProperty (Text.decapitalize text) e.name))

section Meaning

variable {table table' : KeywordTable} {e : Entity} {segment : String}
  {meaning meaning' : Except Cause (PropertyPath × Operator)}

theorem SeemsToName.unique {words : List String} {text text' : String}
    (h : SeemsToName words segment text) (h' : SeemsToName words segment text') : text = text' := by
  -- two longest keywords are one, and without a keyword the whole segment stays
  cases h with
  | keyword longest =>
    cases h' with
    | keyword longest' => exact (longest.unique longest').2
    | whole none => exact absurd longest none.not_isLongest
  | whole none =>
    cases h' with
    | keyword longest' => exact absurd longest' none.not_isLongest
    | whole => rfl

theorem SeemsToName.congr {words words' : List String} {text : String}
    (hwords : ∀ word, word ∈ words ↔ word ∈ words') (h : SeemsToName words segment text) :
    SeemsToName words' segment text := by
  cases h with
  | keyword longest => exact .keyword (longest.congr hwords)
  | whole none => exact .whole (none.congr hwords)

namespace SegmentMeans

/-- **A segment means one thing at most**, if no keyword stands for two operators. -/
theorem unique (hwords : table.words.Nodup) (h : SegmentMeans table e segment meaning)
    (h' : SegmentMeans table e segment meaning') : meaning = meaning' := by
  -- of two meanings each excludes the other, unless they come from the same clause
  cases h with
  | keyword entry longest resolves =>
    cases h' with
    | keyword entry' longest' resolves' =>
      obtain ⟨rfl, rfl⟩ := longest.unique longest'
      obtain rfl := Option.some.inj (resolves.symm.trans resolves')
      -- the entry of a keyword is the only one with it
      obtain ⟨-, rfl⟩ := Prod.mk.inj (List.inj_on_of_nodup_map hwords entry entry' rfl)
      rfl
    | whole none | unsupported none | unknown none => exact absurd longest none.not_isLongest
  | whole none resolves =>
    cases h' with
    | keyword entry' longest' => exact absurd longest' none.not_isLongest
    | whole none' resolves' => rw [Option.some.inj (resolves.symm.trans resolves')]
    | unsupported none' unknown' | unknown none' unknown' =>
      exact absurd (resolves.symm.trans unknown') (by simp)
  | unsupported none unknown longest =>
    cases h' with
    | keyword entry' longest' => exact absurd longest' none.not_isLongest
    | whole none' resolves' => exact absurd (resolves'.symm.trans unknown) (by simp)
    | unsupported none' unknown' longest' => rw [(longest.unique longest').1]
    | unknown none' unknown' noneUnsupported' =>
      exact absurd longest noneUnsupported'.not_isLongest
  | unknown none unknown noneUnsupported seems =>
    cases h' with
    | keyword entry' longest' => exact absurd longest' none.not_isLongest
    | whole none' resolves' => exact absurd (resolves'.symm.trans unknown) (by simp)
    | unsupported none' unknown' longest' =>
      exact absurd longest' noneUnsupported.not_isLongest
    | unknown none' unknown' noneUnsupported' seems' => rw [seems.unique seems']

/-- The order of the keywords is irrelevant to what a segment means. -/
theorem rearrange (htable : table.Rearranges table') (h : SegmentMeans table e segment meaning) :
    SegmentMeans table' e segment meaning := by
  have hwords : ∀ word, word ∈ table.words ↔ word ∈ table'.words :=
    fun _ => htable.words_perm.mem_iff
  have hunsupported : ∀ word, word ∈ table.unsupported ↔ word ∈ table'.unsupported :=
    fun _ => htable.unsupported.mem_iff
  -- the clauses mention the words of the table, not their order
  cases h with
  | keyword entry longest resolves =>
    exact .keyword (htable.supported.mem_iff.mp entry) (longest.congr hwords) resolves
  | whole none resolves => exact .whole (none.congr hwords) resolves
  | unsupported none unknown longest =>
    exact .unsupported (none.congr hwords) unknown (longest.congr hunsupported)
  | unknown none unknown noneUnsupported seems =>
    exact .unknown (none.congr hwords) unknown (noneUnsupported.congr hunsupported)
      (seems.congr hwords)

end SegmentMeans

end Meaning

/-! ### Reading by a table -/

/-- The readings of a segment by the supported keywords of a table, in their order there. -/
def KeywordTable.readings (table : KeywordTable) (segment : String) : List Reading :=
  (table.supported.filterMap fun (keyword, operator) =>
    (beforeKeyword? segment keyword).map fun property =>
      { property := property, operator }) ++
  [{ property := segment, operator := .equals }]

/-- The readings of a segment by the other keywords of a table. -/
def KeywordTable.unsupportedReadings (table : KeywordTable) (segment : String) :
    List UnsupportedReading :=
  table.unsupported.filterMap fun keyword =>
    (beforeKeyword? segment keyword).map fun property => { property := property, keyword }

namespace Query

variable {table table' : KeywordTable} {e : Entity} {segment : String} {offset : Nat}

/-- The criterion that a segment means by the keywords of a table, which is sorted first. -/
def criterionBy (table : KeywordTable) (e : Entity) (segment : String) (offset : Nat) :
    Except Cause Criterion :=
  let supported := (table.sort.readings segment).findSome? fun reading =>
    (e.resolveProperty reading.property).map fun path =>
      ({ path, operator := reading.operator, offset } : Criterion)
  match supported with
  | some c => .ok c
  | none =>
    let unsupported := (table.sort.unsupportedReadings segment).find? fun reading =>
      (e.resolveProperty reading.property).isSome
    match unsupported with
    | some reading => .error (.unsupportedKeyword reading.keyword)
    | none =>
      let preferred := ((table.sort.readings segment).head?.map Reading.property).getD segment
      .error (.unknownProperty (Text.decapitalize preferred) e.name)

/-- The tables of method names are sorted already. -/
theorem criterion_eq : criterion = criterionBy .standard := by
  funext e segment offset
  rw [criterionBy, KeywordTable.sort_standard]
  rfl

/-- What a reading makes of a segment, if it uses a property of the entity. -/
theorem exists_means_of_reading (hsorted : table.IsSorted) {c : Criterion}
    (h : ((table.readings segment).findSome? fun reading =>
      (e.resolveProperty reading.property).map fun path =>
        ({ path, operator := reading.operator, offset } : Criterion)) = some c) :
    SegmentMeans table e segment (.ok (c.path, c.operator)) ∧ c.offset = offset := by
  rw [KeywordTable.readings, List.findSome?_append, findSome?_stripped, Option.or_eq_some_iff] at h
  rcases h with h | ⟨hnone, h⟩
  · obtain ⟨⟨keyword, operator⟩, hentry, text, hlongest, hread⟩ :=
      exists_isLongest Prod.fst e.Resolves hsorted.supported (by simp [Entity.Resolves]) h
    obtain ⟨path, hpath, rfl⟩ := Option.map_eq_some_iff.mp hread
    exact ⟨.keyword hentry hlongest hpath, rfl⟩
  · have hleaves :=
      noneLeaves_of_findSome? Prod.fst e.Resolves (by simp [Entity.Resolves]) hnone
    -- the whole segment is the only reading that is left
    rw [List.findSome?_singleton] at h
    obtain ⟨path, hpath, rfl⟩ := Option.map_eq_some_iff.mp h
    exact ⟨.whole hleaves hpath, rfl⟩

theorem noneLeaves_of_readings
    (h : ((table.readings segment).findSome? fun reading =>
      (e.resolveProperty reading.property).map fun path =>
        ({ path, operator := reading.operator, offset } : Criterion)) = none) :
    NoneLeaves table.words e.Resolves segment ∧ e.resolveProperty segment = none := by
  rw [KeywordTable.readings, List.findSome?_append, findSome?_stripped, Option.or_eq_none_iff,
    List.findSome?_singleton, Option.map_eq_none_iff] at h
  exact ⟨noneLeaves_of_findSome? _ _ (by simp [Entity.Resolves]) h.1, h.2⟩

theorem seemsToName_preferred (hsorted : table.IsSorted) :
    SeemsToName table.words segment
      (((table.readings segment).head?.map Reading.property).getD segment) := by
  rw [KeywordTable.readings, List.head?_append, head?_stripped]
  cases hfirst : table.supported.findSome? fun a => (beforeKeyword? segment a.1).bind fun text =>
      some ({ property := text, operator := a.2 } : Reading) with
  -- without a keyword the property seems to be the whole segment
  | none => exact .whole (noneLeaves_of_findSome? _ _ (by simp) hfirst)
  | some reading =>
    obtain ⟨a, -, text, hlongest, hread⟩ :=
      exists_isLongest Prod.fst (fun _ => True) hsorted.supported (by simp) hfirst
    obtain rfl := Option.some.inj hread
    exact .keyword hlongest

/-- **Reading a segment by a table finds what it means**, however the table is ordered. -/
theorem exists_meaning (table : KeywordTable) (e : Entity) (segment : String) (offset : Nat) :
    ∃ meaning, SegmentMeans table e segment meaning ∧
      criterionBy table e segment offset = meaning.map fun m => ⟨m.1, m.2, offset⟩ := by
  -- a table may be sorted first, since the meaning does not depend on its order
  suffices h : ∃ meaning, SegmentMeans table.sort e segment meaning ∧
      criterionBy table e segment offset = meaning.map fun m => ⟨m.1, m.2, offset⟩ by
    obtain ⟨meaning, hmeans, heq⟩ := h
    exact ⟨meaning, hmeans.rearrange table.sort_rearranges, heq⟩
  have hsorted := table.isSorted_sort
  unfold criterionBy
  simp only
  split
  · next c hfound =>
    obtain ⟨hmeans, rfl⟩ := exists_means_of_reading hsorted hfound
    exact ⟨_, hmeans, rfl⟩
  · -- no reading leaves a property, so what is left to say is why
    next hnone =>
    obtain ⟨hleaves, hunknown⟩ := noneLeaves_of_readings hnone
    cases hfirst : (table.sort.unsupportedReadings segment).find? fun reading =>
        (e.resolveProperty reading.property).isSome with
    | some reading =>
      rw [List.find?_eq_findSome?_guard, KeywordTable.unsupportedReadings, findSome?_stripped]
        at hfirst
      obtain ⟨keyword, -, text, hlongest, hread⟩ :=
        exists_isLongest id e.Resolves hsorted.unsupported (by simp [Entity.Resolves]) hfirst
      obtain ⟨rfl, -⟩ := Option.guard_eq_some_iff.mp hread
      rw [List.map_id] at hlongest
      exact ⟨_, .unsupported hleaves hunknown hlongest, rfl⟩
    -- no keyword of the other kind leaves a property either
    | none =>
      rw [List.find?_eq_findSome?_guard, KeywordTable.unsupportedReadings, findSome?_stripped]
        at hfirst
      have hothers :=
        noneLeaves_of_findSome? id e.Resolves (by simp [Entity.Resolves]) hfirst
      rw [List.map_id] at hothers
      exact ⟨_, .unknown hleaves hunknown hothers (seemsToName_preferred hsorted), rfl⟩

/-- What a segment means is what is read, also by the same keywords in another order. -/
theorem criterionBy_eq (htable : table.Rearranges .standard)
    {meaning : Except Cause (PropertyPath × Operator)}
    (h : SegmentMeans .standard e segment meaning) :
    criterionBy table e segment offset = meaning.map fun m => ⟨m.1, m.2, offset⟩ := by
  obtain ⟨meaning', hmeans, heq⟩ := exists_meaning table e segment offset
  rw [heq, h.unique KeywordTable.nodup_words_standard (hmeans.rearrange htable)]

/-- **What is read is what a segment means.** -/
theorem means_iff {meaning : Except Cause (PropertyPath × Operator)} (offset : Nat) :
    SegmentMeans .standard e segment meaning ↔
      criterion e segment offset = meaning.map fun m => ⟨m.1, m.2, offset⟩ := by
  rw [criterion_eq]
  constructor
  · exact criterionBy_eq (.refl _)
  · intro h
    obtain ⟨meaning', hmeans, heq⟩ := exists_meaning .standard e segment offset
    rw [h] at heq
    -- nothing of what is meant is lost in a criterion
    cases meaning <;> cases meaning' <;> simp [Except.map] at heq
    · exact heq ▸ hmeans
    · rw [Prod.ext_iff.mpr heq]
      exact hmeans

theorem exists_means_iff (offset : Nat) :
    (∃ m, SegmentMeans .standard e segment (.ok m)) ↔ ∃ c, criterion e segment offset = .ok c := by
  simp only [means_iff offset]
  -- what a segment means has the path and the operator of its criterion
  constructor
  · rintro ⟨m, hm⟩
    exact ⟨_, hm⟩
  · rintro ⟨c, hc⟩
    refine ⟨(c.path, c.operator), ?_⟩
    rw [hc, ← criterion_offset hc]
    rfl

/-! ### The segments of a name -/

/-- Segments that mean a property are read one after the other. -/
theorem criteriaFrom_append {before : List String} (offset : Nat)
    (h : ∀ segment ∈ before, ∃ m, SegmentMeans .standard e segment (.ok m)) :
    ∃ cs offset', ∀ rest,
      criteriaFrom e offset (before ++ rest) = (criteriaFrom e offset' rest).map (cs ++ ·) := by
  induction before generalizing offset with
  | nil =>
    refine ⟨[], offset, fun rest => ?_⟩
    cases hrest : criteriaFrom e offset rest <;> simp [Except.map, hrest]
  | cons segment before ih =>
    obtain ⟨c, hc⟩ := (exists_means_iff offset).mp (h segment List.mem_cons_self)
    obtain ⟨cs, offset', hcs⟩ :=
      ih (offset + c.arity) fun s hs => h s (List.mem_cons_of_mem _ hs)
    -- the criterion of the first segment is put in front, and the rest starts behind its arguments
    refine ⟨c :: cs, offset', fun rest => ?_⟩
    rw [List.cons_append, criteriaFrom, hc]
    show (criteriaFrom e (offset + c.arity) (before ++ rest) >>= _) = _
    rw [hcs]
    cases criteriaFrom e offset' rest <;> rfl

/-- Every segment has its criterion at its own place. -/
theorem criterion_of_criteriaFrom {segments : List String} {cs : List Criterion} {i : Nat}
    (h : criteriaFrom e offset segments = .ok cs) (hi : segments[i]? = some segment) :
    ∃ c, cs[i]? = some c ∧ criterion e segment c.offset = .ok c := by
  induction segments generalizing offset cs i with
  | nil => exact absurd hi (by simp)
  | cons first segments ih =>
    obtain ⟨c, hc, h⟩ := bind_eq_ok_iff.mp h
    obtain ⟨rest, hrest, h⟩ := bind_eq_ok_iff.mp h
    obtain rfl := pure_eq_ok_iff.mp h
    cases i with
    -- every criterion stores the offset from which it was bound
    | zero =>
      obtain rfl : first = segment := Option.some.inj hi
      exact ⟨c, rfl, criterion_offset hc ▸ hc⟩
    | succ i =>
      rw [List.getElem?_cons_succ] at hi
      simpa using ih hrest hi

theorem exists_criteriaFrom {segments : List String} (offset : Nat)
    (h : ∀ segment ∈ segments, ∃ m, SegmentMeans .standard e segment (.ok m)) :
    ∃ cs, criteriaFrom e offset segments = .ok cs := by
  obtain ⟨cs, offset', hcs⟩ := criteriaFrom_append offset h
  exact ⟨cs, by simpa [criteriaFrom, Except.map] using hcs []⟩

variable {name : MethodName} {before after : List String}

/-- **A segment that means a property** is that criterion of every query the name is bound to. -/
theorem criterion_of_bind {path : PropertyPath} {operator : Operator} {q : Query} {i : Nat}
    (h : bind e name = .ok q) (hi : name.criteria[i]? = some segment)
    (hmeans : SegmentMeans .standard e segment (.ok (path, operator))) :
    ∃ c, q.criteria[i]? = some c ∧ c.path = path ∧ c.operator = operator := by
  obtain ⟨c, hc, hread⟩ := criterion_of_criteriaFrom (criteria_of_bind h) hi
  have heq : ⟨path, operator, c.offset⟩ = c :=
    Except.ok.inj (((means_iff c.offset).mp hmeans).symm.trans hread)
  exact ⟨c, hc, (congrArg Criterion.path heq).symm, (congrArg Criterion.operator heq).symm⟩

/-- **A segment that means a refusal** is what the name is refused for, if it is the first one. -/
theorem bind_refused {cause : Cause} (hcriteria : name.criteria = before ++ segment :: after)
    (hbefore : ∀ s ∈ before, ∃ m, SegmentMeans .standard e s (.ok m))
    (hmeans : SegmentMeans .standard e segment (.error cause)) :
    bind e name = .error (cause.of name.text) := by
  obtain ⟨cs, offset, hcs⟩ := criteriaFrom_append 0 hbefore
  -- the criteria in front are bound, and the segment is refused
  have herror : criteriaFrom e offset (segment :: after) = .error cause :=
    bind_eq_error_iff.mpr (.inl ((means_iff offset).mp hmeans))
  have hread : criteriaFrom e 0 name.criteria = .error cause := by
    rw [hcriteria, hcs, herror]
    rfl
  exact mapError_eq_error_iff.mpr ⟨cause, bind_eq_error_iff.mpr (.inl hread), rfl⟩

/-- A name is bound if all its parts mean something. -/
theorem exists_bind
    (hcriteria : ∀ segment ∈ name.criteria, ∃ m, SegmentMeans .standard e segment (.ok m))
    (horder : ∀ order, name.order = some order → e.Resolves order.property) :
    ∃ q, bind e name = .ok q := by
  obtain ⟨criteria, hcriteria⟩ := exists_criteriaFrom 0 hcriteria
  -- an order is bound if its property is
  have hbound : ∃ order, name.order.mapM (orderBy e) = .ok order := by
    cases hname : name.order with
    | none => exact ⟨none, rfl⟩
    | some text =>
      obtain ⟨path, hpath⟩ := Option.isSome_iff_exists.mp (horder text hname)
      exact ⟨some _, map_eq_ok_iff.mpr ⟨_, orderBy_eq_ok_iff.mpr ⟨path, hpath, rfl⟩, rfl⟩⟩
  obtain ⟨order, hbound⟩ := hbound
  exact ⟨⟨name.text, name.subject, name.limit, criteria, order⟩,
    bind_iff.mpr ⟨hcriteria, hbound, rfl, rfl, rfl⟩⟩

/-- **The longest keyword that leaves a property wins.** A segment of a name, behind others that
mean a property, means exactly one thing. Either it is an operator on a property, and then it is
that at the same place in every query that the name is bound to, and it does not keep the name from
being bound; or it is a refusal, and then the name is refused for it. Reading it by the same
keywords in another order comes to the same. -/
theorem bind_longest (hcriteria : name.criteria = before ++ segment :: after)
    (hbefore : ∀ s ∈ before, ∃ m, SegmentMeans .standard e s (.ok m)) :
    ∃ meaning, (∀ meaning', SegmentMeans .standard e segment meaning' ↔ meaning' = meaning) ∧
      (∀ table : KeywordTable, table.Rearranges .standard → ∀ offset,
        criterionBy table e segment offset = meaning.map fun m => ⟨m.1, m.2, offset⟩) ∧
      match meaning with
      | .ok (path, operator) =>
        (∀ q, bind e name = .ok q → ∃ c, q.criteria[before.length]? = some c ∧
          c.path = path ∧ c.operator = operator) ∧
        ((∀ s ∈ after, ∃ m, SegmentMeans .standard e s (.ok m)) →
          (∀ order, name.order = some order → e.Resolves order.property) →
          ∃ q, bind e name = .ok q)
      | .error cause => bind e name = .error (cause.of name.text) := by
  obtain ⟨meaning, hmeans, -⟩ := exists_meaning .standard e segment 0
  refine ⟨meaning, fun meaning' => ⟨fun h => h.unique KeywordTable.nodup_words_standard hmeans,
    fun h => h ▸ hmeans⟩, fun table htable offset => criterionBy_eq htable hmeans, ?_⟩
  cases meaning with
  -- a segment without a meaning stops the binding, as all in front of it have one
  | error cause => exact bind_refused hcriteria hbefore hmeans
  | ok m =>
    obtain ⟨path, operator⟩ := m
    refine ⟨fun q hq => ?_, fun hafter horder => ?_⟩
    · exact criterion_of_bind hq (by simp [hcriteria]) hmeans
    · -- the segments in front have meanings, this one has one, and those behind are given some
      have hall : ∀ s ∈ name.criteria, ∃ m, SegmentMeans .standard e s (.ok m) := by
        rw [hcriteria]
        intro s hs
        rcases List.mem_append.mp hs with hs | hs
        · exact hbefore s hs
        · rcases List.mem_cons.mp hs with rfl | hs
          · exact ⟨_, hmeans⟩
          · exact hafter s hs
      exact exists_bind hall horder

end Query

/-- A method name whose last segment ends in a keyword that cannot be served. -/
def MethodName.statusIsNotIn : MethodName :=
  { text := "findByTotalIsNotNullAndStatusIsNotIn", subject := .find, limit := none
    criteria := ["TotalIsNotNull", "StatusIsNotIn"], order := none }

/-- `In`, `NotIn` and `IsNotIn` stand at the end of the last segment, but only the longest of them
leaves a property. -/
theorem Query.bind_longest_statusIsNotIn :
    SegmentMeans .standard Entity.orders "TotalIsNotNull" (.ok (.own "total", .isNotNull)) ∧
      SegmentMeans .standard Entity.orders "StatusIsNotIn"
        (.error (.unsupportedKeyword "IsNotIn")) ∧
      bind Entity.orders .statusIsNotIn = .error
        ((Cause.unsupportedKeyword "IsNotIn").of "findByTotalIsNotNullAndStatusIsNotIn") := by
  have htotal : SegmentMeans .standard Entity.orders "TotalIsNotNull"
      (.ok (.own "total", .isNotNull)) := (means_iff 0).mpr rfl
  have hstatus : SegmentMeans .standard Entity.orders "StatusIsNotIn"
      (.error (.unsupportedKeyword "IsNotIn")) := (means_iff 0).mpr rfl
  have hbefore : ∀ s ∈ ["TotalIsNotNull"], ∃ m, SegmentMeans .standard Entity.orders s (.ok m) := by
    intro s hs
    obtain rfl := List.mem_singleton.mp hs
    exact ⟨_, htotal⟩
  have hcriteria : MethodName.statusIsNotIn.criteria =
      ["TotalIsNotNull"] ++ "StatusIsNotIn" :: [] := rfl
  -- the segment in front is bound, so the second one decides
  obtain ⟨meaning, hmeaning, -, hbind⟩ := bind_longest hcriteria hbefore
  obtain rfl := (hmeaning _).mp hstatus
  exact ⟨htotal, hstatus, hbind⟩

end NamedQuery
