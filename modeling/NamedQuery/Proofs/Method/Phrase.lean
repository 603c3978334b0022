import Mathlib.Data.List.TakeWhile
import Mathlib.Tactic.MkIffOfInductiveProp
import NamedQuery.Proofs.Method.Spelling

/-!
# Phrases of the name grammar

Whatever the grammar of method names can say is read back from the name that says it. The texts of a
phrase may hold parts of keywords, or whole ones that a small letter follows (`Android`, `Order`,
`Byte`), so each seam between two of them is looked at for the keywords that could stand across it.

* `LimitClause`, `IsSegment`, `OrderClause.IsProper` — parts of a name that stand for themselves;
* `limit?_text`, `segments_intercalate`, `orderText_text` — each of them is read back;
* `Phrase` — a query in the words of the grammar, with its `Phrase.text` and its `Phrase.meaning`;
* `Phrase.isCut_sections` — its name is cut where its parts meet;
* `Phrase.parse_text` — its name is read as what it means.
-/

namespace NamedQuery.MethodName

open Text (Occurs IsKeyword atWordEnd startsWithCapital)

/-! ### Limits -/

/-- A word that limits the number of results. -/
inductive LimitWord where
  | top
  | first
deriving DecidableEq, Repr

def LimitWord.text : LimitWord → String
  | top => "Top"
  | first => "First"

/-- A limit as it is written. The numeral may be empty. -/
structure LimitClause where
  word : LimitWord
  numeral : String
deriving DecidableEq, Repr

namespace LimitClause

def text (clause : LimitClause) : String :=
  clause.word.text ++ clause.numeral

/-- Without a numeral one result is asked for. -/
def value (clause : LimitClause) : Nat :=
  if clause.numeral = "" then 1 else Nat.ofDigitChars 10 clause.numeral.toList 0

/-- Numerals below `2 ^ 53` stand for themselves. -/
@[mk_iff]
structure IsProper (clause : LimitClause) : Prop where
  digit : clause.numeral.toList.all Char.isDigit = true
  pos : 0 < clause.value
  exact : clause.value < Nat.pow 2 53

instance : DecidablePred IsProper := fun clause =>
  decidable_of_iff _ (isProper_iff clause).symm

end LimitClause

/-- A limit is not looked for in front of the capitals it can start with. -/
theorem limitDigits?_append {before : List Char} (hfirst : 'F' ∉ before) (htop : 'T' ∉ before)
    (text : List Char) : limitDigits? (before ++ text) = limitDigits? text := by
  induction before with
  | nil => rfl
  | cons c before ih =>
    rw [List.mem_cons, not_or] at hfirst htop
    -- neither word starts at a letter that is no `F` and no `T`
    have hnone : (Text.after? "First".toList (c :: (before ++ text)) <|>
        Text.after? "Top".toList (c :: (before ++ text))) = none := by
      simp [Text.after?, hfirst.1, htop.1]
    rw [List.cons_append, limitDigits?, hnone]
    exact ih hfirst.2 htop.2

/-- **A limit is read back.** -/
theorem limit?_text {clause : LimitClause} (h : clause.IsProper) {before : List Char}
    (hfirst : 'F' ∉ before) (htop : 'T' ∉ before) :
    limit? (before ++ clause.text.toList) = some (.atMost clause.value) := by
  have hdigits : clause.numeral.toList.takeWhile Char.isDigit = clause.numeral.toList :=
    List.takeWhile_eq_self_iff.mpr (List.all_eq_true.mp h.digit)
  have hread : limitDigits? clause.text.toList = some clause.numeral.toList := by
    rw [LimitClause.text, String.toList_append]
    cases clause.word <;> simp [LimitWord.text, limitDigits?, Text.after?, hdigits]
  rw [limit?, limitDigits?_append hfirst htop, hread, Option.map_some]
  by_cases hempty : clause.numeral = ""
  · simp [LimitClause.value, hempty]
  · -- small numerals are read without rounding
    have hvalue : ItemLimit.valueOf clause.numeral.toList = clause.value := by
      rw [LimitClause.value, if_neg hempty]
      rfl
    rw [if_neg (by simpa using hempty), ItemLimit.ofDigits, hvalue,
      Decimal.roundWhole?_of_lt h.exact]

/-! ### Criteria -/

/-- A segment that can stand in the criteria of a name. -/
@[mk_iff]
structure IsSegment (segment : String) : Prop where
  capital : startsWithCapital segment.toList = true
  and_free : ¬Occurs "And".toList atWordEnd segment.toList
  or_free : ¬Occurs "Or".toList atWordEnd segment.toList
  orderBy_free : ¬Occurs "OrderBy".toList atWordEnd segment.toList
  ending : ∀ ending ∈ ignoreCaseEndings, ¬ending.toList <:+ segment.toList

instance : DecidablePred IsSegment := fun segment =>
  decidable_of_iff _ (isSegment_iff segment).symm

theorem IsSegment.nonempty {segment : String} (h : IsSegment segment) : segment ≠ "" := by
  rintro rfl
  exact absurd h.capital (by decide)

/-- **Joined segments are read back.** -/
theorem segments_intercalate {criteria : List String}
    (h : ∀ segment ∈ criteria, IsSegment segment) :
    segments ("And".toList.intercalate (criteria.map String.toList)) = .ok criteria := by
  cases criteria with
  | nil => rfl
  | cons first rest =>
    -- what holds of each segment, of the texts that are joined
    have hpieces : ∀ piece ∈ (first :: rest).map String.toList,
        ∃ segment ∈ first :: rest, segment.toList = piece := fun piece => List.mem_map.mp
    generalize hjoined : "And".toList.intercalate ((first :: rest).map String.toList) = text
    have hcapital : startsWithCapital text = true := by
      rw [← hjoined]
      exact Text.startsWithCapital_intercalate (h first List.mem_cons_self).capital _ _
    -- an ending would be one of a single segment, since it does not reach over an `And`
    have hcase : ignoresCase text = false := by
      refine ignoresCase_eq_false_iff.mpr fun ending hending hsuffix => ?_
      have hd : ∀ ending ∈ ignoreCaseEndings, 'd' ∉ ending.toList := by decide
      have hjoin : ending.toList <:+
          ("An".toList ++ ['d']).intercalate ((first :: rest).map String.toList) :=
        hjoined ▸ hsuffix
      obtain ⟨_, hpiece, hsuffix⟩ :=
        Text.isSuffix_of_intercalate hjoin (hd ending hending) (by simp)
      obtain ⟨segment, hsegment, rfl⟩ := hpieces _ hpiece
      exact (h segment hsegment).ending ending hending hsuffix
    have hor : ¬Text.containsSeparator "Or".toList text = true := by
      rw [Text.containsSeparator_iff, ← hjoined]
      intro hoccurs
      obtain ⟨_, hpiece, hoccurs⟩ := hoccurs.of_intercalate Text.testsCapital_startsWithCapital
        (by decide) (by decide)
      obtain ⟨segment, hsegment, rfl⟩ := hpieces _ hpiece
      exact (h segment hsegment).or_free hoccurs
    -- the joints are at the `And`s in front of capitals, and no segment has one inside
    have hsplit : Text.splitAt "And".toList text = (first :: rest).map String.toList := by
      rw [← hjoined]
      refine Text.splitAt_intercalate (by decide) (by simp) ?_ ?_
      · rintro _ hpiece
        obtain ⟨segment, hsegment, rfl⟩ := hpieces _ hpiece
        exact (h segment hsegment).capital
      · rintro _ hpiece
        obtain ⟨segment, hsegment, rfl⟩ := hpieces _ hpiece
        exact (h segment hsegment).and_free
    have hne : text.isEmpty = false := by
      cases text with
      | nil => exact absurd hcapital (by decide)
      | cons c text => rfl
    rw [segments, if_neg (by simp [hne]), if_neg (by simp [hcase]), if_neg hor, hsplit]
    refine mapM_segment_eq_ok_iff.mpr ⟨fun segment hsegment => ?_, rfl⟩
    exact ⟨(h segment hsegment).nonempty, ignoresCase_eq_false_iff.mpr (h segment hsegment).ending⟩

/-! ### Orders -/

namespace OrderClause

/-- An order whose direction cannot be mistaken. -/
@[mk_iff]
structure IsProper (clause : OrderClause) : Prop where
  capital : startsWithCapital clause.property.toList = true
  asc_free : ¬Occurs "Asc".toList atWordEnd clause.property.toList
  desc_free : ¬Occurs "Desc".toList atWordEnd clause.property.toList

instance : DecidablePred IsProper := fun clause =>
  decidable_of_iff _ (isProper_iff clause).symm

end OrderClause

/-- No direction comes about where one is put behind a property. -/
theorem containsSeparator_mark (c : Char) (rest : List Char) {property : List Char}
    (hfree : ¬Occurs (c :: rest) atWordEnd property) (hasc : 'A' ∉ rest) (hdesc : 'D' ∉ rest)
    (hmark : ∀ mark : DirectionMark, Text.containsSeparator (c :: rest) mark.text.toList = false)
    (mark : DirectionMark) :
    Text.containsSeparator (c :: rest) (property ++ mark.text.toList) = false := by
  -- no keyword stands across the seam, as none of its letters is in a mark
  simp only [Bool.eq_false_iff, ne_eq, Text.containsSeparator_iff] at hmark ⊢
  have hmark' := hmark mark
  intro h
  cases mark with
  | unmarked => exact hfree (List.append_nil property ▸ h).atWordEnd
  | ascending =>
    rcases h.of_append Text.testsCapital_startsWithCapital hasc with h | h
    · exact hfree h
    · exact hmark' h
  | descending =>
    rcases h.of_append Text.testsCapital_startsWithCapital hdesc with h | h
    · exact hfree h
    · exact hmark' h

/-- A direction is taken off again. -/
theorem splitDirection_append {property : List Char}
    (hasc : ¬Occurs "Asc".toList atWordEnd property)
    (hdesc : ¬Occurs "Desc".toList atWordEnd property) (mark : DirectionMark) :
    splitDirection (property ++ mark.text.toList) = (property, mark.direction) := by
  unfold splitDirection
  cases mark with
  | unmarked =>
    have hnone : ∀ {keyword}, ¬Occurs keyword atWordEnd property →
        Text.before? keyword (property ++ DirectionMark.unmarked.text.toList) = none := by
      intro keyword hfree
      refine Text.before?_eq_none_iff.mpr fun hsuffix => hfree ?_
      exact .of_suffix (List.append_nil property ▸ hsuffix)
    rw [hnone hdesc, hnone hasc]
    exact congrArg (·, Direction.ascending) (List.append_nil property)
  | ascending =>
    -- only the letters behind the `A` could be the end of a `Desc`
    have hnone : Text.before? "Desc".toList
        (property ++ DirectionMark.ascending.text.toList) = none := by
      refine Text.before?_eq_none_iff.mpr fun hsuffix => ?_
      have hshort : "Desc".toList <:+ "sc".toList :=
        (Text.isSuffix_append_iff (by decide : 'A' ∉ "Desc".toList)).mp hsuffix
      exact absurd hshort (by decide)
    have hsome : Text.before? "Asc".toList
        (property ++ DirectionMark.ascending.text.toList) = some property :=
      Text.before?_eq_some_iff.mpr rfl
    rw [hnone, hsome]
    rfl
  | descending =>
    have hsome : Text.before? "Desc".toList
        (property ++ DirectionMark.descending.text.toList) = some property :=
      Text.before?_eq_some_iff.mpr rfl
    rw [hsome]
    rfl

/-- **An order is read back.** -/
theorem orderText_text {clause : OrderClause} (h : clause.IsProper) :
    orderText clause.text.toList = .ok clause.meaning := by
  obtain ⟨property, mark⟩ := clause
  obtain ⟨hcapital, hasc, hdesc⟩ := h
  -- a second mark would stand in the property or across the seam
  have honce : ordersTwice (property.toList ++ mark.text.toList) = false := by
    rw [ordersTwice, Bool.or_eq_false_iff]
    constructor
    · refine containsSeparator_mark 'A' "sc".toList hasc (by decide) (by decide) ?_ mark
      rintro ⟨⟩ <;> decide
    · refine containsSeparator_mark 'D' "esc".toList hdesc (by decide) (by decide) ?_ mark
      rintro ⟨⟩ <;> decide
  have hne : property.toList.isEmpty = false := by
    cases hproperty : property.toList with
    | nil => exact absurd (hproperty ▸ hcapital) (by decide)
    | cons c text => rfl
  rw [OrderClause.text, String.toList_append, orderText, honce, if_neg (by decide)]
  simp only [splitDirection_append hasc hdesc]
  rw [hne, String.ofList_toList]
  rfl

/-! ### Phrases -/

/-- A query in the words of the grammar. -/
structure Phrase where
  verb : Verb
  distinct : Bool
  limit : Option LimitClause
  criteria : List String
  order : Option OrderClause

namespace Phrase

variable (p : Phrase)

/-- The words between the verb and `By`. -/
def words : String :=
  (if p.distinct then "Distinct" else "") ++ (p.limit.map LimitClause.text).getD ""

/-- `By` is only written in front of criteria. -/
def spelling : Spelling where
  verb := p.verb
  words := p.words
  criteria := if p.criteria = [] then none else some p.criteria
  order := p.order

def text : String :=
  p.spelling.text

def meaning : MethodName where
  text := p.text
  subject := p.verb.subject
  limit := p.limit.map fun clause => .atMost clause.value
  criteria := p.criteria
  order := p.order.map OrderClause.meaning

/-- Each part of the phrase can stand where it does. -/
@[mk_iff]
structure IsProper : Prop where
  limit : ∀ clause ∈ p.limit, clause.IsProper
  segment : ∀ segment ∈ p.criteria, IsSegment segment
  order : ∀ clause ∈ p.order, clause.IsProper

instance : DecidablePred IsProper := fun p =>
  decidable_of_iff _ (isProper_iff p).symm

variable {p}

/-- The words between the verb and `By` hold neither a `B` nor an `O`. -/
theorem mem_words (h : p.IsProper) {c : Char} (hc : c ∈ p.words.toList) :
    c ∈ "DistinctTopFirst".toList ∨ c.isDigit = true := by
  rw [words, String.toList_append, List.mem_append] at hc
  -- the words are `Distinct`, a limit word and its numeral
  rcases hc with hc | hc
  · have hdistinct : (if p.distinct then "Distinct" else "").toList.Sublist
        "DistinctTopFirst".toList := by
      cases p.distinct <;> decide
    exact Or.inl (hdistinct.subset hc)
  cases hlimit : p.limit with
  | none =>
    rw [hlimit] at hc
    exact absurd hc (by simp)
  | some clause =>
    rw [hlimit, Option.map_some, Option.getD_some, LimitClause.text, String.toList_append,
      List.mem_append] at hc
    rcases hc with hc | hc
    · have hword : clause.word.text.toList.Sublist "DistinctTopFirst".toList := by
        cases clause.word <;> decide
      exact Or.inl (hword.subset hc)
    · have hdigits := (h.limit clause hlimit).digit
      exact Or.inr (List.all_eq_true.mp hdigits c hc)

/-- **The limit of the words.** -/
theorem limit?_words (h : p.IsProper) :
    limit? p.words.toList = p.limit.map fun clause => .atMost clause.value := by
  rw [words, String.toList_append]
  cases hlimit : p.limit with
  | none => cases p.distinct <;> decide
  | some clause =>
    refine limit?_text (h.limit clause hlimit) ?_ ?_ <;> cases p.distinct <;> decide

/-- What follows `By` are joined segments, and it starts with a capital. -/
theorem criteria_sections (h : p.IsProper) {text : List Char}
    (htext : p.spelling.sections.criteria = some text) :
    text = "And".toList.intercalate (p.criteria.map String.toList) ∧
      startsWithCapital text = true := by
  obtain ⟨sources, hsources, rfl⟩ := Option.map_eq_some_iff.mp htext
  unfold spelling at hsources
  split at hsources
  · -- without segments there is no `By`, so there is something to join
    exact absurd hsources (by simp)
  next hne =>
  obtain rfl := Option.some.inj hsources
  obtain ⟨first, rest, hcriteria⟩ := List.exists_cons_of_ne_nil hne
  refine ⟨rfl, ?_⟩
  have hfirst := (h.segment first (hcriteria ▸ List.mem_cons_self)).capital
  rw [hcriteria]
  exact Text.startsWithCapital_intercalate hfirst _ _

theorem segments_sections (h : p.IsProper) :
    segments (p.spelling.sections.criteria.getD []) = .ok p.criteria := by
  rw [← segments_intercalate h.segment]
  unfold Spelling.sections spelling
  -- a phrase without segments has no clause to be read
  split
  · next hempty =>
    rw [hempty]
    rfl
  · rfl

theorem order_sections (h : p.IsProper) :
    p.spelling.sections.order.mapM orderText = .ok (p.order.map OrderClause.meaning) := by
  obtain ⟨verb, distinct, limit, criteria, order⟩ := p
  cases order with
  | none => rfl
  | some clause => exact map_eq_ok_iff.mpr ⟨_, orderText_text (h.order clause rfl), rfl⟩

/-- No keyword comes about where the parts of a phrase meet. -/
theorem isCut_sections (h : p.IsProper) : p.spelling.sections.IsCut := by
  have hB : 'B' ∉ p.words.toList := fun hc => absurd (mem_words h hc) (by decide)
  have hO : 'O' ∉ p.words.toList := fun hc => absurd (mem_words h hc) (by decide)
  refine ⟨Text.not_occurs_of_notMem hB, ?_, ?_, ?_⟩
  · intro text htext
    exact Text.atWordEnd_of_startsWithCapital (criteria_sections h htext).2
  · -- an `OrderBy` would have to start behind the words, which have no `O`
    intro hoccurs
    have hbehind : Occurs "OrderBy".toList atWordEnd
        (behind "By".toList p.spelling.sections.criteria) := hoccurs.of_notMem hO
    cases hcriteria : p.spelling.sections.criteria with
    | none => exact Text.occurs_nil_iff (by decide) (hcriteria ▸ hbehind)
    | some text =>
      rw [hcriteria, behind] at hbehind
      obtain ⟨rfl, -⟩ := criteria_sections h hcriteria
      -- nor does it reach into an `And`: it has no `A`, and there is no `O` to start with
      have hjoined := hbehind.of_notMem (by decide)
      obtain ⟨_, hpiece, hsegment⟩ := hjoined.of_intercalate Text.testsCapital_atWordEnd
        (by decide) (by decide)
      obtain ⟨segment, hmem, rfl⟩ := List.mem_map.mp hpiece
      exact (h.segment segment hmem).orderBy_free hsegment
  · intro text htext
    obtain ⟨clause, hclause, rfl⟩ := Option.map_eq_some_iff.mp htext
    rw [OrderClause.text, String.toList_append]
    exact Text.atWordEnd_of_startsWithCapital
      (Text.startsWithCapital_append (h.order clause hclause).capital _)

theorem atWordEnd_words (p : Phrase) : atWordEnd p.words.toList = true := by
  rw [words, String.toList_append]
  -- what stands in front of the clause is whole words
  refine Text.atWordEnd_append (by cases p.distinct <;> rfl) ?_
  cases p.limit with
  | none => rfl
  | some clause =>
    rw [Option.map_some, Option.getD_some, LimitClause.text, String.toList_append]
    cases clause.word <;> rfl

/-- **Every phrase is read back**, with its limit, its segments in order and its order. What a
segment can mean is told by its text alone (`readings`). -/
theorem parse_text (h : p.IsProper) : parse p.text = .ok p.meaning := by
  refine parse_eq_ok_iff.mpr ⟨?_, ?_⟩
  · rw [Spelling.toList_rest]
    exact Text.atWordEnd_append
      (Text.atWordEnd_append p.atWordEnd_words (atWordEnd_behind (by decide) _))
      (atWordEnd_behind (by decide) _)
  rw [Spelling.toList_rest, sections_eq_iff.mpr ⟨rfl, isCut_sections h⟩]
  refine ofSections_eq_ok_iff.mpr
    ⟨rfl, rfl, (limit?_words h).symm, segments_sections h, order_sections h, ?_, ?_⟩
  · -- criteria that are there start with a capital, so they are not empty
    rintro ⟨hcriteria, -⟩
    exact absurd (criteria_sections h hcriteria).2 (by decide)
  · cases hlimit : p.limit with
    | none => simp [meaning, hlimit]
    | some clause =>
      have hpos := (h.limit clause hlimit).pos
      rw [meaning, hlimit, Option.map_some, Option.any_some]
      cases hvalue : clause.value with
      | zero => exact absurd hpos (by simp [hvalue])
      | succ n => rfl

/-- Texts that hold parts of keywords, and a numeral with zeros in front. -/
theorem parse_text_android :
    (Phrase.mk .find true (some ⟨.top, "007"⟩) ["Android", "Order", "Byte"]
        (some ⟨"Ascension", .descending⟩)).IsProper ∧
      parse "findDistinctTop007ByAndroidAndOrderAndByteOrderByAscensionDesc" = .ok
        { text := "findDistinctTop007ByAndroidAndOrderAndByteOrderByAscensionDesc"
          subject := .find
          limit := some (.atMost 7)
          criteria := ["Android", "Order", "Byte"]
          order := some { property := "Ascension", direction := .descending } } := by
  have hproper : (Phrase.mk .find true (some ⟨.top, "007"⟩) ["Android", "Order", "Byte"]
      (some ⟨"Ascension", .descending⟩)).IsProper := by decide
  exact ⟨hproper, parse_text hproper⟩

end Phrase

end NamedQuery.MethodName
