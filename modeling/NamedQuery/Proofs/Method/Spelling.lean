import NamedQuery.Proofs.Method.Naming
import NamedQuery.Proofs.Text.Keyword

/-!
# How a method name is spelled

A method name that is read is made of a verb, words, criteria and an order. Nothing of it is lost:
what was read, written down again, is the name.

* `MethodName.sections_eq_iff` — the sections of a text, put together, are the text, and no keyword
  stands in front of the ones that it was cut at;
* `MethodName.segments_eq_ok` — the segments that are read are what was joined by `And`;
* `MethodName.OrderClause` — an order as it is written, with a direction or without one;
* `MethodName.Spelling` — the four parts of a name;
* `MethodName.exists_spelling` — every name that is read is spelled in this way.
-/

namespace NamedQuery

theorem Verb.read?_eq_some {text rest : List Char} {verb : Verb}
    (h : read? text = some (verb, rest)) :
    text = verb.word.toList ++ rest := by
  obtain ⟨verb', -, hread⟩ := List.exists_of_findSome?_eq_some h
  obtain ⟨rest', hafter, heq⟩ := Option.map_eq_some_iff.mp hread
  obtain ⟨rfl, rfl⟩ := Prod.mk.inj heq
  exact (Text.filter_after?_eq_some_iff.mp hafter).1

namespace MethodName

open Text (Occurs IsKeyword atWordEnd startsWithCapital)

/-! ### Sections -/

/-- A keyword and what follows it, where it stands at all. -/
def behind (keyword : List Char) : Option (List Char) → List Char
  | none => []
  | some text => keyword ++ text

/-- A word may end where a keyword begins. -/
theorem atWordEnd_behind {keyword : List Char} (hkeyword : IsKeyword keyword)
    (after : Option (List Char)) : atWordEnd (behind keyword after) = true := by
  cases after with
  | none => rfl
  | some text => exact hkeyword.follows_append Text.testsCapital_atWordEnd text

/-- What stands in front of the first keyword in a text, and what follows it. -/
def cut (keyword text : List Char) : List Char × Option (List Char) :=
  match Text.cutAt keyword atWordEnd text with
  | some (before, after) => (before, some after)
  | none => (text, none)

theorem cut_eq_iff {keyword text before : List Char} {after : Option (List Char)}
    (hkeyword : IsKeyword keyword) :
    cut keyword text = (before, after) ↔
      text = before ++ behind keyword after ∧ ¬Occurs keyword atWordEnd before ∧
        ∀ rest, after = some rest → atWordEnd rest = true := by
  have hcut : ∀ {before after}, Text.cutAt keyword atWordEnd text = some (before, after) ↔ _ :=
    Text.cutAt_eq_some_iff hkeyword Text.testsCapital_atWordEnd
  constructor
  · -- what the search returns is told by what it finds
    unfold cut
    split
    · next before' after' hsome =>
      rintro ⟨⟩
      obtain ⟨rfl, hafter, hfirst⟩ := hcut.mp hsome
      exact ⟨List.append_assoc .., hfirst, fun rest hrest => Option.some.inj hrest ▸ hafter⟩
    · next hnone =>
      rintro ⟨⟩
      exact ⟨(List.append_nil _).symm, Text.cutAt_eq_none_iff.mp hnone, by simp⟩
  · rintro ⟨htext, hfirst, hafter⟩
    -- what is behind the keyword says whether the search has to find it
    cases after with
    | some after =>
      rw [cut, hcut.mpr ⟨htext.trans (List.append_assoc ..).symm, hafter after rfl, hfirst⟩]
    | none =>
      obtain rfl : text = before := htext.trans (List.append_nil _)
      rw [cut, Text.cutAt_eq_none_iff.mpr hfirst]

namespace Sections

/-- What stands in front of the order. -/
def head (s : Sections) : List Char :=
  s.words ++ behind "By".toList s.criteria

def text (s : Sections) : List Char :=
  s.head ++ behind "OrderBy".toList s.order

/-- The sections start where their keywords first stand. -/
structure IsCut (s : Sections) : Prop where
  by_free : ¬Occurs "By".toList atWordEnd s.words
  criteria : ∀ text, s.criteria = some text → atWordEnd text = true
  orderBy_free : ¬Occurs "OrderBy".toList atWordEnd s.head
  order : ∀ text, s.order = some text → atWordEnd text = true

end Sections

/-- The order is cut off first. -/
theorem sections_of_cut {text head words : List Char} {criteria order : Option (List Char)}
    (hhead : cut "OrderBy".toList text = (head, order))
    (hwords : cut "By".toList head = (words, criteria)) :
    sections text = { words, criteria, order } := by
  unfold cut at hhead hwords
  unfold sections
  split at hhead <;> obtain ⟨rfl, rfl⟩ := Prod.mk.inj hhead <;>
    split at hwords <;> obtain ⟨rfl, rfl⟩ := Prod.mk.inj hwords <;> simp only [*]

/-- **The sections of a text.** Put together they are the text, and no keyword stands in front of
the ones that it was cut at. -/
theorem sections_eq_iff {text : List Char} {s : Sections} :
    sections text = s ↔ s.text = text ∧ s.IsCut := by
  constructor
  · rintro rfl
    -- the text is cut at its `OrderBy` first, and then what stands in front of it at its `By`
    obtain ⟨head, order, hhead⟩ : ∃ head order, cut "OrderBy".toList text = (head, order) :=
      ⟨_, _, rfl⟩
    obtain ⟨words, criteria, hwords⟩ : ∃ words criteria, cut "By".toList head = (words, criteria) :=
      ⟨_, _, rfl⟩
    rw [sections_of_cut hhead hwords]
    obtain ⟨rfl, horderBy, horder⟩ := (cut_eq_iff (by decide)).mp hhead
    obtain ⟨rfl, hby, hcriteria⟩ := (cut_eq_iff (by decide)).mp hwords
    exact ⟨rfl, hby, hcriteria, horderBy, horder⟩
  · rintro ⟨rfl, h⟩
    exact sections_of_cut ((cut_eq_iff (by decide)).mpr ⟨rfl, h.orderBy_free, h.order⟩)
      ((cut_eq_iff (by decide)).mpr ⟨rfl, h.by_free, h.criteria⟩)

/-! ### Segments -/

theorem ignoresCase_eq_false_iff {text : List Char} :
    ignoresCase text = false ↔ ∀ ending ∈ ignoreCaseEndings, ¬ending.toList <:+ text := by
  simp only [ignoresCase, List.any_eq_false, List.isSuffixOf_iff_suffix]

theorem segment_eq_ok_iff {text : List Char} {source : String} :
    segment text = .ok source ↔ (source ≠ "" ∧ ignoresCase source.toList = false) ∧
      source.toList = text := by
  unfold segment
  constructor
  · intro h
    -- a segment that passes both checks stays what it is
    split at h
    · exact absurd h (by simp)
    split at h
    · exact absurd h (by simp)
    next hempty hcase =>
    obtain rfl := Except.ok.inj h
    rw [String.toList_ofList]
    exact ⟨⟨by simpa using hempty, by simpa using hcase⟩, rfl⟩
  · rintro ⟨⟨hempty, hcase⟩, rfl⟩
    simp [hempty, hcase]

theorem mapM_segment_eq_ok_iff {pieces : List (List Char)} {criteria : List String} :
    pieces.mapM segment = .ok criteria ↔
      (∀ source ∈ criteria, source ≠ "" ∧ ignoresCase source.toList = false) ∧
        criteria.map String.toList = pieces := by
  induction pieces generalizing criteria with
  | nil =>
    rw [mapM_nil_eq_ok_iff, List.map_eq_nil_iff]
    constructor
    · rintro rfl
      exact ⟨by simp, rfl⟩
    · exact And.right
  | cons piece pieces ih =>
    -- the pieces are read one by one, each from its own segment
    simp only [mapM_cons_eq_ok_iff, ih, segment_eq_ok_iff]
    constructor
    · rintro ⟨source, rest, ⟨hsource, rfl⟩, ⟨hrest, rfl⟩, rfl⟩
      exact ⟨List.forall_mem_cons.mpr ⟨hsource, hrest⟩, rfl⟩
    · rintro ⟨hsources, hpieces⟩
      obtain ⟨source, rest, rfl, hsource, hrest⟩ := List.map_eq_cons_iff.mp hpieces
      obtain ⟨hfirst, hothers⟩ := List.forall_mem_cons.mp hsources
      exact ⟨source, rest, ⟨hfirst, hsource⟩, ⟨hothers, hrest⟩, rfl⟩

/-- A segment as the criteria of a name hold it. -/
structure IsSource (source : String) : Prop where
  nonempty : source ≠ ""
  and_free : ¬Occurs "And".toList startsWithCapital source.toList
  or_free : ¬Occurs "Or".toList startsWithCapital source.toList
  ending : ∀ ending ∈ ignoreCaseEndings, ¬ending.toList <:+ source.toList

/-- The segments that are read are what was joined. -/
theorem segments_eq_ok {text : List Char} {criteria : List String}
    (h : segments text = .ok criteria) :
    text = "And".toList.intercalate (criteria.map String.toList) ∧
      ∀ source ∈ criteria, IsSource source := by
  unfold segments at h
  split at h
  · next hempty =>
    obtain rfl := Except.ok.inj h
    exact ⟨by simpa using hempty, by simp⟩
  split at h
  · exact absurd h (by simp)
  split at h
  · exact absurd h (by simp)
  -- no `Or` stands in the text, so none stands in a segment
  next hor =>
  rw [Text.containsSeparator_iff] at hor
  obtain ⟨hsources, hpieces⟩ := mapM_segment_eq_ok_iff.mp h
  obtain ⟨hjoin, hfree⟩ := Text.splitAt_spec (by decide : IsKeyword "And".toList) text
  rw [← hpieces] at hjoin hfree
  refine ⟨hjoin.symm, fun source hsource => ?_⟩
  have hpiece := List.mem_map_of_mem (f := String.toList) hsource
  obtain ⟨hempty, hcase⟩ := hsources source hsource
  exact ⟨hempty, hfree _ hpiece,
    fun h => hor (h.of_part (hjoin ▸ Text.infix_intercalate hpiece _)),
    ignoresCase_eq_false_iff.mp hcase⟩

/-! ### Orders -/

/-- How the direction of an order is written. -/
inductive DirectionMark where
  | unmarked
  | ascending
  | descending
deriving DecidableEq, Repr

namespace DirectionMark

def text : DirectionMark → String
  | unmarked => ""
  | ascending => "Asc"
  | descending => "Desc"

def direction : DirectionMark → Direction
  | unmarked | ascending => .ascending
  | descending => .descending

end DirectionMark

/-- An order as it is written. -/
structure OrderClause where
  property : String
  mark : DirectionMark
deriving DecidableEq, Repr

namespace OrderClause

def text (clause : OrderClause) : String :=
  clause.property ++ clause.mark.text

def meaning (clause : OrderClause) : OrderText where
  property := clause.property
  direction := clause.mark.direction

end OrderClause

/-- A direction is taken off with nothing else. -/
theorem splitDirection_spec (text : List Char) :
    ∃ mark : DirectionMark, text = (splitDirection text).1 ++ mark.text.toList ∧
      mark.direction = (splitDirection text).2 := by
  unfold splitDirection
  split
  · next hdesc => exact ⟨.descending, Text.before?_eq_some_iff.mp hdesc, rfl⟩
  split
  · next hasc => exact ⟨.ascending, Text.before?_eq_some_iff.mp hasc, rfl⟩
  · exact ⟨.unmarked, (List.append_nil _).symm, rfl⟩

/-- An order that is read is a property with a direction behind it. -/
theorem orderText_eq_ok {text : List Char} {order : OrderText} (h : orderText text = .ok order) :
    ∃ clause : OrderClause, text = clause.text.toList ∧ clause.meaning = order ∧
      clause.property ≠ "" := by
  unfold orderText at h
  split at h
  · exact absurd h (by simp)
  simp only at h
  split at h
  · exact absurd h (by simp)
  next hproperty =>
  obtain rfl := Except.ok.inj h
  -- the direction is what was cut off the end
  obtain ⟨mark, htext, hdirection⟩ := splitDirection_spec text
  refine ⟨⟨String.ofList (splitDirection text).1, mark⟩, ?_, ?_, by simpa using hproperty⟩
  · rw [OrderClause.text, String.toList_append, String.toList_ofList, ← htext]
  · rw [OrderClause.meaning, hdirection]

/-! ### Names -/

theorem mapM_orderText_eq_ok {text : Option (List Char)} {order : Option OrderText}
    (h : text.mapM orderText = .ok order) :
    ∃ clause : Option OrderClause, text = clause.map (·.text.toList) ∧
      clause.map OrderClause.meaning = order ∧ ∀ c, clause = some c → c.property ≠ "" := by
  -- a name need not have an order
  cases text with
  | none =>
    obtain rfl := pure_eq_ok_iff.mp h
    exact ⟨none, rfl, rfl, by simp⟩
  | some text =>
    obtain ⟨order, horder, rfl⟩ := map_eq_ok_iff.mp h
    obtain ⟨clause, rfl, rfl, hproperty⟩ := orderText_eq_ok horder
    exact ⟨some clause, rfl, rfl, by simpa using hproperty⟩

/-- The parts of a method name. -/
structure Spelling where
  verb : Verb
  words : String
  /-- The segments behind `By`, of which there may be none. -/
  criteria : Option (List String)
  order : Option OrderClause

namespace Spelling

variable (s : Spelling)

def criteriaText : String :=
  match s.criteria with
  | none => ""
  | some sources => "By" ++ "And".intercalate sources

def orderText : String :=
  match s.order with
  | none => ""
  | some clause => "OrderBy" ++ clause.text

def rest : String :=
  s.words ++ s.criteriaText ++ s.orderText

def text : String :=
  s.verb.word ++ s.rest

/-- The sections of what follows the verb. -/
def sections : Sections where
  words := s.words.toList
  criteria := s.criteria.map fun sources => "And".toList.intercalate (sources.map String.toList)
  order := s.order.map (·.text.toList)

theorem toList_head : (s.words ++ s.criteriaText).toList = s.sections.head := by
  -- the clause of the criteria is spelled with its keyword in front
  obtain ⟨verb, words, criteria, order⟩ := s
  rw [String.toList_append]
  cases criteria with
  | none => rfl
  | some sources =>
    rw [criteriaText, String.toList_append, String.toList_intercalate]
    rfl

theorem toList_rest : s.rest.toList = s.sections.text := by
  rw [rest, String.toList_append, toList_head]
  obtain ⟨verb, words, criteria, order⟩ := s
  cases order with
  | none => rfl
  | some clause =>
    rw [orderText, String.toList_append]
    rfl

/-- Every part starts where its keyword first stands, and none is empty where it may not be. -/
structure IsClear : Prop where
  by_free : ¬Occurs "By".toList atWordEnd s.words.toList
  orderBy_free : ¬Occurs "OrderBy".toList atWordEnd (s.words ++ s.criteriaText).toList
  source : ∀ source ∈ s.criteria.getD [], IsSource source
  property : ∀ clause, s.order = some clause → clause.property ≠ ""

end Spelling

/-- A name that is read starts with a verb. -/
theorem exists_verb {text : String} {name : MethodName} (h : parse text = .ok name) :
    ∃ (verb : Verb) (rest : String), text = verb.word ++ rest := by
  unfold parse at h
  split at h
  · exact absurd h (by simp)
  next verb rest hverb =>
  refine ⟨verb, String.ofList rest, String.toList_inj.mp ?_⟩
  rw [Verb.read?_eq_some hverb, String.toList_append, String.toList_ofList]

/-- **Nothing of a name is lost.** -/
theorem exists_spelling {text : String} {name : MethodName} (h : parse text = .ok name) :
    ∃ s : Spelling, s.text = text ∧ s.IsClear ∧ s.verb.subject = name.subject ∧
      s.criteria.getD [] = name.criteria ∧ s.order.map OrderClause.meaning = name.order ∧
      name.text = text ∧ ∀ n, name.limit = some (.atMost n) → 1 ≤ n := by
  obtain ⟨verb, rest, rfl⟩ := exists_verb h
  obtain ⟨-, hsections⟩ := parse_eq_ok_iff.mp h
  obtain ⟨htext, hsubject, -, hsegments, horder, -, hlimit⟩ := ofSections_eq_ok_iff.mp hsections
  obtain ⟨hrest, hcut⟩ := sections_eq_iff.mp (Eq.refl (sections rest.toList))
  generalize sections rest.toList = parts at *
  obtain ⟨words, criteria, order⟩ := parts
  obtain ⟨hcriteria, hsources⟩ := segments_eq_ok hsegments
  obtain ⟨clause, rfl, hmeaning, hproperty⟩ := mapM_orderText_eq_ok horder
  -- the spelling takes the words as they are and the criteria as they were read
  let s : Spelling :=
    { verb, words := String.ofList words, criteria := criteria.map fun _ => name.criteria,
      order := clause }
  have hparts : s.sections = { words, criteria, order := clause.map (·.text.toList) } := by
    simp only [s, Spelling.sections, String.toList_ofList]
    cases criteria with
    | none => rfl
    | some criteria =>
      rw [Option.map_some, Option.map_some, ← hcriteria]
      rfl
  -- without a `By` no criteria were read
  have hread : s.criteria.getD [] = name.criteria := by
    cases criteria with
    | none => exact Except.ok.inj hsegments
    | some criteria => rfl
  have hclear : s.IsClear := by
    have hwords : s.words.toList = words := String.toList_ofList
    refine ⟨hwords ▸ hcut.by_free, ?_, hread ▸ hsources, hproperty⟩
    rw [Spelling.toList_head, hparts]
    exact hcut.orderBy_free
  have hspelled : s.rest = rest := by
    rw [← String.toList_inj, Spelling.toList_rest, hparts, hrest]
  refine ⟨s, by rw [Spelling.text, hspelled], hclear, hsubject.symm, hread, hmeaning, htext, ?_⟩
  -- a limit of zero is refused
  intro n hn
  rw [hn] at hlimit
  cases n with
  | zero => exact absurd hlimit (by decide)
  | succ n => exact Nat.succ_pos n

/-- Parts of keywords beside whole ones, and `Order` in front of `OrderBy`. -/
theorem exists_spelling_byOrder :
    parse "findBodyByByteAndOrderOrderByByteDesc" = .ok
        { text := "findBodyByByteAndOrderOrderByByteDesc"
          subject := .find
          limit := none
          criteria := ["Byte", "Order"]
          order := some { property := "Byte", direction := .descending } } ∧
      ∃ s : Spelling, s.text = "findBodyByByteAndOrderOrderByByteDesc" ∧ s.IsClear ∧
        s.verb.subject = .find ∧ s.criteria.getD [] = ["Byte", "Order"] ∧
        s.order.map OrderClause.meaning =
          some { property := "Byte", direction := .descending } := by
  have hparse : parse "findBodyByByteAndOrderOrderByByteDesc" = .ok _ := rfl
  obtain ⟨s, htext, hclear, hsubject, hcriteria, horder, -⟩ := exists_spelling hparse
  exact ⟨hparse, s, htext, hclear, hsubject, hcriteria, horder⟩

end MethodName

end NamedQuery
