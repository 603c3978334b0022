import Mathlib.Data.List.Infix
import Mathlib.Tactic.MkIffOfInductiveProp
import NamedQuery.Proofs.Method.LimitWord
import NamedQuery.Proofs.Text.Word

/-!
# Words that say nothing

A method name may hold words between its verb and `By`, such as the name of the entity, and most of
them change nothing about what the name asks for. The order of a name is cut off first, though, so
the word `Order` in front of `By` makes an `OrderBy` of it:

* `IsFiller` — words that hold neither a limit nor a `By` of their own;
* `SaysTheSame` — two names ask for the same, or are refused with errors of one kind;
* `sections_filler` — the sections of a name with such words are those of the name without them;
* `sections_order` — behind the word `Order` everything is an order;
* `filler_ignored_iff` — which words change nothing.
-/

namespace NamedQuery.MethodName

open Text (Occurs IsWord atWordEnd startsWithCapital)

/-- Words that set no limit, and among which there is no `By`. -/
@[mk_iff]
structure IsFiller (words : List String) : Prop where
  word : ∀ word ∈ words, IsWord word.toList
  by_free : "By" ∉ words
  top_free : ¬"Top".toList <:+: (String.join words).toList
  first_free : ¬"First".toList <:+: (String.join words).toList

instance : DecidablePred IsFiller := fun words =>
  decidable_of_iff _ (isFiller_iff words).symm

/-- Two names are refused with errors of one kind. -/
def RefusedAlike (r r' : Except Error MethodName) : Prop :=
  ∃ e e', r = .error e ∧ r' = .error e' ∧ e.cause.kind = e'.cause.kind

/-- Two names ask for the same. -/
def AskTheSame (r r' : Except Error MethodName) : Prop :=
  ∃ name name', r = .ok name ∧ r' = .ok name' ∧ name.subject = name'.subject ∧
    name.limit = name'.limit ∧ name.criteria = name'.criteria ∧ name.order = name'.order

/-- Two names ask for the same, or are refused with errors of one kind. -/
def SaysTheSame (r r' : Except Error MethodName) : Prop :=
  AskTheSame r r' ∨ RefusedAlike r r'

/-! ### Sections -/

section Sections

variable {words criteria head : List Char} {order : Option (List Char)}

/-- No `OrderBy` comes about where words are put in front of `By`, unless they end in `Order`. -/
theorem not_occurs_orderBy (hby : ¬Occurs "By".toList atWordEnd words)
    (horder : ¬"Order".toList <:+ words) (hhead : ¬Occurs "OrderBy".toList atWordEnd head) :
    ¬Occurs "OrderBy".toList atWordEnd (words ++ "By".toList ++ head) := by
  rintro ⟨front, tail, htext, htail⟩
  -- the `By` of the keyword is told by the side of the other `By` on which it stands
  have hseam : words ++ 'B' :: ('y' :: head) = (front ++ "Order".toList) ++ ['B', 'y'] ++ tail := by
    simpa using htext
  rcases Text.seam_cases (by decide) hseam with ⟨last, rfl, rfl⟩ | ⟨middle, hmiddle, hbehind⟩
  · exact hby ⟨front ++ "Order".toList, last, rfl,
      Text.testsCapital_atWordEnd.atWordEnd_of_append htail⟩
  cases middle with
  | nil =>
    rw [List.append_nil] at hmiddle
    exact horder ⟨front, hmiddle⟩
  | cons c middle =>
    -- behind the other `By` there is room for the whole keyword
    obtain ⟨rfl, hrest⟩ := List.cons.inj hbehind
    have hsuffix : "Order".toList <:+ words ++ 'B' :: middle := ⟨front, hmiddle⟩
    obtain ⟨between, rfl⟩ := (Text.isSuffix_append_iff (by decide)).mp hsuffix
    have hoccurs : Occurs "OrderBy".toList atWordEnd ("y".toList ++ head) :=
      ⟨between, tail, by simpa using hrest, htail⟩
    exact hhead (hoccurs.of_notMem (by decide))

/-- **Words in front of `By` stand apart.** What follows is read as if there were none of them. -/
theorem sections_filler (hby : ¬Occurs "By".toList atWordEnd words)
    (horder : ¬"Order".toList <:+ words) (hcapital : startsWithCapital criteria = true)
    (hcut : cut "OrderBy".toList criteria = (head, order)) :
    sections (words ++ "By".toList ++ criteria) = { words, criteria := some head, order } := by
  obtain ⟨rfl, hhead, hend⟩ := (cut_eq_iff (by decide)).mp hcut
  refine sections_eq_iff.mpr ⟨?_, hby, ?_, ?_, hend⟩
  · simp only [Sections.text, Sections.head, behind, List.append_assoc]
  · -- the `By` stands in front of a capital, so a word begins behind it
    intro text htext
    obtain rfl := Option.some.inj htext
    exact Text.testsCapital_atWordEnd.atWordEnd_of_append
      (Text.atWordEnd_of_startsWithCapital hcapital)
  · simpa only [Sections.head, behind, List.append_assoc] using
      not_occurs_orderBy hby horder hhead

/-- **Behind the word `Order`** everything is an order. -/
theorem sections_order (hby : ¬Occurs "By".toList atWordEnd words)
    (hcapital : startsWithCapital criteria = true) :
    sections (words ++ "Order".toList ++ "By".toList ++ criteria) =
      { words, criteria := none, order := some criteria } := by
  refine sections_eq_iff.mpr ⟨?_, hby, by simp, ?_, ?_⟩
  · simp [Sections.text, Sections.head, behind]
  · -- an `OrderBy` would end in a `By`
    rintro ⟨front, after, htext, hafter⟩
    exact hby ⟨front ++ "Order".toList, after, by simpa [Sections.head, behind] using htext, hafter⟩
  · intro text htext
    obtain rfl := Option.some.inj htext
    exact Text.atWordEnd_of_startsWithCapital hcapital

end Sections

/-! ### Limits -/

/-- A limit is set by one of two words. -/
theorem limit?_eq_none {words : List Char} (htop : ¬"Top".toList <:+: words)
    (hfirst : ¬"First".toList <:+: words) : limit? words = none := by
  rw [limit?, Option.map_eq_none_iff, ← Option.not_isSome_iff_eq_none, limitDigits?_isSome_iff]
  rintro ⟨word, hinfix⟩
  cases word with
  | top => exact htop hinfix
  | first => exact hfirst hinfix

/-! ### Names -/

/-- What is read behind a verb. -/
theorem parse_word (verb : Verb) {rest : String} (h : atWordEnd rest.toList = true) :
    parse (verb.word ++ rest) =
      (ofSections (verb.word ++ rest) verb.subject (sections rest.toList)).mapError
        (Cause.of · (verb.word ++ rest)) := by
  unfold parse
  rw [String.toList_append, Verb.read?_word, if_pos h]

/-- Other words that set the same limit change the text of a name only. -/
theorem ofSections_words {s : Sections} {words : List Char} (h : limit? words = limit? s.words)
    (text text' : String) (subject : Subject) :
    ofSections text' subject { s with words := words } =
      (ofSections text subject s).map fun name => { name with text := text' } := by
  unfold ofSections
  rw [h]
  -- the words say nothing but the limit, and each check behind them is the same
  split
  · rfl
  simp only
  split
  · rfl
  cases segments (s.criteria.getD []) with
  | error cause => rfl
  | ok criteria => cases s.order.mapM orderText <;> rfl

/-- The text of a name is not what it asks for. -/
theorem saysTheSame_text (r : Except Cause MethodName) (text text' : String) :
    SaysTheSame ((r.map fun name => { name with text := text' }).mapError (Cause.of · text'))
      (r.mapError (Cause.of · text)) := by
  cases r with
  | error cause => exact Or.inr ⟨_, _, rfl, rfl, rfl⟩
  | ok name => exact Or.inl ⟨_, _, rfl, rfl, rfl, rfl, rfl, rfl⟩

/-- A direction has four letters at most. -/
theorem OrderClause.length_text (clause : OrderClause) :
    clause.property.toList.length ≤ clause.text.toList.length ∧
      clause.text.toList.length ≤ clause.property.toList.length + 4 := by
  rw [text, String.toList_append, List.length_append]
  cases clause.mark <;> simp [DirectionMark.text]

/-- No order is another one with `OrderBy` in front of it. -/
theorem orderText_ne_orderBy {text : List Char} {order order' : OrderText}
    (h : orderText text = .ok order) (h' : orderText ("OrderBy".toList ++ text) = .ok order') :
    order' ≠ order := by
  rintro rfl
  obtain ⟨clause, rfl, hmeaning, -⟩ := orderText_eq_ok h
  obtain ⟨clause', htext, hmeaning', -⟩ := orderText_eq_ok h'
  have hproperty : clause'.property = clause.property :=
    congrArg OrderText.property (hmeaning'.trans hmeaning.symm)
  -- the keyword is longer than any direction
  have hlength := congrArg List.length htext
  rw [List.length_append] at hlength
  have hkeyword : "OrderBy".toList.length = 7 := by decide
  have hclause := clause.length_text
  have hclause' := clause'.length_text
  rw [hproperty] at hclause'
  omega

/-! ### Words in front of `By` -/

namespace IsFiller

variable {words : List String} (h : IsFiller words)

include h

theorem isWord {word : List Char} (hword : word ∈ words.map String.toList) : IsWord word := by
  obtain ⟨text, htext, rfl⟩ := List.mem_map.mp hword
  exact h.word text htext

theorem not_occurs_by : ¬Occurs "By".toList atWordEnd (String.join words).toList := by
  rw [String.toList_join, List.flatMap_def]
  intro hoccurs
  obtain ⟨text, htext, hby⟩ :=
    List.mem_map.mp (Text.mem_of_occurs_flatten (fun _ => h.isWord) (by decide) hoccurs)
  exact h.by_free (String.toList_inj.mp hby ▸ htext)

/-- Only the last word can be the `Order` at their end. -/
theorem not_suffix_order (hlast : words.getLast? ≠ some "Order") :
    ¬"Order".toList <:+ (String.join words).toList := by
  rw [String.toList_join, List.flatMap_def]
  intro hsuffix
  have hget := Text.getLast?_of_suffix_flatten (fun _ => h.isWord) (by decide) hsuffix
  rw [List.getLast?_map] at hget
  obtain ⟨text, htext, horder⟩ := Option.map_eq_some_iff.mp hget
  exact hlast (String.toList_inj.mp horder ▸ htext)

theorem limit?_eq_none : limit? (String.join words).toList = none :=
  MethodName.limit?_eq_none h.top_free h.first_free

/-- The words in front of the last one. -/
theorem init {others : List String} {last : String} (hwords : words = others ++ [last]) :
    IsFiller others := by
  -- fewer words spell less, so what the whole must not contain is not in a part of it
  have hprefix : (String.join others).toList <:+: (String.join words).toList := by
    rw [hwords, String.join_append, String.toList_append]
    exact (List.prefix_append _ _).isInfix
  have hsubset : ∀ word ∈ others, word ∈ words := fun word hword =>
    hwords ▸ List.mem_append_left [last] hword
  exact ⟨fun word hword => h.word word (hsubset word hword),
    fun hby => h.by_free (hsubset "By" hby), fun htop => h.top_free (htop.trans hprefix),
    fun hfirst => h.first_free (hfirst.trans hprefix)⟩

/-- A verb may end in front of such words. -/
theorem atWordEnd_rest (criteria : String) :
    atWordEnd (String.join words ++ "By" ++ criteria).toList = true := by
  rw [String.append_assoc, String.toList_append, String.toList_join, String.toList_append]
  -- without filler the text goes on with a keyword, which starts with a capital as a word does
  cases words with
  | nil => rfl
  | cons word words =>
    rw [List.flatMap_cons, List.append_assoc]
    exact Text.atWordEnd_of_startsWithCapital
      (Text.startsWithCapital_append (h.word word List.mem_cons_self).startsWithCapital _)

end IsFiller

section Filler

variable (verb : Verb) {words : List String} (h : IsFiller words) {criteria : String}
  (hcapital : startsWithCapital criteria.toList = true)

include hcapital

/-- The sections of a name without words in front of `By`. -/
theorem sections_by {head : List Char} {order : Option (List Char)}
    (hcut : cut "OrderBy".toList criteria.toList = (head, order)) :
    sections ("By" ++ criteria).toList = { words := [], criteria := some head, order } := by
  rw [String.toList_append]
  exact sections_filler (Text.occurs_nil_iff (by decide)) (by decide) hcapital hcut

include h

/-- **Words that do not end in `Order`** change nothing. -/
theorem saysTheSame_of_filler (hlast : words.getLast? ≠ some "Order") :
    SaysTheSame (parse (verb.word ++ (String.join words ++ "By" ++ criteria)))
      (parse (verb.word ++ ("By" ++ criteria))) := by
  obtain ⟨head, order, hcut⟩ :
      ∃ head order, cut "OrderBy".toList criteria.toList = (head, order) := ⟨_, _, rfl⟩
  have hwords : sections (String.join words ++ "By" ++ criteria).toList =
      { words := (String.join words).toList, criteria := some head, order } := by
    rw [String.toList_append, String.toList_append]
    exact sections_filler h.not_occurs_by (h.not_suffix_order hlast) hcapital hcut
  have hby : atWordEnd ("By" ++ criteria).toList = true := by
    rw [String.toList_append]
    rfl
  rw [parse_word verb (h.atWordEnd_rest criteria), hwords, parse_word verb hby,
    sections_by hcapital hcut]
  -- neither the words nor their absence sets a limit
  rw [ofSections_words (s := ⟨[], some head, order⟩) h.limit?_eq_none
    (verb.word ++ ("By" ++ criteria))]
  exact saysTheSame_text _ _ _

/-- **Words that end in `Order`** leave a name without criteria: what follows `By` is an order. -/
theorem parse_orderBy (hlast : words.getLast? = some "Order") :
    parse (verb.word ++ (String.join words ++ "By" ++ criteria)) =
      ((orderText criteria.toList).map fun order =>
        { text := verb.word ++ (String.join words ++ "By" ++ criteria)
          subject := verb.subject
          limit := none
          criteria := []
          order := some order }).mapError
        (Cause.of · (verb.word ++ (String.join words ++ "By" ++ criteria))) := by
  obtain ⟨others, hothers⟩ := List.getLast?_eq_some_iff.mp hlast
  have hfiller : IsFiller others := h.init hothers
  -- the last word of the filler and the `By` behind it are read as `OrderBy`
  have hsections : sections (String.join words ++ "By" ++ criteria).toList =
      { words := (String.join others).toList, criteria := none
        order := some criteria.toList } := by
    rw [hothers, String.join_append, String.toList_append, String.toList_append,
      String.toList_append]
    exact sections_order hfiller.not_occurs_by hcapital
  rw [parse_word verb (h.atWordEnd_rest criteria), hsections, ofSections]
  simp only [hfiller.limit?_eq_none]
  cases horder : orderText criteria.toList <;> simp [horder, segments] <;> rfl

/-- A name without such words does not ask for the same. -/
theorem not_askTheSame_of_order (hlast : words.getLast? = some "Order") :
    ¬AskTheSame (parse (verb.word ++ (String.join words ++ "By" ++ criteria)))
      (parse (verb.word ++ ("By" ++ criteria))) := by
  rintro ⟨name, name', hlong, hshort, -, -, hcriteria, horder⟩
  rw [parse_orderBy verb h hcapital hlast] at hlong
  obtain ⟨order, hread, rfl⟩ := map_eq_ok_iff.mp (mapError_eq_ok_iff.mp hlong)
  obtain ⟨head, rest, hcut⟩ :
      ∃ head rest, cut "OrderBy".toList criteria.toList = (head, rest) := ⟨_, _, rfl⟩
  obtain ⟨-, hshort⟩ := parse_eq_ok_iff.mp hshort
  rw [sections_by hcapital hcut] at hshort
  obtain ⟨-, -, -, hhead, hrest, -⟩ := ofSections_eq_ok_iff.mp hshort
  -- the other name has no criteria either, so its criteria begin with `OrderBy`
  obtain ⟨hhead, -⟩ := segments_eq_ok hhead
  rw [← hcriteria] at hhead
  obtain ⟨hsplit, -⟩ := (cut_eq_iff (by decide)).mp hcut
  rw [show head = [] from hhead, List.nil_append] at hsplit
  cases rest with
  | none => exact absurd (hsplit ▸ hcapital) (by decide)
  | some text =>
    -- both ask for an order, and one of them has the `OrderBy` of the other in it
    rw [hsplit] at hread
    obtain ⟨order', hread', heq⟩ := map_eq_ok_iff.mp hrest
    exact orderText_ne_orderBy hread' hread (Option.some.inj (horder.trans heq.symm))

/-- **Which words say nothing.** Words in front of `By` change nothing about what a method name asks
for, nor about the kind of error that refuses it, unless they end in `Order`. Those are only in
order where the name is refused with an error of the same kind in either case. -/
theorem filler_ignored_iff :
    SaysTheSame (parse (verb.word ++ (String.join words ++ "By" ++ criteria)))
        (parse (verb.word ++ ("By" ++ criteria))) ↔
      (words.getLast? = some "Order" →
        RefusedAlike (parse (verb.word ++ (String.join words ++ "By" ++ criteria)))
          (parse (verb.word ++ ("By" ++ criteria)))) := by
  constructor
  · intro hsame hlast
    exact hsame.resolve_left (not_askTheSame_of_order verb h hcapital hlast)
  · -- only a filler that ends in the word for an order could change the meaning
    intro hrefused
    by_cases hlast : words.getLast? = some "Order"
    · exact Or.inr (hrefused hlast)
    · exact saysTheSame_of_filler verb h hcapital hlast

end Filler

/-- Words that begin like a `By` or an order, in front of criteria and an order. -/
theorem filler_ignored_iff_orders :
    IsFiller ["Bypass", "Order", "Items"] ∧ startsWithCapital "OrderDateOrderByTotalDesc".toList ∧
      SaysTheSame (parse "deleteBypassOrderItemsByOrderDateOrderByTotalDesc")
        (parse "deleteByOrderDateOrderByTotalDesc") := by
  have hfiller : IsFiller ["Bypass", "Order", "Items"] := by decide +kernel
  have hcapital : startsWithCapital "OrderDateOrderByTotalDesc".toList = true := by decide
  have hlong : Verb.delete.word ++ (String.join ["Bypass", "Order", "Items"] ++ "By" ++
      "OrderDateOrderByTotalDesc") = "deleteBypassOrderItemsByOrderDateOrderByTotalDesc" := by
    decide
  have hshort : Verb.delete.word ++ ("By" ++ "OrderDateOrderByTotalDesc") =
      "deleteByOrderDateOrderByTotalDesc" := by decide
  -- the last word is no `Order`, so the condition has nothing to exclude
  have hsame := (filler_ignored_iff .delete hfiller hcapital).mpr fun hlast =>
    absurd hlast (by decide)
  rw [hlong, hshort] at hsame
  exact ⟨hfiller, hcapital, hsame⟩

/-- The name of the entity `Order` in front of `By` turns the status of orders that are asked for
into the order of all of them. -/
theorem order_not_ignored :
    IsFiller ["Order"] ∧
      parse "getByStatus" = .ok
        { text := "getByStatus", subject := .find, limit := none, criteria := ["Status"]
          order := none } ∧
      parse "getOrderByStatus" = .ok
        { text := "getOrderByStatus", subject := .find, limit := none, criteria := []
          order := some { property := "Status", direction := .ascending } } ∧
      ¬SaysTheSame (parse "getOrderByStatus") (parse "getByStatus") := by
  have hshort : parse "getByStatus" = .ok _ := rfl
  have hlong : parse "getOrderByStatus" = .ok _ := rfl
  refine ⟨by decide, hshort, hlong, ?_⟩
  -- the two names ask for different criteria, and neither of them is refused
  rintro (⟨name, name', hname, hname', -, -, hcriteria, -⟩ | ⟨e, e', he, -⟩)
  · obtain rfl := Except.ok.inj (hlong.symm.trans hname)
    obtain rfl := Except.ok.inj (hshort.symm.trans hname')
    exact absurd hcriteria (by decide)
  · exact absurd (hlong.symm.trans he) (by simp)

end NamedQuery.MethodName
