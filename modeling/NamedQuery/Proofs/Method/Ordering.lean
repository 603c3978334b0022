import NamedQuery.Proofs.Method.Phrase
import NamedQuery.Proofs.Query.Bound

/-!
# Names with an order behind them

An order is put behind a method name that has none: `findByStatus` becomes
`findByStatusOrderByOrderDateDesc`. The name is cut where the two were put together, so what it says
without the order is what it said before. The order itself is read before any entity is known: a
direction is taken off its end, and a direction in front of a capital is taken for the end of one
order and the start of another one. Nothing of it is read again when the properties are known.

* `sections_append_orderBy`, `parse_append_orderBy` — the order changes the order of a name only;
* `OrderClause.IsUnambiguous` — the text of an order is that of no other property with a direction;
* `OrderClause.orders_iff` — an unambiguous order of a property is read as that order exactly if no
  word of its text ends in a direction;
* `Query.bind_orderBy_iff` — the same for the name as a whole: it is bound exactly for such an
  order, and then to the query it was bound to before, with the order.
-/

namespace NamedQuery

namespace MethodName

open Text (Occurs atWordEnd startsWithCapital)

/-! ### The name in front of an order -/

section Append

variable {text order : List Char}

theorem order_sections_eq_none (h : ¬Occurs "OrderBy".toList atWordEnd text) :
    (sections text).order = none := by
  obtain ⟨htext, hcut⟩ := sections_eq_iff.mp (Eq.refl (sections text))
  refine Option.eq_none_iff_forall_ne_some.mpr fun order horder => h ?_
  refine ⟨(sections text).head, order, ?_, hcut.order order horder⟩
  rw [Sections.text, horder, behind, ← List.append_assoc] at htext
  exact htext.symm

/-- **A text is cut where an order was put behind it**, and its sections stay what they were. -/
theorem sections_append_orderBy (hfree : ¬Occurs "OrderBy".toList atWordEnd text)
    (hend : atWordEnd order = true) :
    sections (text ++ ("OrderBy".toList ++ order)) =
      { sections text with order := some order } := by
  -- the text has been cut where it has to be, and the order is cut off behind it
  obtain ⟨htext, hcut⟩ := sections_eq_iff.mp (Eq.refl (sections text))
  rw [Sections.text, order_sections_eq_none hfree, behind, List.append_nil] at htext
  refine sections_eq_iff.mpr ⟨?_, hcut.by_free, hcut.criteria, hcut.orderBy_free, ?_⟩
  · show (sections text).head ++ ("OrderBy".toList ++ order) = _
    rw [htext]
  · rintro order' ⟨⟩
    exact hend

/-- Sections without an order say the same with one, and the order besides. -/
theorem ofSections_order {text text' : String} {subject : Subject} {s : Sections}
    {name name' : MethodName} (h : ofSections text subject s = .ok name) :
    ofSections text' subject { s with order := some order } = .ok name' ↔
      ∃ meaning, orderText order = .ok meaning ∧
        name' = { name with text := text', order := some meaning } := by
  obtain ⟨-, hsubject, hlimit, hsegments, -, -, hpositive⟩ := ofSections_eq_ok_iff.mp h
  rw [ofSections_eq_ok_iff]
  constructor
  · -- all parts but the order were read from the same words
    obtain ⟨text₁, subject₁, limit₁, criteria₁, order₁⟩ := name'
    rintro ⟨rfl, rfl, hlimit', hsegments', horder', -⟩
    obtain ⟨meaning, hmeaning, rfl⟩ := map_eq_ok_iff.mp horder'
    obtain rfl : criteria₁ = name.criteria := Except.ok.inj (hsegments'.symm.trans hsegments)
    obtain rfl : limit₁ = name.limit := hlimit'.trans hlimit.symm
    exact ⟨meaning, hmeaning, by rw [hsubject]⟩
  · rintro ⟨meaning, hmeaning, rfl⟩
    exact ⟨rfl, hsubject, hlimit, hsegments, map_eq_ok_iff.mpr ⟨meaning, hmeaning, rfl⟩,
      by simp, hpositive⟩

end Append

/-- **A name with an order behind it** is read if the order is, and says what it said without the
order besides. -/
theorem parse_append_orderBy {text order : String} {name name' : MethodName}
    (h : parse text = .ok name) (hfree : ¬Occurs "OrderBy".toList atWordEnd text.toList)
    (hend : atWordEnd order.toList = true) :
    parse (text ++ ("OrderBy" ++ order)) = .ok name' ↔
      ∃ meaning, orderText order.toList = .ok meaning ∧
        name' = { name with text := text ++ ("OrderBy" ++ order), order := some meaning } := by
  obtain ⟨verb, rest, rfl⟩ := exists_verb h
  obtain ⟨hrest, hsections⟩ := parse_eq_ok_iff.mp h
  -- the text has no keyword in its rest either
  have hfree' : ¬Occurs "OrderBy".toList atWordEnd rest.toList := fun hoccurs =>
    hfree (String.toList_append ▸ hoccurs.append_left verb.word.toList)
  have hlong : (rest ++ ("OrderBy" ++ order)).toList =
      rest.toList ++ ("OrderBy".toList ++ order.toList) := by
    simp only [String.toList_append]
  have hword : atWordEnd (rest ++ ("OrderBy" ++ order)).toList = true := by
    rw [hlong]
    exact Text.atWordEnd_append hrest rfl
  rw [String.append_assoc, parse_eq_ok_iff, and_iff_right hword, hlong,
    sections_append_orderBy hfree' hend, ofSections_order hsections]

/-! ### The text of an order -/

theorem DirectionMark.marked_cases {mark : DirectionMark} (h : mark ≠ .unmarked) :
    mark = .ascending ∨ mark = .descending := by
  cases mark with
  | unmarked => exact absurd rfl h
  | ascending => exact Or.inl rfl
  | descending => exact Or.inr rfl

theorem DirectionMark.startsWithCapital_text {mark : DirectionMark} (h : mark ≠ .unmarked) :
    startsWithCapital mark.text.toList = true := by
  rcases marked_cases h with rfl | rfl <;> rfl

/-- A direction in front of a capital is taken for the end of an order. -/
theorem ordersTwice_iff {text : List Char} : ordersTwice text = true ↔
    ∃ mark : DirectionMark, mark ≠ .unmarked ∧ Occurs mark.text.toList startsWithCapital text := by
  rw [ordersTwice, Bool.or_eq_true, Text.containsSeparator_iff, Text.containsSeparator_iff]
  constructor
  · -- the two marks are the two ways of being ordered twice
    rintro (hasc | hdesc)
    · exact ⟨.ascending, by decide, hasc⟩
    · exact ⟨.descending, by decide, hdesc⟩
  · rintro ⟨mark, hmark, hoccurs⟩
    rcases DirectionMark.marked_cases hmark with rfl | rfl
    · exact Or.inl hoccurs
    · exact Or.inr hoccurs

/-- A direction at the end of a text is taken off. -/
theorem exists_mark_of_suffix {text : List Char} {mark : DirectionMark} (hmark : mark ≠ .unmarked)
    (h : mark.text.toList <:+ text) :
    ∃ mark' : DirectionMark, mark' ≠ .unmarked ∧
      text = (splitDirection text).1 ++ mark'.text.toList := by
  unfold splitDirection
  split
  · next hdesc => exact ⟨.descending, by decide, Text.before?_eq_some_iff.mp hdesc⟩
  next hdesc =>
  split
  · next hasc => exact ⟨.ascending, by decide, Text.before?_eq_some_iff.mp hasc⟩
  next hasc =>
  -- neither mark ends the text, although one of them does
  rcases DirectionMark.marked_cases hmark with rfl | rfl
  · exact absurd h (Text.before?_eq_none_iff.mp hasc)
  · exact absurd h (Text.before?_eq_none_iff.mp hdesc)

theorem orderText_eq_ok_iff {text : List Char} {meaning : OrderText} :
    orderText text = .ok meaning ↔
      ordersTwice text = false ∧ (splitDirection text).1 ≠ [] ∧
        meaning = ⟨String.ofList (splitDirection text).1, (splitDirection text).2⟩ := by
  unfold orderText
  split
  · next htwice => simp [htwice]
  -- something is left in front of the mark
  next htwice =>
  simp only
  split
  · next hempty => simp [List.isEmpty_iff.mp hempty]
  · next hempty =>
    have hne : (splitDirection text).1 ≠ [] := fun h => hempty (List.isEmpty_iff.mpr h)
    simp [htwice, hne, eq_comm]

namespace OrderClause

variable {e : Entity} {clause : OrderClause} {path : PropertyPath}

theorem toList_text (clause : OrderClause) :
    clause.text.toList = clause.property.toList ++ clause.mark.text.toList :=
  String.toList_append

theorem toList_text_of_unmarked (h : clause.mark = .unmarked) :
    clause.text.toList = clause.property.toList := by
  rw [toList_text, h]
  exact List.append_nil _

/-- No other property with a direction behind it is spelled like the order. -/
def IsUnambiguous (e : Entity) (clause : OrderClause) : Prop :=
  ∀ other : OrderClause, other.mark ≠ .unmarked → other.text = clause.text →
    other.property ≠ clause.property → e.resolveProperty other.property = none

/-- Only an order without a direction can be read as another one with a direction. -/
theorem IsUnambiguous.of_marked (hmark : clause.mark ≠ .unmarked) : clause.IsUnambiguous e := by
  intro other hother htext hproperty
  rw [← String.toList_inj, toList_text, toList_text] at htext
  obtain ⟨property, mark⟩ := clause
  obtain ⟨property', mark'⟩ := other
  -- no direction is the end of the other one, so both orders have the same one
  obtain rfl : mark' = mark := by
    have hsuffix : mark'.text.toList <:+ property.toList ++ mark.text.toList := ⟨_, htext⟩
    rcases DirectionMark.marked_cases hmark with rfl | rfl <;>
      rcases DirectionMark.marked_cases hother with rfl | rfl
    · rfl
    · exact absurd ((Text.isSuffix_append_iff (by decide)).mp hsuffix) (by decide)
    · exact absurd ((Text.isSuffix_append_iff (by decide)).mp hsuffix) (by decide)
    · rfl
  exact absurd (String.toList_inj.mp (List.append_cancel_right htext)) hproperty

theorem isProper_iff_forall :
    clause.IsProper ↔ startsWithCapital clause.property.toList = true ∧
      ∀ mark : DirectionMark, mark ≠ .unmarked →
        ¬Occurs mark.text.toList atWordEnd clause.property.toList := by
  rw [isProper_iff]
  refine and_congr_right fun _ => ⟨?_, fun h => ?_⟩
  · rintro ⟨hasc, hdesc⟩ mark hmark
    -- there are two marks, and each has to be no end of a word in the property
    rcases DirectionMark.marked_cases hmark with rfl | rfl
    · exact hasc
    · exact hdesc
  · exact ⟨h .ascending (by decide), h .descending (by decide)⟩

/-- An order whose direction cannot be mistaken is unambiguous. -/
theorem IsProper.isUnambiguous (h : clause.IsProper) : clause.IsUnambiguous e := by
  by_cases hmark : clause.mark = .unmarked
  · intro other hother htext
    -- the direction of another order would end the property
    have hsuffix : other.mark.text.toList <:+ clause.property.toList := by
      rw [← toList_text_of_unmarked hmark, ← htext, toList_text]
      exact List.suffix_append _ _
    exact absurd (Occurs.of_suffix hsuffix) ((isProper_iff_forall.mp h).2 other.mark hother)
  · exact .of_marked hmark

/-- With a direction behind a property, a direction that ends a word of it stands in front of a
capital. -/
theorem ordersTwice_of_marked {mark : DirectionMark} (hmark : mark ≠ .unmarked)
    (hoccurs : Occurs mark.text.toList atWordEnd clause.property.toList)
    (hmarked : clause.mark ≠ .unmarked) : ordersTwice clause.text.toList = true := by
  have hcapital := DirectionMark.startsWithCapital_text hmarked
  exact ordersTwice_iff.mpr ⟨mark, hmark, toList_text clause ▸ hoccurs.append_capital hcapital⟩

/-- Without one, a direction at the end of the property is taken off it, and what is left is no
property. -/
theorem resolveProperty_of_suffix {mark : DirectionMark} (hmark : mark ≠ .unmarked)
    (hsuffix : mark.text.toList <:+ clause.text.toList) (hunmarked : clause.mark = .unmarked)
    (hclear : clause.IsUnambiguous e) :
    e.resolveProperty (String.ofList (splitDirection clause.text.toList).1) = none := by
  obtain ⟨mark', hmark', htext⟩ := exists_mark_of_suffix hmark hsuffix
  let other : OrderClause := ⟨String.ofList (splitDirection clause.text.toList).1, mark'⟩
  have hother : other.text = clause.text := by
    rw [← String.toList_inj, toList_text, String.toList_ofList, ← htext]
  refine hclear other hmark' hother fun hproperty => ?_
  -- something was taken off the property, which is the whole text
  have hproperty' : (splitDirection clause.text.toList).1 = clause.property.toList := by
    rw [← hproperty, String.toList_ofList]
  have hnil : mark'.text.toList = [] := by
    refine List.append_cancel_left (htext.symm.trans ?_)
    rw [List.append_nil, hproperty', toList_text_of_unmarked hunmarked]
  exact absurd (DirectionMark.startsWithCapital_text hmark') (by simp [hnil, startsWithCapital])

/-- **A direction that ends a word of a property** keeps the property from being ordered by. -/
theorem not_orders_of_occurs {mark : DirectionMark} (hmark : mark ≠ .unmarked)
    (hoccurs : Occurs mark.text.toList atWordEnd clause.property.toList)
    (hclear : clause.IsUnambiguous e) {meaning : OrderText} {order : Order}
    (hread : orderText clause.text.toList = .ok meaning) :
    Query.orderBy e meaning ≠ .ok order := by
  obtain ⟨honce, -, rfl⟩ := orderText_eq_ok_iff.mp hread
  -- a marked clause with another mark in its property is ordered twice
  by_cases hunmarked : clause.mark = .unmarked
  · rw [← toList_text_of_unmarked hunmarked] at hoccurs
    rcases hoccurs.capital_or_suffix with hcapital | hsuffix
    · exact absurd (ordersTwice_iff.mpr ⟨mark, hmark, hcapital⟩) (by simp [honce])
    · intro horder
      obtain ⟨path, hresolve, -⟩ := Query.orderBy_eq_ok_iff.mp horder
      have hnone := resolveProperty_of_suffix hmark hsuffix hunmarked hclear
      exact absurd (hnone.symm.trans hresolve) (by simp)
  · exact absurd (ordersTwice_of_marked hmark hoccurs hunmarked) (by simp [honce])

/-- **Which orders of a property are read.** An unambiguous order is read as what it is exactly if
no word of the property ends in a direction, and else it is not read at all. -/
theorem orders_iff (hcapital : startsWithCapital clause.property.toList = true)
    (hresolve : e.resolveProperty clause.property = some path) (hclear : clause.IsUnambiguous e)
    {order : Order} :
    (∃ meaning, orderText clause.text.toList = .ok meaning ∧
        Query.orderBy e meaning = .ok order) ↔
      clause.IsProper ∧ order = { property := path.leaf, direction := clause.mark.direction } := by
  constructor
  · rintro ⟨meaning, hread, horder⟩
    have hproper : clause.IsProper := isProper_iff_forall.mpr
      ⟨hcapital, fun mark hmark hoccurs => not_orders_of_occurs hmark hoccurs hclear hread horder⟩
    obtain rfl : clause.meaning = meaning :=
      -- a proper clause is read back as what it says
      Except.ok.inj ((orderText_text hproper).symm.trans hread)
    obtain ⟨path', hresolve', rfl⟩ := Query.orderBy_eq_ok_iff.mp horder
    obtain rfl : path = path' := Option.some.inj (hresolve.symm.trans hresolve')
    exact ⟨hproper, rfl⟩
  · rintro ⟨hproper, rfl⟩
    exact ⟨clause.meaning, orderText_text hproper,
      Query.orderBy_eq_ok_iff.mpr ⟨path, hresolve, rfl⟩⟩

end OrderClause

end MethodName

/-! ### Bound orders -/

open MethodName Text

namespace Query

/-- An order behind a name is bound besides the criteria. -/
theorem bind_append_orderBy {e : Entity} {text order : String} {name : MethodName} {q q' : Query}
    (hparse : parse text = .ok name) (hbind : bind e name = .ok q)
    (hfree : ¬Occurs "OrderBy".toList atWordEnd text.toList)
    (hend : atWordEnd order.toList = true) :
    (∃ name', parse (text ++ ("OrderBy" ++ order)) = .ok name' ∧ bind e name' = .ok q') ↔
      ∃ bound, (∃ meaning, orderText order.toList = .ok meaning ∧ orderBy e meaning = .ok bound) ∧
        q' = { q with method := text ++ ("OrderBy" ++ order), order := some bound } := by
  obtain ⟨hcriteria, -, -, hsubject, hlimit⟩ := bind_iff.mp hbind
  simp only [parse_append_orderBy hparse hfree hend]
  constructor
  · rintro ⟨name', ⟨meaning, hmeaning, rfl⟩, hbind'⟩
    obtain ⟨hcriteria', horder', hmethod', hsubject', hlimit'⟩ := bind_iff.mp hbind'
    obtain ⟨bound, hbound, hsome⟩ := map_eq_ok_iff.mp horder'
    refine ⟨bound, ⟨meaning, hmeaning, hbound⟩, ?_⟩
    -- what is not the order was read from the same parts
    obtain ⟨method, subject, limit, criteria, order⟩ := q'
    obtain rfl : criteria = q.criteria := Except.ok.inj (hcriteria'.symm.trans hcriteria)
    obtain rfl : subject = q.subject := hsubject'.trans hsubject.symm
    obtain rfl : limit = q.limit := hlimit'.trans hlimit.symm
    rw [show method = _ from hmethod', ← show some bound = order from hsome]
  · rintro ⟨bound, ⟨meaning, hmeaning, hbound⟩, rfl⟩
    exact ⟨_, ⟨meaning, hmeaning, rfl⟩, bind_iff.mpr
      ⟨hcriteria, map_eq_ok_iff.mpr ⟨bound, hbound, rfl⟩, rfl, hsubject, hlimit⟩⟩

/-- **Which orders a method name can have.** Behind criteria that are bound on their own, an
unambiguous order of a property is bound exactly if no word of the property's text ends in a
direction. The query is then that of the criteria, with the order. -/
theorem bind_orderBy_iff {e : Entity} {verb : Verb} {criteria : String} {name : MethodName}
    {q q' : Query} {clause : OrderClause} {path : PropertyPath}
    (hparse : parse (verb.word ++ ("By" ++ criteria)) = .ok name) (hbind : bind e name = .ok q)
    (hfree : ¬Occurs "OrderBy".toList atWordEnd criteria.toList)
    (hcapital : startsWithCapital clause.property.toList = true)
    (hresolve : e.resolveProperty clause.property = some path)
    (hclear : clause.IsUnambiguous e) :
    (∃ name', parse (verb.word ++ ("By" ++ criteria) ++ ("OrderBy" ++ clause.text)) = .ok name' ∧
        bind e name' = .ok q') ↔
      clause.IsProper ∧
        q' = { q with
          method := verb.word ++ ("By" ++ criteria) ++ ("OrderBy" ++ clause.text)
          order := some { property := path.leaf, direction := clause.mark.direction } } := by
  have hfree' : ¬Occurs "OrderBy".toList atWordEnd (verb.word ++ ("By" ++ criteria)).toList := by
    -- an `OrderBy` would have to start behind the verb and the `By`
    have hverb : 'O' ∉ verb.word.toList := by cases verb <;> decide
    simp only [String.toList_append]
    exact fun hoccurs => hfree ((hoccurs.of_notMem hverb).of_notMem (by decide))
  have hend : atWordEnd clause.text.toList = true := by
    -- an `OrderBy` is read in front of a capital
    rw [OrderClause.toList_text]
    exact atWordEnd_of_startsWithCapital (startsWithCapital_append hcapital _)
  rw [bind_append_orderBy hparse hbind hfree' hend]
  simp only [OrderClause.orders_iff hcapital hresolve hclear]
  constructor
  · rintro ⟨bound, ⟨hproper, rfl⟩, hq'⟩
    exact ⟨hproper, hq'⟩
  · rintro ⟨hproper, hq'⟩
    exact ⟨_, ⟨hproper, rfl⟩, hq'⟩

/-- The orders of a customer, the latest first. -/
theorem bind_orderBy_iff_orderDate :
    ∃ name q,
      (parse "findByCustomerId" = .ok name ∧ bind .orders name = .ok q ∧
        ¬Occurs "OrderBy".toList atWordEnd "CustomerId".toList ∧
        startsWithCapital "OrderDate".toList = true ∧
        Entity.orders.resolveProperty "OrderDate" = some (.own "orderDate") ∧
        (OrderClause.mk "OrderDate" .descending).IsUnambiguous .orders) ∧
      ∃ name', parse "findByCustomerIdOrderByOrderDateDesc" = .ok name' ∧
        bind .orders name' = .ok { q with
          method := "findByCustomerIdOrderByOrderDateDesc"
          order := some { property := "orderDate", direction := .descending } } := by
  let clause : OrderClause := ⟨"OrderDate", .descending⟩
  have hparse : parse (Verb.find.word ++ ("By" ++ "CustomerId")) = .ok _ := rfl
  have hbind : bind .orders (MethodName.mk "findByCustomerId" .find none ["CustomerId"] none) =
      .ok _ := rfl
  have hfree : ¬Occurs "OrderBy".toList atWordEnd "CustomerId".toList :=
    not_occurs_of_notMem (by decide)
  have hcapital : startsWithCapital clause.property.toList = true := by decide
  have hresolve : Entity.orders.resolveProperty clause.property = some (.own "orderDate") := by
    decide
  have hproper : clause.IsProper := by decide
  have hclear : clause.IsUnambiguous .orders := hproper.isUnambiguous
  -- the order is unambiguous, so it can be added to the query
  have hordered :=
    (bind_orderBy_iff hparse hbind hfree hcapital hresolve hclear).mpr ⟨hproper, rfl⟩
  exact ⟨_, _, ⟨hparse, hbind, hfree, hcapital, hresolve, hclear⟩, hordered⟩

end Query

/-- Players with a property that ends like an order. -/
def Entity.players : Entity where
  schema := Schema.declare "Player" "Players"
    [("id", { partitionKey := true }), ("rankDesc", {})] none
  sound := by decide

/-- **A property that ends like an order.** The criteria are bound on their own, and the text of the
order is that of one property and of no other with a direction, but the name with the order is held
to ask for a property `rank`. -/
theorem Query.rankDesc_not_ordered :
    ∃ name q, parse "findById" = .ok name ∧ bind .players name = .ok q ∧
      ¬Occurs "OrderBy".toList atWordEnd "Id".toList ∧
      startsWithCapital "RankDesc".toList = true ∧
      Entity.players.resolveProperty "RankDesc" = some (.own "rankDesc") ∧
      (OrderClause.mk "RankDesc" .unmarked).IsUnambiguous .players ∧
      ∃ name', parse "findByIdOrderByRankDesc" = .ok name' ∧
        bind .players name' =
          .error (Cause.of (.unknownProperty "rank" "Player") "findByIdOrderByRankDesc") := by
  have hclear : (OrderClause.mk "RankDesc" .unmarked).IsUnambiguous .players := by
    rintro ⟨property, mark⟩ hmark htext -
    rw [← String.toList_inj, OrderClause.toList_text] at htext
    -- only `Desc` ends the text, and then the property would be `Rank`
    cases mark with
    | unmarked => exact absurd rfl hmark
    | ascending =>
      have hsuffix : "Asc".toList <:+ "RankDesc".toList := ⟨_, htext⟩
      exact absurd hsuffix (by decide)
    | descending =>
      have hrank : property.toList ++ "Desc".toList = "Rank".toList ++ "Desc".toList := htext
      obtain rfl : property = "Rank" := String.toList_inj.mp (List.append_cancel_right hrank)
      decide
  have hfree : ¬Occurs "OrderBy".toList atWordEnd "Id".toList := not_occurs_of_notMem (by decide)
  exact ⟨_, _, rfl, rfl, hfree, by decide, by decide, hclear, _, rfl, rfl⟩

end NamedQuery
