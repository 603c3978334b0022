import NamedQuery.Proofs.Query.Bound

/-!
# Which properties a text can mean

A method name spells a property with a capital first letter, so the text of `orderDate` is
`OrderDate`. An underscore in a text is read as the step from the id property to one of its fields,
and as nothing else. What follows for the properties themselves:

* `decapitalizeChars_capitalizeChars` — a name with a small first letter, and no capital right
  behind it, is what its text means;
* `Entity.resolveProperty_eq_own_iff` — a text means a property itself exactly if it is spelled
  without an underscore;
* `Entity.underscoreFree_of_resolveProperty` — no step of the path that a text means has an
  underscore in its name, since the letters around an underscore never become one;
* `Entity.means_capitalized_iff` — the property is what its own text means exactly if it has no
  underscore in its name; with one, no text whatsoever means it.
-/

namespace NamedQuery

namespace Text

variable {c : Char} {chars : List Char}

/-- A small letter in front, and no capital right behind it. -/
def StartsSmall : List Char → Prop
  | [] => False
  | c :: rest => c.isLower = true ∧ startsWithCapital rest = false

instance : DecidablePred StartsSmall
  | [] => .isFalse id
  | c :: rest =>
    inferInstanceAs (Decidable (c.isLower = true ∧ startsWithCapital rest = false))

/-- A text with its first letter as a capital. -/
def capitalizeChars : List Char → List Char
  | [] => []
  | c :: rest => c.toUpper :: rest

/-- A text with its first letter as a capital: how a method name spells a property. -/
def capitalize (text : String) : String :=
  String.ofList (capitalizeChars text.toList)

/-! ### Capitals and small letters -/

/-- What is true of the letters from `a` to `z` is true of the small letters. -/
theorem letter_forall {P : Char → Prop} (h : ∀ n < 26, P (Char.ofNat (97 + n)))
    (hlower : c.isLower = true) : P c := by
  -- a small letter is told by its number, which lies in a range of 26
  have hrange : (decide ('a'.val ≤ c.val) && decide (c.val ≤ 'z'.val)) = true := hlower
  simp only [Bool.and_eq_true, decide_eq_true_eq, UInt32.le_iff_toNat_le] at hrange
  have hfirst : 97 ≤ c.toNat := hrange.1
  have hlast : c.toNat ≤ 122 := hrange.2
  have hletter := h (c.toNat - 97) (by omega)
  rwa [Nat.add_sub_cancel' hfirst, Char.ofNat_toNat] at hletter

/-- A small letter is the small form of its capital. -/
theorem lowerFirst_toUpper (h : c.isLower = true) : lowerFirst c.toUpper = [c] :=
  letter_forall (P := fun c => lowerFirst c.toUpper = [c]) (by decide) h

theorem StartsSmall.capitalizeChars_ne_nil (h : StartsSmall chars) :
    capitalizeChars chars ≠ [] := by
  match chars, h with
  | c :: rest, _ => exact List.cons_ne_nil c.toUpper rest

theorem decapitalizeChars_capitalizeChars (h : StartsSmall chars) :
    decapitalizeChars (capitalizeChars chars) = chars := by
  match chars, h with
  | [c], h => exact lowerFirst_toUpper h.1
  | c :: d :: rest, h =>
    have hcapital : isCapital d = false := h.2
    simp [capitalizeChars, decapitalizeChars, hcapital, lowerFirst_toUpper h.1]

theorem toUpper_ne_underscore (h : c.isLower = true) : c.toUpper ≠ '_' :=
  letter_forall (P := fun c => c.toUpper ≠ '_') (by decide) h

/-- The capital in front brings no underscore. -/
theorem underscoreFree_capitalizeChars (h : StartsSmall chars) (hfree : '_' ∉ chars) :
    '_' ∉ capitalizeChars chars := by
  match chars, h with
  | c :: rest, h =>
    have hrest : '_' ∉ rest := fun hmem => hfree (List.mem_cons_of_mem c hmem)
    simpa [capitalizeChars, hrest] using (toUpper_ne_underscore h.1).symm

/-! ### The underscore is no small form of anything else -/

/-- Every run of capitals has its small forms behind the underscore. -/
theorem underscore_lt_first : ∀ range ∈ caseRanges, 95 < (range.first + range.offset : Int) := by
  have htable : (caseTable.all fun row => 95 < (row.1 + row.2.2.2 : Int)) = true := by
    decide +kernel
  intro range hrange
  obtain ⟨⟨first, last, step, offset⟩, hentry, rfl⟩ := List.mem_map.mp hrange
  simpa using List.all_eq_true.mp htable _ hentry

theorem underscore_lt_of_covers {range : CaseRange} {n : Nat} (hrange : range ∈ caseRanges)
    (hcovers : range.covers n = true) : 95 < (n + range.offset).toNat := by
  have hfirst := underscore_lt_first range hrange
  simp only [CaseRange.covers, Bool.and_eq_true, decide_eq_true_eq] at hcovers
  omega

theorem ofNat_ne_underscore {n : Nat} (h : 95 < n) : Char.ofNat n ≠ '_' := by
  by_cases hvalid : n.isValidChar
  · rw [Char.ofNat, dif_pos hvalid]
    intro heq
    have hnat : n = 95 := congrArg Char.toNat heq
    omega
  · -- what is no character is replaced by the first one
    rw [Char.ofNat, dif_neg hvalid]
    decide

theorem underscore_notMem_lowerCase (hc : c ≠ '_') : '_' ∉ lowerCase c := by
  unfold lowerCase
  split
  · -- a small form is never an underscore: the ranges of capitals are moved above it
    next hcapital =>
    have hrange : 'A' ≤ c ∧ c ≤ 'Z' := by simpa [isCapital] using hcapital
    have hfirst : 65 ≤ c.toNat := UInt32.le_iff_toNat_le.mp (Char.le_def.mp hrange.1)
    simpa using (ofNat_ne_underscore (n := c.toNat + 32) (by omega)).symm
  · split
    · simpa using hc.symm
    · split
      · decide
      · split
        · next range hfound =>
          have hcovers : range.covers c.toNat = true :=
            List.find?_some (p := (CaseRange.covers · c.toNat)) hfound
          have hbound := underscore_lt_of_covers (List.mem_of_find?_eq_some hfound) hcovers
          simpa using (ofNat_ne_underscore hbound).symm
        · simpa using hc.symm

theorem underscore_notMem_lowerFirst (hc : c ≠ '_') : '_' ∉ lowerFirst c := by
  unfold lowerFirst
  split
  · exact underscore_notMem_lowerCase hc
  · simpa using hc.symm

theorem underscoreFree_decapitalizeChars (hfree : '_' ∉ chars) :
    '_' ∉ decapitalizeChars chars := by
  -- only the first letter is made small, if anything is
  match chars with
  | [] => exact List.not_mem_nil
  | [c] => exact underscore_notMem_lowerFirst fun hc => hfree (by simp [hc])
  | c :: d :: rest =>
    have hfirst := underscore_notMem_lowerFirst (c := c) fun hc => hfree (by simp [hc])
    have hrest : '_' ∉ d :: rest := fun hmem => hfree (List.mem_cons_of_mem c hmem)
    simp only [decapitalizeChars]
    split
    · exact hfree
    · exact fun hmem => (List.mem_append.mp hmem).elim hfirst hrest

/-! ### The parts of a text -/

theorem notMem_of_mem_consHead {mark : Char} {pieces : List (List Char)} (hc : c ≠ mark)
    (hpieces : ∀ piece ∈ pieces, mark ∉ piece) :
    ∀ piece ∈ consHead c pieces, mark ∉ piece := by
  -- the character joins the first piece, and the others stay as they are
  cases pieces with
  | nil => simpa [consHead] using hc.symm
  | cons first rest =>
    have hfirst := hpieces first List.mem_cons_self
    intro piece hpiece
    rcases List.mem_cons.mp hpiece with rfl | hpiece
    · simpa [hfirst] using hc.symm
    · exact hpieces piece (List.mem_cons_of_mem first hpiece)

/-- The pieces between the marks have no mark in them. -/
theorem notMem_of_mem_pieces {mark : Char} :
    ∀ piece ∈ pieces mark chars, mark ∉ piece := by
  induction chars with
  | nil => simp [pieces]
  | cons c chars ih =>
    -- a mark begins a new piece, and every other character joins one
    unfold pieces
    split
    · exact List.forall_mem_cons.mpr ⟨List.not_mem_nil, ih⟩
    · next hc => exact notMem_of_mem_consHead hc ih

/-- The first cut of a text is the one behind its first letter, if a capital follows. -/
theorem cases_of_mem_capitalCuts {d : Char} {cut : List Char × List Char}
    (h : cut ∈ capitalCuts (c :: d :: chars)) :
    (isCapital d = true ∧ cut = ([c], d :: chars)) ∨
      ∃ later ∈ capitalCuts (d :: chars), (c :: later.1, later.2) = cut := by
  unfold capitalCuts at h
  simp only at h
  split at h
  · next hcapital => exact (List.mem_cons.mp h).imp (And.intro hcapital) List.mem_map.mp
  · exact Or.inr (List.mem_map.mp h)

/-- A cut in front of a capital loses nothing. -/
theorem append_of_mem_capitalCuts {cut : List Char × List Char} (h : cut ∈ capitalCuts chars) :
    cut.1 ++ cut.2 = chars := by
  induction chars generalizing cut with
  | nil => exact absurd h List.not_mem_nil
  | cons c chars ih =>
    cases chars with
    | nil => exact absurd h List.not_mem_nil
    | cons d chars =>
      -- the cut is here, or it is one of the rest
      rcases cases_of_mem_capitalCuts h with ⟨-, rfl⟩ | ⟨later, hlater, rfl⟩
      · rfl
      · rw [List.cons_append, ih hlater]

end Text

/-! ### What a text means -/

/-- A path without an underscore in the name of any of its steps. -/
def PropertyPath.UnderscoreFree (path : PropertyPath) : Prop :=
  ∀ segment ∈ path.segments, '_' ∉ segment.toList

namespace Entity

open Text

variable {e : Entity} {path : PropertyPath} {p text : String}

theorem underscoreFree_of_path? {id : CompositeId} {head tail : List Char} (hhead : '_' ∉ head)
    (htail : '_' ∉ tail) (h : id.path? head tail = some path) : path.UnderscoreFree := by
  unfold CompositeId.path? at h
  obtain ⟨-, hpath⟩ := Option.ite_none_right_eq_some.mp h
  obtain rfl := Option.some.inj hpath
  simp [PropertyPath.UnderscoreFree, PropertyPath.segments,
    underscoreFree_decapitalizeChars hhead, underscoreFree_decapitalizeChars htail]

theorem underscoreFree_of_underscorePath? {chars : List Char}
    (h : e.underscorePath? chars = some path) : path.UnderscoreFree := by
  unfold underscorePath? at h
  split at h
  · next head tail hpieces =>
    obtain ⟨id, -, hpath⟩ := Option.bind_eq_some_iff.mp h
    -- the two pieces are cut at the marks, so there is none in them
    have hfree : ∀ piece ∈ [head, tail], '_' ∉ piece := hpieces ▸ notMem_of_mem_pieces
    exact underscoreFree_of_path? (hfree head (by simp)) (hfree tail (by simp)) hpath
  · exact absurd h (by simp)

theorem underscoreFree_of_plainPath? {chars : List Char} (hfree : '_' ∉ chars)
    (h : e.plainPath? chars = some path) : path.UnderscoreFree := by
  unfold plainPath? at h
  simp only at h
  split at h
  · -- a text that is a property, or one that is cut into the id and a field
    obtain rfl := Option.some.inj h
    simpa [PropertyPath.UnderscoreFree, PropertyPath.segments] using
      underscoreFree_decapitalizeChars hfree
  · obtain ⟨id, -, hcut⟩ := Option.bind_eq_some_iff.mp h
    obtain ⟨⟨head, tail⟩, hmem, hpath⟩ := List.exists_of_findSome?_eq_some hcut
    rw [← append_of_mem_capitalCuts hmem, List.mem_append, not_or] at hfree
    exact underscoreFree_of_path? hfree.1 hfree.2 hpath

/-- **No text leads over an underscore.** An underscore in a text parts it, and nothing else in it
becomes one. -/
theorem underscoreFree_of_resolveProperty (h : e.resolveProperty text = some path) :
    path.UnderscoreFree := by
  unfold resolveProperty at h
  simp only at h
  split at h
  · exact absurd h (by simp)
  · -- a text with an underscore is read by its own rule
    split at h
    · exact underscoreFree_of_underscorePath? h
    · next hplain => exact underscoreFree_of_plainPath? (by simpa using hplain) h

theorem underscorePath?_ne_own {chars : List Char} : e.underscorePath? chars ≠ some (.own p) := by
  unfold underscorePath?
  split
  · -- a path through an id has two segments, so it is none of a single property
    intro h
    obtain ⟨id, -, hpath⟩ := Option.bind_eq_some_iff.mp h
    unfold CompositeId.path? at hpath
    simpa using (Option.ite_none_right_eq_some.mp hpath).2
  · simp

theorem plainPath?_eq_own_iff {chars : List Char} :
    e.plainPath? chars = some (.own p) ↔
      String.ofList (decapitalizeChars chars) = p ∧ p ∈ e.properties := by
  unfold plainPath?
  simp only
  split
  · next hproperty =>
    have hmem : String.ofList (decapitalizeChars chars) ∈ e.properties := by
      simpa [hasProperty] using hproperty
    simp only [Option.some.injEq, PropertyPath.own.injEq, iff_self_and]
    rintro rfl
    exact hmem
  · -- a path through the id is not a property of its own
    next hproperty =>
    refine iff_of_false (fun h => ?_) fun h => hproperty (by simpa [hasProperty, h.1] using h.2)
    obtain ⟨id, -, hcut⟩ := Option.bind_eq_some_iff.mp h
    obtain ⟨⟨head, tail⟩, -, hpath⟩ := List.exists_of_findSome?_eq_some hcut
    unfold CompositeId.path? at hpath
    simpa using (Option.ite_none_right_eq_some.mp hpath).2

/-- **Texts of a property itself.** They are the ones without an underscore that become the name of
the property with a small first letter. -/
theorem resolveProperty_eq_own_iff :
    e.resolveProperty text = some (.own p) ↔
      text.toList ≠ [] ∧ '_' ∉ text.toList ∧ decapitalize text = p ∧ p ∈ e.properties := by
  unfold resolveProperty decapitalize
  simp only
  split
  · next hempty => simp [List.isEmpty_iff.mp hempty]
  · next hempty =>
    have hne : text.toList ≠ [] := fun h => hempty (List.isEmpty_iff.mpr h)
    split
    · -- with an underscore the text is read as a path through the id, and as nothing else
      next hmark =>
      have hmem : '_' ∈ text.toList := by simpa using hmark
      exact iff_of_false underscorePath?_ne_own fun h => h.2.1 hmem
    · next hmark =>
      have hmem : '_' ∉ text.toList := by simpa using hmark
      simp only [plainPath?_eq_own_iff, ne_eq, hne, hmem, not_false_eq_true, true_and]

/-- **What the text of a property means.** It is the property if and only if no underscore stands in
the name of the property. With an underscore in its name no text means the property, and no path
over the id property leads through it. -/
theorem means_capitalized_iff (hdeclared : p ∈ e.properties) (hsmall : StartsSmall p.toList) :
    ((∃ path, e.resolveProperty (capitalize p) = some path ∧ path.segments = [p] ∧
        path.leaf = p) ↔ '_' ∉ p.toList) ∧
      ('_' ∈ p.toList → ∀ text path, e.resolveProperty text = some path →
        p ∉ path.segments) := by
  have hunspoken : '_' ∈ p.toList → ∀ text path, e.resolveProperty text = some path →
      p ∉ path.segments := fun hmark text path hpath hmem =>
    underscoreFree_of_resolveProperty hpath p hmem hmark
  refine ⟨⟨?_, fun hfree => ?_⟩, hunspoken⟩
  · rintro ⟨path, hpath, hsegments, -⟩ hmark
    exact hunspoken hmark _ path hpath (by simp [hsegments])
  · -- the first letter is a capital, and making it small gives the property back
    refine ⟨.own p, resolveProperty_eq_own_iff.mpr ⟨?_, ?_, ?_, hdeclared⟩, rfl, rfl⟩
    · simpa [capitalize] using hsmall.capitalizeChars_ne_nil
    · simpa [capitalize] using underscoreFree_capitalizeChars hsmall hfree
    · simp [decapitalize, capitalize, decapitalizeChars_capitalizeChars hsmall]

/-- The order date is what `OrderDate` means. -/
theorem means_capitalized_orderDate :
    ("orderDate" ∈ orders.properties ∧ StartsSmall "orderDate".toList) ∧
      ∃ path, orders.resolveProperty (capitalize "orderDate") = some path ∧
        path.segments = ["orderDate"] ∧ path.leaf = "orderDate" :=
  have hdeclared : "orderDate" ∈ orders.properties := by decide
  have hsmall : StartsSmall "orderDate".toList := by decide
  ⟨⟨hdeclared, hsmall⟩, (means_capitalized_iff hdeclared hsmall).1.mpr (by decide)⟩

/-- Users with a property that is spelled with an underscore. -/
def users : Entity where
  schema := Schema.declare "User" "Users"
    [("id", { partitionKey := true }), ("user_name", {})] none
  sound := by decide

/-- **An underscore in a name.** The property is declared, and its own text means nothing. -/
theorem users_unspoken :
    "user_name" ∈ users.properties ∧ StartsSmall "user_name".toList ∧
      capitalize "user_name" = "User_name" ∧ users.resolveProperty "User_name" = none :=
  ⟨by decide, by decide, by decide, by decide⟩

end Entity

end NamedQuery
