import NamedQuery.Proofs.Request.ClosedForm

/-!
# Written conditions are unambiguous

Two builders of one family that start afresh are given some conditions each, and end with the same
text and the same placeholders. Then they were given the same conditions. In the text alone, `AND`
stands between two conditions as well as between the ends of a range, a choice has any number of
values, which may be none, and the attributes and operands are missing. The text is taken apart from
the left:

* `Line.tokens_append_inj` — no line is the start of another one, so it is known where a line ends;
* `Line.map_written_of_join` — the lines of a text, by induction on them;
* `numbered_injective` — the placeholders of a family give back what was numbered;
* `Family.written_injective` — how many operands a condition takes is told by its line, so the
  operands of all conditions can be dealt out again;
* `Builder.writes_alike_iff` — the conditions that were written.
-/

namespace NamedQuery

/-! ### Lines -/

namespace Line

variable {l l' : Line} {lines lines' : List Line} {rest rest' : List Token}

/-- A line is read, unless it is a choice that has no values. -/
theorem IsLaidOut.cases (h : l.IsLaidOut) :
    l.IsReadable ∨ ∃ attr name, l = ⟨.among attr [], name, []⟩ := by
  -- only a list without values cannot be read
  by_cases hchoice : ∀ attr, l.condition ≠ .among attr []
  · exact Or.inl (h.isReadable hchoice)
  · obtain ⟨attr, hattr⟩ : ∃ attr, l.condition = .among attr [] := by simpa using hchoice
    obtain ⟨condition, name, values⟩ := l
    obtain rfl : condition = .among attr [] := hattr
    obtain rfl : values = [] := List.length_eq_zero_iff.mp h.length
    exact Or.inr ⟨attr, name, rfl⟩

/-- Nothing is read where the brackets of a choice are empty. -/
theorem readCondition?_among_nil (attr name : String) :
    readCondition? ((⟨.among attr [], name, []⟩ : Line).tokens ++ rest) = none := rfl

/-- **No line is the start of another one.** -/
theorem tokens_append_inj (h : l.IsLaidOut) (h' : l'.IsLaidOut)
    (heq : l.tokens ++ rest = l'.tokens ++ rest') : l.written = l'.written ∧ rest = rest' := by
  -- what is read in front of the rest is the line, if it is one that can be read
  have hread : readCondition? (l.tokens ++ rest) = readCondition? (l'.tokens ++ rest') :=
    congrArg readCondition? heq
  -- a line can be read unless its list is empty, and then it can be told by that
  rcases h.cases with hl | ⟨attr, name, rfl⟩ <;> rcases h'.cases with hl' | ⟨attr', name', rfl⟩
  · rw [readCondition?_tokens hl, readCondition?_tokens hl'] at hread
    exact Prod.mk.inj (Option.some.inj hread)
  · rw [readCondition?_tokens hl, readCondition?_among_nil] at hread
    exact absurd hread (by simp)
  · rw [readCondition?_tokens hl', readCondition?_among_nil] at hread
    exact absurd hread (by simp)
  · -- both lists are empty, so the lines consist of the name alone
    obtain ⟨hname, hrest⟩ := List.cons.inj heq
    obtain rfl := Token.name.inj hname
    have hempty : [.word .among, .opening, .closing] ++ rest =
        [.word .among, .opening, .closing] ++ rest' := hrest
    exact ⟨rfl, List.append_cancel_left hempty⟩

/-- **The lines of a text.** One text is not the text of other lines. -/
theorem map_written_of_join (h : ∀ l ∈ lines, l.IsLaidOut) (h' : ∀ l ∈ lines', l.IsLaidOut)
    (hne : lines ≠ []) (hne' : lines' ≠ [])
    (heq : NamedQuery.tokens (join lines).toList = NamedQuery.tokens (join lines').toList) :
    lines.map written = lines'.map written := by
  induction lines generalizing lines' with
  | nil => exact absurd rfl hne
  | cons l lines ih =>
    obtain ⟨l', lines', rfl⟩ := List.exists_cons_of_ne_nil hne'
    obtain ⟨hl, hlines⟩ := List.forall_mem_cons.mp h
    obtain ⟨hl', hlines'⟩ := List.forall_mem_cons.mp h'
    -- the first lines are the same, and behind them either nothing is left or an `AND`
    cases lines with
    | nil =>
      cases lines' with
      | nil =>
        rw [tokens_join_singleton hl, tokens_join_singleton hl', ← List.append_nil l.tokens,
          ← List.append_nil l'.tokens] at heq
        rw [List.map_singleton, List.map_singleton, (tokens_append_inj hl hl' heq).1]
      | cons =>
        rw [tokens_join_singleton hl, tokens_join_cons hl', ← List.append_nil l.tokens] at heq
        exact absurd (tokens_append_inj hl hl' heq).2 (by simp)
    | cons =>
      cases lines' with
      | nil =>
        rw [tokens_join_singleton hl', tokens_join_cons hl, ← List.append_nil l'.tokens] at heq
        exact absurd (tokens_append_inj hl hl' heq).2 (by simp)
      | cons =>
        rw [tokens_join_cons hl, tokens_join_cons hl'] at heq
        obtain ⟨hfirst, hrest⟩ := tokens_append_inj hl hl' heq
        rw [List.map_cons, hfirst, ih hlines hlines' (by simp) (by simp) (List.cons.inj hrest).2]
        rfl

/-- Nothing but no lines is written as no text. -/
theorem map_written_of_joined? (h : ∀ l ∈ lines, l.IsLaidOut) (h' : ∀ l ∈ lines', l.IsLaidOut)
    (heq : joined? " AND " ((lines.map written).map Written.text) =
      joined? " AND " ((lines'.map written).map Written.text)) :
    lines.map written = lines'.map written := by
  rw [joined?_written h, joined?_written h'] at heq
  -- both texts are empty, or both are joined lines
  split at heq <;> split at heq
  · next hnil hnil' => rw [hnil, hnil']
  · exact absurd heq (by simp)
  · exact absurd heq (by simp)
  · next hne hne' =>
    have htext := congrArg (fun text => NamedQuery.tokens text.toList) (Option.some.inj heq)
    exact map_written_of_join h h' hne hne' htext

end Line

/-! ### Numbers -/

/-- **Rows with the same entries are the same.** -/
theorem numbered_injective {α : Type} {name : Nat → String} (hname : Function.Injective name)
    {n : Nat} {as bs : List α}
    (h : ∀ s, (numbered name n as).get? s = (numbered name n bs).get? s) : as = bs := by
  refine List.ext_getElem? fun i => ?_
  rw [← get?_numbered hname n, h, get?_numbered hname n]

namespace Family

variable {family : Family} {n m : Nat}

/-- **Requirements are told** by how they are written and by what their placeholders stand for. -/
theorem written_injective {rs rs' : List Requirement}
    (hwritten : family.written n m rs = family.written n m rs')
    (hattrs : rs.map Requirement.attr = rs'.map Requirement.attr)
    (hoperands : rs.flatMap Requirement.operands = rs'.flatMap Requirement.operands) :
    rs = rs' := by
  -- the induction is on the requirements, with the numbers moving on by what each of them uses
  induction rs generalizing n m rs' with
  | nil =>
    obtain rfl : rs' = [] := by simpa using hattrs.symm
    rfl
  | cons r rs ih =>
    cases rs' with
    | nil => exact absurd hattrs (by simp)
    | cons r' rs' =>
      obtain ⟨hfirst, hrest⟩ := List.cons.inj hwritten
      obtain ⟨hattr, hattrs⟩ := List.cons.inj hattrs
      -- the first line says which operator the first requirement has
      obtain ⟨hoperator, -, hvalues⟩ := Written.mk.inj hfirst
      -- the first requirement has as many operands as placeholders
      have hlength : r.operands.length = r'.operands.length := by
        simpa using congrArg List.length hvalues
      rw [List.flatMap_cons, List.flatMap_cons] at hoperands
      obtain ⟨hown, hothers⟩ := List.append_inj hoperands hlength
      rw [hlength] at hrest
      rw [ih hrest hattrs hothers]
      obtain ⟨attr, operator, operands⟩ := r
      obtain rfl : attr = r'.attr := hattr
      obtain rfl : operator = r'.operator := hoperator
      obtain rfl : operands = r'.operands := hown
      rfl

end Family

/-! ### Conditions -/

/-- The condition that asks for a requirement. -/
def Requirement.condition? (r : Requirement) : Option Condition :=
  match r.operator, r.operands with
  | .equals, [v] => some (.compare r.attr .equal v)
  | .notEquals, [v] => some (.compare r.attr .notEqual v)
  | .lessThan, [v] => some (.compare r.attr .less v)
  | .lessThanEqual, [v] => some (.compare r.attr .lessOrEqual v)
  | .greaterThan, [v] => some (.compare r.attr .greater v)
  | .greaterThanEqual, [v] => some (.compare r.attr .greaterOrEqual v)
  | .between, [low, high] => some (.between r.attr low high)
  | .among, vs => some (.among r.attr vs)
  | .startingWith, [v] => some (.beginsWith r.attr v)
  | .containing, [v] => some (.contains r.attr v)
  | .notContaining, [v] => some (.notContains r.attr v)
  | .isNotNull, [] => some (.attributeExists r.attr)
  | .isNull, [] => some (.attributeMissing r.attr)
  | _, _ => none

theorem Condition.condition?_requirement (c : Condition) : c.requirement.condition? = some c := by
  cases c with
  | compare attr comparator v => cases comparator <;> rfl
  | _ => rfl

/-- A condition is told by what it asks for. -/
theorem Condition.requirement_injective : Function.Injective Condition.requirement := by
  intro c c' h
  refine Option.some.inj ?_
  rw [← c.condition?_requirement, ← c'.condition?_requirement, h]

namespace Builder

/-- **Written conditions are unambiguous.** Whatever conditions are written one after the other, by
builders of one family that start without placeholders, the text and the placeholders they end with
are those of these conditions and of no others, in this order and with these attributes and
operands. -/
theorem writes_alike_iff (family : Family) (cs cs' : List Condition) :
    (((start family {}).addAll cs).expression? = ((start family {}).addAll cs').expression? ∧
      (∀ name, ((start family {}).addAll cs).placeholders.names.get? name =
        ((start family {}).addAll cs').placeholders.names.get? name) ∧
      ∀ name, ((start family {}).addAll cs).placeholders.values.get? name =
        ((start family {}).addAll cs').placeholders.values.get? name) ↔ cs = cs' := by
  -- only the way from what is written to the conditions has to be shown
  refine ⟨fun h => ?_, fun h => h ▸ ⟨rfl, fun _ => rfl, fun _ => rfl⟩⟩
  obtain ⟨hopen, -⟩ := start_wrote (Placeholders.free_empty family)
  rw [addAll_eq hopen, addAll_eq hopen, expression?_eq, expression?_eq] at h
  obtain ⟨htext, hnames, hvalues⟩ := h
  -- the text is a joined row of lines, which can be taken apart again
  obtain ⟨lines, hlines, -, hwritten⟩ := family.exists_lines 0 0 cs
  obtain ⟨lines', hlines', -, hwritten'⟩ := family.exists_lines 0 0 cs'
  have hsame : family.written 0 0 (cs.map Condition.requirement) =
      family.written 0 0 (cs'.map Condition.requirement) := by
    rw [← hwritten, ← hwritten']
    refine Line.map_written_of_joined? hlines hlines' ?_
    rw [hwritten, hwritten']
    exact htext
  -- the placeholders of a fresh builder are one row of names and one of values
  have hattrs := numbered_injective family.name_injective hnames
  have hoperands := numbered_injective family.value_injective hvalues
  have hrequirements := Family.written_injective hsame hattrs hoperands
  exact (List.map_injective_iff.mpr Condition.requirement_injective) hrequirements

/-- A range is not taken for two conditions, nor the brackets of a choice for a value. -/
example : ((start .filter {}).addAll [.between "from" (.text "a") (.text "b"), .among "to" [],
      .compare "to" .equal .null]).expression? =
    some "#n0 BETWEEN :v0 AND :v1 AND #n1 IN () AND #n2 = :v2" := by decide

end Builder

end NamedQuery
