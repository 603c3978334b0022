import Mathlib.Data.List.Nodup
import Mathlib.Data.List.Perm.Basic
import NamedQuery.Proofs.Request.Projection

/-!
# The closed form of built requests

A request is written by three builders one after the other. They share its placeholders, but each
has counters of its own, and a condition moves them at different speeds: it takes one name, and no
value, or one, or two, or as many as a choice has. What comes out does not show these steps. Every
part of a request is a formula in the requirements that it was built for:

* `numbered` — names and values under the placeholders of a family, in order;
* `Family.written` — requirements as conditions, each with the placeholders it takes;
* `Written.text`, `joined?` — the text of a condition and of several of them;
* `occurrences` — the placeholders in a text, as a store finds them;
* `PagedRequest.HasClosedForm` — the formulas for a whole request.

A builder adds to the end of what is there (`Builder.add_eq`), so after any number of conditions it
is what it was at the start followed by the formulas for them (`Builder.addAll_eq`).
`Request.closed_form` puts the three builders together.
-/

namespace NamedQuery

/-! ### Numbering -/

/-- Some values under the names with the numbers from `n` on. -/
def numbered {α : Type} (name : Nat → String) (n : Nat) (as : List α) : Fields α :=
  (as.zipIdx n).map fun (a, i) => (name i, a)

theorem numbered_append {α : Type} (name : Nat → String) (n : Nat) (as bs : List α) :
    numbered name n (as ++ bs) = numbered name n as ++ numbered name (n + as.length) bs := by
  rw [numbered, List.zipIdx_append, List.map_append]
  rfl

theorem numbered_nil {α : Type} (name : Nat → String) (n : Nat) :
    numbered name n ([] : List α) = [] := rfl

theorem numbered_cons {α : Type} (name : Nat → String) (n : Nat) (a : α) (as : List α) :
    numbered name n (a :: as) = numbered name n [a] ++ numbered name (n + 1) as :=
  numbered_append name n [a] as

/-- The numbers do not depend on the values. -/
theorem numbered_map {α β : Type} (f : α → β) (name : Nat → String) (n : Nat) (as : List α) :
    numbered name n (as.map f) = (numbered name n as).mapValues f := by
  induction as generalizing n with
  | nil => rfl
  | cons a as ih =>
    rw [List.map_cons, numbered_cons, ih, numbered_cons name n a as]
    rfl

/-- The names do not depend on the values. -/
theorem names_numbered {α : Type} (name : Nat → String) (n : Nat) (as : List α) :
    (numbered name n as).names = (List.range' n as.length).map name := by
  rw [← List.zipIdx_map_snd, Fields.names, numbered, List.map_map, List.map_map]
  rfl

/-- What a placeholder of a row stands for. -/
theorem get?_numbered {α : Type} {name : Nat → String} (hname : Function.Injective name) (n : Nat)
    (as : List α) (i : Nat) : (numbered name n as).get? (name (n + i)) = as[i]? := by
  induction as generalizing n i with
  | nil => rfl
  | cons a as ih =>
    have hrow : numbered name n (a :: as) = (name n, a) :: numbered name (n + 1) as := rfl
    rw [hrow, Fields.get?_cons]
    -- the first row has the first number, and no later one has it
    cases i with
    | zero => rw [Nat.add_zero, if_pos rfl, List.getElem?_cons_zero]
    | succ i =>
      have hne : name n ≠ name (n + (i + 1)) := fun heq => by
        have := hname heq
        omega
      rw [if_neg hne, List.getElem?_cons_succ, ← ih (n + 1) i, Nat.add_right_comm n 1 i,
        Nat.add_assoc n i 1]

/-- Every name of a row has a number. -/
theorem exists_of_get?_numbered {α : Type} {name : Nat → String}
    (hname : Function.Injective name) {n : Nat} {as : List α} {s : String} {a : α}
    (h : (numbered name n as).get? s = some a) : ∃ i, s = name (n + i) ∧ as[i]? = some a := by
  have hmem : s ∈ (numbered name n as).names := Fields.mem_names_iff_get?.mpr ⟨a, h⟩
  rw [names_numbered] at hmem
  obtain ⟨j, hj, rfl⟩ := List.mem_map.mp hmem
  obtain ⟨hle, -⟩ := List.mem_range'_1.mp hj
  refine ⟨j - n, by rw [Nat.add_sub_cancel' hle], ?_⟩
  rw [← get?_numbered hname n, Nat.add_sub_cancel' hle, h]

namespace Family

theorem name_injective (family : Family) : Function.Injective family.name :=
  fun _ _ h => (name_eq_iff.mp h).2

theorem value_injective (family : Family) : Function.Injective family.value :=
  fun _ _ h => (value_eq_iff.mp h).2

end Family

/-- Some requirements as conditions with the placeholders of a family. Every condition takes the
next name, and its values begin behind those of the condition before it. -/
def Family.written (family : Family) (n m : Nat) : List Requirement → List Written
  | [] => []
  | r :: rs =>
    { operator := r.operator, name := family.name n
      values := (List.range' m r.operands.length).map family.value } ::
      family.written (n + 1) (m + r.operands.length) rs

namespace Family

variable {family family' : Family} {n m : Nat} {rs : List Requirement}

theorem written_append (rs rs' : List Requirement) :
    family.written n m (rs ++ rs') =
      family.written n m rs ++
        family.written (n + rs.length) (m + (rs.flatMap Requirement.operands).length) rs' := by
  induction rs generalizing n m with
  | nil => rfl
  | cons r rs ih =>
    -- both counters have moved past the first condition
    rw [List.cons_append, written, ih, List.length_cons, List.flatMap_cons, List.length_append,
      ← Nat.add_assoc m, Nat.add_assoc n, Nat.add_comm 1]
    rfl

/-- The names that the conditions take are the next ones. -/
theorem map_name_written :
    (family.written n m rs).map Written.name = (List.range' n rs.length).map family.name := by
  induction rs generalizing n m with
  | nil => rfl
  | cons r rs ih =>
    rw [written, List.map_cons, ih]
    rfl

/-- The values that the conditions take are the next ones. -/
theorem flatMap_values_written :
    (family.written n m rs).flatMap Written.values =
      (List.range' m (rs.flatMap Requirement.operands).length).map family.value := by
  induction rs generalizing n m with
  | nil => rfl
  | cons r rs ih =>
    -- the values of the first condition end where the other ones begin
    rw [written, List.flatMap_cons, ih, ← List.map_append, List.range'_append_1,
      List.flatMap_cons, List.length_append]

end Family

/-! ### Texts -/

/-- The text of a condition. -/
def Written.text (w : Written) : String :=
  match w.operator, w.values with
  | .equals, [v] => w.name ++ " = " ++ v
  | .notEquals, [v] => w.name ++ " <> " ++ v
  | .lessThan, [v] => w.name ++ " < " ++ v
  | .lessThanEqual, [v] => w.name ++ " <= " ++ v
  | .greaterThan, [v] => w.name ++ " > " ++ v
  | .greaterThanEqual, [v] => w.name ++ " >= " ++ v
  | .between, [low, high] => w.name ++ " BETWEEN " ++ low ++ " AND " ++ high
  | .among, vs => w.name ++ " IN (" ++ ", ".intercalate vs ++ ")"
  | .startingWith, [v] => "begins_with(" ++ w.name ++ ", " ++ v ++ ")"
  | .containing, [v] => "contains(" ++ w.name ++ ", " ++ v ++ ")"
  | .notContaining, [v] => "NOT contains(" ++ w.name ++ ", " ++ v ++ ")"
  | .isNotNull, _ => "attribute_exists(" ++ w.name ++ ")"
  | .isNull, _ => "attribute_not_exists(" ++ w.name ++ ")"
  | _, _ => w.name

/-- Some texts with a separator between them, if there are any. -/
def joined? (separator : String) : List String → Option String
  | [] => none
  | text :: texts => some (separator.intercalate (text :: texts))

/-- A condition has the text of its operator. -/
theorem Condition.write_eq {c : Condition} {name : String} {values : List String}
    (h : values.length = c.operands.length) :
    c.write name values = Written.text ⟨c.operator, name, values⟩ := by
  -- what is written has the form of its operator, with as many values
  cases c with
  | compare attr comparator x =>
    obtain ⟨v, rfl⟩ := List.length_eq_one_iff.mp h
    have hsign : name ++ " " ++ comparator.sign ++ " " ++ v =
        name ++ (" " ++ comparator.sign ++ " ") ++ v := by
      simp only [String.append_assoc]
    -- with the blanks around it, the sign is a literal of the other text
    show name ++ " " ++ comparator.sign ++ " " ++ v = _
    rw [hsign]
    cases comparator <;> rfl
  | between attr x y =>
    obtain ⟨low, high, rfl⟩ := List.length_eq_two.mp h
    rfl
  | among attr xs => rfl
  | beginsWith | contains | notContains =>
    obtain ⟨v, rfl⟩ := List.length_eq_one_iff.mp h
    rfl
  | attributeExists | attributeMissing => rfl

/-! ### Builders -/

/-- A placeholder is no array index. -/
theorem IsPlaceholder.index?_eq_none {mark : Char} {s : String} (h : IsPlaceholder mark s)
    (hmark : mark.isDigit = false) : Fields.index? s = none := by
  obtain ⟨run, hs, -⟩ := h
  have hne : mark ≠ '0' := by
    rintro rfl
    exact absurd hmark (by decide)
  -- the first character decides: a numeral begins with a digit
  unfold Fields.index?
  rw [hs]
  split
  · rfl
  · next heq => exact absurd (List.cons.inj heq).1 hne
  · next heq => exact absurd (List.cons.inj heq).1 hne
  · rw [List.all_cons, hmark]
    rfl

namespace Builder

variable {b : Builder}

/-- A builder after some more conditions, as one formula in what they ask for. -/
def after (b : Builder) (rs : List Requirement) : Builder where
  family := b.family
  nameCount := b.nameCount + rs.length
  valueCount := b.valueCount + (rs.flatMap Requirement.operands).length
  conditions :=
    b.conditions ++ (b.family.written b.nameCount b.valueCount rs).map Written.text
  placeholders :=
    { names := b.placeholders.names ++
        numbered b.family.name b.nameCount (rs.map Requirement.attr)
      values := b.placeholders.values ++
        numbered b.family.value b.valueCount (rs.flatMap Requirement.operands) }

theorem after_nil : b.after [] = b := by
  obtain ⟨family, nameCount, valueCount, conditions, names, values⟩ := b
  simp [after, Family.written, numbered]

theorem after_append (rs rs' : List Requirement) :
    b.after (rs ++ rs') = (b.after rs).after rs' := by
  simp only [after, Family.written_append, numbered_append, List.map_append, List.flatMap_append,
    List.length_append, List.length_map, List.append_assoc, Nat.add_assoc]

/-- A new name stands behind the others. -/
theorem addName_eq (h : b.IsOpen) (attr : String) :
    b.addName attr =
      (b.family.name b.nameCount,
        { b with
          nameCount := b.nameCount + 1
          placeholders := { b.placeholders with
            names := b.placeholders.names ++ numbered b.family.name b.nameCount [attr] } }) := by
  have hindex := (Family.name_isPlaceholder b.family b.nameCount).index?_eq_none rfl
  rw [addName, Fields.insert_of_new (h.names _ (Nat.le_refl _)) hindex]
  rfl

theorem addValue_eq (h : b.IsOpen) (v : Value) :
    b.addValue v =
      (b.family.value b.valueCount,
        { b with
          valueCount := b.valueCount + 1
          placeholders := { b.placeholders with
            values := b.placeholders.values ++ numbered b.family.value b.valueCount [v] } }) := by
  have hindex := (Family.value_isPlaceholder b.family b.valueCount).index?_eq_none rfl
  rw [addValue, Fields.insert_of_new (h.values _ (Nat.le_refl _)) hindex]
  rfl

theorem addValues_eq (h : b.IsOpen) (vs : List Value) :
    b.addValues vs =
      ((List.range' b.valueCount vs.length).map b.family.value,
        { b with
          valueCount := b.valueCount + vs.length
          placeholders := { b.placeholders with
            values := b.placeholders.values ++ numbered b.family.value b.valueCount vs } }) := by
  induction vs generalizing b with
  | nil => simp [addValues, numbered]
  | cons v vs ih =>
    have hopen := (addValue_grows h v).isOpen
    rw [addValues_cons, ih hopen, addValue_eq h]
    simp [numbered, List.range'_succ, Nat.add_assoc, Nat.add_comm 1]

/-- **One step.** A condition takes the next name and the next values, and its text stands behind
the others. -/
theorem add_eq (h : b.IsOpen) (c : Condition) : b.add c = b.after [c.requirement] := by
  have hopen := (addName_grows h c.attr).isOpen
  have hwrite : c.write (b.family.name b.nameCount)
      ((List.range' b.valueCount c.operands.length).map b.family.value) = Written.text _ :=
    Condition.write_eq (by simp)
  -- the builder that has taken the values gets the text
  show ({ ((b.addName c.attr).2.addValues c.operands).2 with
    conditions := ((b.addName c.attr).2.addValues c.operands).2.conditions ++
      [c.write (b.addName c.attr).1 ((b.addName c.attr).2.addValues c.operands).1] } : Builder) = _
  rw [addValues_eq hopen, addName_eq h]
  simp [after, Condition.requirement, Family.written, hwrite]

/-- **Every step.** -/
theorem addAll_eq (h : b.IsOpen) (cs : List Condition) :
    b.addAll cs = b.after (cs.map Condition.requirement) := by
  induction cs generalizing b with
  | nil => exact after_nil.symm
  | cons c cs ih =>
    -- a builder that has taken a condition is as open as before
    have hopen : (b.after [c.requirement]).IsOpen := by
      rw [← add_eq h]
      exact (add_grows h c).isOpen
    show (b.add c).addAll cs = _
    rw [add_eq h, ih hopen, ← after_append]
    rfl

theorem expression?_eq (b : Builder) : b.expression? = joined? " AND " b.conditions := by
  unfold expression?
  cases b.conditions <;> rfl

/-- Attribute names that are added in a row take the next numbers. -/
theorem foldl_addName_eq (h : b.IsOpen) (attr : String → String) (properties names : List String) :
    properties.foldl (fun named property =>
      let added := Builder.addName named.2 (attr property)
      (named.1 ++ [added.1], added.2)) (names, b) =
      (names ++ (List.range' b.nameCount properties.length).map b.family.name,
        { b with
          nameCount := b.nameCount + properties.length
          placeholders := { b.placeholders with
            names := b.placeholders.names ++
              numbered b.family.name b.nameCount (properties.map attr) } }) := by
  induction properties generalizing b names with
  | nil => simp [numbered]
  | cons property properties ih =>
    have hopen := (addName_grows h (attr property)).isOpen
    rw [List.foldl_cons, ih hopen, addName_eq h]
    simp [numbered, List.range'_succ, Nat.add_assoc, Nat.add_comm 1]

end Builder

/-! ### Occurrences -/

/-- The placeholder that a token is. -/
def Token.placeholder? : Token → Option String
  | name placeholder | value placeholder => some placeholder
  | _ => none

/-- The placeholders in a text, each as often as it stands there. -/
def occurrences (text : String) : List String :=
  (tokens text.toList).filterMap Token.placeholder?

namespace Line

variable {l : Line}

theorem placeholders_valueTokens (vs : List String) :
    (valueTokens vs).filterMap Token.placeholder? = vs := by
  fun_induction valueTokens vs with
  | case1 => rfl
  | case2 => rfl
  | case3 v v' vs ih =>
    show v :: (valueTokens (v' :: vs)).filterMap Token.placeholder? = _
    rw [ih]

/-- A line holds its own placeholders, each once. -/
theorem placeholders_tokens (h : l.IsReadable) :
    l.tokens.filterMap Token.placeholder? = l.name :: l.values := by
  obtain ⟨condition, name, values⟩ := l
  have hlength := h.length
  -- with as many values as operands, the tokens have the form of the operator
  cases condition with
  | compare | beginsWith | contains | notContains =>
    obtain ⟨v, rfl⟩ := List.length_eq_one_iff.mp hlength
    rfl
  | between attr x y =>
    obtain ⟨low, high, rfl⟩ := List.length_eq_two.mp hlength
    rfl
  | among attr xs =>
    show name :: (valueTokens values).filterMap Token.placeholder? = _
    rw [placeholders_valueTokens]
  | attributeExists | attributeMissing =>
    obtain rfl := List.length_eq_zero_iff.mp hlength
    rfl

/-- Joined lines hold the placeholders of each. -/
theorem occurrences_join {lines : List Line} (h : ∀ l ∈ lines, l.IsReadable) (hne : lines ≠ []) :
    occurrences (join lines) = lines.flatMap fun l => l.name :: l.values := by
  induction lines with
  | nil => exact absurd rfl hne
  | cons l lines ih =>
    have hl : l.IsReadable := h l (by simp)
    -- a single line is written as it is, two of them with `AND` in between
    cases lines with
    | nil =>
      rw [occurrences, tokens_join_singleton hl.isLaidOut, placeholders_tokens hl,
        List.flatMap_singleton]
    | cons l' lines =>
      have hrest := ih (fun l'' hl'' => h l'' (List.mem_cons_of_mem _ hl'')) (by simp)
      rw [occurrences, tokens_join_cons hl.isLaidOut, List.filterMap_append, placeholders_tokens hl,
        List.flatMap_cons, ← hrest]
      rfl

/-- What is written in lines is one text of them, if there are any. -/
theorem joined?_written {lines : List Line} (h : ∀ l ∈ lines, l.IsLaidOut) :
    joined? " AND " ((lines.map written).map Written.text) =
      if lines = [] then none else some (join lines) := by
  have htexts : (lines.map written).map Written.text = lines.map text := by
    rw [List.map_map]
    exact List.map_congr_left fun l hl => (Condition.write_eq (h l hl).length).symm
  rw [htexts]
  -- no line gives no text, and at least one gives the joined one
  cases lines with
  | nil => rfl
  | cons l lines => rfl

end Line

namespace Family

variable {cs : List Condition}

/-- Conditions are written in lines of their own, with what they ask for. -/
theorem exists_lines (family : Family) (n m : Nat) (cs : List Condition) :
    ∃ lines : List Line, (∀ l ∈ lines, l.IsLaidOut) ∧ lines.map Line.condition = cs ∧
      lines.map Line.written = family.written n m (cs.map Condition.requirement) := by
  induction cs generalizing n m with
  | nil => exact ⟨[], by simp, rfl, rfl⟩
  | cons c cs ih =>
    obtain ⟨lines, hlines, hconditions, hwritten⟩ := ih (n + 1) (m + c.operands.length)
    refine ⟨⟨c, family.name n, (List.range' m c.operands.length).map family.value⟩ :: lines,
      fun l hl => ?_, by rw [List.map_cons, hconditions], by rw [List.map_cons, hwritten]; rfl⟩
    -- the numbers of the first line are its own, and those of the rest start behind them
    rcases List.mem_cons.mp hl with rfl | hl
    · refine ⟨name_isPlaceholder family n, fun v hv => ?_, by simp⟩
      obtain ⟨i, -, rfl⟩ := List.mem_map.mp hv
      exact value_isPlaceholder family i
    · exact hlines l hl

/-- Conditions are written as one text of such lines. -/
theorem exists_join (family : Family) (n m : Nat) (hcs : ∀ c ∈ cs, ∀ attr, c ≠ .among attr []) :
    ∃ lines : List Line, (∀ l ∈ lines, l.IsReadable) ∧
      lines.map Line.written = family.written n m (cs.map Condition.requirement) ∧
      joined? " AND " ((family.written n m (cs.map Condition.requirement)).map Written.text) =
        if lines = [] then none else some (Line.join lines) := by
  obtain ⟨lines, hlines, rfl, hwritten⟩ := family.exists_lines n m cs
  refine ⟨lines, fun l hl => (hlines l hl).isReadable ?_, hwritten, ?_⟩
  · exact hcs l.condition (List.mem_map_of_mem hl)
  · rw [← hwritten, Line.joined?_written hlines]

/-- **An expression holds the placeholders of its conditions.** -/
theorem occurrences_written (family : Family) (n m : Nat)
    (hcs : ∀ c ∈ cs, ∀ attr, c ≠ .among attr []) :
    (joined? " AND " ((family.written n m (cs.map Condition.requirement)).map
        Written.text)).toList.flatMap occurrences =
      (family.written n m (cs.map Condition.requirement)).flatMap fun w => w.name :: w.values := by
  obtain ⟨lines, hlines, hwritten, hjoin⟩ := family.exists_join n m hcs
  rw [hjoin, ← hwritten, List.flatMap_map]
  split
  -- without conditions there is no expression
  · next hempty =>
    rw [hempty]
    rfl
  · next hne => exact (List.flatMap_singleton _ _).trans (Line.occurrences_join hlines hne)

/-- A list of names holds these names. -/
theorem occurrences_names (family : Family) (ns : List Nat) :
    (joined? ", " (ns.map family.name)).toList.flatMap occurrences = ns.map family.name := by
  -- without names there is no text, so the induction is on what follows a first name
  suffices hjoin : ∀ n ns, occurrences (", ".intercalate ((n :: ns).map family.name)) =
      (n :: ns).map family.name by
    cases ns with
    | nil => rfl
    | cons n ns => exact (List.flatMap_singleton _ _).trans (hjoin n ns)
  intro n ns
  induction ns generalizing n with
  -- between two names there is a comma, which is no placeholder
  | nil =>
    rw [List.map_singleton, String.intercalate_singleton, occurrences,
      tokens_name (family.name_isPlaceholder n)]
    rfl
  | cons n' ns ih =>
    rw [List.map_cons, List.map_cons, occurrences, tokens_names_cons (family.name_isPlaceholder n)]
    exact congrArg (family.name n :: ·) (ih n')

end Family

/-! ### Different placeholders -/

namespace Family

/-! Placeholders that tell their family and number apart, as names and values do. -/

section

variable {placeholder : Family → Nat → String}
  (hplaceholder : ∀ {family family' m n}, placeholder family m = placeholder family' n ↔
    family = family' ∧ m = n)

include hplaceholder

theorem row_nodup (family : Family) (n k : Nat) :
    ((List.range' n k).map (placeholder family)).Nodup :=
  List.Nodup.map (fun _ _ h => (hplaceholder.mp h).2) List.nodup_range'

theorem rows_disjoint {family family' : Family} (h : family ≠ family') (ns ns' : List Nat) :
    (ns.map (placeholder family)).Disjoint (ns'.map (placeholder family')) := by
  intro s hmem hmem'
  obtain ⟨i, -, rfl⟩ := List.mem_map.mp hmem
  obtain ⟨j, -, heq⟩ := List.mem_map.mp hmem'
  exact h (hplaceholder.mp heq).1.symm

end

/-- The names of the three families are all different. -/
theorem nameRows_nodup (keys filters listed : Nat) :
    ((List.range' 0 keys).map key.name ++ (List.range' 0 filters).map filter.name ++
      (List.range' 0 listed).map projection.name).Nodup := by
  -- rows of one family number apart, and rows of different families have different marks
  refine List.Nodup.append (.append ?_ ?_ ?_) ?_ ?_
  · exact row_nodup name_eq_iff _ _ _
  · exact row_nodup name_eq_iff _ _ _
  · exact rows_disjoint name_eq_iff (by decide) _ _
  · exact row_nodup name_eq_iff _ _ _
  · exact List.disjoint_append_left.mpr
      ⟨rows_disjoint name_eq_iff (by decide) _ _, rows_disjoint name_eq_iff (by decide) _ _⟩

/-- No name is a value: they have different marks. -/
theorem name_ne_value (family family' : Family) (i j : Nat) :
    family.name i ≠ family'.value j := by
  intro heq
  obtain ⟨run, hname, -⟩ := name_isPlaceholder family i
  obtain ⟨run', hvalue, -⟩ := value_isPlaceholder family' j
  have hmarks : '#' :: run = ':' :: run' := by rw [← hname, heq, hvalue]
  exact absurd (List.cons.inj hmarks).1 (by decide)

end Family

/-! ### Requests -/

namespace PagedRequest

/-- The condition on the keys, if a request has one. -/
def keyCondition? : PagedRequest → Option String
  | query r => some r.keyCondition
  | scan _ => none

/-- The expressions of a request. -/
def expressions (r : PagedRequest) : List String :=
  r.keyCondition?.toList ++ (r.shared.filter.toList ++ r.shared.projection.toList)

/-- The placeholders that a request defines. -/
def placeholders (r : PagedRequest) : List String :=
  r.shared.placeholders.names.names ++ r.shared.placeholders.values.names

/-- Every placeholder that is defined stands in the expressions once, and no other one stands
there. -/
def UsesOnce (r : PagedRequest) : Prop :=
  ∀ placeholder, (r.expressions.flatMap occurrences).count placeholder =
    if placeholder ∈ r.placeholders then 1 else 0

/-- The formulas for a request without a static filter, in the requirements of its key conditions
and of its filters. -/
structure HasClosedForm (e : Entity) (options : RequestOptions) (keys filters : List Requirement)
    (r : PagedRequest) : Prop where
  names : r.shared.placeholders.names =
    numbered Family.key.name 0 (keys.map Requirement.attr) ++
      numbered Family.filter.name 0 (filters.map Requirement.attr) ++
      numbered Family.projection.name 0 (options.projection.map e.attributeName)
  values : r.shared.placeholders.values =
    numbered Family.key.value 0 (keys.flatMap Requirement.operands) ++
      numbered Family.filter.value 0 (filters.flatMap Requirement.operands)
  keyCondition : r.keyCondition? =
    joined? " AND " ((Family.key.written 0 0 keys).map Written.text)
  filter : r.shared.filter =
    joined? " AND " ((Family.filter.written 0 0 filters).map Written.text)
  projection : r.shared.projection =
    joined? ", " ((List.range' 0 options.projection.length).map Family.projection.name)

namespace HasClosedForm

variable {e : Entity} {options : RequestOptions} {keys filters : List Requirement}
  {r : PagedRequest}

/-- The names that are defined are numbered in three rows. -/
theorem names_names (h : r.HasClosedForm e options keys filters) :
    r.shared.placeholders.names.names =
      (List.range' 0 keys.length).map Family.key.name ++
        (List.range' 0 filters.length).map Family.filter.name ++
        (List.range' 0 options.projection.length).map Family.projection.name := by
  rw [h.names, Fields.names_append, Fields.names_append]
  simp only [names_numbered, List.length_map]

/-- The values that are defined are numbered in two rows. -/
theorem values_names (h : r.HasClosedForm e options keys filters) :
    r.shared.placeholders.values.names =
      (List.range' 0 (keys.flatMap Requirement.operands).length).map Family.key.value ++
        (List.range' 0 (filters.flatMap Requirement.operands).length).map Family.filter.value := by
  rw [h.values, Fields.names_append, names_numbered, names_numbered]

/-- No placeholder is defined twice. -/
theorem placeholders_nodup (h : r.HasClosedForm e options keys filters) :
    r.placeholders.Nodup := by
  rw [placeholders, h.names_names, h.values_names]
  refine List.Nodup.append (Family.nameRows_nodup _ _ _) (.append ?_ ?_ ?_) ?_
  · exact Family.row_nodup Family.value_eq_iff _ _ _
  · exact Family.row_nodup Family.value_eq_iff _ _ _
  · exact Family.rows_disjoint Family.value_eq_iff (by decide) _ _
  · -- the rows of names come before those of values, and their marks differ
    intro placeholder hname hvalue
    simp only [List.mem_append, List.mem_map] at hname hvalue
    rcases hname with (⟨i, -, rfl⟩ | ⟨i, -, rfl⟩) | ⟨i, -, rfl⟩ <;>
      rcases hvalue with ⟨j, -, hj⟩ | ⟨j, -, hj⟩ <;>
      exact Family.name_ne_value _ _ _ _ hj.symm

/-- **The expressions hold every placeholder once**: conditions come with the placeholders they
take, and these are all that are defined. -/
theorem usesOnce {cs cs' : List Condition}
    (h : r.HasClosedForm e options (cs.map Condition.requirement) (cs'.map Condition.requirement))
    (hcs : ∀ c ∈ cs, ∀ attr, c ≠ .among attr []) (hcs' : ∀ c ∈ cs', ∀ attr, c ≠ .among attr []) :
    r.UsesOnce := by
  intro placeholder
  rw [← h.placeholders_nodup.count]
  -- the placeholders of a family stand condition by condition in its expression
  have hkeys := List.map_append_flatMap_perm
    (Family.key.written 0 0 (cs.map Condition.requirement)) Written.name Written.values
  have hfilters := List.map_append_flatMap_perm
    (Family.filter.written 0 0 (cs'.map Condition.requirement)) Written.name Written.values
  rw [Family.map_name_written, Family.flatMap_values_written] at hkeys hfilters
  -- what is left is to add up the rows, which stand in another order on both sides
  have hk := hkeys.count_eq placeholder
  have hf := hfilters.count_eq placeholder
  rw [expressions, List.flatMap_append, List.flatMap_append, h.keyCondition, h.filter,
    h.projection, Family.key.occurrences_written 0 0 hcs,
    Family.filter.occurrences_written 0 0 hcs', Family.projection.occurrences_names,
    placeholders, h.names_names, h.values_names]
  simp only [List.count_append] at hk hf ⊢
  omega

end HasClosedForm

end PagedRequest

namespace Request

variable {e : Entity} {options : RequestOptions} {plan : RequestPlan} {args : List Value}
  {p : Placeholders}

/-- The listed properties take their names behind the other ones. -/
theorem projection_eq (h : p.Free .projection 0 0) :
    projection e options p =
      (joined? ", " ((List.range' 0 options.projection.length).map Family.projection.name),
        { p with
          names := p.names ++
            numbered Family.projection.name 0 (options.projection.map e.attributeName) }) := by
  have hfold := Builder.foldl_addName_eq (Builder.start_wrote h).1 e.attributeName
    options.projection []
  unfold projection
  cases hproperties : options.projection with
  | nil => simp [numbered, joined?]
  | cons property properties =>
    rw [hproperties] at hfold
    -- the text and the placeholders are read off what the fold leaves
    exact congrArg (fun named : List String × Builder =>
      (some (", ".intercalate named.1), named.2.placeholders)) hfold

/-- What queries and scans share, as formulas in the conditions of the filters. -/
theorem reading_eq {r : ScanRequest} (hstatic : options.staticFilter? = none)
    (hfilter : p.Free .filter 0 0) (hprojection : p.Free .projection 0 0)
    (h : reading e options plan args p = .ok r) :
    ∃ cs, plan.filters.mapM (Criterion.condition e args) = .ok cs ∧
      r.filter = joined? " AND "
        ((Family.filter.written 0 0 (cs.map Condition.requirement)).map Written.text) ∧
      r.projection =
        joined? ", " ((List.range' 0 options.projection.length).map Family.projection.name) ∧
      r.placeholders =
        { names := p.names ++
            numbered Family.filter.name 0 ((cs.map Condition.requirement).map Requirement.attr) ++
            numbered Family.projection.name 0 (options.projection.map e.attributeName)
          values := p.values ++
            numbered Family.filter.value 0
              ((cs.map Condition.requirement).flatMap Requirement.operands) } := by
  obtain ⟨p', hp', hprojected, hplaceholders⟩ := reading_eq_ok h
  obtain ⟨cs, b, hcs, hb, hwritten⟩ := filter_eq_ok hp'
  rw [hstatic] at hwritten
  obtain ⟨htext, rfl⟩ := hwritten
  -- the filter takes none of the names of the projection
  obtain ⟨hopen, hstart⟩ := Builder.start_wrote hfilter
  have hchoice := (Criterion.requirements_of_conditions hcs).2
  have hfree := (Builder.addAll_wrote hopen hstart hchoice).1.others .projection
    (by simp [Builder.start]) hprojection
  rw [Builder.addAll_eq hopen] at hb hfree
  subst hb
  rw [projection_eq hfree] at hprojected hplaceholders
  exact ⟨cs, hcs, htext.trans (Builder.expression?_eq _), hprojected, hplaceholders⟩

/-- **The closed form of requests.** However many key conditions, filters and listed properties a
request without a static filter has, their attributes and operands are numbered in order, the
expressions join what is written with these numbers, and every placeholder that is defined stands
in them once. -/
theorem closed_form (e : Entity) (options : RequestOptions) (plan : RequestPlan)
    (args : List Value) (hstatic : options.staticFilter? = none) :
    (∀ r, queryOf e options plan args = .ok r →
      (PagedRequest.query r).HasClosedForm e options
        (plan.keyConditions.map fun c => c.requirement e (c.own args))
        (plan.filters.map fun c => c.requirement e (c.own args)) ∧
      (PagedRequest.query r).UsesOnce) ∧
    ∀ r, scanOf e options plan args = .ok r →
      (PagedRequest.scan r).HasClosedForm e options []
        (plan.filters.map fun c => c.requirement e (c.own args)) ∧
      (PagedRequest.scan r).UsesOnce := by
  refine ⟨fun r h => ?_, fun r h => ?_⟩
  · obtain ⟨cs, b, hcs, rfl, hkey, -, hreading⟩ := queryOf_eq_ok h
    obtain ⟨hrequirements, hchoice⟩ := Criterion.requirements_of_conditions hcs
    obtain ⟨hopen, hstart⟩ := Builder.start_wrote (Placeholders.free_empty .key)
    -- the key condition leaves the placeholders of the other expressions free
    have hgrows := (Builder.addAll_wrote hopen hstart hchoice).1
    obtain ⟨cs', hcs', hfilter, hprojection, hplaceholders⟩ := reading_eq hstatic
      (hgrows.others .filter (by simp [Builder.start]) (Placeholders.free_empty .filter))
      (hgrows.others .projection (by simp [Builder.start]) (Placeholders.free_empty .projection))
      hreading
    obtain ⟨hrequirements', hchoice'⟩ := Criterion.requirements_of_conditions hcs'
    rw [Builder.addAll_eq hopen] at hkey hplaceholders
    -- the placeholders are those of the three expressions in turn
    have hform : (PagedRequest.query r).HasClosedForm e options (cs.map Condition.requirement)
        (cs'.map Condition.requirement) :=
      { names := congrArg Placeholders.names hplaceholders
        values := congrArg Placeholders.values hplaceholders
        keyCondition := hkey.symm.trans (Builder.expression?_eq _)
        filter := hfilter
        projection := hprojection }
    rw [← hrequirements, ← hrequirements']
    exact ⟨hform, hform.usesOnce hchoice hchoice'⟩
  · obtain ⟨cs, hcs, hfilter, hprojection, hplaceholders⟩ := reading_eq hstatic
      (Placeholders.free_empty .filter) (Placeholders.free_empty .projection) h
    obtain ⟨hrequirements, hchoice⟩ := Criterion.requirements_of_conditions hcs
    -- without key conditions there is no expression for them
    have hform : (PagedRequest.scan r).HasClosedForm e options
        (([] : List Condition).map Condition.requirement) (cs.map Condition.requirement) :=
      { names := congrArg Placeholders.names hplaceholders
        values := congrArg Placeholders.values hplaceholders
        keyCondition := rfl
        filter := hfilter
        projection := hprojection }
    rw [← hrequirements]
    exact ⟨hform, hform.usesOnce (by simp) hchoice⟩

end Request

/-! ### Orders of a customer -/

/-- A plan with conditions that take no value, one, two, or as many as there are, and whose
arguments are given in another order than the conditions. -/
def RequestPlan.someOrders : RequestPlan where
  kind := .localIndexQuery
  index := some "date-index"
  keyConditions := [⟨.own "customerId", .equals, 3⟩, ⟨.own "orderDate", .between, 0⟩]
  filters := [⟨.own "total", .isNotNull, 2⟩, ⟨.own "status", .among, 2⟩,
    ⟨.own "orderId", .notContaining, 4⟩, ⟨.own "total", .isFalse, 5⟩]

/-- A query numbers its key conditions and its filters apart, and a scan with the same plan
numbers its filters as the query does. -/
theorem Request.closed_form_someOrders :
    (∃ r, queryOf Entity.orders { projection := ["status", "total"] } .someOrders
        [.text "2024", .text "2025", .set [.text "open", .text "held"], .text "c-1",
          .ofList [.text "7"]] = .ok r ∧
      r.keyCondition = "#k0 = :k0 AND #k1 BETWEEN :k1 AND :k2" ∧
      r.filter = some
        "attribute_exists(#n0) AND #n1 IN (:v0, :v1) AND NOT contains(#n2, :v2) AND #n3 = :v3" ∧
      r.projection = some "#p0, #p1" ∧
      r.placeholders.values =
        [(":k0", .text "c-1"), (":k1", .text "2024"), (":k2", .text "2025"),
          (":v0", .text "open"), (":v1", .text "held"), (":v2", .text "7"),
          (":v3", .bool false)] ∧
      (PagedRequest.query r).UsesOnce) ∧
    ∃ r, scanOf Entity.orders {} .someOrders
        [.text "2024", .text "2025", .set [.text "open", .text "held"], .text "c-1",
          .ofList [.text "7"]] = .ok r ∧
      r.placeholders.names =
        [("#n0", "total"), ("#n1", "order_status"), ("#n2", "orderId"), ("#n3", "total")] ∧
      (PagedRequest.scan r).UsesOnce := by
  have hquery : queryOf Entity.orders { projection := ["status", "total"] } .someOrders
      [.text "2024", .text "2025", .set [.text "open", .text "held"], .text "c-1",
        .ofList [.text "7"]] = .ok _ := rfl
  have hscan : scanOf Entity.orders {} .someOrders
      [.text "2024", .text "2025", .set [.text "open", .text "held"], .text "c-1",
        .ofList [.text "7"]] = .ok _ := rfl
  obtain ⟨hform, honce⟩ := (closed_form _ _ _ _ rfl).1 _ hquery
  obtain ⟨hform', honce'⟩ := (closed_form _ _ _ _ rfl).2 _ hscan
  -- the formulas evaluate to the texts and values above
  exact ⟨⟨_, hquery, Option.some.inj hform.keyCondition, hform.filter, hform.projection,
    hform.values, honce⟩, _, hscan, hform'.names, honce'⟩

end NamedQuery
