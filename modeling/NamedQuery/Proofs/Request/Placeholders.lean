import NamedQuery.Proofs.Fields
import NamedQuery.Proofs.Request.Expression

/-!
# What a builder writes

The conditions of a request are written one after the other, each with new placeholders, into texts
that share the placeholders of the request. What is written stays true to its conditions while more
is written:

* `Family.name_eq_iff`, `Family.value_eq_iff` — a placeholder tells its family and number;
* `Placeholders.Extends` — more placeholders, with nothing redefined;
* `Builder.Grows` — what a step of a builder may do: it extends the placeholders, keeps the next
  ones of its own family free, and uses none of another family;
* `Builder.Wrote` — the invariant: the texts so far are the lines of the conditions so far, and the
  placeholders of every line stand for the attribute and the operands of its condition
  (`addAll_wrote`).
-/

namespace NamedQuery

/-! ### Families -/

theorem toString_injective {m n : Nat} (h : toString m = toString n) : m = n := by
  have hdigits : Nat.toDigits 10 m = Nat.toDigits 10 n := by
    rw [Nat.toString_eq_ofList_toDigits, Nat.toString_eq_ofList_toDigits] at h
    exact String.ofList_injective h
  -- the digits can be read back
  calc m = Nat.ofDigitChars 10 (Nat.toDigits 10 m) 0 := Nat.ofDigitChars_ten_toDigits.symm
    _ = Nat.ofDigitChars 10 (Nat.toDigits 10 n) 0 := by rw [hdigits]
    _ = n := Nat.ofDigitChars_ten_toDigits

/-- No separator is a digit. -/
theorem isRun_toString (n : Nat) : IsRun (toString n).toList := by
  intro c hc
  rw [Nat.toString_eq_ofList_toDigits, String.toList_ofList] at hc
  have hdigit : c.isDigit = true := Nat.isDigit_of_mem_toDigits (by decide) (by decide) hc
  -- in every case but the last the character is a separator, and that is no digit
  unfold Token.separator?
  split
  · exact absurd hdigit (by decide)
  · exact absurd hdigit (by decide)
  · exact absurd hdigit (by decide)
  · exact absurd hdigit (by decide)
  · rfl

namespace Family

variable {family family' : Family} {m n : Nat}

/-- Marks of one length are told apart from the numbers behind them. -/
theorem mark_append_eq {a b : String} (hlength : a.toList.length = b.toList.length)
    (h : a ++ toString m = b ++ toString n) : a = b ∧ m = n := by
  have hchars : a.toList ++ (toString m).toList = b.toList ++ (toString n).toList := by
    rw [← String.toList_append, h, String.toList_append]
  obtain ⟨hmark, hnumber⟩ := List.append_inj hchars hlength
  exact ⟨String.toList_injective hmark, toString_injective (String.toList_injective hnumber)⟩

/-- Where every family has its own mark of two characters, a placeholder tells both its family and
its number. -/
theorem mark_eq_iff {mark : Family → String} (hlength : ∀ family, (mark family).toList.length = 2)
    (hinjective : ∀ family family', mark family = mark family' → family = family') :
    mark family ++ toString m = mark family' ++ toString n ↔ family = family' ∧ m = n := by
  constructor
  · intro h
    obtain ⟨hmark, hnumber⟩ := mark_append_eq ((hlength family).trans (hlength family').symm) h
    exact ⟨hinjective family family' hmark, hnumber⟩
  · rintro ⟨rfl, rfl⟩
    rfl

theorem name_eq_iff : family.name m = family'.name n ↔ family = family' ∧ m = n := by
  refine mark_eq_iff (fun family => ?_) fun family family' h => ?_
  · cases family <;> rfl
  · cases family <;> cases family' <;> first | rfl | exact absurd h (by decide)

theorem value_eq_iff : family.value m = family'.value n ↔ family = family' ∧ m = n := by
  refine mark_eq_iff (fun family => ?_) fun family family' h => ?_
  · cases family <;> rfl
  · cases family <;> cases family' <;> first | rfl | exact absurd h (by decide)

/-- A mark with a letter and a number is a placeholder. -/
theorem mark_isPlaceholder (mark letter : Char) (hletter : Token.separator? letter = none)
    (n : Nat) : IsPlaceholder mark (String.ofList [mark, letter] ++ toString n) := by
  refine ⟨letter :: (toString n).toList, ?_, isRun_placeholder hletter (isRun_toString n)⟩
  rw [String.toList_append, String.toList_ofList]
  rfl

theorem name_isPlaceholder (family : Family) (n : Nat) : IsPlaceholder '#' (family.name n) := by
  cases family with
  | key => exact mark_isPlaceholder '#' 'k' rfl n
  | filter => exact mark_isPlaceholder '#' 'n' rfl n
  | projection => exact mark_isPlaceholder '#' 'p' rfl n

theorem value_isPlaceholder (family : Family) (n : Nat) : IsPlaceholder ':' (family.value n) := by
  cases family with
  | key => exact mark_isPlaceholder ':' 'k' rfl n
  | filter => exact mark_isPlaceholder ':' 'v' rfl n
  | projection => exact mark_isPlaceholder ':' 'p' rfl n

end Family

/-! ### Placeholders -/

namespace Placeholders

/-- Whatever is defined stays defined the same way. -/
structure Extends (p p' : Placeholders) : Prop where
  names : ∀ name attr, p.names.get? name = some attr → p'.names.get? name = some attr
  values : ∀ name v, p.values.get? name = some v → p'.values.get? name = some v

/-- No placeholder of a family is used from the given numbers on. -/
structure Free (family : Family) (nameCount valueCount : Nat) (p : Placeholders) : Prop where
  names : ∀ n, nameCount ≤ n → p.names.get? (family.name n) = none
  values : ∀ n, valueCount ≤ n → p.values.get? (family.value n) = none

variable {p p' p'' : Placeholders}

theorem Extends.refl (p : Placeholders) : p.Extends p :=
  ⟨fun _ _ h => h, fun _ _ h => h⟩

theorem Extends.trans (h : p.Extends p') (h' : p'.Extends p'') : p.Extends p'' :=
  ⟨fun name attr hget => h'.names name attr (h.names name attr hget),
    fun name v hget => h'.values name v (h.values name v hget)⟩

/-- Without placeholders every family is free. -/
theorem free_empty (family : Family) : Free family 0 0 {} :=
  ⟨fun _ _ => rfl, fun _ _ => rfl⟩

end Placeholders

/-! ### Steps of a builder -/

namespace Builder

variable {b b' b'' : Builder}

/-- The next placeholders of a builder are free. -/
def IsOpen (b : Builder) : Prop :=
  b.placeholders.Free b.family b.nameCount b.valueCount

/-- What a step of a builder may do to its placeholders. -/
structure Grows (b b' : Builder) : Prop where
  family : b'.family = b.family
  placeholders : b.placeholders.Extends b'.placeholders
  isOpen : b'.IsOpen
  others : ∀ family, family ≠ b.family →
    b.placeholders.Free family 0 0 → b'.placeholders.Free family 0 0

theorem Grows.refl (h : b.IsOpen) : b.Grows b :=
  ⟨rfl, .refl _, h, fun _ _ h' => h'⟩

theorem Grows.trans (h : b.Grows b') (h' : b'.Grows b'') : b.Grows b'' where
  family := h'.family.trans h.family
  placeholders := h.placeholders.trans h'.placeholders
  isOpen := h'.isOpen
  others family hne hfree :=
    h'.others family (by rw [h.family]; exact hne) (h.others family hne hfree)

/-- A new name is free, so it redefines nothing, and the next names stay free. -/
theorem addName_names
    (h : ∀ n, b.nameCount ≤ n → b.placeholders.names.get? (b.family.name n) = none)
    (attr : String) :
    b.placeholders.Extends (b.addName attr).2.placeholders ∧
      ∀ n, (b.addName attr).2.nameCount ≤ n →
        (b.addName attr).2.placeholders.names.get? (b.family.name n) = none := by
  refine ⟨⟨fun _ _ hget => Fields.get?_insert_of_new (h _ (Nat.le_refl _)) hget,
    fun _ _ hget => hget⟩, fun n hn => ?_⟩
  have hn : b.nameCount + 1 ≤ n := hn
  -- the next name is another one, since its number is higher
  have hne : b.family.name n ≠ b.family.name b.nameCount := by
    rw [ne_eq, Family.name_eq_iff]
    omega
  exact (Fields.get?_insert_of_ne hne).trans (h n (by omega))

theorem addName_grows (h : b.IsOpen) (attr : String) : b.Grows (b.addName attr).2 where
  family := rfl
  placeholders := (addName_names h.names attr).1
  isOpen := ⟨(addName_names h.names attr).2, h.values⟩
  others family hne hfree := by
    -- the name that was taken is of another family
    refine ⟨fun n hn => ?_, hfree.values⟩
    have hother : family.name n ≠ b.family.name b.nameCount :=
      fun heq => hne (Family.name_eq_iff.mp heq).1
    exact (Fields.get?_insert_of_ne hother).trans (hfree.names n hn)

theorem addValue_grows (h : b.IsOpen) (v : Value) : b.Grows (b.addValue v).2 where
  family := rfl
  placeholders :=
    ⟨fun _ _ hget => hget,
      fun _ _ hget => Fields.get?_insert_of_new (h.values _ (Nat.le_refl _)) hget⟩
  isOpen := by
    -- the next value is free, and none of the later ones has been taken
    refine ⟨h.names, fun n hn => ?_⟩
    have hn : b.valueCount + 1 ≤ n := hn
    have hne : b.family.value n ≠ b.family.value b.valueCount := by
      rw [ne_eq, Family.value_eq_iff]
      omega
    exact (Fields.get?_insert_of_ne hne).trans (h.values n (by omega))
  -- the other families have other names for their values
  others family hne hfree := by
    refine ⟨hfree.names, fun n hn => ?_⟩
    have hother : family.value n ≠ b.family.value b.valueCount :=
      fun heq => hne (Family.value_eq_iff.mp heq).1
    exact (Fields.get?_insert_of_ne hother).trans (hfree.values n hn)

/-- The placeholder of a new value stands for it. -/
theorem addValue_get? (b : Builder) (v : Value) :
    (b.addValue v).2.placeholders.values.get? (b.addValue v).1 = some v :=
  Fields.get?_insert_self

theorem addName_get? (b : Builder) (attr : String) :
    (b.addName attr).2.placeholders.names.get? (b.addName attr).1 = some attr :=
  Fields.get?_insert_self

theorem addValues_cons (b : Builder) (v : Value) (vs : List Value) :
    b.addValues (v :: vs) =
      ((b.addValue v).1 :: ((b.addValue v).2.addValues vs).1, ((b.addValue v).2.addValues vs).2) :=
  rfl

/-- Writing values grows the builder, and each gets a placeholder of its own that stands for it. -/
theorem addValues_spec (h : b.IsOpen) (vs : List Value) :
    b.Grows (b.addValues vs).2 ∧ (b.addValues vs).2.conditions = b.conditions ∧
      (∀ s ∈ (b.addValues vs).1, IsPlaceholder ':' s) ∧
      (b.addValues vs).1.map (b.addValues vs).2.placeholders.values.get? = vs.map some := by
  induction vs generalizing b with
  | nil => exact ⟨.refl h, rfl, by simp [addValues], rfl⟩
  | cons v vs ih =>
    have hgrows := addValue_grows h v
    obtain ⟨hgrows', hconditions, hmarks, hget⟩ := ih hgrows.isOpen
    rw [addValues_cons]
    refine ⟨hgrows.trans hgrows', hconditions, ?_, ?_⟩
    · -- the new placeholders are marked as values
      intro s hs
      rcases List.mem_cons.mp hs with rfl | hs
      · exact Family.value_isPlaceholder _ _
      · exact hmarks s hs
    · -- the first value is still read back after the others were added
      rw [List.map_cons, List.map_cons, hget,
        hgrows'.placeholders.values _ v (addValue_get? b v)]

end Builder

/-! ### Lines -/

/-- The placeholders of a line stand for the attribute and the operands of its condition. -/
structure Line.StandsFor (p : Placeholders) (l : Line) : Prop where
  name : p.names.get? l.name = some l.condition.attr
  values : l.values.map p.values.get? = l.condition.operands.map some

/-- What is read from a line stays as it is when more placeholders are defined. -/
theorem Line.StandsFor.extend {p p' : Placeholders} {l : Line} (h : l.StandsFor p)
    (hp : p.Extends p') : l.StandsFor p' where
  name := hp.names _ _ h.name
  values := by
    rw [← h.values]
    refine List.map_congr_left fun s hs => ?_
    -- every placeholder of the line has a value already
    have hmem : p.values.get? s ∈ l.condition.operands.map some := by
      rw [← h.values]
      exact List.mem_map_of_mem hs
    obtain ⟨v, -, hv⟩ := List.mem_map.mp hmem
    rw [← hv]
    exact hp.values s v hv.symm

namespace Builder

variable {b b' : Builder}

/-- The conditions written so far, with the invariant that carries them: their texts are lines that
stand for them. -/
def Wrote (b : Builder) (cs : List Condition) : Prop :=
  ∃ lines : List Line, b.conditions = lines.map Line.text ∧ lines.map Line.condition = cs ∧
    ∀ l ∈ lines, l.IsReadable ∧ l.StandsFor b.placeholders

theorem add_grows (h : b.IsOpen) (c : Condition) : b.Grows (b.add c) := by
  -- a name is taken first, and then a value for each operand
  have hname := addName_grows h c.attr
  have hboth := hname.trans (addValues_spec hname.isOpen c.operands).1
  exact ⟨hboth.family, hboth.placeholders, hboth.isOpen, hboth.others⟩

/-- **One step.** Writing a condition adds a line for it and leaves the others as they are. -/
theorem add_wrote {cs : List Condition} {c : Condition} (h : b.IsOpen) (hcs : b.Wrote cs)
    (hc : ∀ attr, c ≠ .among attr []) : b.Grows (b.add c) ∧ (b.add c).Wrote (cs ++ [c]) := by
  have hgrows := add_grows h c
  have hname := addName_grows h c.attr
  obtain ⟨hvalues, hconditions, hmarks, hget⟩ := addValues_spec hname.isOpen c.operands
  obtain ⟨lines, htexts, rfl, hlines⟩ := hcs
  refine ⟨hgrows, lines ++
    -- the new line stands behind those that are there
    [⟨c, (b.addName c.attr).1, ((b.addName c.attr).2.addValues c.operands).1⟩], ?_, ?_, ?_⟩
  · rw [List.map_append, ← htexts]
    show ((b.addName c.attr).2.addValues c.operands).2.conditions ++ _ = _
    rw [hconditions]
    rfl
  · rw [List.map_append]
    rfl
  · intro l hl
    rcases List.mem_append.mp hl with hl | hl
    · -- an earlier line stands for what it stood for
      exact ⟨(hlines l hl).1, (hlines l hl).2.extend hgrows.placeholders⟩
    · obtain rfl := List.mem_singleton.mp hl
      refine ⟨⟨Family.name_isPlaceholder _ _, hmarks, ?_, hc⟩, ⟨?_, hget⟩⟩
      · simpa using congrArg List.length hget
      · exact hvalues.placeholders.names _ _ (addName_get? b c.attr)

/-- **Every step.** Writing conditions adds a line for each. -/
theorem addAll_wrote {cs cs' : List Condition} (h : b.IsOpen) (hcs : b.Wrote cs)
    (hcs' : ∀ c ∈ cs', ∀ attr, c ≠ .among attr []) :
    b.Grows (b.addAll cs') ∧ (b.addAll cs').Wrote (cs ++ cs') := by
  -- the invariant is the whole of what was written, so it grows with every condition
  induction cs' generalizing b cs with
  | nil =>
    rw [List.append_nil]
    exact ⟨.refl h, hcs⟩
  | cons c cs' ih =>
    obtain ⟨hgrows, hwrote⟩ := add_wrote h hcs (hcs' c (by simp))
    obtain ⟨hgrows', hwrote'⟩ :=
      ih hgrows.isOpen hwrote fun c' hc' => hcs' c' (List.mem_cons_of_mem _ hc')
    rw [List.append_assoc, List.singleton_append] at hwrote'
    exact ⟨hgrows.trans hgrows', hwrote'⟩

/-- A builder that starts with a family that is free. -/
theorem start_wrote {family : Family} {p : Placeholders} (h : p.Free family 0 0) :
    (start family p).IsOpen ∧ (start family p).Wrote [] :=
  ⟨h, [], rfl, rfl, by simp⟩

end Builder

end NamedQuery
