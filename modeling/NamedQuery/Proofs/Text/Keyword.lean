import Mathlib.Data.List.Basic
import NamedQuery.Text.Keyword

/-!
# Where keywords stand

Cutting a text at its keywords is told by what stands where, and not by how the text is searched:

* `Occurs` — a keyword stands in a text, and what follows it passes a test;
* `IsKeyword` — the keywords of method names. Their first letter does not come again in them, so two
  of them never overlap;
* `cutAt_eq_some_iff`, `cutAt_eq_none_iff` — a text is cut where the keyword first stands;
* `splitAt_spec`, `splitAt_intercalate` — the pieces of a text are what was joined, and no piece
  holds the keyword;
* `Occurs.of_append`, `Occurs.of_notMem` — a keyword in two texts put together stands in one of
  them, unless it can stand across the seam.

The tests that are used are `atWordEnd` and `startsWithCapital`, which differ at the end of a text
only (`TestsCapital`). A piece may end where another keyword begins, so what is cut off holds no
keyword in front of its own end either.
-/

namespace NamedQuery.Text

/-- A keyword stands in a text, and what follows it passes a test. -/
def Occurs (keyword : List Char) (follows : List Char → Bool) (text : List Char) : Prop :=
  ∃ before after, text = before ++ keyword ++ after ∧ follows after = true

/-- A capital letter and others behind it, among which it does not come again. -/
def IsKeyword : List Char → Prop
  | [] => False
  | c :: rest => isCapital c = true ∧ c ∉ rest

instance : DecidablePred IsKeyword
  | [] => .isFalse id
  | c :: rest => inferInstanceAs (Decidable (isCapital c = true ∧ c ∉ rest))

/-- A test that looks for a capital where there is a letter at all. -/
def TestsCapital (follows : List Char → Bool) : Prop :=
  ∀ c text, follows (c :: text) = isCapital c

theorem testsCapital_atWordEnd : TestsCapital atWordEnd := fun _ _ => rfl

theorem testsCapital_startsWithCapital : TestsCapital startsWithCapital := fun _ _ => rfl

variable {keyword text : List Char} {follows : List Char → Bool}

/-- Keywords start with a capital. -/
theorem IsKeyword.follows_append (h : IsKeyword keyword) (hfollows : TestsCapital follows)
    (text : List Char) : follows (keyword ++ text) = true := by
  cases keyword with
  | nil => exact h.elim
  | cons c rest => exact (hfollows c _).trans h.1

namespace TestsCapital

variable {rest : List Char} (hfollows : TestsCapital follows)

include hfollows

theorem atWordEnd_of_append {tail : List Char} (h : follows (rest ++ tail) = true) :
    atWordEnd rest = true := by
  cases rest with
  | nil => rfl
  | cons c rest => exact (hfollows c _).symm.trans h

/-- A word may end where a keyword begins. -/
theorem append_of_atWordEnd (hkeyword : IsKeyword keyword) (h : atWordEnd rest = true)
    (tail : List Char) : follows (rest ++ (keyword ++ tail)) = true := by
  cases rest with
  | nil => exact hkeyword.follows_append hfollows tail
  | cons c rest => exact (hfollows c _).trans h

end TestsCapital

/-! ### The ends of a text -/

theorem after?_eq_some_iff {rest : List Char} : after? keyword text = some rest ↔
    text = keyword ++ rest := by
  constructor
  · exact eq_append_of_after?
  · rintro rfl
    exact after?_append keyword rest

theorem before?_eq_some_iff {rest : List Char} : before? keyword text = some rest ↔
    text = rest ++ keyword := by
  constructor
  · exact eq_append_of_before?
  · rintro rfl
    rw [before?, List.reverse_append, after?_append]
    simp

theorem before?_eq_none_iff : before? keyword text = none ↔ ¬keyword <:+ text := by
  rw [Option.eq_none_iff_forall_ne_some]
  constructor
  · rintro h ⟨rest, htext⟩
    exact h rest (before?_eq_some_iff.mpr htext.symm)
  · intro h rest hrest
    exact h ⟨rest, (before?_eq_some_iff.mp hrest).symm⟩

/-- A keyword at the start of a text, with a rest that passes the test. -/
theorem filter_after?_eq_some_iff {rest : List Char} :
    (after? keyword text).filter follows = some rest ↔
      text = keyword ++ rest ∧ follows rest = true := by
  rw [Option.filter_eq_some_iff, after?_eq_some_iff]

theorem separates_iff : separates keyword text = true ↔
    ∃ rest, text = keyword ++ rest ∧ startsWithCapital rest = true := by
  unfold separates
  split
  · -- the text starts with the keyword, or it does not
    next rest hafter =>
    obtain rfl := eq_append_of_after? hafter
    simp
  · next hafter =>
    simp only [Bool.false_eq_true, false_iff, not_exists, not_and]
    rintro rest rfl
    exact absurd (after?_append keyword rest) (by simp [hafter])

/-- What a text ends in, and a character of the text that does not stand there. -/
theorem isSuffix_append_iff {ending before after : List Char} {c : Char} (h : c ∉ ending) :
    ending <:+ before ++ c :: after ↔ ending <:+ after := by
  constructor
  · intro hsuffix
    rcases List.suffix_or_suffix_of_suffix hsuffix (List.suffix_append before (c :: after)) with
      hle | hle
    · rcases List.suffix_cons_iff.mp hle with rfl | hle
      · exact absurd List.mem_cons_self h
      · exact hle
    -- an ending that is longer holds the character
    · exact absurd (hle.subset List.mem_cons_self) h
  · intro hsuffix
    exact hsuffix.trans ((List.suffix_cons c after).trans (List.suffix_append before _))

theorem atWordEnd_of_startsWithCapital (h : startsWithCapital text = true) :
    atWordEnd text = true := by
  cases text with
  | nil => rfl
  | cons c text => exact h

theorem startsWithCapital_append (h : startsWithCapital text = true) (more : List Char) :
    startsWithCapital (text ++ more) = true := by
  cases text with
  | nil => exact absurd h (by decide)
  | cons c text => exact h

theorem atWordEnd_append {more : List Char} (h : atWordEnd text = true)
    (hmore : atWordEnd more = true) : atWordEnd (text ++ more) = true := by
  cases text with
  | nil => exact hmore
  | cons c text => exact h

/-! ### Occurrences -/

namespace Occurs

theorem mono {follows' : List Char → Bool} (h : Occurs keyword follows text)
    (hfollows : ∀ rest, follows rest = true → follows' rest = true) :
    Occurs keyword follows' text := by
  obtain ⟨before, after, htext, hafter⟩ := h
  exact ⟨before, after, htext, hfollows after hafter⟩

/-- Where a capital follows, a word may end. -/
theorem atWordEnd (h : Occurs keyword startsWithCapital text) : Occurs keyword atWordEnd text :=
  h.mono fun _ => atWordEnd_of_startsWithCapital

/-- A word may end where a text does. -/
theorem of_suffix (h : keyword <:+ text) : Occurs keyword Text.atWordEnd text := by
  obtain ⟨before, rfl⟩ := h
  exact ⟨before, [], (List.append_nil _).symm, rfl⟩

theorem append_left (before : List Char) (h : Occurs keyword follows text) :
    Occurs keyword follows (before ++ text) := by
  obtain ⟨front, after, rfl, hafter⟩ := h
  exact ⟨before ++ front, after, by simp only [List.append_assoc], hafter⟩

/-- A word ends in front of a capital or at the end of the text. -/
theorem capital_or_suffix (h : Occurs keyword Text.atWordEnd text) :
    Occurs keyword startsWithCapital text ∨ keyword <:+ text := by
  obtain ⟨before, after, rfl, hafter⟩ := h
  cases after with
  | nil => exact Or.inr ⟨before, (List.append_nil _).symm⟩
  | cons c after => exact Or.inl ⟨before, c :: after, rfl, hafter⟩

/-- Where a capital is put behind a text, the end of the text is one in front of a capital. -/
theorem append_capital {more : List Char} (h : Occurs keyword Text.atWordEnd text)
    (hmore : startsWithCapital more = true) : Occurs keyword startsWithCapital (text ++ more) := by
  obtain ⟨before, after, rfl, hafter⟩ := h
  refine ⟨before, after ++ more, List.append_assoc .., ?_⟩
  cases after with
  | nil => exact hmore
  | cons c after => exact hafter

end Occurs

theorem occurs_nil_iff (hkeyword : keyword ≠ []) : ¬Occurs keyword follows [] := by
  rintro ⟨before, after, htext, -⟩
  simp [hkeyword] at htext

/-- A keyword stands at the start of a text or behind its first character. -/
theorem occurs_cons_iff {c : Char} : Occurs keyword follows (c :: text) ↔
    (∃ rest, c :: text = keyword ++ rest ∧ follows rest = true) ∨ Occurs keyword follows text := by
  constructor
  · rintro ⟨before, after, htext, hafter⟩
    -- the occurrence stands at the start or behind the first character
    cases before with
    | nil => exact Or.inl ⟨after, htext, hafter⟩
    | cons d before =>
      obtain ⟨-, rfl⟩ := List.cons.inj htext
      exact Or.inr ⟨before, after, rfl, hafter⟩
  · rintro (⟨rest, htext, hrest⟩ | h)
    · exact ⟨[], rest, htext, hrest⟩
    · exact h.append_left [c]

/-- What follows a keyword passes a test or does not. -/
theorem infix_iff_occurs : keyword <:+: text ↔
    Occurs keyword follows text ∨ Occurs keyword (fun rest => !follows rest) text := by
  constructor
  · rintro ⟨before, after, rfl⟩
    cases hafter : follows after with
    | true => exact Or.inl ⟨before, after, rfl, hafter⟩
    | false => exact Or.inr ⟨before, after, rfl, by simpa using hafter⟩
  · rintro (⟨before, after, rfl, -⟩ | ⟨before, after, rfl, -⟩) <;> exact ⟨before, after, rfl⟩

theorem containsSeparator_iff : containsSeparator keyword text = true ↔
    Occurs keyword startsWithCapital text := by
  induction text with
  | nil =>
    rw [containsSeparator, separates_iff]
    constructor
    · rintro ⟨rest, htext, hrest⟩
      exact ⟨[], rest, htext, hrest⟩
    · rintro ⟨before, after, htext, hafter⟩
      -- nothing follows in an empty text
      obtain ⟨-, rfl⟩ := List.append_eq_nil_iff.mp htext.symm
      exact absurd hafter (by decide)
  | cons c text ih =>
    rw [containsSeparator, Bool.or_eq_true, separates_iff, ih, occurs_cons_iff]

section Seams

variable {c : Char} {rest before after : List Char}

/-- A keyword is behind a text that its first letter is not in. -/
theorem Occurs.of_notMem (h : Occurs (c :: rest) follows (before ++ after)) (hc : c ∉ before) :
    Occurs (c :: rest) follows after := by
  obtain ⟨front, tail, htext, htail⟩ := h
  rw [List.append_assoc] at htext
  rcases List.append_eq_append_iff.mp htext with ⟨middle, rfl, rfl⟩ | ⟨middle, rfl, hmiddle⟩
  · exact ⟨middle, tail, (List.append_assoc ..).symm, htail⟩
  · cases middle with
    | nil => exact ⟨[], tail, by simpa using hmiddle.symm, htail⟩
    | cons d middle =>
      -- the letter would stand in front of the seam
      obtain ⟨rfl, -⟩ := List.cons.inj hmiddle
      exact absurd (List.mem_append_right front List.mem_cons_self) hc

/-- A keyword is not in a text without its first letter. -/
theorem not_occurs_of_notMem (hc : c ∉ text) : ¬Occurs (c :: rest) follows text := fun h =>
  occurs_nil_iff (by simp) (Occurs.of_notMem ((List.append_nil text).symm ▸ h) hc)

/-- A keyword stands on one side of a letter that comes in it at most as its first. -/
theorem seam_cases {d : Char} {front tail : List Char} (hd : d ∉ rest)
    (h : before ++ d :: after = front ++ (c :: rest) ++ tail) :
    (∃ last, before = front ++ (c :: rest) ++ last ∧ tail = last ++ d :: after) ∨
      ∃ middle, front = before ++ middle ∧ d :: after = middle ++ (c :: rest) ++ tail := by
  rw [List.append_assoc] at h
  rcases List.append_eq_append_iff.mp h with ⟨middle, hfront, hmiddle⟩ | ⟨middle, rfl, hmiddle⟩
  · exact Or.inr ⟨middle, hfront, by rw [hmiddle, List.append_assoc]⟩
  rcases List.append_eq_append_iff.mp hmiddle with ⟨last, rfl, hlast⟩ | ⟨last, hlast, hsplit⟩
  · exact Or.inl ⟨last, (List.append_assoc ..).symm, hlast⟩
  cases last with
  | nil =>
    -- the keyword ends where the letter stands
    rw [List.append_nil] at hlast
    exact Or.inl ⟨[], by rw [hlast, List.append_nil], hsplit.symm⟩
  | cons d' last =>
    obtain ⟨rfl, rfl⟩ := List.cons.inj hsplit
    cases middle with
    | nil => exact Or.inr ⟨[], by simp, by rw [hlast]; rfl⟩
    | cons e middle =>
      -- the keyword would hold the letter behind its first one
      obtain ⟨-, rfl⟩ := List.cons.inj hlast
      exact absurd (List.mem_append_right middle List.mem_cons_self) hd

theorem Occurs.of_append {d : Char} (h : Occurs (c :: rest) follows (before ++ d :: after))
    (hfollows : TestsCapital follows) (hd : d ∉ rest) :
    Occurs (c :: rest) Text.atWordEnd before ∨ Occurs (c :: rest) follows (d :: after) := by
  obtain ⟨front, tail, htext, htail⟩ := h
  rcases seam_cases hd htext with ⟨last, hbefore, rfl⟩ | ⟨middle, -, hafter⟩
  · exact Or.inl ⟨front, last, hbefore, hfollows.atWordEnd_of_append htail⟩
  · exact Or.inr ⟨middle, tail, hafter, htail⟩

end Seams

/-! ### Cuts -/

theorem cutAt_eq_none_iff : cutAt keyword follows text = none ↔ ¬Occurs keyword follows text := by
  -- the induction is on the text, at whose start the keyword is looked for first
  induction text with
  | nil =>
    rw [cutAt, Option.map_eq_none_iff, Option.eq_none_iff_forall_ne_some]
    constructor
    · rintro h ⟨before, after, htext, hafter⟩
      obtain ⟨hfront, rfl⟩ := List.append_eq_nil_iff.mp htext.symm
      obtain ⟨-, rfl⟩ := List.append_eq_nil_iff.mp hfront
      exact h [] (filter_after?_eq_some_iff.mpr ⟨rfl, hafter⟩)
    · intro h rest hrest
      obtain ⟨htext, hfollows⟩ := filter_after?_eq_some_iff.mp hrest
      exact h ⟨[], rest, htext, hfollows⟩
  | cons c text ih =>
    rw [occurs_cons_iff, cutAt]
    split
    · next rest hrest =>
      have hstart := filter_after?_eq_some_iff.mp hrest
      -- the keyword stands at the start, so both sides are false
      exact iff_of_false (by simp) fun h => h (Or.inl ⟨rest, hstart⟩)
    · next hnone =>
      rw [Option.map_eq_none_iff, ih, not_or]
      refine ⟨fun h => ⟨?_, h⟩, And.right⟩
      -- nothing stands at the start, so the rest decides
      rintro ⟨rest, hrest⟩
      exact absurd (filter_after?_eq_some_iff.mpr hrest) (by simp [hnone])

/-- Whether a keyword stands in a text is found out by cutting. -/
instance : Decidable (Occurs keyword follows text) :=
  decidable_of_iff (cutAt keyword follows text ≠ none)
    (by rw [ne_eq, cutAt_eq_none_iff, not_not])

section First

variable {before after : List Char} (hkeyword : IsKeyword keyword) (hfollows : TestsCapital follows)

include hkeyword hfollows

/-- A keyword at the start of a text is the first one. -/
theorem eq_nil_of_first {rest : List Char} (htext : keyword ++ rest = before ++ keyword ++ after)
    (hrest : follows rest = true) (hfirst : ¬Occurs keyword atWordEnd before) :
    before = [] ∧ rest = after := by
  cases keyword with
  | nil => exact hkeyword.elim
  | cons c others =>
    have hseam : before ++ c :: (others ++ after) = [] ++ (c :: others) ++ rest := by
      rw [List.nil_append, htext, List.append_assoc, List.cons_append]
    -- a keyword that begins inside another one would overlap it
    rcases seam_cases hkeyword.2 hseam with ⟨last, hlast, rfl⟩ | ⟨middle, hmiddle, -⟩
    · exact absurd ⟨[], last, hlast, hfollows.atWordEnd_of_append hrest⟩ hfirst
    · obtain ⟨rfl, -⟩ := List.append_eq_nil_iff.mp hmiddle.symm
      exact ⟨rfl, List.append_cancel_left htext⟩

/-- Where no keyword starts, the text in front of the first one grows by a character. -/
theorem not_occurs_cons {c : Char}
    (hstart : ∀ rest, c :: (before ++ keyword ++ after) = keyword ++ rest → follows rest = false)
    (hfirst : ¬Occurs keyword atWordEnd before) : ¬Occurs keyword atWordEnd (c :: before) := by
  rw [occurs_cons_iff]
  rintro (⟨rest, hrest, hend⟩ | h)
  · -- the word that ends in front of the first keyword ends in front of a capital
    have hfollow := hstart (rest ++ (keyword ++ after)) (by
      rw [List.append_assoc, ← List.cons_append, hrest, List.append_assoc])
    rw [hfollows.append_of_atWordEnd hkeyword hend] at hfollow
    exact absurd hfollow (by simp)
  · exact hfirst h

/-- **The first keyword.** A text is cut in front of what follows a keyword, where no keyword ends
before. -/
theorem cutAt_eq_some_iff : cutAt keyword follows text = some (before, after) ↔
    text = before ++ keyword ++ after ∧ follows after = true ∧
      ¬Occurs keyword atWordEnd before := by
  have hne : keyword ≠ [] := by
    rintro rfl
    exact hkeyword
  -- the induction is on the text, with what is cut off in front of it
  induction text generalizing before with
  | nil =>
    constructor
    · intro h
      exact absurd ⟨before, after, append_of_cutAt h, follows_of_cutAt h⟩ (occurs_nil_iff hne)
    · rintro ⟨htext, hafter, -⟩
      exact absurd ⟨before, after, htext, hafter⟩ (occurs_nil_iff hne)
  | cons c text ih =>
    rw [cutAt]
    split
    · next rest hrest =>
      -- the keyword stands at the start
      obtain ⟨htext, hfollow⟩ := filter_after?_eq_some_iff.mp hrest
      constructor
      · intro h
        obtain ⟨rfl, rfl⟩ := Prod.mk.inj (Option.some.inj h)
        exact ⟨htext, hfollow, occurs_nil_iff hne⟩
      · -- no cut lies further behind, since it would begin inside the keyword
        rintro ⟨hbefore, -, hfirst⟩
        obtain ⟨rfl, rfl⟩ := eq_nil_of_first hkeyword hfollows (htext.symm.trans hbefore) hfollow
          hfirst
        rfl
    · next hnone =>
      have hstart : ∀ rest, c :: text = keyword ++ rest → follows rest = false := by
        intro rest htext
        by_contra hfollow
        exact absurd (filter_after?_eq_some_iff.mpr ⟨htext, by simpa using hfollow⟩)
          (by simp [hnone])
      simp only [Option.map_eq_some_iff, Prod.exists, Prod.mk.injEq]
      constructor
      · -- the cut lies behind the first character
        rintro ⟨before, after, hcut, rfl, rfl⟩
        obtain ⟨rfl, hfollow, hfirst⟩ := ih.mp hcut
        exact ⟨rfl, hfollow, not_occurs_cons hkeyword hfollows hstart hfirst⟩
      · rintro ⟨htext, hfollow, hfirst⟩
        cases before with
        -- the cut cannot lie at the start, where the keyword does not stand
        | nil => exact absurd hfollow (by simp [hstart after htext])
        | cons d before =>
          obtain ⟨rfl, hbehind⟩ := List.cons.inj htext
          have hbefore : ¬Occurs keyword atWordEnd before := fun h => hfirst (h.append_left [c])
          exact ⟨before, after, ih.mpr ⟨hbehind, hfollow, hbefore⟩, rfl, rfl⟩

end First

/-! ### Joined pieces -/

/-- What stands in a part of a text stands in the text. -/
theorem Occurs.of_part {part : List Char} (h : Occurs keyword startsWithCapital part)
    (hpart : part <:+: text) : Occurs keyword startsWithCapital text := by
  obtain ⟨before, after, rfl, hafter⟩ := h
  obtain ⟨front, tail, rfl⟩ := hpart
  exact ⟨front ++ before, after ++ tail, by simp only [List.append_assoc],
    startsWithCapital_append hafter tail⟩

theorem infix_intercalate {piece : List Char} {pieces : List (List Char)} (h : piece ∈ pieces)
    (separator : List Char) : piece <:+: separator.intercalate pieces := by
  -- the induction is on the pieces, and the first two of them have the separator between them
  induction pieces with
  | nil => exact absurd h List.not_mem_nil
  | cons first pieces ih =>
    cases pieces with
    | nil =>
      obtain rfl := List.mem_singleton.mp h
      simp only [List.intercalate_singleton, List.infix_refl]
    | cons next pieces =>
      rw [List.intercalate_cons_cons]
      rcases List.mem_cons.mp h with rfl | h
      · rw [List.append_assoc]
        exact (List.prefix_append piece _).isInfix
      · exact (ih h).trans (List.suffix_append _ _).isInfix

theorem startsWithCapital_intercalate {piece : List Char} (h : startsWithCapital piece = true)
    (separator : List Char) (pieces : List (List Char)) :
    startsWithCapital (separator.intercalate (piece :: pieces)) = true := by
  cases pieces with
  | nil => rwa [List.intercalate_singleton]
  | cons next pieces =>
    rw [List.intercalate_cons_cons, List.append_assoc]
    exact startsWithCapital_append h _

/-- A keyword in joined pieces ends in one of them, if it has no letter of the separator where it
could overlap with it. -/
theorem Occurs.of_intercalate {c d : Char} {rest others : List Char} {pieces : List (List Char)}
    (h : Occurs (c :: rest) follows ((d :: others).intercalate pieces))
    (hfollows : TestsCapital follows) (hd : d ∉ rest) (hc : c ∉ d :: others) :
    ∃ piece ∈ pieces, Occurs (c :: rest) Text.atWordEnd piece := by
  -- The induction is on the pieces. The keyword begins with a character that the separator has not,
  -- and holds none of those the separator begins with, so it lies inside one piece.
  induction pieces with
  | nil => exact absurd h (occurs_nil_iff (by simp))
  | cons piece pieces ih =>
    cases pieces with
    | nil =>
      rw [List.intercalate_singleton] at h
      exact ⟨piece, by simp, h.mono fun text htext =>
        hfollows.atWordEnd_of_append (by rwa [List.append_nil])⟩
    | cons next pieces =>
      rw [List.intercalate_cons_cons, List.append_assoc, List.cons_append] at h
      rcases h.of_append hfollows hd with h | h
      · exact ⟨piece, by simp, h⟩
      · rw [← List.cons_append] at h
        obtain ⟨other, hmem, hother⟩ := ih (h.of_notMem hc)
        exact ⟨other, List.mem_cons_of_mem _ hmem, hother⟩

/-- What joined pieces end in, one of them ends in, if a letter at the end of the separator is not
in it. -/
theorem isSuffix_of_intercalate {ending front : List Char} {c : Char} {pieces : List (List Char)}
    (h : ending <:+ (front ++ [c]).intercalate pieces) (hc : c ∉ ending) (hne : pieces ≠ []) :
    ∃ piece ∈ pieces, ending <:+ piece := by
  -- the induction is on the pieces, and the ending lies behind the last character of the separator
  induction pieces with
  | nil => exact absurd rfl hne
  | cons piece pieces ih =>
    cases pieces with
    | nil =>
      rw [List.intercalate_singleton] at h
      exact ⟨piece, by simp, h⟩
    | cons next pieces =>
      rw [List.intercalate_cons_cons, ← List.append_assoc, List.append_assoc,
        List.singleton_append, isSuffix_append_iff hc] at h
      obtain ⟨other, hmem, hother⟩ := ih h (by simp)
      exact ⟨other, List.mem_cons_of_mem _ hmem, hother⟩

/-! ### Pieces -/

/-- The rest of a separator is passed over. -/
theorem splitFrom_append (passed text : List Char) :
    splitFrom keyword passed.length (passed ++ text) = splitAt keyword text := by
  induction passed with
  | nil => rfl
  | cons c passed ih => exact ih

/-- **Splitting is cutting.** The first piece ends at the first separator. -/
theorem splitAt_eq (hkeyword : IsKeyword keyword) (text : List Char) :
    splitAt keyword text =
      match cutAt keyword startsWithCapital text with
      | some (before, after) => before :: splitAt keyword after
      | none => [text] := by
  -- a keyword is not empty, so the text gets shorter with every cut
  obtain ⟨d, others, rfl⟩ : ∃ d others, keyword = d :: others := by
    cases keyword with
    | nil => exact hkeyword.elim
    | cons d others => exact ⟨d, others, rfl⟩
  induction text with
  | nil => rfl
  | cons c text ih =>
    rw [splitAt, splitFrom, cutAt]
    by_cases hseparates : separates (d :: others) (c :: text) = true
    · -- the text starts with the keyword, so the first piece is empty
      obtain ⟨rest, htext, hrest⟩ := separates_iff.mp hseparates
      obtain ⟨rfl, rfl⟩ := List.cons.inj htext
      rw [if_pos hseparates, filter_after?_eq_some_iff.mpr ⟨htext, hrest⟩]
      exact congrArg ([] :: ·) (splitFrom_append others rest)
    · have hnone : (after? (d :: others) (c :: text)).filter startsWithCapital = none := by
        refine Option.eq_none_iff_forall_ne_some.mpr fun rest hrest => hseparates ?_
        exact separates_iff.mpr ⟨rest, filter_after?_eq_some_iff.mp hrest⟩
      rw [if_neg hseparates, hnone]
      -- the character belongs to the first piece of what follows
      show consHead c (splitAt (d :: others) text) = _
      rw [ih]
      cases cutAt (d :: others) startsWithCapital text with
      | none => rfl
      | some cut => rfl

theorem splitAt_ne_nil (hkeyword : IsKeyword keyword) (text : List Char) :
    splitAt keyword text ≠ [] := by
  rw [splitAt_eq hkeyword]
  split <;> simp

/-- **What the pieces are.** Joined by the keyword they are the text, and none of them holds it in
front of a capital. -/
theorem splitAt_spec (hkeyword : IsKeyword keyword) (text : List Char) :
    keyword.intercalate (splitAt keyword text) = text ∧
      ∀ piece ∈ splitAt keyword text, ¬Occurs keyword startsWithCapital piece := by
  -- what follows a cut is shorter
  induction hlength : text.length using Nat.strongRecOn generalizing text with
  | _ n ih =>
    subst hlength
    rw [splitAt_eq hkeyword]
    cases hcut : cutAt keyword startsWithCapital text with
    | none => simpa using cutAt_eq_none_iff.mp hcut
    | some cut =>
      obtain ⟨before, after⟩ := cut
      obtain ⟨rfl, -, hfirst⟩ :=
        (cutAt_eq_some_iff hkeyword testsCapital_startsWithCapital).mp hcut
      have hshorter : after.length < (before ++ keyword ++ after).length := by
        have : keyword.length ≠ 0 := by
          rw [ne_eq, List.length_eq_zero_iff]
          rintro rfl
          exact hkeyword
        simp only [List.length_append]
        omega
      obtain ⟨hjoin, hpieces⟩ := ih _ hshorter after rfl
      simp only
      refine ⟨?_, ?_⟩
      · rw [List.intercalate_cons_of_ne_nil (splitAt_ne_nil hkeyword after), hjoin]
      · rintro piece (_ | ⟨_, hpiece⟩)
        · exact fun h => hfirst h.atWordEnd
        · exact hpieces piece hpiece

/-- **Joined pieces are read back**, if each starts with a capital and no keyword ends in it. -/
theorem splitAt_intercalate (hkeyword : IsKeyword keyword) {pieces : List (List Char)}
    (hne : pieces ≠ []) (hcapital : ∀ piece ∈ pieces, startsWithCapital piece = true)
    (hfree : ∀ piece ∈ pieces, ¬Occurs keyword atWordEnd piece) :
    splitAt keyword (keyword.intercalate pieces) = pieces := by
  induction pieces with
  | nil => exact absurd rfl hne
  | cons piece pieces ih =>
    have hpiece : ¬Occurs keyword atWordEnd piece := hfree piece List.mem_cons_self
    cases pieces with
    | nil =>
      rw [List.intercalate_singleton, splitAt_eq hkeyword,
        cutAt_eq_none_iff.mpr fun h => hpiece h.atWordEnd]
    | cons next pieces =>
      have hrest := ih (by simp) (fun piece h => hcapital piece (List.mem_cons_of_mem _ h))
        fun piece h => hfree piece (List.mem_cons_of_mem _ h)
      have hnext : startsWithCapital (keyword.intercalate (next :: pieces)) = true :=
        startsWithCapital_intercalate (hcapital next (by simp)) keyword pieces
      -- the first separator is the one behind the first piece
      rw [List.intercalate_cons_cons, splitAt_eq hkeyword,
        (cutAt_eq_some_iff hkeyword testsCapital_startsWithCapital).mpr ⟨rfl, hnext, hpiece⟩]
      exact congrArg (piece :: ·) hrest

end NamedQuery.Text
