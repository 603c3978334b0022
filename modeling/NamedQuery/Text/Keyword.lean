import NamedQuery.Text.LowerCase

/-!
# Keywords inside a camel-case text

Method names are camel case, so a keyword such as `By` only counts where a new word starts right
after it. This module holds the ways in which a text is cut at keywords. All of them work on
lists of characters.

* `after?`, `before?` — what is left of a text without a keyword at its start or end;
* `cutAt` — the text before and after the first occurrence of a keyword that satisfies a test on
  what follows;
* `splitAt` — the pieces between all occurrences of a keyword that are followed by a capital;
* `containsSeparator` — whether there is such an occurrence;
* `pieces` — the pieces between all occurrences of a single character.

The main facts are `eq_append_of_after?` and `after?_append` (the rest of a text is what it is
without the keyword), `append_of_cutAt` (a cut loses nothing but the keyword) and `follows_of_cutAt`
(what follows a cut passes the test).
-/

namespace NamedQuery.Text

/-- Whether a text starts with a capital. -/
def startsWithCapital : List Char → Bool
  | [] => false
  | c :: _ => isCapital c

/-- Whether a word may end before this text: the text is empty or starts with a capital. -/
def atWordEnd : List Char → Bool
  | [] => true
  | c :: _ => isCapital c

/-- What follows `keyword` at the start of a text. -/
def after? : (keyword text : List Char) → Option (List Char)
  | [], text => some text
  | _ :: _, [] => none
  | k :: keyword, c :: text => if k = c then after? keyword text else none

/-- What stands in front of `keyword` at the end of a text. -/
def before? (keyword text : List Char) : Option (List Char) :=
  (after? keyword.reverse text.reverse).map List.reverse

/-- The text before and after the first occurrence of `keyword` whose remainder passes `follows`. -/
def cutAt (keyword : List Char) (follows : List Char → Bool) :
    List Char → Option (List Char × List Char)
  | [] => ((after? keyword []).filter follows).map fun rest => ([], rest)
  | c :: text =>
    match (after? keyword (c :: text)).filter follows with
    | some rest => some ([], rest)
    | none => (cutAt keyword follows text).map fun (before, after) => (c :: before, after)

/-- Whether `keyword` stands at the start of the text and a capital follows it. -/
def separates (keyword text : List Char) : Bool :=
  match after? keyword text with
  | some rest => startsWithCapital rest
  | none => false

/-- Whether `keyword` occurs anywhere with a capital after it. -/
def containsSeparator (keyword : List Char) : List Char → Bool
  | [] => separates keyword []
  | c :: text => separates keyword (c :: text) || containsSeparator keyword text

/-- Puts a character in front of the first piece. -/
def consHead (c : Char) : List (List Char) → List (List Char)
  | [] => [[c]]
  | piece :: pieces => (c :: piece) :: pieces

/-- The pieces of a text between the separators, reading from the left; `skip` characters of the
separator read last are still to be passed over. -/
def splitFrom (keyword : List Char) : Nat → List Char → List (List Char)
  | _, [] => [[]]
  | skip + 1, _ :: text => splitFrom keyword skip text
  | 0, c :: text =>
    if separates keyword (c :: text) then
      -- `c` is the first character of the separator; the others are still to be passed over.
      [] :: splitFrom keyword (keyword.length - 1) text
    else
      consHead c (splitFrom keyword 0 text)

/-- The pieces of a text between the occurrences of `keyword` that a capital follows. -/
def splitAt (keyword text : List Char) : List (List Char) :=
  splitFrom keyword 0 text

/-- The pieces of a text between the occurrences of a mark. -/
def pieces (mark : Char) : List Char → List (List Char)
  | [] => [[]]
  | c :: text => if c = mark then [] :: pieces mark text else consHead c (pieces mark text)

/-- Every way to cut a text in two non-empty parts before a capital, from the left. -/
def capitalCuts : List Char → List (List Char × List Char)
  | [] => []
  | [_] => []
  | c :: d :: text =>
    -- A cut of what follows `c` is a cut of the text with `c` in its head.
    let later := (capitalCuts (d :: text)).map fun (head, tail) => (c :: head, tail)
    if isCapital d then ([c], d :: text) :: later else later

/-! ### What the cuts keep -/

theorem eq_append_of_after? {keyword text rest : List Char}
    (h : after? keyword text = some rest) : text = keyword ++ rest := by
  induction keyword generalizing text with
  | nil => simpa [after?] using h
  | cons k keyword ih =>
    cases text with
    | nil => simp [after?] at h
    | cons c text =>
      simp only [after?] at h
      split at h
      · next hkc => rw [ih h, hkc]; rfl
      · simp at h

theorem after?_append (keyword rest : List Char) :
    after? keyword (keyword ++ rest) = some rest := by
  induction keyword with
  | nil => rfl
  | cons k keyword ih => simpa [after?] using ih

theorem eq_append_of_before? {keyword text rest : List Char}
    (h : before? keyword text = some rest) : text = rest ++ keyword := by
  obtain ⟨reversed, hafter, rfl⟩ := Option.map_eq_some_iff.mp h
  simpa using congrArg List.reverse (eq_append_of_after? hafter)

/-- A cut loses nothing but the keyword. -/
theorem append_of_cutAt {keyword : List Char} {follows : List Char → Bool}
    {text before after : List Char} (h : cutAt keyword follows text = some (before, after)) :
    text = before ++ keyword ++ after := by
  -- the induction is on the text, at each place of which the keyword is looked for
  induction text generalizing before with
  | nil =>
    simp only [cutAt, Option.map_eq_some_iff, Option.filter_eq_some_iff] at h
    obtain ⟨rest, ⟨hrest, _⟩, heq⟩ := h
    cases heq
    simpa using eq_append_of_after? hrest
  | cons c text ih =>
    simp only [cutAt] at h
    split at h
    · next rest hrest =>
      cases h
      simpa using eq_append_of_after? (Option.filter_eq_some_iff.mp hrest).1
    · simp only [Option.map_eq_some_iff, Prod.exists, Prod.mk.injEq] at h
      obtain ⟨before', after', hcut, rfl, rfl⟩ := h
      rw [ih hcut]
      rfl

/-- What follows a cut passes the test. -/
theorem follows_of_cutAt {keyword : List Char} {follows : List Char → Bool}
    {text before after : List Char} (h : cutAt keyword follows text = some (before, after)) :
    follows after = true := by
  -- the cut lies at the start, or it is one of the rest
  induction text generalizing before with
  | nil =>
    simp only [cutAt, Option.map_eq_some_iff, Option.filter_eq_some_iff] at h
    obtain ⟨rest, ⟨_, hfollows⟩, heq⟩ := h
    cases heq
    exact hfollows
  | cons c text ih =>
    simp only [cutAt] at h
    split at h
    · next rest hrest =>
      cases h
      exact (Option.filter_eq_some_iff.mp hrest).2
    · simp only [Option.map_eq_some_iff, Prod.exists, Prod.mk.injEq] at h
      obtain ⟨before', after', hcut, rfl, rfl⟩ := h
      exact ih hcut

end NamedQuery.Text
