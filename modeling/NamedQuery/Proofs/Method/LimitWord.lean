import NamedQuery.Proofs.Method.Phrase

/-!
# Words that limit the number of results

`Top` and `First` limit the number of results, wherever they stand between the verb and `By`. What
follows them is not looked at, so a longer word that begins with their letters, such as the plural
of a topic, limits the results as well:

* `HasWords` — the words between the verb of a name and its `By`;
* `HasLimitWord`, `HasLongerWord` — `Top` or `First` as a word, and as the start of a longer one;
* `limitDigits?_isSome_iff` — the search finds both;
* `limitDigits?_eq_nil` — without such a word there is no numeral either;
* `limit_iff_limitWord_iff` — which names are limited by their limit words only.
-/

namespace NamedQuery.MethodName

open Text (Occurs)

/-- Whether a limit word may end in front of this text. -/
def endsLimitWord : List Char → Bool
  | [] => true
  | c :: _ => c.isDigit || Text.isCapital c

/-- `Top` or `First` is one of the words. -/
def HasLimitWord (words : List Char) : Prop :=
  ∃ word : LimitWord, Occurs word.text.toList endsLimitWord words

/-- One of the words only begins like `Top` or `First`. -/
def HasLongerWord (words : List Char) : Prop :=
  ∃ word : LimitWord, Occurs word.text.toList (fun rest => !endsLimitWord rest) words

instance {follows : List Char → Bool} {words : List Char} :
    Decidable (∃ word : LimitWord, Occurs word.text.toList follows words) :=
  decidable_of_iff (Occurs LimitWord.top.text.toList follows words ∨
      Occurs LimitWord.first.text.toList follows words)
    ⟨fun h => h.elim (⟨.top, ·⟩) (⟨.first, ·⟩), fun
      | ⟨.top, h⟩ => Or.inl h
      | ⟨.first, h⟩ => Or.inr h⟩

instance {words : List Char} : Decidable (HasLimitWord words) :=
  inferInstanceAs (Decidable (∃ word : LimitWord, Occurs word.text.toList endsLimitWord words))

/-- What stands between the verb of a name and its `By`, or what follows the verb up to its
`OrderBy` where there is no `By`. -/
def HasWords (text : String) (words : List Char) : Prop :=
  ∃ (verb : Verb) (s : Sections),
    text.toList = verb.word.toList ++ s.text ∧ s.IsCut ∧ s.words = words

variable {words : List Char}

/-! ### The search -/

/-- No text starts with both words. -/
theorem after?_limitWord_iff {text rest : List Char} :
    (Text.after? "First".toList text <|> Text.after? "Top".toList text) = some rest ↔
      ∃ word : LimitWord, text = word.text.toList ++ rest := by
  constructor
  · intro h
    -- `First` is tried before `Top`, and neither starts like the other
    rcases Option.or_eq_some_iff.mp (Option.orElse_eq_or.symm.trans h) with hfirst | ⟨-, htop⟩
    · exact ⟨.first, Text.after?_eq_some_iff.mp hfirst⟩
    · exact ⟨.top, Text.after?_eq_some_iff.mp htop⟩
  · rintro ⟨word, rfl⟩
    cases word with
    | top => rfl
    | first => rw [LimitWord.text, Text.after?_append]; rfl

/-- The search ends at a limit word, and takes the numeral behind it. -/
theorem limitDigits?_eq_some {digits : List Char} (h : limitDigits? words = some digits) :
    ∃ (word : LimitWord) (before after : List Char),
      words = before ++ word.text.toList ++ after ∧ after.takeWhile Char.isDigit = digits := by
  induction words with
  | nil => exact absurd h (by simp [limitDigits?])
  | cons c words ih =>
    rw [limitDigits?] at h
    split at h
    · -- the word stands here, and its digits are right behind it
      next rest hrest =>
      obtain ⟨word, htext⟩ := after?_limitWord_iff.mp hrest
      exact ⟨word, [], rest, htext, Option.some.inj h⟩
    · obtain ⟨word, before, after, rfl, hdigits⟩ := ih h
      exact ⟨word, c :: before, after, rfl, hdigits⟩

/-- **The search finds the letters of a limit word** wherever they stand. -/
theorem limitDigits?_isSome_iff :
    (limitDigits? words).isSome = true ↔ ∃ word : LimitWord, word.text.toList <:+: words := by
  induction words with
  | nil =>
    refine iff_of_false (by simp [limitDigits?]) ?_
    -- nothing occurs in an empty text but the empty one
    rintro ⟨word, hinfix⟩
    exact absurd (List.infix_nil.mp hinfix) (by cases word <;> decide)
  | cons c words ih =>
    simp only [limitDigits?, List.infix_cons_iff]
    split
    · next rest hrest =>
      obtain ⟨word, htext⟩ := after?_limitWord_iff.mp hrest
      exact iff_of_true rfl ⟨word, Or.inl ⟨rest, htext.symm⟩⟩
    · next hnone =>
      rw [ih]
      refine exists_congr fun word => (or_iff_right ?_).symm
      -- the text would start with the word
      rintro ⟨rest, htext⟩
      have hstart := after?_limitWord_iff.mpr ⟨word, htext.symm⟩
      exact absurd (hnone.symm.trans hstart) (by simp)

theorem limit?_isSome_iff :
    (limit? words).isSome = true ↔ HasLimitWord words ∨ HasLongerWord words := by
  rw [limit?, Option.isSome_map, limitDigits?_isSome_iff, HasLimitWord, HasLongerWord, ← exists_or]
  exact exists_congr fun word => Text.infix_iff_occurs

/-- **Without a limit word there is no numeral**, since one would end the word. -/
theorem limitDigits?_eq_nil (h : ¬HasLimitWord words) {digits : List Char}
    (hdigits : limitDigits? words = some digits) : digits = [] := by
  obtain ⟨word, before, after, hwords, rfl⟩ := limitDigits?_eq_some hdigits
  -- what follows the word is no digit, since it would be a limit then
  cases after with
  | nil => rfl
  | cons c after =>
    have hend : endsLimitWord (c :: after) ≠ true := fun hend =>
      h ⟨word, before, c :: after, hwords, hend⟩
    have hdigit : ¬c.isDigit = true := fun hdigit => hend (by simp [endsLimitWord, hdigit])
    exact List.takeWhile_cons_of_neg hdigit

theorem limit?_eq_atMost_one (h : ¬HasLimitWord words) {limit : ItemLimit}
    (hlimit : limit? words = some limit) : limit = .atMost 1 := by
  obtain ⟨digits, hdigits, rfl⟩ := Option.map_eq_some_iff.mp hlimit
  rw [limitDigits?_eq_nil h hdigits]
  rfl

/-! ### Names -/

/-- Every name that is read has its words. -/
theorem hasWords_iff {text : String} {name : MethodName} (h : parse text = .ok name) :
    ∃ words, (∀ words', HasWords text words' ↔ words' = words) ∧ name.limit = limit? words := by
  obtain ⟨verb, rest, rfl⟩ := exists_verb h
  obtain ⟨hend, hsections⟩ := parse_eq_ok_iff.mp h
  obtain ⟨-, -, hlimit, -⟩ := ofSections_eq_ok_iff.mp hsections
  refine ⟨(sections rest.toList).words, fun words' => ?_, hlimit⟩
  constructor
  · rintro ⟨verb', s, htext, hcut, rfl⟩
    -- no verb is the beginning of another one
    have hread := Text.after?_eq_some_iff.mpr htext
    rw [String.toList_append, Verb.after?_word] at hread
    obtain ⟨-, hrest⟩ := Option.ite_none_right_eq_some.mp hread
    rw [Option.some.inj hrest, sections_eq_iff.mpr ⟨rfl, hcut⟩]
  · rintro rfl
    obtain ⟨htext, hcut⟩ := sections_eq_iff.mp (Eq.refl (sections rest.toList))
    exact ⟨verb, _, by rw [htext, String.toList_append], hcut, rfl⟩

/-- **Which names are limited by limit words only.** A longer word that begins like one of them
limits the results as well, to a single one, so the names are those that hold a limit word or no
such longer word. -/
theorem limit_iff_limitWord_iff {text : String} {name : MethodName} (h : parse text = .ok name) :
    ∃ words, (∀ words', HasWords text words' ↔ words' = words) ∧
      ((name.limit.isSome = true ↔ HasLimitWord words) ↔
        (HasLongerWord words → HasLimitWord words)) ∧
      (name.limit.isSome = true ↔ HasLimitWord words ∨ HasLongerWord words) ∧
      (¬HasLimitWord words → ∀ limit, name.limit = some limit → limit = .atMost 1) := by
  obtain ⟨words, hwords, hlimit⟩ := hasWords_iff h
  have hsome : name.limit.isSome = true ↔ HasLimitWord words ∨ HasLongerWord words := by
    rw [hlimit, limit?_isSome_iff]
  refine ⟨words, hwords, ?_, hsome, fun hfree limit hname => ?_⟩
  · rw [hsome]
    -- only longer words keep the two apart
    constructor
    · exact fun hiff hlonger => hiff.mp (Or.inr hlonger)
    · exact fun hlonger => or_iff_left_of_imp hlonger
  · exact limit?_eq_atMost_one hfree (hlimit.symm.trans hname)

/-- A limit word in front of a longer one. -/
theorem limit_iff_limitWord_iff_topics :
    parse "findFirst10TopicsByStatus" = .ok
        { text := "findFirst10TopicsByStatus", subject := .find, limit := some (.atMost 10)
          criteria := ["Status"], order := none } ∧
      HasWords "findFirst10TopicsByStatus" "First10Topics".toList ∧
      ((some (ItemLimit.atMost 10)).isSome = true ↔ HasLimitWord "First10Topics".toList) := by
  have hparse : parse "findFirst10TopicsByStatus" = .ok _ := rfl
  have hread : HasWords "findFirst10TopicsByStatus" "First10Topics".toList :=
    ⟨.find, ⟨"First10Topics".toList, some "Status".toList, none⟩, rfl,
      ⟨by decide, by rintro _ ⟨⟩; decide, by decide, by simp⟩, rfl⟩
  -- the words of the name are known, so the law is about them
  obtain ⟨words, hwords, hiff, -⟩ := limit_iff_limitWord_iff hparse
  obtain rfl := (hwords _).mp hread
  exact ⟨hparse, hread, hiff.mpr fun _ => by decide⟩

/-- **The plural of a topic limits the results**, and turns the removal of all topics of a status
into the removal of one. -/
theorem topics_limited :
    parse "deleteTopicsByStatus" = .ok
        { text := "deleteTopicsByStatus", subject := .delete, limit := some (.atMost 1)
          criteria := ["Status"], order := none } ∧
      (∀ words, HasWords "deleteTopicsByStatus" words ↔ words = "Topics".toList) ∧
      ¬HasLimitWord "Topics".toList := by
  have hparse : parse "deleteTopicsByStatus" = .ok _ := rfl
  have hread : HasWords "deleteTopicsByStatus" "Topics".toList :=
    ⟨.delete, ⟨"Topics".toList, some "Status".toList, none⟩, rfl,
      ⟨by decide, by rintro _ ⟨⟩; decide, by decide, by simp⟩, rfl⟩
  -- the words of the name are known, and no whole word among them is one for a limit
  obtain ⟨words, hwords, -⟩ := hasWords_iff hparse
  obtain rfl := (hwords _).mp hread
  exact ⟨hparse, hwords, by decide⟩

end NamedQuery.MethodName
