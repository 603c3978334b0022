import Mathlib.Data.List.TakeWhile
import NamedQuery.Proofs.Request.ClosedForm

/-!
# What expressions mention

A store finds the placeholders of an expression by their marks: a mark and the letters, digits and
underscores behind it, wherever it stands. A static filter is a text that this library does not
read, so its placeholders are found in the same way.

* `mentions` — the placeholders in a text;
* `Placeholders.Defines` — a placeholder is defined among the names or among the values, as its mark
  says;
* `exists_occurrence` — what a text mentions is mentioned by one of its tokens, so a derived
  expression mentions what its conditions were written with (`Family.mentions_written`);
* `mentions_withStatic` — a static filter brings its own placeholders and changes no others;
* `Request.paged_mentions` — what a finished request mentions is defined, and comes from the static
  filter or is generated.
-/

namespace NamedQuery

/-! ### Placeholders in a text -/

/-- Whether a placeholder starts here. -/
def isPlaceholderMark (c : Char) : Bool :=
  c == '#' || c == ':'

/-- Whether a placeholder goes on here. -/
def isPlaceholderLetter (c : Char) : Bool :=
  c.isAlphanum || c == '_'

/-- The placeholders in some characters. -/
def marked : List Char → List String
  | [] => []
  | c :: text =>
    let letters := text.takeWhile isPlaceholderLetter
    if isPlaceholderMark c && !letters.isEmpty then String.ofList (c :: letters) :: marked text
    else marked text

/-- The placeholders in a text. -/
def mentions (text : String) : List String :=
  marked text.toList

/-- A character that belongs to no placeholder. -/
def IsPause (c : Char) : Prop :=
  isPlaceholderMark c = false ∧ isPlaceholderLetter c = false

instance : DecidablePred IsPause := fun _ => inferInstanceAs (Decidable (_ ∧ _))

theorem marked_cons_of_not_mark {c : Char} (h : isPlaceholderMark c = false) (text : List Char) :
    marked (c :: text) = marked text := by
  rw [marked, h]
  rfl

theorem marked_eq_nil {text : List Char} (h : ∀ c ∈ text, isPlaceholderMark c = false) :
    marked text = [] := by
  induction text with
  | nil => rfl
  | cons c text ih =>
    rw [marked_cons_of_not_mark (h c List.mem_cons_self)]
    exact ih fun d hd => h d (List.mem_cons_of_mem _ hd)

/-- No placeholder goes on behind a pause. -/
theorem marked_append_cons {c : Char} (h : IsPause c) (front text : List Char) :
    marked (front ++ c :: text) = marked front ++ marked text := by
  induction front with
  | nil => exact marked_cons_of_not_mark h.1 text
  | cons d front ih =>
    -- what follows a pause is not part of the letters in front of it
    have hletters : (front ++ c :: text).takeWhile isPlaceholderLetter =
        front.takeWhile isPlaceholderLetter := by
      rw [List.takeWhile_append]
      split
      · next hall =>
        rw [List.takeWhile_cons_of_neg (by simp [h.2]), List.append_nil]
        exact (List.takeWhile_prefix _).eq_of_length hall |>.symm
      · rfl
    rw [List.cons_append, marked, marked, hletters, ih]
    split
    · rfl
    · rfl

/-- No mark is a letter. -/
theorem not_mark_of_letter {c : Char} (h : isPlaceholderLetter c = true) :
    isPlaceholderMark c = false := by
  by_contra hmark
  have hcases : c = '#' ∨ c = ':' := by
    rwa [Bool.not_eq_false, isPlaceholderMark, Bool.or_eq_true, beq_iff_eq, beq_iff_eq] at hmark
  rcases hcases with rfl | rfl
  · exact absurd h (by decide)
  · exact absurd h (by decide)

/-- A placeholder mentions itself. -/
theorem marked_placeholder {mark : Char} {letters : List Char}
    (hmark : isPlaceholderMark mark = true) (hne : letters ≠ [])
    (hletters : ∀ c ∈ letters, isPlaceholderLetter c = true) :
    marked (mark :: letters) = [String.ofList (mark :: letters)] := by
  have hnone : marked letters = [] :=
    marked_eq_nil fun c hc => not_mark_of_letter (hletters c hc)
  rw [marked, List.takeWhile_eq_self_iff.mpr hletters, hnone, hmark]
  simp [hne]

/-! ### Conditions -/

namespace Family

/-- A letter and a number behind a mark are a placeholder. -/
theorem mentions_mark {mark letter : Char} (hmark : isPlaceholderMark mark = true)
    (hletter : isPlaceholderLetter letter = true) (n : Nat) :
    mentions (String.ofList [mark, letter] ++ toString n) =
      [String.ofList [mark, letter] ++ toString n] := by
  -- the text is a mark with letters and digits behind it, so there is one placeholder in it
  have htext : (String.ofList [mark, letter] ++ toString n).toList =
      mark :: letter :: Nat.toDigits 10 n := by
    rw [String.toList_append, String.toList_ofList, Nat.toString_eq_ofList_toDigits,
      String.toList_ofList]
    rfl
  rw [mentions, htext, marked_placeholder hmark (by simp), ← htext, String.ofList_toList]
  rintro c (_ | ⟨_, hc⟩)
  · exact hletter
  · have hdigit : c.isDigit = true := Nat.isDigit_of_mem_toDigits (by decide) (by decide) hc
    simp [isPlaceholderLetter, Char.isAlphanum, hdigit]

theorem mentions_name (family : Family) (n : Nat) :
    mentions (family.name n) = [family.name n] := by
  cases family <;> exact mentions_mark rfl rfl n

theorem mentions_value (family : Family) (n : Nat) :
    mentions (family.value n) = [family.value n] := by
  cases family <;> exact mentions_mark rfl rfl n

end Family

/-! ### Tokens -/

/-- A separator of tokens belongs to no placeholder. -/
theorem isPause_of_separator {c : Char} {marks : List Token}
    (h : Token.separator? c = some marks) : IsPause c := by
  unfold Token.separator? at h
  -- each of the separators is a pause
  split at h
  · decide
  · decide
  · decide
  · decide
  · exact absurd h (by simp)

/-- What a text mentions, one of its tokens mentions. -/
theorem exists_token {text : List Char} {s : String} (h : s ∈ marked text) :
    ∃ run, Token.ofRun run ∈ tokens text ∧ s ∈ marked run := by
  have hended : ∀ {run : List Char}, s ∈ marked run → Token.ofRun run ∈ Token.ofEnded run := by
    intro run hrun
    cases run with
    | nil => exact absurd hrun List.not_mem_nil
    | cons c run => exact List.mem_singleton_self _
  -- a run may have begun in front of the text
  suffices hafter : ∀ run, s ∈ marked (run ++ text) →
      ∃ run', Token.ofRun run' ∈ tokensAfter run text ∧ s ∈ marked run' from hafter [] h
  clear h
  induction text with
  | nil =>
    intro run h
    rw [List.append_nil] at h
    exact ⟨run, hended h, h⟩
  | cons c text ih =>
    intro run h
    rw [tokensAfter]
    cases hc : Token.separator? c with
    | none =>
      -- a letter lengthens the run
      rw [List.append_cons] at h
      exact ih _ h
    | some marks =>
      -- a separator ends the run, so the placeholder stands in front of it or behind it
      rw [marked_append_cons (isPause_of_separator hc), List.mem_append] at h
      rcases h with h | h
      · exact ⟨run, by simp [hended h], h⟩
      · obtain ⟨run', hrun', hs⟩ := ih [] h
        exact ⟨run', List.mem_append_right _ hrun', hs⟩

/-- Only placeholders mention any, if every token is one that is known. -/
theorem placeholder_of_marked {run : List Char} {s : String} (h : s ∈ marked run)
    (hother : ∀ text, Token.ofRun run ≠ .other text) :
    ∃ p, (Token.ofRun run).placeholder? = some p ∧ s ∈ mentions p := by
  have hplaceholder : s ∈ mentions (String.ofList run) := by
    rwa [mentions, String.toList_ofList]
  unfold Token.ofRun at hother ⊢
  split at hother
  · exact ⟨_, rfl, hplaceholder⟩
  · exact ⟨_, rfl, hplaceholder⟩
  · -- the words have no marks
    split at hother
    · next word hlookup =>
      have hwords : ∀ entry ∈ ExpressionWord.table, mentions entry.1 = [] := by decide
      obtain ⟨front, tail, htable, -⟩ := List.lookup_eq_some_iff.mp hlookup
      have hnone := hwords (String.ofList run, word) (by simp [htable])
      rw [hnone] at hplaceholder
      exact absurd hplaceholder List.not_mem_nil
    · exact absurd rfl (hother _)

theorem exists_occurrence {text s : String} (hother : ∀ x, Token.other x ∉ tokens text.toList)
    (h : s ∈ mentions text) : ∃ p ∈ occurrences text, s ∈ mentions p := by
  obtain ⟨run, htoken, hs⟩ := exists_token h
  obtain ⟨p, hp, hmention⟩ := placeholder_of_marked hs fun x hx => hother x (hx ▸ htoken)
  exact ⟨p, List.mem_filterMap.mpr ⟨_, htoken, hp⟩, hmention⟩

namespace Line

theorem other_notMem_valueTokens (vs : List String) (x : String) :
    Token.other x ∉ valueTokens vs := by
  fun_induction valueTokens vs <;> simp_all

/-- Every token of a line is known. -/
theorem other_notMem_tokens (l : Line) (x : String) : Token.other x ∉ l.tokens := by
  unfold Line.tokens
  split <;> simp [other_notMem_valueTokens]

theorem other_notMem_join {lines : List Line} (h : ∀ l ∈ lines, l.IsReadable) (hne : lines ≠ [])
    (x : String) : Token.other x ∉ NamedQuery.tokens (join lines).toList := by
  induction lines with
  | nil => exact absurd rfl hne
  | cons l lines ih =>
    have hl : l.IsReadable := h l (by simp)
    cases lines with
    | nil =>
      rw [tokens_join_singleton hl.isLaidOut]
      exact l.other_notMem_tokens x
    -- a line that follows stands behind an `AND`
    | cons l' lines =>
      have hrest := ih (fun l'' hl'' => h l'' (List.mem_cons_of_mem _ hl'')) (by simp)
      rw [tokens_join_cons hl.isLaidOut]
      simpa [l.other_notMem_tokens x] using hrest

end Line

/-! ### Derived expressions -/

/-- What a placeholder belongs to is told by its mark. -/
def Placeholders.Defines (p : Placeholders) (s : String) : Prop :=
  if s.toList.head? = some '#' then s ∈ p.names.names else s ∈ p.values.names

instance (p : Placeholders) : DecidablePred p.Defines := fun s => by
  unfold Placeholders.Defines
  infer_instance

theorem Placeholders.Extends.defines {p p' : Placeholders} (h : p.Extends p') {s : String}
    (hs : p.Defines s) : p'.Defines s := by
  unfold Defines at hs ⊢
  -- names and values are defined apart, and both stay
  split at hs
  · next hmark =>
    obtain ⟨attr, hattr⟩ := Fields.mem_names_iff_get?.mp hs
    rw [if_pos hmark]
    exact Fields.mem_names_iff_get?.mpr ⟨attr, h.names _ _ hattr⟩
  · next hmark =>
    obtain ⟨v, hv⟩ := Fields.mem_names_iff_get?.mp hs
    rw [if_neg hmark]
    exact Fields.mem_names_iff_get?.mpr ⟨v, h.values _ _ hv⟩

namespace Family

variable {cs : List Condition} {s : String}

theorem defines_name {family : Family} {n : Nat} {p : Placeholders} :
    p.Defines (family.name n) ↔ family.name n ∈ p.names.names := by
  obtain ⟨run, hs, -⟩ := family.name_isPlaceholder n
  rw [Placeholders.Defines, hs, if_pos (by simp)]

theorem defines_value {family : Family} {n : Nat} {p : Placeholders} :
    p.Defines (family.value n) ↔ family.value n ∈ p.values.names := by
  obtain ⟨run, hs, -⟩ := family.value_isPlaceholder n
  rw [Placeholders.Defines, hs, if_neg (by simp)]

/-- **What an expression mentions** are the placeholders of its conditions. -/
theorem mentions_written (family : Family) (n m : Nat)
    (hcs : ∀ c ∈ cs, ∀ attr, c ≠ .among attr [])
    (h : s ∈ (joined? " AND " ((family.written n m (cs.map Condition.requirement)).map
      Written.text)).toList.flatMap mentions) :
    (∃ i ∈ List.range' n cs.length, s = family.name i) ∨
      ∃ i ∈ List.range' m ((cs.map Condition.requirement).flatMap Requirement.operands).length,
        s = family.value i := by
  have hoccurrences := occurrences_written family n m hcs
  obtain ⟨lines, hlines, -, hjoin⟩ := family.exists_join n m hcs
  rw [hjoin] at h hoccurrences
  split at h
  · exact absurd h List.not_mem_nil
  next hne =>
  -- something is written, so its placeholders are those that occur in its tokens
  rw [if_neg hne] at hoccurrences
  rw [Option.toList_some, List.flatMap_singleton] at h hoccurrences
  obtain ⟨p, hp, hs⟩ := exists_occurrence (Line.other_notMem_join hlines hne) h
  -- a placeholder that occurs is a name or a value, and mentions itself only
  rw [hoccurrences, ← (List.map_append_flatMap_perm _ Written.name Written.values).mem_iff,
    map_name_written, flatMap_values_written, List.mem_append, List.length_map] at hp
  rcases hp with hp | hp
  · obtain ⟨i, hi, rfl⟩ := List.mem_map.mp hp
    rw [mentions_name, List.mem_singleton] at hs
    exact Or.inl ⟨i, hi, hs⟩
  · obtain ⟨i, hi, rfl⟩ := List.mem_map.mp hp
    rw [mentions_value, List.mem_singleton] at hs
    exact Or.inr ⟨i, hi, hs⟩

end Family

/-- **What a builder writes** mentions what it has defined, all of it of its own family. -/
theorem Builder.mentions_expression? {family : Family} {p : Placeholders} {cs : List Condition}
    {b : Builder} (hp : p.Free family 0 0) (hcs : ∀ c ∈ cs, ∀ attr, c ≠ .among attr [])
    (hb : (start family p).addAll cs = b) {s : String}
    (h : s ∈ b.expression?.toList.flatMap mentions) :
    b.placeholders.Defines s ∧ ∃ i, s = family.name i ∨ s = family.value i := by
  rw [addAll_eq (start_wrote hp).1] at hb
  subst hb
  rw [expression?_eq] at h
  -- the numbers of the names and of the values are those that the builder has used
  rcases family.mentions_written 0 0 hcs h with ⟨i, hi, rfl⟩ | ⟨i, hi, rfl⟩
  · refine ⟨Family.defines_name.mpr ?_, i, Or.inl rfl⟩
    rw [after, Fields.names_append, names_numbered, List.length_map, List.length_map]
    exact List.mem_append_right _ (List.mem_map_of_mem hi)
  · refine ⟨Family.defines_value.mpr ?_, i, Or.inr rfl⟩
    rw [after, Fields.names_append, names_numbered]
    exact List.mem_append_right _ (List.mem_map_of_mem hi)

/-! ### Requests -/

/-- What the expressions of a request mention that select items. -/
def PagedRequest.mentions (r : PagedRequest) : List String :=
  r.keyCondition?.toList.flatMap NamedQuery.mentions ++
    r.shared.filter.toList.flatMap NamedQuery.mentions

/-- What the static filter mentions, if there is one. -/
def RequestOptions.staticMentions (options : RequestOptions) : List String :=
  options.staticFilter?.toList.flatMap mentions

/-- **A static filter brings its own placeholders** and changes no others. -/
theorem mentions_withStatic (options : RequestOptions) (derived : Option String) :
    (options.withStatic derived).toList.flatMap mentions =
      derived.toList.flatMap mentions ++ options.staticMentions := by
  unfold RequestOptions.withStatic RequestOptions.staticMentions
  cases options.staticFilter? with
  | none => exact (List.append_nil _).symm
  | some static =>
    cases derived with
    | none => rfl
    | some derived =>
      simp only [Option.toList_some, List.flatMap_singleton, Request.joinFilters]
      -- the static filter stands in brackets, which are pauses like the blanks
      have htext : (derived ++ " AND (" ++ static ++ ")").toList =
          derived.toList ++
            ' ' :: ("AND".toList ++ ' ' :: ([] ++ '(' :: (static.toList ++ [')']))) := by
        simp
      have hpauses : IsPause ' ' ∧ IsPause '(' ∧ IsPause ')' := by decide
      rw [mentions, htext, marked_append_cons hpauses.1, marked_append_cons hpauses.1,
        marked_append_cons hpauses.2.1, marked_append_cons hpauses.2.2]
      exact congrArg (marked derived.toList ++ ·) (List.append_nil _)

namespace Request

variable {e : Entity} {options : RequestOptions} {path : AccessPath} {plan : RequestPlan}
  {args : List Value}

/-- What a generated placeholder of a condition looks like. -/
def IsGenerated (s : String) : Prop :=
  ∃ family : Family, family ≠ .projection ∧ ∃ i, s = family.name i ∨ s = family.value i

theorem reading_mentions {p : Placeholders} {r : ScanRequest} (hfilter : p.Free .filter 0 0)
    (hprojection : p.Free .projection 0 0)
    (havoids : options.staticFilter?.isSome = true → options.AvoidsGenerated)
    (huses : ∀ s ∈ options.staticMentions, options.placeholders.Defines s)
    (h : reading e options plan args p = .ok r) :
    (∀ s ∈ options.staticMentions, s ∈ r.filter.toList.flatMap mentions) ∧
      ∀ s ∈ r.filter.toList.flatMap mentions, r.placeholders.Defines s ∧
        (s ∈ options.staticMentions ∨ IsGenerated s) := by
  obtain ⟨conditions, b, hconditions, hb, htext, hextends, hstatic⟩ :=
    reading_keeps hfilter hprojection havoids h
  obtain ⟨-, hchoice⟩ := Criterion.requirements_of_conditions hconditions
  rw [htext, mentions_withStatic]
  refine ⟨fun s hs => List.mem_append_right _ hs, fun s hs => ?_⟩
  -- what is mentioned is generated for a condition, or comes from the static filter
  rcases List.mem_append.mp hs with hs | hs
  · obtain ⟨hdefines, hgenerated⟩ := Builder.mentions_expression? hfilter hchoice hb hs
    exact ⟨hextends.defines hdefines, Or.inr ⟨.filter, by simp, hgenerated⟩⟩
  · refine ⟨(hstatic ?_).defines (huses s hs), Or.inl hs⟩
    -- there is a static filter, since it mentions something
    cases hnone : options.staticFilter? with
    | none =>
      rw [RequestOptions.staticMentions, hnone] at hs
      exact absurd hs List.not_mem_nil
    | some static => rfl

/-- **What a request mentions is defined**, and the placeholders of its derived expressions are
generated ones. -/
theorem paged_mentions {r : PagedRequest}
    (havoids : options.staticFilter?.isSome = true → options.AvoidsGenerated)
    (huses : ∀ s ∈ options.staticMentions, options.placeholders.Defines s)
    (h : paged e options path args = .ok r) :
    (∀ s ∈ options.staticMentions, s ∈ r.mentions) ∧
      ∀ s ∈ r.mentions, r.shared.placeholders.Defines s ∧
        (s ∈ options.staticMentions ∨ IsGenerated s) := by
  unfold paged at h
  split at h
  · obtain ⟨r, hscan, rfl⟩ := map_eq_ok_iff.mp h
    exact reading_mentions (Placeholders.free_empty .filter) (Placeholders.free_empty .projection)
      havoids huses hscan
  · obtain ⟨r, hquery, rfl⟩ := map_eq_ok_iff.mp h
    obtain ⟨conditions, b, hconditions, hb, hkey, -, hreading⟩ := queryOf_eq_ok hquery
    obtain ⟨-, hchoice⟩ := Criterion.requirements_of_conditions hconditions
    obtain ⟨hopen, hstart⟩ := Builder.start_wrote (Placeholders.free_empty .key)
    have hgrows := (Builder.addAll_wrote hopen hstart hchoice).1
    rw [hb] at hgrows
    -- the key condition leaves the placeholders of the filter and the projection free
    have hfilter := hgrows.others .filter (by simp [Builder.start])
      (Placeholders.free_empty .filter)
    have hprojection := hgrows.others .projection (by simp [Builder.start])
      (Placeholders.free_empty .projection)
    obtain ⟨hextends, -⟩ := reading_asks hfilter hprojection havoids hreading
    obtain ⟨hstatic, hmentions⟩ := reading_mentions hfilter hprojection havoids huses hreading
    refine ⟨fun s hs => List.mem_append_right _ (hstatic s hs), fun s hs => ?_⟩
    -- what the key condition mentions stays defined while the rest is read
    rcases List.mem_append.mp hs with hs | hs
    · have hexpression : s ∈ b.expression?.toList.flatMap mentions := by
        rw [hkey]
        exact hs
      obtain ⟨hdefines, hgenerated⟩ := Builder.mentions_expression?
        (Placeholders.free_empty .key) hchoice hb hexpression
      exact ⟨hextends.defines hdefines, Or.inr ⟨.key, by simp, hgenerated⟩⟩
    · exact hmentions s hs

end Request

end NamedQuery
