import Mathlib.Data.List.Basic
import NamedQuery.Request.Condition

/-!
# Reading expressions

The conditions of a request are written as one text. This module reads such a text the way a store
does, without knowing how it was written: the text is cut into tokens, and the tokens are conditions
joined by `AND`. An `AND` inside a range belongs to the range.

* `Token`, `tokens` — the tokens of a text;
* `Written` — a condition as it is read: an operator, and placeholders for the attribute and for the
  operands;
* `conditions?` — reads the conditions of an expression.

Reading undoes writing. `Line` is a condition with the placeholders it is written with, and the text
of some lines is read as these lines (`Line.conditions?_join`). The proof follows the two stages:
`Line.tokens_text` for the text of one line, and `Line.readCondition?_tokens` for its tokens in
front of others.
-/

namespace NamedQuery

/-! ### Tokens -/

/-- The words of expressions that are no placeholders. -/
inductive ExpressionWord where
  | sign (comparator : Comparator)
  | and
  | not
  | between
  | among
  | beginsWith
  | contains
  | attributeExists
  | attributeMissing
deriving DecidableEq, Repr

namespace ExpressionWord

/-- Every word with its text. -/
def table : List (String × ExpressionWord) :=
  [("=", .sign .equal), ("<>", .sign .notEqual), ("<", .sign .less), ("<=", .sign .lessOrEqual),
   (">", .sign .greater), (">=", .sign .greaterOrEqual), ("AND", .and), ("NOT", .not),
   ("BETWEEN", .between), ("IN", .among), ("begins_with", .beginsWith), ("contains", .contains),
   ("attribute_exists", .attributeExists), ("attribute_not_exists", .attributeMissing)]

end ExpressionWord

/-- A piece of an expression. -/
inductive Token where
  /-- A placeholder of an attribute name. -/
  | name (placeholder : String)
  /-- A placeholder of a value. -/
  | value (placeholder : String)
  | word (word : ExpressionWord)
  | opening
  | closing
  | comma
  /-- Anything else. -/
  | other (text : String)
deriving DecidableEq, Repr

namespace Token

/-- The token that a run of characters without separators is. -/
def ofRun (run : List Char) : Token :=
  match run with
  | '#' :: _ => .name (String.ofList run)
  | ':' :: _ => .value (String.ofList run)
  | _ =>
    match ExpressionWord.table.lookup (String.ofList run) with
    | some found => .word found
    | none => .other (String.ofList run)

/-- The tokens that a separator stands for. A blank is a separator that stands for none. -/
def separator? : Char → Option (List Token)
  | ' ' => some []
  | '(' => some [.opening]
  | ')' => some [.closing]
  | ',' => some [.comma]
  | _ => none

/-- The token of a run that has come to its end, unless nothing stands there. -/
def ofEnded : List Char → List Token
  | [] => []
  | c :: run => [ofRun (c :: run)]

end Token

/-- The tokens of a text behind a run that has begun. -/
def tokensAfter (run : List Char) : List Char → List Token
  | [] => Token.ofEnded run
  | c :: text =>
    match Token.separator? c with
    | some marks => Token.ofEnded run ++ marks ++ tokensAfter [] text
    | none => tokensAfter (run ++ [c]) text

/-- The tokens of a text. -/
def tokens (text : List Char) : List Token :=
  tokensAfter [] text

/-- Whether there is no separator in a text. -/
def IsRun (text : List Char) : Prop :=
  ∀ c ∈ text, Token.separator? c = none

theorem tokensAfter_run {run more text : List Char} (h : IsRun more) :
    tokensAfter run (more ++ text) = tokensAfter (run ++ more) text := by
  -- the run grows by one character with every step
  induction more generalizing run with
  | nil => simp
  | cons c more ih =>
    have hc : Token.separator? c = none := h c (by simp)
    have hmore : IsRun more := fun d hd => h d (List.mem_cons_of_mem _ hd)
    rw [List.cons_append, tokensAfter, hc]
    simp only
    rw [ih hmore, List.append_assoc, List.singleton_append]

theorem tokensAfter_separator {run front text : List Char} {c : Char} {marks : List Token}
    (h : Token.separator? c = some marks) :
    tokensAfter run (front ++ c :: text) = tokensAfter run front ++ marks ++ tokens text := by
  induction front generalizing run with
  | nil =>
    simp only [List.nil_append, tokensAfter, h]
    rfl
  | cons d front ih =>
    -- both sides do the same with the next character in front
    rw [List.cons_append, tokensAfter, tokensAfter]
    cases hd : Token.separator? d with
    | some marks' => simp only [ih, List.append_assoc]
    | none => exact ih

/-! A separator cuts the text in two. -/

theorem tokens_blank (front text : List Char) :
    tokens (front ++ ' ' :: text) = tokens front ++ tokens text := by
  rw [tokens, tokensAfter_separator rfl, List.append_nil, ← tokens]

theorem tokens_opening (front text : List Char) :
    tokens (front ++ '(' :: text) = tokens front ++ .opening :: tokens text := by
  rw [tokens, tokensAfter_separator rfl, List.append_assoc, List.singleton_append, ← tokens]

theorem tokens_closing (front text : List Char) :
    tokens (front ++ ')' :: text) = tokens front ++ .closing :: tokens text := by
  rw [tokens, tokensAfter_separator rfl, List.append_assoc, List.singleton_append, ← tokens]

theorem tokens_comma (front text : List Char) :
    tokens (front ++ ',' :: text) = tokens front ++ .comma :: tokens text := by
  rw [tokens, tokensAfter_separator rfl, List.append_assoc, List.singleton_append, ← tokens]

theorem tokens_run {c : Char} {run : List Char} (h : IsRun (c :: run)) :
    tokens (c :: run) = [Token.ofRun (c :: run)] := by
  have htext : tokensAfter [] (c :: run ++ []) = tokensAfter ([] ++ c :: run) [] :=
    tokensAfter_run h
  rw [List.append_nil, List.nil_append] at htext
  rw [tokens, htext]
  rfl

/-! ### Conditions -/

/-- A condition as it is read. -/
structure Written where
  operator : Operator
  /-- The placeholder of the attribute. -/
  name : String
  /-- The placeholders of the operands. -/
  values : List String
deriving DecidableEq, Repr

/-- The operator that a sign stands for. -/
def Comparator.operator : Comparator → Operator
  | equal => .equals
  | notEqual => .notEquals
  | less => .lessThan
  | lessOrEqual => .lessThanEqual
  | greater => .greaterThan
  | greaterOrEqual => .greaterThanEqual

/-- Reads values up to a closing bracket. -/
def readValues? : List Token → Option (List String × List Token)
  | .value v :: .closing :: rest => some ([v], rest)
  | .value v :: .comma :: rest => (readValues? rest).map fun (vs, rest) => (v :: vs, rest)
  | _ => none

/-- Reads one condition. -/
def readCondition? : List Token → Option (Written × List Token)
  | .name n :: .word (.sign comparator) :: .value v :: rest =>
    some (⟨comparator.operator, n, [v]⟩, rest)
  | .name n :: .word .between :: .value low :: .word .and :: .value high :: rest =>
    some (⟨.between, n, [low, high]⟩, rest)
  | .name n :: .word .among :: .opening :: rest =>
    (readValues? rest).map fun (vs, rest) => (⟨.among, n, vs⟩, rest)
  | .word .beginsWith :: .opening :: .name n :: .comma :: .value v :: .closing :: rest =>
    some (⟨.startingWith, n, [v]⟩, rest)
  | .word .contains :: .opening :: .name n :: .comma :: .value v :: .closing :: rest =>
    some (⟨.containing, n, [v]⟩, rest)
  | .word .not :: .word .contains :: .opening :: .name n :: .comma :: .value v :: .closing ::
      rest =>
    some (⟨.notContaining, n, [v]⟩, rest)
  | .word .attributeExists :: .opening :: .name n :: .closing :: rest =>
    some (⟨.isNotNull, n, []⟩, rest)
  | .word .attributeMissing :: .opening :: .name n :: .closing :: rest =>
    some (⟨.isNull, n, []⟩, rest)
  | _ => none

theorem readValues?_length {ts rest : List Token} {vs : List String}
    (h : readValues? ts = some (vs, rest)) : rest.length < ts.length := by
  -- each recursion of the reader has taken a token at least
  fun_induction readValues? ts generalizing vs rest with
  | case1 v rest' =>
    obtain ⟨-, rfl⟩ := Prod.mk.inj (Option.some.inj h)
    simp only [List.length_cons]
    omega
  | case2 v rest' ih =>
    obtain ⟨⟨vs', rest''⟩, hread, heq⟩ := Option.map_eq_some_iff.mp h
    obtain ⟨-, rfl⟩ := Prod.mk.inj heq
    have := ih hread
    simp only [List.length_cons]
    omega
  | case3 => exact absurd h (by simp)

/-- Reading a condition uses up tokens. -/
theorem readCondition?_length {ts rest : List Token} {w : Written}
    (h : readCondition? ts = some (w, rest)) : rest.length < ts.length := by
  fun_cases readCondition? ts with
  -- a choice is the only condition with any number of values
  | case3 n rest' =>
    obtain ⟨⟨vs, rest''⟩, hread, heq⟩ := Option.map_eq_some_iff.mp h
    obtain ⟨-, rfl⟩ := Prod.mk.inj heq
    have := readValues?_length hread
    simp only [List.length_cons]
    omega
  | case9 => simp_all [readCondition?]
  | _ =>
    obtain ⟨-, rfl⟩ := Prod.mk.inj (Option.some.inj h)
    simp only [List.length_cons]
    omega

/-- Reads the conditions of an expression. -/
def conditions? (ts : List Token) : Option (List Written) :=
  match _h : readCondition? ts with
  | some (w, []) => some [w]
  | some (w, .word .and :: rest) => (conditions? rest).map (w :: ·)
  | _ => none
termination_by ts.length
decreasing_by
  have := readCondition?_length _h
  simp only [List.length_cons] at this
  omega

/-! ### Lines -/

/-- The operator a condition applies. -/
def Condition.operator : Condition → Operator
  | compare _ comparator _ => comparator.operator
  | between .. => .between
  | among .. => .among
  | beginsWith .. => .startingWith
  | contains .. => .containing
  | notContains .. => .notContaining
  | attributeExists _ => .isNotNull
  | attributeMissing _ => .isNull

/-- A condition with the placeholders it is written with. -/
structure Line where
  condition : Condition
  name : String
  values : List String

/-- Whether a text is a mark with a run behind it. -/
def IsPlaceholder (mark : Char) (s : String) : Prop :=
  ∃ run, s.toList = mark :: run ∧ IsRun run

namespace Line

def text (l : Line) : String :=
  l.condition.write l.name l.values

/-- What is read where the line is written. -/
def written (l : Line) : Written :=
  { operator := l.condition.operator, name := l.name, values := l.values }

/-- A line that can be read: it has placeholders, one for each operand, and a choice among values
has a value. -/
structure IsReadable (l : Line) : Prop where
  name : IsPlaceholder '#' l.name
  values : ∀ v ∈ l.values, IsPlaceholder ':' v
  length : l.values.length = l.condition.operands.length
  choice : ∀ attr, l.condition ≠ .among attr []

/-- A line that is written as a condition: it has placeholders, one for each operand. -/
structure IsLaidOut (l : Line) : Prop where
  name : IsPlaceholder '#' l.name
  values : ∀ v ∈ l.values, IsPlaceholder ':' v
  length : l.values.length = l.condition.operands.length

theorem IsReadable.isLaidOut {l : Line} (h : l.IsReadable) : l.IsLaidOut :=
  ⟨h.name, h.values, h.length⟩

/-- Only a choice without values is laid out and cannot be read. -/
theorem IsLaidOut.isReadable {l : Line} (h : l.IsLaidOut)
    (hchoice : ∀ attr, l.condition ≠ .among attr []) : l.IsReadable :=
  ⟨h.name, h.values, h.length, hchoice⟩

/-- The tokens of values up to a closing bracket. -/
def valueTokens : List String → List Token
  | [] => [.closing]
  | [v] => [.value v, .closing]
  | v :: v' :: vs => .value v :: .comma :: valueTokens (v' :: vs)

/-- The tokens of a line. -/
def tokens (l : Line) : List Token :=
  match l.condition, l.values with
  | .compare _ comparator _, [v] => [.name l.name, .word (.sign comparator), .value v]
  | .between .., [low, high] =>
    [.name l.name, .word .between, .value low, .word .and, .value high]
  | .among .., vs => .name l.name :: .word .among :: .opening :: valueTokens vs
  | .beginsWith .., [v] =>
    [.word .beginsWith, .opening, .name l.name, .comma, .value v, .closing]
  | .contains .., [v] => [.word .contains, .opening, .name l.name, .comma, .value v, .closing]
  | .notContains .., [v] =>
    [.word .not, .word .contains, .opening, .name l.name, .comma, .value v, .closing]
  | .attributeExists _, _ => [.word .attributeExists, .opening, .name l.name, .closing]
  | .attributeMissing _, _ => [.word .attributeMissing, .opening, .name l.name, .closing]
  | _, _ => [.name l.name]

end Line

theorem isRun_placeholder {mark : Char} {run : List Char} (hmark : Token.separator? mark = none)
    (h : IsRun run) : IsRun (mark :: run) := by
  intro c hc
  rcases List.mem_cons.mp hc with rfl | hc
  · exact hmark
  · exact h c hc

theorem tokens_name {s : String} (h : IsPlaceholder '#' s) : tokens s.toList = [.name s] := by
  obtain ⟨run, hs, hrun⟩ := h
  have hname : Token.ofRun ('#' :: run) = .name s := by
    rw [Token.ofRun, ← hs, String.ofList_toList]
  rw [hs, tokens_run (isRun_placeholder rfl hrun), hname]

theorem tokens_value {s : String} (h : IsPlaceholder ':' s) : tokens s.toList = [.value s] := by
  obtain ⟨run, hs, hrun⟩ := h
  have hvalue : Token.ofRun (':' :: run) = .value s := by
    rw [Token.ofRun, ← hs, String.ofList_toList]
  rw [hs, tokens_run (isRun_placeholder rfl hrun), hvalue]

theorem tokens_sign (comparator : Comparator) :
    tokens comparator.sign.toList = [.word (.sign comparator)] := by
  cases comparator <;> rfl

/-- The tokens of values that are written with commas between them. -/
theorem tokens_values {v : String} {vs : List String} (h : ∀ w ∈ v :: vs, IsPlaceholder ':' w) :
    tokens ((", ".intercalate (v :: vs)).toList ++ [')']) = Line.valueTokens (v :: vs) := by
  induction vs generalizing v with
  | nil =>
    rw [String.intercalate_singleton, tokens_closing, tokens_value (h v (by simp))]
    rfl
  | cons v' vs ih =>
    -- a comma and a blank stand between a value and the next ones
    have htext : (", ".intercalate (v :: v' :: vs)).toList ++ [')'] =
        v.toList ++ ',' :: ([] ++ ' ' :: ((", ".intercalate (v' :: vs)).toList ++ [')'])) := by
      simp [String.intercalate_cons_cons]
    rw [htext, tokens_comma, tokens_blank, tokens_value (h v (by simp)),
      ih fun w hw => h w (List.mem_cons_of_mem _ hw)]
    rfl

/-- The tokens of a function of an attribute and a value. -/
theorem tokens_function {name v : String} (hname : IsPlaceholder '#' name)
    (hv : IsPlaceholder ':' v) (function : List Char) :
    tokens (function ++ '(' :: (name.toList ++ ',' :: ([] ++ ' ' :: (v.toList ++ [')'])))) =
      tokens function ++ [.opening, .name name, .comma, .value v, .closing] := by
  rw [tokens_opening, tokens_comma, tokens_blank, tokens_closing, tokens_name hname,
    tokens_value hv]
  rfl

/-- The tokens of a function of an attribute. -/
theorem tokens_test {name : String} (hname : IsPlaceholder '#' name) (function : List Char) :
    tokens (function ++ '(' :: (name.toList ++ [')'])) =
      tokens function ++ [.opening, .name name, .closing] := by
  rw [tokens_opening, tokens_closing, tokens_name hname]
  rfl

namespace Line

variable {l : Line} {rest : List Token}

/-- **The text of a line has its tokens.** -/
theorem tokens_text (h : l.IsLaidOut) : NamedQuery.tokens l.text.toList = l.tokens := by
  obtain ⟨condition, name, values⟩ := l
  obtain ⟨hname, hvalues, hlength⟩ := h
  simp only at hname hvalues
  -- each text is cut at its separators, and there is a placeholder or a word between two of them
  cases condition with
  | compare attr comparator x =>
    obtain ⟨v, rfl⟩ := List.length_eq_one_iff.mp hlength
    have htext : (text ⟨.compare attr comparator x, name, [v]⟩).toList =
        name.toList ++ ' ' :: (comparator.sign.toList ++ ' ' :: v.toList) := by
      show (name ++ " " ++ comparator.sign ++ " " ++ v).toList = _
      simp
    rw [htext, tokens_blank, tokens_blank, tokens_name hname, tokens_sign,
      tokens_value (hvalues v (by simp))]
    rfl
  | between attr x y =>
    obtain ⟨low, high, rfl⟩ := List.length_eq_two.mp hlength
    have htext : (text ⟨.between attr x y, name, [low, high]⟩).toList =
        name.toList ++ ' ' :: ("BETWEEN".toList ++ ' ' ::
          (low.toList ++ ' ' :: ("AND".toList ++ ' ' :: high.toList))) := by
      show (name ++ " BETWEEN " ++ low ++ " AND " ++ high).toList = _
      simp
    rw [htext, tokens_blank, tokens_blank, tokens_blank, tokens_blank, tokens_name hname,
      tokens_value (hvalues low (by simp)), tokens_value (hvalues high (by simp))]
    rfl
  | among attr xs =>
    cases values with
    | nil =>
      -- without values, nothing stands between the brackets
      have htext : (text ⟨.among attr xs, name, []⟩).toList =
          name.toList ++ ' ' :: ("IN".toList ++ ' ' :: ([] ++ '(' :: ([] ++ [')']))) := by
        show (name ++ " IN (" ++ ", ".intercalate [] ++ ")").toList = _
        simp
      rw [htext, tokens_blank, tokens_blank, tokens_opening, tokens_closing, tokens_name hname]
      rfl
    | cons v vs =>
      have htext : (text ⟨.among attr xs, name, v :: vs⟩).toList =
          name.toList ++ ' ' :: ("IN".toList ++ ' ' ::
            ([] ++ '(' :: ((", ".intercalate (v :: vs)).toList ++ [')']))) := by
        show (name ++ " IN (" ++ ", ".intercalate (v :: vs) ++ ")").toList = _
        simp
      rw [htext, tokens_blank, tokens_blank, tokens_opening, tokens_name hname,
        tokens_values hvalues]
      rfl
  | beginsWith attr x =>
    obtain ⟨v, rfl⟩ := List.length_eq_one_iff.mp hlength
    have htext : (text ⟨.beginsWith attr x, name, [v]⟩).toList =
        "begins_with".toList ++
          '(' :: (name.toList ++ ',' :: ([] ++ ' ' :: (v.toList ++ [')']))) := by
      show ("begins_with(" ++ name ++ ", " ++ v ++ ")").toList = _
      simp
    rw [htext, tokens_function hname (hvalues v (by simp))]
    rfl
  | contains attr x =>
    obtain ⟨v, rfl⟩ := List.length_eq_one_iff.mp hlength
    have htext : (text ⟨.contains attr x, name, [v]⟩).toList =
        "contains".toList ++
          '(' :: (name.toList ++ ',' :: ([] ++ ' ' :: (v.toList ++ [')']))) := by
      show ("contains(" ++ name ++ ", " ++ v ++ ")").toList = _
      simp
    rw [htext, tokens_function hname (hvalues v (by simp))]
    rfl
  | notContains attr x =>
    obtain ⟨v, rfl⟩ := List.length_eq_one_iff.mp hlength
    have htext : (text ⟨.notContains attr x, name, [v]⟩).toList =
        "NOT contains".toList ++
          '(' :: (name.toList ++ ',' :: ([] ++ ' ' :: (v.toList ++ [')']))) := by
      show ("NOT contains(" ++ name ++ ", " ++ v ++ ")").toList = _
      simp
    rw [htext, tokens_function hname (hvalues v (by simp))]
    rfl
  | attributeExists attr =>
    -- a test has no value, so its line has none
    obtain rfl := List.length_eq_zero_iff.mp hlength
    have htext : (text ⟨.attributeExists attr, name, []⟩).toList =
        "attribute_exists".toList ++ '(' :: (name.toList ++ [')']) := by
      show ("attribute_exists(" ++ name ++ ")").toList = _
      simp
    rw [htext, tokens_test hname]
    rfl
  | attributeMissing attr =>
    obtain rfl := List.length_eq_zero_iff.mp hlength
    have htext : (text ⟨.attributeMissing attr, name, []⟩).toList =
        "attribute_not_exists".toList ++ '(' :: (name.toList ++ [')']) := by
      show ("attribute_not_exists(" ++ name ++ ")").toList = _
      simp
    rw [htext, tokens_test hname]
    rfl

theorem readValues?_valueTokens {v : String} {vs : List String} :
    readValues? (valueTokens (v :: vs) ++ rest) = some (v :: vs, rest) := by
  induction vs generalizing v with
  | nil => rfl
  | cons v' vs ih =>
    rw [valueTokens, List.cons_append, List.cons_append, readValues?, ih]
    rfl

/-- **The tokens of a line are read as the line**, whatever stands behind them. -/
theorem readCondition?_tokens (h : l.IsReadable) :
    readCondition? (l.tokens ++ rest) = some (l.written, rest) := by
  obtain ⟨condition, name, values⟩ := l
  obtain ⟨-, -, hlength, hchoice⟩ := h
  -- with as many values as operands, the tokens have the form that is read for the operator
  cases condition with
  | compare attr comparator x =>
    obtain ⟨v, rfl⟩ := List.length_eq_one_iff.mp hlength
    rfl
  | between attr x y =>
    obtain ⟨low, high, rfl⟩ := List.length_eq_two.mp hlength
    rfl
  -- a collection without values is not read, but none is written either
  | among attr xs =>
    cases values with
    | nil =>
      obtain rfl := List.length_eq_zero_iff.mp hlength.symm
      exact absurd rfl (hchoice attr)
    | cons v vs =>
      rw [tokens, List.cons_append, List.cons_append, List.cons_append, readCondition?,
        readValues?_valueTokens]
      rfl
  | beginsWith | contains | notContains =>
    obtain ⟨v, rfl⟩ := List.length_eq_one_iff.mp hlength
    rfl
  | attributeExists | attributeMissing =>
    obtain rfl := List.length_eq_zero_iff.mp hlength
    rfl

/-! ### Expressions -/

/-- The text of some lines as one expression. -/
def join (lines : List Line) : String :=
  " AND ".intercalate (lines.map text)

theorem tokens_join_singleton (h : l.IsLaidOut) :
    NamedQuery.tokens (join [l]).toList = l.tokens := by
  rw [join, List.map_singleton, String.intercalate_singleton, tokens_text h]

/-- A word stands between a line and the next ones. -/
theorem tokens_join_cons (h : l.IsLaidOut) (l' : Line) (lines : List Line) :
    NamedQuery.tokens (join (l :: l' :: lines)).toList =
      l.tokens ++ .word .and :: NamedQuery.tokens (join (l' :: lines)).toList := by
  have htext : (join (l :: l' :: lines)).toList =
      l.text.toList ++ ' ' :: ("AND".toList ++ ' ' :: (join (l' :: lines)).toList) := by
    simp [join, String.intercalate_cons_cons]
  rw [htext, tokens_blank, tokens_blank, tokens_text h]
  rfl

/-- **Reading undoes writing.** An expression of one or more lines is read as these lines. -/
theorem conditions?_join {lines : List Line} (h : ∀ l ∈ lines, l.IsReadable)
    (hne : lines ≠ []) :
    conditions? (NamedQuery.tokens (join lines).toList) = some (lines.map written) := by
  induction lines with
  | nil => exact absurd rfl hne
  | cons l lines ih =>
    have hl : l.IsReadable := h l (by simp)
    cases lines with
    | nil =>
      -- the last line has nothing behind it
      have hread : readCondition? (l.tokens ++ []) = some (l.written, []) :=
        readCondition?_tokens hl
      rw [List.append_nil] at hread
      rw [tokens_join_singleton hl.isLaidOut, conditions?, hread]
      rfl
    | cons l' lines =>
      -- the line is read first, and what is left begins with the word between two lines
      rw [tokens_join_cons hl.isLaidOut, conditions?, readCondition?_tokens hl]
      simp only
      rw [ih (fun l'' hl'' => h l'' (List.mem_cons_of_mem _ hl'')) (by simp)]
      rfl

end Line

end NamedQuery
