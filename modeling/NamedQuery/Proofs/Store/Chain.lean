import NamedQuery.Proofs.Decimal.Sums
import NamedQuery.Proofs.Run.Consumption
import NamedQuery.Proofs.Store.Configured

/-!
# Chains of reads

A query or a scan is read page by page, and each reply says where the next read starts. Two loops
follow that chain: the one that collects items, which reads a page when it needs it, and the one
that adds up counts. Over the same script both follow the same chain.

* `ReadChain` — where the reads start, and the replies or the failure they come to. There is exactly
  one for every script (`exists_readChain`, `ReadChain.unique`);
* `ReadChain.drain_leads`, `ReadChain.countFrom_leads` — the two loops, by induction on the chain;
* `Command.Restarts` — the same command from another start on, as it goes over the wire;
* `sumOfCounts` — what the counting loop adds up, which is exact as long as it is below `2 ^ 53`.
-/

namespace NamedQuery

/-- What reading page after page comes to: the starts of the reads, and the replies or a failure. -/
inductive ReadChain : (script : List (Except Thrown Reply)) → (start : Value) →
    (starts : List Value) → (outcome : Except Thrown (List Reply)) → Prop where
  /-- The reply says of no other page. -/
  | last {script : List (Except Thrown Reply)} {start : Value} {reply : Reply}
      (answer : answerAt {} script 0 = .ok reply) (last : nextStart? reply.lastKey = none) :
      ReadChain script start [start] (.ok [reply])
  | failed {script : List (Except Thrown Reply)} {start : Value} {thrown : Thrown}
      (answer : answerAt {} script 0 = .error thrown) :
      ReadChain script start [start] (.error thrown)
  /-- The next read starts where the reply says. -/
  | next {script : List (Except Thrown Reply)} {start after : Value} {reply : Reply}
      {starts : List Value} {outcome : Except Thrown (List Reply)}
      (answer : answerAt {} script 0 = .ok reply) (more : nextStart? reply.lastKey = some after)
      (rest : ReadChain script.tail after starts outcome) :
      ReadChain script start (start :: starts) (outcome.map (reply :: ·))

variable {script : List (Except Thrown Reply)} {start : Value} {starts : List Value}
  {outcome : Except Thrown (List Reply)}

/-- **Every script has a chain**, and it ends with the script at the latest. -/
theorem exists_readChain (script : List (Except Thrown Reply)) (start : Value) :
    ∃ starts outcome, ReadChain script start starts outcome := by
  -- every answer of the script is a failure, a last page or a page that names the next one
  induction script generalizing start with
  | nil => exact ⟨[start], _, .last rfl rfl⟩
  | cons answer script ih =>
    cases answer with
    | error thrown => exact ⟨[start], _, .failed rfl⟩
    | ok reply =>
      cases hnext : nextStart? reply.lastKey with
      | none => exact ⟨[start], _, .last rfl hnext⟩
      | some after =>
        obtain ⟨starts, outcome, hrest⟩ := ih after
        exact ⟨start :: starts, _, .next rfl hnext hrest⟩

namespace ReadChain

/-- A read after the end of the script is the last one. -/
theorem length_le (h : ReadChain script start starts outcome) :
    starts.length ≤ script.length + 1 := by
  -- each page but the last one has taken an answer
  induction h with
  | last answer last => exact Nat.le_add_left 1 _
  | failed answer => exact Nat.le_add_left 1 _
  | @next script start after reply starts outcome answer more rest ih =>
    cases script with
    | nil =>
      obtain rfl : ({} : Reply) = reply := Except.ok.inj answer
      exact absurd more (by simp [nextStart?, Value.isTruthy])
    | cons answer script => exact Nat.succ_le_succ ih

/-- The replies of the script leave no choice. -/
theorem unique (h : ReadChain script start starts outcome) {starts' : List Value}
    {outcome' : Except Thrown (List Reply)} (h' : ReadChain script start starts' outcome') :
    starts = starts' ∧ outcome = outcome' := by
  -- at every point the answer decides which rule applies
  induction h generalizing starts' outcome' with
  | last answer last =>
    cases h' with
    | last answer' _ =>
      obtain rfl := Except.ok.inj (answer.symm.trans answer')
      exact ⟨rfl, rfl⟩
    | failed answer' => exact absurd (answer.symm.trans answer') (by simp)
    | next answer' more' _ =>
      obtain rfl := Except.ok.inj (answer.symm.trans answer')
      exact absurd (last.symm.trans more') (by simp)
  | failed answer =>
    cases h' with
    | failed answer' =>
      obtain rfl := Except.error.inj (answer.symm.trans answer')
      exact ⟨rfl, rfl⟩
    | last answer' _ => exact absurd (answer.symm.trans answer') (by simp)
    | next answer' _ _ => exact absurd (answer.symm.trans answer') (by simp)
  | next answer more rest ih =>
    cases h' with
    | next answer' more' rest' =>
      obtain rfl := Except.ok.inj (answer.symm.trans answer')
      obtain rfl := Option.some.inj (more.symm.trans more')
      obtain ⟨rfl, rfl⟩ := ih rest'
      exact ⟨rfl, rfl⟩
    | failed answer' => exact absurd (answer.symm.trans answer') (by simp)
    | last answer' last' =>
      obtain rfl := Except.ok.inj (answer.symm.trans answer')
      exact absurd (more.symm.trans last') (by simp)

/-! ### The loop over the items -/

section Drain

open PageSource.Answers (after after_of_some)

variable {e : Entity} {α : Type} {source : PageSource Reply α} {shown : Value → Command}

/-- **Collecting the items** of all pages follows the chain. -/
theorem drain_leads (h : ReadChain script start starts outcome)
    (hsource : source.Answers .commands {} shown fun answer =>
      ((answer.map Reply.page).map (ConfiguredStore.ofStoredPage e)).mapError Thrown.logged)
    (hlimit : source.limit = .unlimited) {fuel : Nat} (hfuel : starts.length ≤ fuel)
    {progress : Progress} (hexhausted : progress.exhausted = false)
    (hstart : progress.start = start) (returned : Nat) :
    ∃ progress', Leads .commands (source.drain fuel progress returned) script
      (script.drop starts.length) (starts.map shown)
      ((outcome.mapError Thrown.logged).map fun replies =>
        replies.flatMap fun reply =>
          ((reply.items.getD []).map e.ofStored).map source.convert, progress') := by
  have hadmits : ∀ returned, source.limit.admits returned = true := fun _ => by rw [hlimit]; rfl
  -- without a limit a page is handed out as a whole
  have htakes : ∀ (returned : Nat) (items : List Item),
      source.limit.takeFrom returned items = items := fun _ _ => by rw [hlimit]; rfl
  -- the induction is on the chain, whose pages the loop reads one by one
  induction h generalizing fuel progress returned with
  | @last script start reply answer last =>
    obtain ⟨fuel, rfl⟩ := Nat.exists_eq_succ_of_ne_zero (Nat.ne_of_gt hfuel)
    -- the last page says that no page follows
    have hends : ¬source.limit.GoesOn returned [ConfiguredStore.ofStoredPage e reply.page] := by
      intro hgoesOn
      have hmore := (ItemLimit.goesOn_singleton_iff.mp hgoesOn).1
      rw [show nextStart? (ConfiguredStore.ofStoredPage e reply.page).lastKey = none from last]
        at hmore
      exact absurd hmore (by simp)
    have hlast : Leads .commands (source.drain (fuel + 1) progress returned) _ _ _ _ :=
      hsource.plays.drain_last hexhausted (hadmits returned) (by rw [answer]; rfl) hends
    rw [htakes, hstart, ← List.drop_one] at hlast
    refine ⟨after progress (ConfiguredStore.ofStoredPage e reply.page), ?_⟩
    show Leads .commands _ _ _ _ (Except.ok ([reply].flatMap _), _)
    rw [List.flatMap_cons, List.flatMap_nil, List.append_nil]
    exact hlast
  | @failed script start thrown answer =>
    obtain ⟨fuel, rfl⟩ := Nat.exists_eq_succ_of_ne_zero (Nat.ne_of_gt hfuel)
    have hfailed : Leads .commands (source.drain (fuel + 1) progress returned) _ _ _
        (.error thrown.logged, progress) :=
      hsource.plays.drain_failed hexhausted (hadmits returned) (by rw [answer]; rfl)
    rw [hstart, ← List.drop_one] at hfailed
    exact ⟨progress, hfailed⟩
  | @next script start next reply starts outcome answer more rest ih =>
    obtain ⟨fuel, rfl⟩ := Nat.exists_eq_succ_of_ne_zero
      (Nat.ne_of_gt (Nat.lt_of_lt_of_le (Nat.succ_pos _) hfuel))
    have hafter := after_of_some progress (p := ConfiguredStore.ofStoredPage e reply.page) more
    -- the next page starts where this one ended
    obtain rfl : next = reply.lastKey := by
      unfold nextStart? at more
      split at more
      · exact (Option.some.inj more).symm
      · exact absurd more (by simp)
    have hexhausted' : (after progress (ConfiguredStore.ofStoredPage e reply.page)).exhausted =
        false := by
      rw [hafter]
      exact hexhausted
    obtain ⟨progress', hrest⟩ := ih (Nat.le_of_succ_le_succ hfuel) hexhausted'
      (by rw [hafter]; rfl) (returned + (ConfiguredStore.ofStoredPage e reply.page).items.length)
    have hon := hsource.plays.drain_on hexhausted (hadmits returned) (by rw [answer]; rfl)
      (by rw [htakes]; exact Nat.lt_irrefl _) hrest
    rw [hstart, List.drop_tail] at hon
    refine ⟨progress', ?_⟩
    -- a failure of a later page is the failure of all
    cases outcome with
    | error thrown => exact hon
    | ok replies => exact hon

/-- All items of a sequence that nobody else uses. -/
theorem collect_leads (h : ReadChain script .absent starts outcome)
    (hsource : source.Answers .commands {} shown fun answer =>
      ((answer.map Reply.page).map (ConfiguredStore.ofStoredPage e)).mapError Thrown.logged)
    (hlimit : source.limit = .unlimited) :
    Run.Leads .commands (ItemStream.ofSource source).collect script (script.drop starts.length)
      (starts.map shown)
      ((outcome.mapError Thrown.logged).map fun replies =>
        replies.flatMap fun reply =>
          ((reply.items.getD []).map e.ofStored).map source.convert) := by
  refine Run.Leads.ofState ?_
  rw [ItemStream.toList_eq_drain, Leads.fuel_bind_iff]
  have hexhausted : (ItemStream.ofSource source).claim.progress.exhausted = false := rfl
  obtain ⟨progress', hdrain⟩ :=
    h.drain_leads hsource hlimit (Nat.le_succ_of_le h.length_le) hexhausted rfl 0
  exact hdrain.map

end Drain

/-! ### The loop over the counts -/

/-- What the counts of some replies come to. A count that is missing is zero. -/
def sumOfCounts (total : Float) (replies : List Reply) : Float :=
  replies.foldl (fun total reply => total + reply.count.getD 0) total

/-- **Adding up the counts** of all pages follows the chain. -/
theorem countFrom_leads (h : ReadChain script start starts outcome) {command : Value → Command}
    {fuel : Nat} (hfuel : starts.length ≤ fuel) (total : Float) :
    Run.Leads .commands (Client.countFrom command fuel start total) script
      (script.drop starts.length) (starts.map command) (outcome.map (sumOfCounts total)) := by
  have hsend : ∀ (script : List (Except Thrown Reply)) start, Run.Leads .commands
      (Client.send (command start)) script script.tail [command start] (answerAt {} script 0) :=
    fun _ _ => Client.send_leads _
  -- the induction is on the chain, with the total of the pages that were counted
  induction h generalizing fuel total with
  | @last script start reply answer last =>
    obtain ⟨fuel, rfl⟩ := Nat.exists_eq_succ_of_ne_zero (Nat.ne_of_gt hfuel)
    have hfirst := hsend script start
    rw [answer, ← List.drop_one] at hfirst
    refine hfirst.bind_hidden ?_
    simp only [last]
    exact .pure
  | @failed script start thrown answer =>
    obtain ⟨fuel, rfl⟩ := Nat.exists_eq_succ_of_ne_zero (Nat.ne_of_gt hfuel)
    have hfirst := hsend script start
    rw [answer, ← List.drop_one] at hfirst
    exact hfirst.bind_error
  | @next script start next reply starts outcome answer more rest ih =>
    obtain ⟨fuel, rfl⟩ := Nat.exists_eq_succ_of_ne_zero
      (Nat.ne_of_gt (Nat.lt_of_lt_of_le (Nat.succ_pos _) hfuel))
    have hfirst := hsend script start
    rw [answer] at hfirst
    have hrest := ih (Nat.le_of_succ_le_succ hfuel) (total + reply.count.getD 0)
    rw [List.drop_tail] at hrest
    -- what the first page counts is added to the total before the rest
    have hresult : (outcome.map (reply :: ·)).map (sumOfCounts total) =
        outcome.map (sumOfCounts (total + reply.count.getD 0)) := by
      cases outcome with
      | error thrown => rfl
      | ok replies => rfl
    rw [hresult]
    refine hfirst.bind ?_
    simp only [more]
    exact hrest

theorem countAll_leads (h : ReadChain script .absent starts outcome) (table : TableName)
    (r : PagedRequest) :
    Run.Leads .commands (Client.countAll table r) script (script.drop starts.length)
      (starts.map (Client.countCommand table r)) (outcome.map (sumOfCounts 0)) := by
  have hfuel : Run.Leads .commands (ExceptT.lift Run.fuel : Run Reply Nat) script script []
      (.ok (script.length + 2)) := Leads.fuel.map
  exact hfuel.bind_silent (h.countFrom_leads (Nat.le_succ_of_le h.length_le) 0)

/-- A configured store counts along the chain. -/
theorem count_leads (h : ReadChain script .absent starts outcome) (c : ConfiguredStore)
    (e : Entity) (r : PagedRequest) :
    Run.Leads .commands (c.operations.count e r) script (script.drop starts.length)
      (starts.map (Client.countCommand (c.tableName e) r))
      ((outcome.map (sumOfCounts 0)).mapError Thrown.logged) := by
  show Run.Leads .commands (c.observed (if r.isQuery then "QueryCount" else "ScanCount") e
    fun table => Client.countAll table r) _ _ _ _
  exact ConfiguredStore.observed_leads (h.countAll_leads (c.tableName e) r)

/-- **Counts add up exactly** as long as their sum is below `2 ^ 53`. -/
theorem sumOfCounts_ofNat {replies : List Reply} {counts : List Nat} {total : Nat}
    (h : replies.map (fun reply => reply.count.getD 0) = counts.map Float.ofNat)
    (hsum : total + counts.sum < 2 ^ 53) :
    sumOfCounts (Float.ofNat total) replies = Float.ofNat (total + counts.sum) := by
  -- the sum stays below the bound of exact addition, so it is added up like a natural number
  induction counts generalizing replies total with
  | nil =>
    obtain rfl : replies = [] := List.map_eq_nil_iff.mp h
    rfl
  | cons n counts ih =>
    obtain ⟨reply, replies, rfl, hcount, hrest⟩ := List.map_eq_cons_iff.mp h
    rw [List.sum_cons, ← Nat.add_assoc] at hsum ⊢
    rw [← ih hrest hsum, sumOfCounts, List.foldl_cons, hcount,
      Decimal.ofNat_add (Nat.lt_of_le_of_lt (Nat.le_add_right _ _) hsum)]
    rfl

end ReadChain

/-! ### Over the wire -/

/-- A command that is the same as another one, but for where it starts. -/
structure Command.Restarts (first : Command) (start : Value) (command : Command) : Prop where
  name : command.name = first.name
  input : command.input = first.input.map fun field =>
    if field.1 = "ExclusiveStartKey" then (field.1, start) else field

namespace Client

variable (table : TableName) (r : PagedRequest) (start : Value)

/-- **The commands that read pages** are the same but for where they start. -/
theorem pageCommand_restarts :
    (pageCommand table r .absent).Restarts start (pageCommand table r start) := by
  cases r with
  | query r => exact ⟨rfl, by simp [pageCommand, Command.input, ReadInput.input, queryInput,
      scanInput]⟩
  | scan r => exact ⟨rfl, by simp [pageCommand, Command.input, ReadInput.input, scanInput]⟩

/-- **The commands that count** are the same but for where they start. -/
theorem countCommand_restarts :
    (countCommand table r .absent).Restarts start (countCommand table r start) := by
  cases r with
  | query r => exact ⟨rfl, by simp [countCommand, Command.input, ReadInput.input, countInput]⟩
  | scan r => exact ⟨rfl, by simp [countCommand, Command.input, ReadInput.input, countInput]⟩

/-- A command that counts asks for the number only, and lists no properties. -/
theorem countCommand_selects :
    Fields.get? (countCommand table r start).input "Select" = some (.text "COUNT") ∧
      Fields.get? (countCommand table r start).input "ProjectionExpression" = some .absent := by
  cases r with
  | query r => exact ⟨rfl, rfl⟩
  | scan r => exact ⟨rfl, rfl⟩

end Client

end NamedQuery
