import Mathlib
import NamedQuery.Proofs.Run.Exact
import NamedQuery.Proofs.Store.Chunk
import NamedQuery.Store.Client

/-!
# Deleting in batches

A batch delete sends its batches in order, whatever is reported about the earlier ones, and stops at
the first failure only. What was left undone is looked up in each reply by the name of the table, so
for a name that every report carries something is found which the reply does not say:

* `Reply.reported`, `Reply.IsTold` — what a reply says about a table, and the replies of which just
  that is read;
* `Answered`, `answered_or_fails` — the replies to the first commands of a run, up to the first one
  that fails;
* `Client.sendBatches_does`, `Client.sendBatches_fails` — the batches without a failure, and with
  one;
* `Client.batchDelete_told_iff` — what a batch delete does, and when its result is what was
  reported.
-/

namespace NamedQuery

/-! ### Reports -/

namespace Reply

/-- The number of requests on a table that a reply reports as not carried out. -/
def reported (r : Reply) (table : TableName) : Nat :=
  match r.unprocessed with
  | none => 0
  | some report => ((report.get? table.shown).map List.length).getD 0

/-- Nothing is read off a reply about a table that the reply does not say: where it has a report
without that table, nothing with a length is found under the name. -/
def IsTold (r : Reply) (table : TableName) : Prop :=
  ∀ report, r.unprocessed = some report → report.get? table.shown = none →
    inheritedLength table.shown = 0

variable (r : Reply) (table : TableName)

theorem reported_le_undone : r.reported table ≤ r.undone table := by
  unfold reported undone
  -- reported requests are counted on both sides, and what is inherited counts as undone only
  cases r.unprocessed with
  | none => exact Nat.le_refl 0
  | some report =>
    cases hentry : report.get? table.shown with
    | none => simp [hentry]
    | some requests => simp [hentry]

theorem undone_eq_reported_iff : r.undone table = r.reported table ↔ r.IsTold table := by
  unfold reported undone IsTold
  cases r.unprocessed with
  | none => simp
  | some report => cases hentry : report.get? table.shown <;> simp [hentry]

/-- Every reply is told unless something with a length is found under the name of the table. -/
theorem forall_isTold_iff : (∀ r : Reply, r.IsTold table) ↔ inheritedLength table.shown = 0 :=
  ⟨fun h => h { unprocessed := some [] } [] rfl rfl, fun h _ _ _ _ => h⟩

/-- **Replies together** say what is read off them if each of them does. -/
theorem sum_undone_eq_iff (replies : List Reply) :
    (replies.map (·.undone table)).sum = (replies.map (·.reported table)).sum ↔
      ∀ reply ∈ replies, reply.IsTold table := by
  induction replies with
  | nil => simp
  | cons reply replies ih =>
    -- the sum of the reported keys is never more than the sum of those undone, so the sums agree
    -- only if every summand does
    have hle : (replies.map (·.reported table)).sum ≤ (replies.map (·.undone table)).sum :=
      List.sum_le_sum fun reply _ => reply.reported_le_undone table
    have hfirst := reply.reported_le_undone table
    rw [List.forall_mem_cons, ← ih, ← undone_eq_reported_iff, List.map_cons, List.sum_cons,
      List.map_cons, List.sum_cons]
    omega

end Reply

/-! ### Batches -/

/-- The first commands of a run are answered by these replies. -/
def Answered (script : List (Except Thrown Reply)) (replies : List Reply) : Prop :=
  ∀ i reply, replies[i]? = some reply → answerAt {} script i = .ok reply

theorem answered_cons_iff {script : List (Except Thrown Reply)} {reply : Reply}
    {replies : List Reply} :
    Answered script (reply :: replies) ↔
      answerAt {} script 0 = .ok reply ∧ Answered script.tail replies := by
  constructor
  · intro h
    -- the first answer belongs to the first reply
    refine ⟨h 0 reply rfl, fun i next hnext => ?_⟩
    rw [answerAt_tail]
    exact h (i + 1) next hnext
  · rintro ⟨hfirst, hrest⟩ (_ | i) next hnext
    · exact hfirst.trans (congrArg _ (Option.some.inj hnext))
    · rw [← answerAt_tail]
      exact hrest i next hnext

theorem answered_nil (script : List (Except Thrown Reply)) : Answered script [] :=
  fun _ _ h => absurd h (by simp)

/-- Either all of the first commands are answered, or there is a first one that fails. -/
theorem answered_or_fails (script : List (Except Thrown Reply)) (count : Nat) :
    (∃ replies, replies.length = count ∧ Answered script replies) ∨
      ∃ replies thrown, replies.length < count ∧ Answered script replies ∧
        answerAt {} script replies.length = .error thrown := by
  -- the induction is on the number of the replies that are wanted
  induction count generalizing script with
  | zero => exact Or.inl ⟨[], rfl, answered_nil script⟩
  | succ count ih =>
    cases hfirst : answerAt {} script 0 with
    | error thrown =>
      exact Or.inr ⟨[], thrown, Nat.succ_pos count, answered_nil script, hfirst⟩
    | ok reply =>
      -- the first answer is a reply, so the answers behind it decide
      rcases ih script.tail with ⟨replies, hlength, h⟩ | ⟨replies, thrown, hlength, h, hthrown⟩
      · exact Or.inl ⟨reply :: replies, congrArg Nat.succ hlength,
          answered_cons_iff.mpr ⟨hfirst, h⟩⟩
      · rw [answerAt_tail] at hthrown
        exact Or.inr ⟨reply :: replies, thrown, Nat.succ_lt_succ hlength,
          answered_cons_iff.mpr ⟨hfirst, h⟩, hthrown⟩

namespace Client

variable {table : TableName} {script : List (Except Thrown Reply)} {batches : List (List Item)}
  {replies : List Reply} {thrown : Thrown}

/-- The entry of a batch that is sent. -/
def sent (table : TableName) (batch : List Item) : Event :=
  .command (.batchWrite table batch)

/-- What is seen of batches are their commands. -/
theorem shows_sent (table : TableName) (batches : List (List Item)) :
    JournalView.commands.shows (batches.map (sent table)) = batches.map (.batchWrite table) := by
  rw [JournalView.shows, List.filterMap_map]
  exact congrFun List.filterMap_eq_map' batches

theorem send_does (command : Command) :
    Run.Does (send command) script script.tail [.command command] (answerAt {} script 0) :=
  Run.Does.bind (.record _) (.answer _)

/-- **Without a failure** every batch is sent, and what is left undone adds up. -/
theorem sendBatches_does (hlength : replies.length = batches.length)
    (h : Answered script replies) :
    Run.Does (sendBatches table batches) script (script.drop batches.length)
      (batches.map (sent table)) (.ok (replies.map (·.undone table)).sum) := by
  -- every batch takes one answer from the script
  induction batches generalizing script replies with
  | nil =>
    obtain rfl := List.length_eq_zero_iff.mp hlength
    exact .pure
  | cons batch batches ih =>
    obtain ⟨reply, replies, rfl⟩ := List.exists_cons_of_length_eq_add_one hlength
    obtain ⟨hreply, hreplies⟩ := answered_cons_iff.mp h
    -- one command is sent, and the first reply answers it
    have hsend :
        Run.Does (send (.batchWrite table batch)) script script.tail [sent table batch] _ :=
      send_does _
    rw [hreply] at hsend
    have hmore := (ih (Nat.succ.inj hlength) hreplies).bind_pure
      (f := fun more => (pure (reply.undone table + more) : Run Reply Nat)) fun _ => .pure
    rw [List.drop_tail] at hmore
    exact hsend.bind hmore

/-- **The first failure** ends the run, with the batch that it is about as the last one. -/
theorem sendBatches_fails (hlength : replies.length < batches.length)
    (h : Answered script replies) (hthrown : answerAt {} script replies.length = .error thrown) :
    Run.Does (sendBatches table batches) script (script.drop (replies.length + 1))
      ((batches.take (replies.length + 1)).map (sent table)) (.error thrown) := by
  -- the failure answers the batch behind those that were replied to
  induction batches generalizing script replies with
  | nil => exact absurd hlength (Nat.not_lt_zero _)
  | cons batch batches ih =>
    have hsend :
        Run.Does (send (.batchWrite table batch)) script script.tail [sent table batch] _ :=
      send_does _
    -- without a reply in front of it the first batch fails
    cases replies with
    | nil =>
      rw [show answerAt {} script 0 = .error thrown from hthrown] at hsend
      rw [List.length_nil, List.drop_one]
      exact hsend.bind_error
    | cons reply replies =>
      obtain ⟨hreply, hreplies⟩ := answered_cons_iff.mp h
      rw [List.length_cons, ← answerAt_tail] at hthrown
      rw [hreply] at hsend
      have hrest := ih (Nat.lt_of_succ_lt_succ hlength) hreplies hthrown
      rw [List.drop_tail] at hrest
      exact hsend.bind hrest.bind_error

/-- What a batch delete comes to, by the number of requests that were left undone. -/
def outcome (table : TableName) (processed batches undone : Nat) : Except Thrown BatchDeleted :=
  if 0 < undone then .error (.error { cause := .unprocessedDeletes table undone })
  else .ok { processed, batches }

theorem outcome_inj {processed count undone undone' : Nat} :
    outcome table processed count undone = outcome table processed count undone' ↔
      undone = undone' := by
  constructor
  · intro h
    unfold outcome at h
    split at h <;> split at h <;> simp at h <;> omega
  · exact fun h => congrArg _ h

/-- **A batch delete without a failure** sends every key. -/
theorem batchDelete_does {keys : List Item}
    (hlength : replies.length = (chunksOf batchLimit keys).length) (h : Answered script replies) :
    Run.Does (batchDelete table keys) script (script.drop (chunksOf batchLimit keys).length)
      ((chunksOf batchLimit keys).map (sent table))
      (outcome table keys.length (chunksOf batchLimit keys).length
        (replies.map (·.undone table)).sum) := by
  unfold batchDelete outcome
  rw [← List.append_nil (List.map _ _)]
  refine (sendBatches_does hlength h).bind ?_
  -- what was left undone is only looked at here, behind the last batch
  split
  · exact .throw
  · exact .pure

/-- **What a batch delete does.** Every key is in one of the requests, 25 to a command, and what is
reported about a command keeps none of the others from being sent. A failure of one of them is the
last thing that happens. Its result is what was reported if nothing else was read off the replies.
The batches are those into which any list is cut by a size, and only a positive integer is one. -/
theorem batchDelete_told_iff {α : Type} (table : TableName) (keys : List Item)
    (script : List (Except Thrown Reply)) (xs : List α) (size : Float) :
    (∃ batches, CutsInto 25 keys batches ∧ batches.length = keys.length ⌈/⌉ 25 ∧
      (∀ replies, replies.length = batches.length → Answered script replies →
        ∃ result, Run.Does (batchDelete table keys) script (script.drop batches.length)
            (batches.map (sent table)) result ∧
          (result = outcome table keys.length batches.length
              (replies.map (·.reported table)).sum ↔
            ∀ reply ∈ replies, reply.IsTold table)) ∧
      ∀ replies thrown, replies.length < batches.length → Answered script replies →
        answerAt {} script replies.length = .error thrown →
        Run.Does (batchDelete table keys) script (script.drop (replies.length + 1))
          ((batches.take (replies.length + 1)).map (sent table)) (.error thrown)) ∧
      (∀ n : Nat, 0 < n → Decimal.value? size = some (n : ℚ) →
        ∃ pieces, chunk xs size = .ok pieces ∧ CutsInto n xs pieces) ∧
      ((∀ n : Nat, 0 < n → Decimal.value? size ≠ some (n : ℚ)) →
        chunk xs size = .error ⟨size⟩) := by
  -- the keys are cut into batches of at most the limit
  have hcut : CutsInto 25 keys (chunksOf batchLimit keys) := chunksOf_cutsInto (by decide) keys
  refine ⟨⟨chunksOf batchLimit keys, hcut, hcut.length_eq, ?_, ?_⟩, ?_, chunk_eq_error⟩
  · intro replies hlength h
    -- the numbers agree exactly if every reply told what it left undone
    refine ⟨_, batchDelete_does hlength h, ?_⟩
    rw [outcome_inj, Reply.sum_undone_eq_iff]
  · intro replies thrown hlength h hthrown
    exact (sendBatches_fails hlength h hthrown).bind_error
  · intro n hpos hsize
    exact ⟨_, chunk_eq_ok hpos hsize, chunksOf_cutsInto hpos xs⟩

/-- A key that is left undone, and a list in pairs. -/
theorem batchDelete_told_iff_orders :
    Run.Does (batchDelete (.text "Orders") [[("id", .text "o-1")]])
        [.ok { unprocessed := some [("Orders", [.null])] }] []
        [sent (.text "Orders") [[("id", .text "o-1")]]]
        (.error (.error { cause := .unprocessedDeletes (.text "Orders") 1 })) ∧
      ∃ pieces, chunk ['a', 'b', 'c'] 2 = .ok pieces ∧ CutsInto 2 ['a', 'b', 'c'] pieces := by
  let reply : Reply := { unprocessed := some [("Orders", [.null])] }
  have htwo : Decimal.value? 2 = some ((2 : Nat) : ℚ) :=
    Decimal.whole?_eq_some_iff.mp (by decide)
  have hanswered : Answered [.ok reply] [reply] := by
    rintro (_ | i) _ ⟨⟩
    rfl
  have htold : ∀ r ∈ [reply], r.IsTold (.text "Orders") := fun r _ =>
    (Reply.forall_isTold_iff (.text "Orders")).mpr (by decide) r
  obtain ⟨⟨batches, hcut, hlength, hdoes, -⟩, hchunk, -⟩ :=
    batchDelete_told_iff (.text "Orders") [[("id", .text "o-1")]] [.ok reply] ['a', 'b', 'c'] 2
  -- one key gives one batch
  obtain ⟨batch, rfl⟩ := List.length_eq_one_iff.mp (hlength : batches.length = 1)
  obtain rfl : batch = _ := List.flatten_singleton.symm.trans hcut.flatten
  obtain ⟨result, hresult, htold_iff⟩ := hdoes [reply] rfl hanswered
  obtain rfl := htold_iff.mpr htold
  exact ⟨hresult, hchunk 2 (by decide) htwo⟩

/-- **A table named `constructor`**: the only key is deleted, and nothing is reported as left
undone, yet the batch delete fails for a key that was left undone. -/
theorem constructor_undone :
    Answered [.ok { unprocessed := some [] }] [{ unprocessed := some [] }] ∧
      Reply.reported { unprocessed := some [] } (.text "constructor") = 0 ∧
      Run.Does (batchDelete (.text "constructor") [[("id", .text "a-1")]])
        [.ok { unprocessed := some [] }] [] [sent (.text "constructor") [[("id", .text "a-1")]]]
        (.error (.error { cause := .unprocessedDeletes (.text "constructor") 1 })) := by
  have hanswered : Answered [.ok { unprocessed := some [] }] [{ unprocessed := some [] }] := by
    rintro (_ | i) _ ⟨⟩
    rfl
  exact ⟨hanswered, rfl, batchDelete_does rfl hanswered⟩

end Client

end NamedQuery
