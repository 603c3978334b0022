import NamedQuery.Proofs.Run.Confined
import NamedQuery.Proofs.Store.Configured

/-!
# How stores can fail

A store is something else than the methods that use it, and what it fails with is not theirs.
`Store.Confined` says of a store that it fails only as it may. A configured store does so for the
failures of its client (`ConfiguredStore.operations_confined`): what it adds are items without a
key, keys that were left undone, and the failures of logging, and none of these is a configuration
error.

* `Thrown.BlamesOnly` — a failure that is a configuration error only if it is one of others;
* `ConfiguredStore.observed_confined` — what observing an operation adds.
-/

namespace NamedQuery

variable {ρ : Type} {may : Thrown → Prop}

/-- A store whose operations fail only as they may, as far as methods use them. -/
structure Store.Confined (may : Thrown → Prop) (store : Store ρ) : Prop where
  load : ∀ e key consistency, Run.Confined may (store.load e key consistency) fun _ => True
  query : ∀ e r start, Run.Confined may (store.query e r start) fun _ => True
  scan : ∀ e r start, Run.Confined may (store.scan e r start) fun _ => True
  count : ∀ e r, Run.Confined may (store.count e r) fun _ => True
  batchDelete : ∀ e items, Run.Confined may (store.batchDelete e items) fun _ => True

/-- A failure that is a configuration error only if it is one of others. -/
def Thrown.BlamesOnly (others : Error → Prop) : Thrown → Prop
  | .error e => e.cause.kind.family = .configuration → others e
  | _ => True

theorem Thrown.BlamesOnly.logged {others : Error → Prop} {thrown : Thrown}
    (h : thrown.BlamesOnly others) : thrown.logged.BlamesOnly others := by
  cases thrown with
  | error | fault => exact h
  | value v =>
    rw [Thrown.logged]
    -- a value that cannot be shown ends in a failure that is no error of this library
    cases v.unshown? with
    | none => exact h
    | some cause => cases cause <;> trivial

/-! ### Operations -/

namespace Client

theorem send_confined (command : Command) : Run.Confined may (send command) fun _ => True :=
  (Run.Confined.record _).bind fun _ _ => .answer _

theorem countFrom_confined (command : Value → Command) (fuel : Nat) (start : Value)
    (total : Float) : Run.Confined may (countFrom command fuel start total) fun _ => True := by
  induction fuel generalizing start total with
  | zero => exact .pure trivial
  | succ fuel ih =>
    rw [countFrom]
    -- one page is counted, and the last key says whether another one is
    refine (send_confined _).bind fun reply _ => ?_
    cases nextStart? reply.lastKey with
    | some next => exact ih next _
    | none => exact .pure trivial

theorem countAll_confined (table : TableName) (r : PagedRequest) :
    Run.Confined may (countAll table r) fun _ => True := by
  have hfuel : Run.Confined may (ExceptT.lift Run.fuel : Run Reply Nat) fun _ => True :=
    fun _ hs => ⟨hs, trivial⟩
  exact hfuel.bind fun fuel _ => countFrom_confined _ fuel _ _

theorem sendBatches_confined (table : TableName) (batches : List (List Item)) :
    Run.Confined may (sendBatches table batches) fun _ => True := by
  induction batches with
  | nil => exact .pure trivial
  | cons keys batches ih =>
    exact (send_confined _).bind fun _ _ => ih.bind fun _ _ => .pure trivial

theorem batchDelete_confined {table : TableName}
    (hundone : ∀ n, may (.error { cause := .unprocessedDeletes table n })) (keys : List Item) :
    Run.Confined may (batchDelete table keys) fun _ => True := by
  refine (sendBatches_confined table _).bind fun undone _ => ?_
  show Run.Confined may (if _ then _ else _) _
  split
  · exact .throw (hundone undone)
  · exact .pure trivial

end Client

namespace ConfiguredStore

/-- Observing an operation adds the failures of logging. -/
theorem observed_confined (c : ConfiguredStore) {α : Type} {operation : String} {e : Entity}
    {call : TableName → Run Reply α} (hlog : may Run.unwritable)
    (hlogged : ∀ thrown, may thrown → may thrown.logged)
    (h : Run.Confined may (call (c.tableName e)) fun _ => True) :
    Run.Confined may (c.observed operation e call) fun _ => True := by
  -- the call is counted, then made, and a failure of it is counted and logged
  refine (Run.Confined.keep _ _).bind fun _ _ => ?_
  refine Run.Confined.tryCatch ?_ fun thrown hthrown => ?_
  · exact h.bind fun _ _ => (Run.Confined.log _ _ hlog).bind fun _ _ => .pure trivial
  · refine (Run.Confined.keep _ _).bind fun _ _ => ?_
    -- what has no entry cannot be shown, and that is the failure then
    have hentry : Run.Confined may
        (Run.ofState (pure (failureEntry operation (c.tableName e) thrown)) : Run Reply LogEntry)
        fun _ => True := by
      refine .ofState (.pure ?_)
      rcases failureEntry_cases operation (c.tableName e) thrown with ⟨entry, hentry, -⟩ | hfailed
      · rw [hentry]
        trivial
      · rw [hfailed]
        exact hlogged thrown hthrown
    exact hentry.bind fun entry _ => (Run.Confined.log _ _ hlog).bind fun _ _ => .throw hthrown

/-- An item is refused for its own values. -/
theorem keyOf_refused {e : Entity} {item : Item} {error : Error} (h : e.keyOf item = .error error) :
    error.cause.kind = .parameterBinding := by
  -- a part that is missing is a fault of the item
  have hpart : ∀ property, e.keyPart item property = .error error →
      error.cause.kind = .parameterBinding := by
    intro property hpart
    unfold Entity.keyPart at hpart
    simp only at hpart
    split at hpart
    · obtain rfl := Except.error.inj hpart
      rfl
    · exact absurd hpart (by simp)
  rcases bind_eq_error_iff.mp h with hpartition | ⟨partitionKey, -, h⟩
  · exact hpart _ hpartition
  · -- only a table with a sort key asks for a second part
    split at h
    · exact absurd h (by simp [pure, Except.pure])
    · exact hpart _ (bind_pure_eq_error_iff.mp h)

/-- **A configured store raises no configuration error of its own.** -/
theorem operations_confined (c : ConfiguredStore) (others : Error → Prop) :
    c.operations.Confined (Thrown.BlamesOnly others) := by
  have hread : ∀ {α : Type} {operation : String} {e : Entity} {call : TableName → Run Reply α},
      Run.Confined (Thrown.BlamesOnly others) (call (c.tableName e)) (fun _ => True) →
        Run.Confined (Thrown.BlamesOnly others) (c.observed operation e call) fun _ => True :=
    c.observed_confined trivial fun _ => Thrown.BlamesOnly.logged
  constructor
  -- three operations are a command and two conversions of its reply
  case load =>
    intro e key consistency
    show Run.Confined _ (c.observed "GetItem" e fun table => do
      let item ← Client.getItem table (e.keyMap key) (consistency.getD .default).flag?
      pure (item.map e.ofStored)) _
    refine hread (.convert ?_)
    exact (Client.send_confined _).convert
  case query =>
    intro e r start
    show Run.Confined _ (c.observed "Query" e fun table => do
      pure (ofStoredPage e (← Client.queryPage table r start))) _
    refine hread (.convert ?_)
    exact (Client.send_confined _).convert
  case scan =>
    intro e r start
    show Run.Confined _ (c.observed "Scan" e fun table => do
      pure (ofStoredPage e (← Client.scanPage table r start))) _
    refine hread (.convert ?_)
    exact (Client.send_confined _).convert
  case count =>
    intro e r
    show Run.Confined _ (c.observed _ e fun table => Client.countAll table r) _
    exact hread (Client.countAll_confined _ r)
  case batchDelete =>
    intro e items
    -- an item without a key and keys that were left undone are errors of other kinds
    have hkeys : Run.Confined (Thrown.BlamesOnly others)
        (Run.ofExcept (items.mapM e.keyOf) : Run Reply (List Key)) fun _ => True := by
      refine .ofExcept (fun _ _ => trivial) fun error herror hconfiguration => ?_
      obtain ⟨item, -, hitem⟩ := exists_of_mapM_eq_error herror
      rw [keyOf_refused hitem] at hconfiguration
      exact absurd hconfiguration (by decide)
    have hundone : ∀ n, Thrown.BlamesOnly others
        (.error { cause := .unprocessedDeletes (c.tableName e) n }) := by
      intro n hconfiguration
      exact absurd hconfiguration (by simp [Cause.kind, ErrorKind.family])
    refine hkeys.bind fun keys _ => ?_
    show Run.Confined _ (c.observed "BatchWriteItem" e fun table =>
      Client.batchDelete table (keys.map e.keyMap)) _
    exact hread (Client.batchDelete_confined hundone _)

end ConfiguredStore

end NamedQuery
