import NamedQuery.Proofs.Run.Exact
import NamedQuery.Proofs.Store.Configured

/-!
# Exchanges with the store

The operations of a client do nothing but send commands and take answers, one for each, until they
end in a result or a failure. A failure is one of the answers, or it is raised for what the store
left undone.

* `Run.Exchanges` — a run that does nothing else, over any script;
* one rule for each way to build such a run, and one for each operation.
-/

namespace NamedQuery

namespace Run

variable {α β : Type} {own : Thrown → Prop}

/-- A run that only sends commands and takes answers. It fails with an answer or with a failure of
its own. -/
def Exchanges (own : Thrown → Prop) (x : Run Reply α) : Prop :=
  ∀ script, ∃ (taken : Nat) (sent : List Command) (result : Except Thrown α),
    Run.Does x script (script.drop taken) (sent.map Event.command) result ∧
      ∀ thrown, result = .error thrown → .error thrown ∈ script ∨ own thrown

namespace Exchanges

variable {x : Run Reply α}

theorem pure {a : α} : Run.Exchanges own (Pure.pure a : Run Reply α) :=
  fun _ => ⟨0, [], .ok a, .pure, nofun⟩

theorem throw {thrown : Thrown} (h : own thrown) :
    Run.Exchanges own (throw thrown : Run Reply α) := by
  refine fun _ => ⟨0, [], .error thrown, .throw, fun thrown' hthrown => Or.inr ?_⟩
  rwa [← Except.error.inj hthrown]

/-- The second part goes on with the answers that the first one leaves. -/
theorem bind {f : α → Run Reply β} (hx : Run.Exchanges own x)
    (hf : ∀ a, Run.Exchanges own (f a)) : Run.Exchanges own (x >>= f) := by
  intro script
  obtain ⟨taken, sent, result, hdoes, hfailure⟩ := hx script
  -- the second part takes none of the answers if the first one fails
  cases result with
  | error thrown =>
    refine ⟨taken, sent, .error thrown, hdoes.bind_error, fun thrown' hthrown => ?_⟩
    rw [← Except.error.inj hthrown]
    exact hfailure thrown rfl
  | ok a =>
    obtain ⟨taken', sent', result', hdoes', hfailure'⟩ := hf a (script.drop taken)
    have hboth := hdoes.bind hdoes'
    rw [List.drop_drop, ← List.map_append] at hboth
    exact ⟨taken + taken', sent ++ sent', result', hboth, fun thrown hthrown =>
      (hfailure' thrown hthrown).imp_left List.mem_of_mem_drop⟩

theorem map {f : α → β} (hx : Run.Exchanges own x) : Run.Exchanges own (f <$> x) := by
  rw [map_eq_pure_bind]
  exact hx.bind fun _ => pure

/-- The bound of a loop is read off the script. -/
theorem fuel {f : Nat → Run Reply β} (h : ∀ fuel, Run.Exchanges own (f fuel)) :
    Run.Exchanges own ((ExceptT.lift Run.fuel : Run Reply Nat) >>= f) := by
  intro script
  have hfuel : Run.Does (ExceptT.lift Run.fuel : Run Reply Nat) script script [] _ :=
    NamedQuery.Does.fuel.map
  obtain ⟨taken, sent, result, hdoes, hfailure⟩ := h (script.length + 2) script
  exact ⟨taken, sent, result, hfuel.bind_silent hdoes, hfailure⟩

end Exchanges

end Run

namespace Client

variable {own : Thrown → Prop}

theorem send_exchanges (command : Command) : Run.Exchanges own (send command) := by
  intro script
  refine ⟨1, [command], answerAt {} script 0, ?_, fun thrown hthrown => ?_⟩
  · rw [List.drop_one]
    exact (Run.Does.record _).bind (.answer _)
  · exact Or.inl (mem_of_answerAt_error hthrown)

theorem getItem_exchanges (table : TableName) (key : Item) (consistent : Option Bool) :
    Run.Exchanges own (getItem table key consistent) :=
  (send_exchanges _).bind fun _ => .pure

theorem putItem_exchanges (table : TableName) (item : Item) :
    Run.Exchanges own (putItem table item) :=
  (send_exchanges _).bind fun _ => .pure

theorem deleteItem_exchanges (table : TableName) (key : Item) :
    Run.Exchanges own (deleteItem table key) :=
  (send_exchanges _).bind fun _ => .pure

theorem queryPage_exchanges (table : TableName) (r : QueryRequest) (start : Value) :
    Run.Exchanges own (queryPage table r start) :=
  (send_exchanges _).bind fun _ => .pure

theorem scanPage_exchanges (table : TableName) (r : ScanRequest) (start : Value) :
    Run.Exchanges own (scanPage table r start) :=
  (send_exchanges _).bind fun _ => .pure

theorem countFrom_exchanges (command : Value → Command) (fuel : Nat) (start : Value)
    (total : Float) : Run.Exchanges own (countFrom command fuel start total) := by
  induction fuel generalizing start total with
  | zero => exact .pure
  | succ fuel ih =>
    unfold countFrom
    -- one command is one exchange, and the last key says whether another one follows
    refine (send_exchanges _).bind fun reply => ?_
    cases nextStart? reply.lastKey with
    | none => exact .pure
    | some next => exact ih next _

theorem countAll_exchanges (table : TableName) (r : PagedRequest) :
    Run.Exchanges own (countAll table r) :=
  .fuel fun fuel => countFrom_exchanges _ fuel _ _

theorem sendBatches_exchanges (table : TableName) (batches : List (List Item)) :
    Run.Exchanges own (sendBatches table batches) := by
  induction batches with
  | nil => exact .pure
  | cons keys batches ih =>
    exact (send_exchanges _).bind fun _ => ih.bind fun _ => .pure

/-- **A batch delete** has a failure of its own: keys that the store left undone. -/
theorem batchDelete_exchanges {table : TableName} (keys : List Item)
    (hown : ∀ undone, own (.error { cause := .unprocessedDeletes table undone })) :
    Run.Exchanges own (batchDelete table keys) := by
  refine (sendBatches_exchanges table _).bind fun undone => ?_
  show Run.Exchanges own (if _ then _ else _)
  split
  · exact .throw (hown undone)
  · exact .pure

end Client

end NamedQuery
