import NamedQuery.Proofs.Method.Shapes

/-!
# Counting and finding

A method that counts asks the store to count the matches of its request, where one that finds reads
their pages. Both ask the same request for the same rest of a name, but the limit that the name sets
is kept by the reading of pages alone. So they agree as long as the limit cuts nothing off
(`Method.count_agrees_iff`), and `Method.count_exceeds_limit` shows a call where they do not.
-/

namespace NamedQuery

/-- A limit leaves all of some items if it is not below their number. -/
theorem ItemLimit.length_takeFrom_eq_iff {α : Type} {limit : Option ItemLimit} {items : List α} :
    items.length = ((limit.getD .unlimited).takeFrom 0 items).length ↔
      ∀ n, limit = some (.atMost n) → items.length ≤ n := by
  -- only a bound that is less than the number of the items takes some away
  match limit with
  | none => simp [takeFrom]
  | some .unlimited => simp [takeFrom]
  | some (.atMost n) =>
    simp only [Option.getD_some, takeFrom, Nat.sub_zero, List.length_take, Option.some.injEq,
      atMost.injEq, forall_eq']
    omega

variable {ρ γ : Type} {reading : ReadView ρ γ} {ctx : Context ρ} {args : List Value}
  {script script' : List (Except Thrown ρ)} {items : List Item}

namespace Method

/-- A count of a call's items is answered with their number; where the call is a load, with the item
itself. -/
inductive Counts (reading : ReadView ρ γ) (ctx : Context ρ) (m : Method) (args : List Value)
    (script : List (Except Thrown ρ)) : List Item → Prop where
  | load {r : LoadRequest} {item : Option Item}
      (built : Request.build m.entity m.options m.path args = .ok (.load r))
      (answered : reading.item (answerAt reading.default script 0) = .ok item) :
      Counts reading ctx m args script item.toList
  | pages {r : PagedRequest} {items : List Item} {rest : List (Except Thrown ρ)} {shown : List γ}
      (built : Request.build m.entity m.options m.path args = .ok (.paged r))
      (answered : Run.Leads reading.view (ctx.store.count m.entity r) script rest shown
        (.ok (Float.ofNat items.length))) :
      Counts reading ctx m args script items

/-- A method that counts gives the number of all items, whatever its limit. -/
theorem Counts.count_leads {m : Method} (h : m.Counts reading ctx args script items)
    (hfits : reading.Fits ctx.store m.entity) (hshape : m.shape = .count)
    (hlength : args.length = m.query.parameterCount) :
    ∃ rest shown, Run.Leads reading.view (m.call ctx args) script rest shown
      (.ok (.count (Float.ofNat items.length))) := by
  suffices hcount : ∃ rest shown, Run.Leads reading.view (m.count ctx args) script rest shown
      (.ok (Float.ofNat items.length)) by
    obtain ⟨rest, shown, hcount⟩ := hcount
    rw [call, hshape]
    exact ⟨rest, shown, hcount.map⟩
  rw [count, ← hshape]
  -- a load counts the item that it finds, pages are counted by the store
  cases h with
  | @load r item built answered =>
    obtain ⟨hload, hbuilt⟩ := load_of_build built
    have hloaded := load_leads script hfits hbuilt
    rw [answered] at hloaded
    rw [if_pos hload]
    exact ⟨_, _, (start_leads hlength).bind_silent (hloaded.bind_pure fun _ => .pure)⟩
  | @pages r items rest shown built answered =>
    obtain ⟨hload, hbuilt⟩ := paged_of_build built
    rw [if_neg (by simp [hload]), hbuilt]
    exact ⟨_, _, (start_leads hlength).bind_silent (build_leads.bind_silent answered)⟩

theorem Counts.reshaped {m : Method} (h : m.Counts reading ctx args script items) (verb : Verb)
    (name : String) (shape : ResultShape) :
    (m.reshaped verb name shape).Counts reading ctx args script items := by
  cases h with
  | load built answered => exact .load built answered
  | pages built answered => exact .pages built answered

variable {e : Entity} {name : String} {d : Declaration} {defaults : ScanDefaults}
  {find count : Method}

/-- **Counting agrees with finding** where the limit of the name cuts nothing off, and nowhere
else. -/
theorem count_agrees_iff
    (hfind : derive e ("find" ++ name) { d with returns := "many" } defaults = .ok find)
    (hcount : derive e ("count" ++ name) { d with returns := "count" } defaults = .ok count)
    (hfits : reading.Fits ctx.store e) (hlength : args.length = find.query.parameterCount)
    (hholds : find.Holds reading args script items)
    (hcounts : find.Counts reading ctx args script' items) :
    ∃ found rest rest' shown shown',
      Run.Leads reading.view (find.call ctx args) script rest shown (.ok (.many found)) ∧
      Run.Leads reading.view (count.call ctx args) script' rest' shown'
        (.ok (.count (Float.ofNat items.length))) ∧
      (items.length = found.length ↔
        ∀ n, find.query.limit = some (.atMost n) → items.length ≤ n) := by
  -- both methods are derived from the same rest of a name, so they have the same query
  obtain ⟨-, -, -, -, -, rfl, -⟩ := derive_eq_ok hfind
  have hshape : count.shape = .count := shape_of_derive .count hcount
  obtain rfl : count = find.reshaped .count name .count :=
    hshape ▸ eq_reshaped .find .count hfind hcount
  -- the finding method reads what the query holds, up to its limit
  obtain ⟨_, _, -, hcollect⟩ := hholds.collect_leads hfits (derive_admits hfind)
  -- the counting method counts all of it
  obtain ⟨_, _, hcounted⟩ := (hcounts.reshaped .count name .count).count_leads hfits rfl hlength
  exact ⟨_, _, _, _, _, many_leads hlength (shape_of_derive .many hfind) hcollect, hcounted,
    ItemLimit.length_takeFrom_eq_iff⟩

/-- All orders of the customer. -/
def fourOrders : List Item := ["o-1", "o-2", "o-3", "o-4"].map pagesOfOrders.order

theorem fourOrders_held :
    (firstThree .find .many).Holds (.calls .orders) [.text "c-1"] pagesOfOrders fourOrders := by
  have hleft : PagesLeft (ReadView.calls .orders).items (ReadView.calls .orders).default false
      pagesOfOrders _ := .next rfl (.next rfl .done)
  exact .pages rfl hleft

theorem fourOrders_counted :
    (firstThree .find .many).Counts (.calls .orders) (.scripted {}) [.text "c-1"]
      [.ok { count := Float.ofNat fourOrders.length }] fourOrders :=
  .pages rfl ((Store.ask_leads _ _).bind_pure fun _ => .pure)

/-- Three of four orders are found, and four are counted. -/
theorem count_agrees_iff_firstThree :
    derive Entity.orders ("find" ++ "Top3ByCustomerId") { returns := "many" } {} =
        .ok (firstThree .find .many) ∧
      derive Entity.orders ("count" ++ "Top3ByCustomerId") { returns := "count" } {} =
        .ok (firstThree .count .count) ∧
      ∃ found rest rest' shown shown',
        Run.Leads .calls ((firstThree .find .many).call (.scripted {}) [.text "c-1"])
          pagesOfOrders rest shown (.ok (.many found)) ∧
        Run.Leads .calls ((firstThree .count .count).call (.scripted {}) [.text "c-1"])
          [.ok { count := Float.ofNat fourOrders.length }] rest' shown'
          (.ok (.count (Float.ofNat fourOrders.length))) ∧
        fourOrders.length ≠ found.length := by
  have hfind : derive Entity.orders ("find" ++ "Top3ByCustomerId") { returns := "many" } {} =
      .ok (firstThree .find .many) := rfl
  have hcount : derive Entity.orders ("count" ++ "Top3ByCustomerId") { returns := "count" } {} =
      .ok (firstThree .count .count) := rfl
  have hfits : (ReadView.calls .orders).Fits (Context.scripted {}).store .orders :=
    ReadView.calls_fits _
  obtain ⟨found, rest, rest', shown, shown', hfound, hcounted, hiff⟩ :=
    count_agrees_iff (d := { returns := "many" }) hfind hcount hfits rfl fourOrders_held
      fourOrders_counted
  -- three items and four counted would mean that the limit is no less than four
  refine ⟨hfind, hcount, found, rest, rest', shown, shown', hfound, hcounted, fun hequal => ?_⟩
  exact absurd (hiff.mp hequal 3 rfl) (by decide)

/-- A method that counts up to three orders counts four, where the one that finds up to three finds
three. -/
theorem count_exceeds_limit :
    derive Entity.orders "findTop3ByCustomerId" { returns := "many" } {} =
        .ok (firstThree .find .many) ∧
      derive Entity.orders "countTop3ByCustomerId" { returns := "count" } {} =
        .ok (firstThree .count .count) ∧
      (firstThree .count .count).query.limit = some (.atMost 3) ∧
      (firstThree .find .many).Holds (.calls .orders) [.text "c-1"] pagesOfOrders fourOrders ∧
      (firstThree .find .many).Counts (.calls .orders) (.scripted {}) [.text "c-1"]
        [.ok { count := Float.ofNat fourOrders.length }] fourOrders ∧
      ∃ counted found,
        (((firstThree .count .count).call (.scripted {}) [.text "c-1"]).run.run
          { script := [.ok { count := Float.ofNat fourOrders.length }] }).1 =
            .ok (.count (Float.ofNat counted)) ∧
        (((firstThree .find .many).call (.scripted {}) [.text "c-1"]).run.run
          { script := pagesOfOrders }).1 = .ok (.many found) ∧
        counted ≠ found.length ∧ 3 < counted :=
  ⟨rfl, rfl, rfl, fourOrders_held, fourOrders_counted, fourOrders.length,
    ["o-1", "o-2", "o-3"].map pagesOfOrders.order, rfl, rfl, by decide, by decide⟩

end Method

end NamedQuery
