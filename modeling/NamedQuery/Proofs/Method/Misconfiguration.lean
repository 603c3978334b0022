import NamedQuery.Proofs.Method.StaticFilter
import NamedQuery.Proofs.Request.Refusals
import NamedQuery.Proofs.Store.Confined

/-!
# When a misconfiguration is found

A method that is misconfigured fails when it is derived. A call of it can still fail, since its
arguments may be of any kind and its store may be out of reach, but what it then raises is no
configuration error.

* `Method.FailsWithin` — the ways in which a method can fail: as its store does, by a request that
  is refused, or by a stream that is gone through twice;
* `Method.FailsWithin.invoke_confined` — an invocation fails in no other way, in any shape;
* `Method.misconfiguration_at_derivation` — none of its own ways is a configuration error.
-/

namespace NamedQuery

variable {ρ : Type} {may : Thrown → Prop}

/-- A stream that a call hands back fails only as it may. -/
def Outcome.IsConfined (may : Thrown → Prop) : Outcome ρ → Prop
  | .stream s => s.source.Confined may
  | _ => True

namespace Method

/-- How a method can fail whose requests are built for some arguments: as its store does, by a
request that is refused, and by a stream that is gone through twice. -/
structure FailsWithin (may : Thrown → Prop) (m : Method) (ctx : Context ρ) (args : List Value) :
    Prop where
  store : ctx.store.Confined may
  refused : ∀ cause, Request.build m.entity m.options m.path args = .error cause →
    may (.error (cause.of m.name))
  already : may ItemStream.alreadyIterated

namespace FailsWithin

variable {m : Method} {ctx : Context ρ} {args : List Value} (h : m.FailsWithin may ctx args)

theorem start_confined (hlength : args.length = m.query.parameterCount) :
    Run.Confined may (m.start ctx args m.shape) fun _ => True := by
  rw [start_eq ctx hlength]
  exact .keep _ _

theorem recordItems_confined (n : Nat) :
    Run.Confined may (m.recordItems ctx n) fun _ => True :=
  .keep _ _

theorem built_confined {α : Type} {request : Except Cause α}
    (hrefused : ∀ cause, request = .error cause → may (cause.thrown m.name)) :
    Run.Confined may (m.build request : Run ρ α) fun _ => True := by
  cases request with
  | ok built => exact .pure trivial
  | error cause => exact .throw (hrefused cause rfl)

include h

/-- A request that is refused is refused with an error. -/
theorem refused_thrown {cause : Cause}
    (hcause : Request.build m.entity m.options m.path args = .error cause) :
    may (cause.thrown m.name) := by
  rw [Request.thrown_of_build hcause]
  exact h.refused cause hcause

theorem load_confined (hload : m.isLoad = true) :
    Run.Confined may (m.load ctx args) fun _ => True := by
  have hbuild : Run.Confined may (m.build (Request.load m.entity m.options m.path args) :
      Run ρ LoadRequest) fun _ => True := by
    refine built_confined fun cause hcause => h.refused_thrown ?_
    rw [Request.build, if_pos (beq_iff_eq.mp hload), map_eq_error_iff]
    exact hcause
  exact hbuild.bind fun _ _ => h.store.load _ _ _

theorem source_confined (r : PagedRequest) : (m.source ctx r).Confined may where
  fetch start := by
    cases r with
    | query r => exact h.store.query _ r start
    | scan r => exact h.store.scan _ r start
  onPage _ := .keep _ _

theorem build_confined (hload : m.isLoad = false) :
    Run.Confined may (m.build (Request.paged m.entity m.options m.path args) :
      Run ρ PagedRequest) fun _ => True := by
  refine built_confined fun cause hcause => h.refused_thrown ?_
  rw [Request.build, if_neg (beq_eq_false_iff_ne.mp hload), map_eq_error_iff]
  exact hcause

theorem pages_confined (hload : m.isLoad = false) :
    Run.Confined may (m.pages ctx args) fun s => s.source.Confined may :=
  (h.build_confined hload).bind fun r _ => .pure (h.source_confined r)

theorem collect_confined : Run.Confined may (m.collect ctx args) fun _ => True := by
  unfold collect
  split
  · next hload => exact (h.load_confined hload).bind fun _ _ => .pure trivial
  · next hload =>
    have hload : m.isLoad = false := by simpa using hload
    exact (h.pages_confined hload).bind fun s hs => ItemStream.collect_confined h.already hs

theorem head?_confined : Run.Confined may (m.head? ctx args) fun _ => True := by
  unfold head?
  split
  · next hload => exact h.load_confined hload
  · next hload =>
    have hload : m.isLoad = false := by simpa using hload
    exact (h.pages_confined hload).bind fun s hs => ItemStream.head?_confined h.already hs

/-- **A call fails only as its method does**, in the declared shape and with the arguments it asks
for. -/
theorem call_confined (hlength : args.length = m.query.parameterCount) :
    Run.Confined may (m.call ctx args) (Outcome.IsConfined may) := by
  have hstart : Run.Confined may (m.start ctx args m.shape) fun _ => True :=
    start_confined hlength
  have hrecord : ∀ n, Run.Confined may (m.recordItems ctx n) fun _ => True :=
    recordItems_confined
  -- each shape is a start and then reads, records and deletions that keep to what may be thrown
  unfold call callAs
  generalize m.shape = shape at hstart ⊢
  cases shape with
  | one =>
    refine Run.Confined.map (hstart.bind fun _ _ => ?_)
    exact h.head?_confined.bind fun _ _ => (hrecord _).bind fun _ _ => .pure trivial
  | many =>
    refine Run.Confined.map (hstart.bind fun _ _ => ?_)
    exact h.collect_confined.bind fun _ _ => (hrecord _).bind fun _ _ => .pure trivial
  | stream =>
    refine Run.Confined.map (hstart.bind fun _ _ => ?_)
    split
    · next hload =>
      -- an item that was loaded is handed back as a stream of one page that is there already
      refine (h.load_confined hload).bind fun _ _ => .pure ?_
      exact ⟨fun _ => .pure trivial, fun _ => .pure trivial⟩
    · next hload => exact h.pages_confined (by simpa using hload)
  | count =>
    refine Run.Confined.map (hstart.bind fun _ _ => ?_)
    split
    · next hload => exact (h.load_confined hload).bind fun _ _ => .pure trivial
    · next hload =>
      have hload : m.isLoad = false := by simpa using hload
      exact (h.build_confined hload).bind fun r _ => h.store.count _ r
  | «exists» =>
    refine Run.Confined.map (hstart.bind fun _ _ => ?_)
    exact h.head?_confined.bind fun _ _ => .pure trivial
  | delete =>
    refine Run.Confined.map (hstart.bind fun _ _ => ?_)
    refine h.collect_confined.bind fun items _ => ?_
    have hrest : Run.Confined may (do
        m.recordItems ctx items.length
        pure items) fun items => (Outcome.delete items : Outcome ρ).IsConfined may :=
      (hrecord _).bind fun _ _ => .pure trivial
    simp only
    split
    -- only where there are items is the store asked to delete them
    · exact (h.store.batchDelete _ _).bind fun _ _ => hrest
    · exact hrest

theorem consume_confined {s : ItemStream ρ Item} (hs : s.source.Confined may)
    (consumer : Consumer) : Confined may (consumer.consume s) (Expected may fun _ => True) := by
  -- what a consumer hands out has no say in what it throws
  have hmap : ∀ {α β : Type} {f : α → β} {result : Except Thrown α},
      Expected may (fun _ => True) result → Expected may (fun _ => True) (result.map f) := by
    intro α β f result hresult
    cases result with
    | ok a => trivial
    | error thrown => exact hresult
  cases consumer with
  | take n => exact .map ((ItemStream.take_confined h.already n hs .fresh).mono fun _ => hmap)
  | toList => exact .map ((ItemStream.toList_confined h.already hs).mono fun _ => hmap)
  | first => exact .map ((ItemStream.first?_confined h.already hs).mono fun _ => hmap)

/-- **An invocation fails only as its method does**, whatever a consumer does with the stream it
gives. -/
theorem invoke_confined (hlength : args.length = m.query.parameterCount) (consumer : Consumer) :
    Confined may (m.invoke ctx args consumer) (Expected may fun _ => True) := by
  refine Confined.bind (h.call_confined hlength) fun result hresult => ?_
  match result with
  | .error thrown => exact .pure hresult
  | .ok (.stream s) => exact h.consume_confined hresult consumer
  | .ok (.one _) | .ok (.many _) | .ok (.count _) | .ok (.exists _) | .ok (.delete _) =>
    exact .pure trivial

end FailsWithin

variable {e : Entity} {name : String} {d : Declaration} {defaults : ScanDefaults} {m : Method}
  {ctx : Context ρ} {args : List Value}

/-- **A misconfiguration is found when a method is derived**, never by a call. Whatever the entity,
the name, the declaration and the arguments, a request is refused for an argument that cannot be
bound and for nothing else, and the declaration has no part in that. So whatever the store and the
consumer, the only configuration errors of an invocation are those that others raise. -/
theorem misconfiguration_at_derivation (h : derive e name d defaults = .ok m)
    (hmarked : d.options.placeholders.AreMarked) (hlength : args.length = m.query.parameterCount)
    (others : Error → Prop) (hstore : ctx.store.Confined (Thrown.BlamesOnly others))
    (consumer : Consumer) (s : Session ρ) (hs : s.IsConfined (Thrown.BlamesOnly others)) :
    (∀ cause, Request.build e d.options m.path args = .error cause →
        cause.kind = .parameterBinding ∧ Request.build e {} m.path args = .error cause) ∧
      ∀ error, ((m.invoke ctx args consumer).run s).1 = .error (.error error) →
        error.cause.kind.family = .configuration → others error := by
  obtain ⟨-, -, -, hcheck, hpath, rfl, hoptions⟩ := derive_eq_ok h
  obtain ⟨-, -, -, hreserved⟩ := Declaration.check_eq_ok hcheck
  have havoids : d.options.AvoidsAllGenerated := Declaration.avoidsAllGenerated hreserved
  have hbinds : BindsArguments (Request.build m.entity d.options m.path args) :=
    Request.build_binds (AccessPath.resolve_chosen hpath) hmarked havoids
  refine ⟨fun cause hcause => ⟨hbinds cause hcause, ?_⟩, fun error herror => ?_⟩
  · -- the static filter has no part in a refusal
    exact (Request.build_eq_error_iff hmarked havoids).mp hcause
  · -- what is thrown is of the store, of the arguments, or of a stream that is gone through twice
    have hfails : m.FailsWithin (Thrown.BlamesOnly others) ctx args :=
      { store := hstore
        refused := by
          intro cause hcause hconfiguration
          rw [hoptions] at hcause
          -- a refusal is of another kind
          rw [Cause.of, hbinds cause hcause] at hconfiguration
          exact absurd hconfiguration (by decide)
        already := fun hconfiguration => absurd hconfiguration (by decide) }
    obtain ⟨-, hresult⟩ := hfails.invoke_confined hlength consumer s hs
    rw [herror] at hresult
    exact hresult

/-- Asked for the open orders of nobody, a method refuses the argument, as it would without a static
filter. -/
theorem misconfiguration_at_derivation_openOrders :
    derive Entity.orders "findByCustomerId" (.openOnly "many") {} = .ok openOfCustomer ∧
      Request.build Entity.orders (Declaration.openOnly "many").options openOfCustomer.path
          [.null] =
        .error (.nullArgument "customerId") ∧
      Request.build Entity.orders {} openOfCustomer.path [.null] =
        .error (.nullArgument "customerId") ∧
      ∀ error, ((openOfCustomer.invoke { store := ConfiguredStore.operations {} } [.null]
          .toList).run {}).1 = .error (.error error) →
        error.cause.kind.family ≠ .configuration := by
  have h : derive Entity.orders "findByCustomerId" (.openOnly "many") {} = .ok openOfCustomer :=
    rfl
  have hmarked : (Declaration.openOnly "many").options.placeholders.AreMarked :=
    ⟨by decide, by decide, by decide, by decide⟩
  have hbuild : Request.build Entity.orders (Declaration.openOnly "many").options
      openOfCustomer.path [.null] = .error (.nullArgument "customerId") := rfl
  have hlength : [Value.null].length = openOfCustomer.query.parameterCount := rfl
  have hstore : ({ store := ConfiguredStore.operations {} } : Context Reply).store.Confined
      (Thrown.BlamesOnly fun _ => False) := ConfiguredStore.operations_confined {} _
  -- no error is allowed to the store but its own
  obtain ⟨hrefused, hinvoke⟩ := misconfiguration_at_derivation h hmarked hlength (fun _ => False)
    hstore .toList {} nofun
  exact ⟨h, hbuild, (hrefused _ hbuild).2, hinvoke⟩

end Method

end NamedQuery
