import NamedQuery.Proofs.Access.Chosen
import NamedQuery.Proofs.Entity.Keys
import NamedQuery.Proofs.Fields
import NamedQuery.Proofs.Method.Derived
import NamedQuery.Proofs.Repository.Usage

/-!
# No scan without permission

Whether a method may scan is decided once, when it is derived, from the flag of its declaration and
the one of the repository; the scans are sent later, by calls in six shapes, by the streams that
some of them hand out and by two base queries.

* `permission` — the flag that counts;
* `Permits` — on whose behalf a scan may be sent, for items or for their number only;
* `Method.derive_scan` — a method whose path is a scan has the permission for it;
* `Repository.scans_permitted` — every scan that is ever sent is permitted.
-/

namespace NamedQuery

/-! ### Permissions -/

/-- The flag of a declaration where it is given, else that of the repository, else none. -/
def permission (own default : Option Bool) : Bool :=
  match own with
  | some flag => flag
  | none => default.getD false

theorem permission_eq (own default : Option Bool) :
    permission own default = (own.or default).getD false := by
  cases own <;> rfl

/-- On whose behalf a scan may be sent. A scan that only counts is for counts, and the other ones
are for everything else. -/
inductive Permits (declarations : Fields Declaration) (defaults : ScanDefaults) :
    Caller → (countOnly : Bool) → Prop where
  /-- A declared method that finds, tests or deletes. -/
  | method {name : String} {d : Declaration} {parsed : MethodName}
      (declared : declarations.get? name = some d) (parse : MethodName.parse name = .ok parsed)
      (subject : parsed.subject ≠ .count)
      (flag : permission d.enableScan defaults.enableScan = true) :
      Permits declarations defaults (.method name) false
  /-- A declared method that counts. -/
  | countMethod {name : String} {d : Declaration} {parsed : MethodName}
      (declared : declarations.get? name = some d) (parse : MethodName.parse name = .ok parsed)
      (subject : parsed.subject = .count)
      (flag : permission d.enableScanCount defaults.enableScanCount = true) :
      Permits declarations defaults (.method name) true
  | findAll (flag : defaults.enableScan = some true) : Permits declarations defaults .findAll false
  | count (flag : defaults.enableScanCount = some true) : Permits declarations defaults .count true

/-- A command is no scan, or a permitted one. -/
def Command.ScansOnly (permits : Bool → Prop) : Command → Prop
  | .scan input => permits input.countOnly
  | _ => True

/-! ### Derived methods -/

/-- The shapes of a count and of other methods have nothing in common. -/
theorem Declaration.shape_eq_count_iff {d : Declaration} {subject : Subject} {shape : ResultShape}
    (h : d.shape? subject = some shape) : shape = .count ↔ subject = .count := by
  have hmem : shape ∈ subject.shapes := List.mem_of_find?_eq_some h
  -- a find may have every shape but that of a count, the others have one shape each
  cases subject with
  | find =>
    have hne : shape ≠ .count := by
      rintro rfl
      exact absurd hmem (by decide)
    simp [hne]
  | count => simpa [Subject.shapes] using hmem
  | «exists» =>
    obtain rfl : shape = .exists := by simpa [Subject.shapes] using hmem
    simp
  | delete =>
    obtain rfl : shape = .delete := by simpa [Subject.shapes] using hmem
    simp

namespace Method

variable {e : Entity} {name : String} {d : Declaration} {defaults : ScanDefaults} {m : Method}

/-- **A method that scans has the permission to.** -/
theorem derive_scan (h : derive e name d defaults = .ok m) (hscan : m.path.kind = .scan) :
    ∃ parsed, MethodName.parse name = .ok parsed ∧
      (m.shape = .count ↔ parsed.subject = .count) ∧
      (parsed.subject = .count →
        permission d.enableScanCount defaults.enableScanCount = true) ∧
      (parsed.subject ≠ .count → permission d.enableScan defaults.enableScan = true) := by
  obtain ⟨parsed, hparse, hquery, hcheck, hpath, -, -⟩ := derive_eq_ok h
  obtain ⟨hsubject, -⟩ := Query.bind_eq_ok hquery
  obtain ⟨hshape, -⟩ := Declaration.check_eq_ok hcheck
  have hchosen := AccessPath.resolve_chosen hpath
  refine ⟨parsed, hparse, hsubject ▸ Declaration.shape_eq_count_iff hshape, ?_⟩
  rw [permission_eq, permission_eq, ← hsubject]
  generalize hm : m.path = path at hscan hchosen
  -- of the forms of a path only a scan reads by scanning, and there the policy was asked
  cases hchosen with
  | load | loadPair | loadById => exact absurd hscan (by simp [AccessPath.kind])
  | @query hashKey others keyed k avoids keys pick splits =>
    simp only [AccessPath.kind] at hscan
    split at hscan <;> exact absurd hscan (by simp)
  | scan avoids order count other => exact ⟨count, other⟩

/-! ### Calls -/

variable {ctx : Context Reply} {args : List Value} {shape : ResultShape} {permits : Bool → Prop}

/-- Only a scan is served by scans. -/
theorem scan_of_paged {options : RequestOptions} {path : AccessPath} {r : ScanRequest}
    (h : Request.paged e options path args = .ok (.scan r)) : path.kind = .scan := by
  unfold Request.paged at h
  split at h
  · rfl
  · obtain ⟨r', -, h⟩ := map_eq_ok_iff.mp h
    cases h

/-- A call in another shape than the declared one does nothing. -/
theorem start_refused_ensures {sound : Reply → Prop} {allowed : Event → Prop}
    (h : shape ≠ m.shape) : Run.Ensures sound allowed (m.start ctx args shape) fun _ => False := by
  unfold start
  rw [if_pos h]
  have hfail : Run.Ensures sound allowed
      (Run.fail ((Cause.otherShape m.shape shape).of m.name) : Run Reply Unit) fun _ => False :=
    .throw
  exact hfail.bind fun _ hfalse => hfalse.elim

theorem callAs_refused {sound : Reply → Prop} {allowed : Event → Prop}
    {post : Outcome Reply → Prop} (h : shape ≠ m.shape) :
    Run.Ensures sound allowed (m.callAs ctx args shape) post := by
  -- the shape is checked first, so nothing behind the check happens
  have hstart : Run.Ensures sound allowed (m.start ctx args shape) fun _ => False :=
    start_refused_ensures h
  have hnever : ∀ {α : Type} {f : Unit → Run Reply α} {g : α → Outcome Reply},
      Run.Ensures sound allowed (g <$> (m.start ctx args shape >>= f)) post :=
    .map (hstart.bind fun _ hfalse => hfalse.elim)
  unfold callAs
  cases shape with
  | one | many | stream | count | «exists» | delete => exact hnever

/-- The reads of a method that is called in its shape. A count sends scans that count, and no other
shape does. -/
theorem reads_scans {c : ConfiguredStore} (hstore : ctx.store = c.operations)
    (h : m.path.kind = .scan → permits (decide (shape = .count))) :
    m.Reads (fun _ => True) (Event.Sends (Command.ScansOnly permits)) (fun _ => True)
      (fun _ => True) ctx args shape := by
  refine .configured c hstore (fun _ _ => True.intro) ?_ ?_ fun _ => True.intro
  · -- a page of a query is read by its keys, a page of a scan for whoever may scan
    intro hshape r hr start
    cases r with
    | query r => exact True.intro
    | scan r =>
      have hpermits := h (scan_of_paged hr)
      rwa [decide_eq_false hshape] at hpermits
  · intro hshape r hr start
    cases r with
    | query r => exact True.intro
    | scan r =>
      have hpermits := h (scan_of_paged hr)
      rwa [decide_eq_true hshape] at hpermits

/-- **A call of a method** sends no scan but a permitted one, in whatever shape it is called. -/
theorem callAs_scans {c : ConfiguredStore} (hstore : ctx.store = c.operations)
    (h : m.path.kind = .scan → permits (decide (m.shape = .count))) :
    Run.Ensures (fun _ => True) (Event.Sends (Command.ScansOnly permits)) (m.callAs ctx args shape)
      (Outcome.Passes (fun _ => True) (Event.Sends (Command.ScansOnly permits)) (fun _ => True)
        fun _ => True) := by
  by_cases hshape : shape = m.shape
  · subst hshape
    exact (reads_scans hstore h).callAs_ensures
  · exact callAs_refused hshape

end Method

/-! ### Repositories -/

/-- A repository whose methods were derived from some declarations. -/
structure Repository.Declares (r : Repository Reply) (ctx : Context Reply) (e : Entity)
    (declarations : Fields Declaration) (defaults : ScanDefaults) : Prop where
  context : r.context = ctx
  entity : r.entity = e
  flags : r.defaults = defaults
  method : ∀ name m, r.methods.get? name = some m →
    ∃ d, declarations.get? name = some d ∧ Method.derive e name d defaults = .ok m

namespace Repository

variable {ctx : Context Reply} {e : Entity} {declarations : Fields Declaration}
  {defaults : ScanDefaults} {r : Repository Reply} {may : Command → Prop}

theorem deriveAll_ensures (ctx : Context Reply) (e : Entity) (defaults : ScanDefaults)
    (declarations : Fields Declaration) :
    Run.Ensures (fun _ => True) (Event.Sends may) (deriveAll ctx e defaults declarations)
      fun methods => ∀ name m, methods.get? name = some m →
        ∃ d, declarations.get? name = some d ∧ Method.derive e name d defaults = .ok m := by
  induction declarations with
  | nil =>
    refine .pure fun name m h => ?_
    rw [Fields.get?_nil] at h
    cases h
  | cons declaration declarations ih =>
    obtain ⟨name, d⟩ := declaration
    have hderive : Run.Ensures (fun _ => True) (Event.Sends may)
        (deriveMethod ctx e defaults name d) fun m => Method.derive e name d defaults = .ok m :=
      Run.Ensures.bind (.ofExcept fun _ hm => hm) fun m hm =>
        (Run.Ensures.log True.intro True.intro).bind fun _ _ => .pure hm
    -- the name stands for this declaration, or for one behind it
    refine hderive.bind fun m hm => ih.bind fun methods hmethods => .pure ?_
    intro name' m' h
    rw [Fields.get?_cons] at h ⊢
    by_cases hname : name = name'
    · subst hname
      rw [if_pos rfl] at h ⊢
      obtain rfl := Option.some.inj h
      exact ⟨d, rfl, hm⟩
    · rw [if_neg hname] at h ⊢
      exact hmethods name' m' h

/-- **Creating a repository** sends nothing, and derives every method from its declaration. -/
theorem create_ensures (ctx : Context Reply) (e : Entity) (declarations : Fields Declaration)
    (defaults : ScanDefaults) :
    Run.Ensures (fun _ => True) (Event.Sends may) (create ctx e declarations defaults)
      fun r => r.Declares ctx e declarations defaults :=
  (deriveAll_ensures ctx e defaults declarations).bind fun _ hmethods =>
    (Run.Ensures.log True.intro True.intro).bind fun _ _ => .pure ⟨rfl, rfl, rfl, hmethods⟩

theorem baseQuery_ensures (r : Repository Reply) (name : String) (shape : ResultShape) :
    Run.Ensures (fun _ => True) (Event.Sends may) (r.baseQuery name shape) fun m =>
      Method.derive r.entity name { returns := shape.name } r.defaults = .ok m := by
  -- a base query is derived from its name, whether it is logged or not
  refine Run.Ensures.bind (.ofExcept fun _ hm => hm) fun m hm => ?_
  refine Run.Ensures.get.bind fun s _ => ?_
  have hpure : Run.Ensures (fun _ => True) (Event.Sends may) (pure m : Run Reply Method) fun m =>
      Method.derive r.entity name { returns := shape.name } r.defaults = .ok m := .pure hm
  simp only
  split
  · exact (Run.Ensures.log True.intro True.intro).bind fun _ _ => Run.Ensures.note.bind fun _ _ =>
      hpure
  · exact hpure

/-- A flag that counts for a base query is that of the repository. -/
theorem eq_some_of_permission {default : Option Bool} (h : permission none default = true) :
    default = some true := by
  cases default with
  | none => cases h
  | some flag =>
    obtain rfl : flag = true := h
    rfl

section Obeys

variable {c : ConfiguredStore} (hstore : ctx.store = c.operations)
  (h : r.Declares ctx e declarations defaults)

include hstore h

theorem call_obeys {name : String} {m : Method} (hm : r.method name = .ok m) (args : List Value)
    (shape : ResultShape) :
    Run.Ensures (fun _ => True)
      (Event.Sends (Command.ScansOnly (Permits declarations defaults (.method name))))
      (m.callAs r.context args shape)
      (Outcome.Passes (fun _ => True)
        (Event.Sends (Command.ScansOnly (Permits declarations defaults (.method name))))
        (fun _ => True) fun _ => True) := by
  -- the method was derived from the declaration with its name
  rw [h.context]
  have hget : r.methods.get? name = some m := by
    unfold method at hm
    split at hm
    · next m' hget => rwa [← Except.ok.inj hm]
    · cases hm
  obtain ⟨d, hdeclared, hderive⟩ := h.method name m hget
  refine Method.callAs_scans hstore fun hscan => ?_
  obtain ⟨parsed, hparse, hshape, hcount, hother⟩ := Method.derive_scan hderive hscan
  by_cases hsubject : parsed.subject = .count
  · rw [decide_eq_true (hshape.mpr hsubject)]
    exact .countMethod hdeclared hparse hsubject (hcount hsubject)
  · rw [decide_eq_false fun hcountShape => hsubject (hshape.mp hcountShape)]
    exact .method hdeclared hparse hsubject (hother hsubject)

/-- The base query for the items needs the permission of the repository. -/
theorem findAll_obeys :
    Run.Sends (Command.ScansOnly (Permits declarations defaults .findAll)) r.findAll := by
  refine Run.Ensures.bind (r.baseQuery_ensures "findAll" .many) fun m hm => ?_
  rw [h.entity, h.flags] at hm
  have hscan : m.path.kind = .scan →
      Permits declarations defaults .findAll (decide (ResultShape.many = .count)) := by
    intro hscan
    -- the base queries are derived from names of their own, which are no counts but the one
    obtain ⟨parsed, hparse, -, -, hother⟩ := Method.derive_scan hm hscan
    obtain rfl := Except.ok.inj hparse
    exact .findAll (eq_some_of_permission (hother (by decide)))
  rw [h.context]
  exact (Method.reads_scans hstore hscan).many_ensures.mono fun _ _ => True.intro

/-- The base query for their number needs the permission of the repository to count. -/
theorem count_obeys :
    Run.Sends (Command.ScansOnly (Permits declarations defaults .count)) r.count := by
  refine Run.Ensures.bind (r.baseQuery_ensures "count" .count) fun m hm => ?_
  rw [h.entity, h.flags] at hm
  -- the base query may scan only where its declaration permits it
  have hscan : m.path.kind = .scan →
      Permits declarations defaults .count (decide (ResultShape.count = .count)) := by
    intro hscan
    obtain ⟨parsed, hparse, -, hcount, -⟩ := Method.derive_scan hm hscan
    obtain rfl := Except.ok.inj hparse
    exact .count (eq_some_of_permission (hcount rfl))
  rw [h.context]
  exact (Method.reads_scans hstore hscan).count_ensures

/-- **Every call** of a declared repository sends no scan but a permitted one. -/
theorem obeys_permits :
    r.Obeys fun caller => Command.ScansOnly (Permits declarations defaults caller) := by
  have hcontext : r.context.store = c.operations := by rw [h.context, hstore]
  have haccept : ∀ {may : Command → Prop} (key : Key),
      Run.Sends may (Run.ofExcept (r.acceptKey key)) := fun _ => .ofExcept fun _ _ => True.intro
  have hload : ∀ key, Run.Sends (Command.ScansOnly (Permits declarations defaults .single))
      (r.context.store.load r.entity key none) := by
    intro key
    rw [hcontext]
    exact c.load_sends fun _ => True.intro
  -- the single operations send no scan at all
  constructor
  · exact fun name m hm args shape => call_obeys hstore h hm args shape
  · exact fun key => (haccept key).bind fun _ => hload key
  · exact fun key => (haccept key).bind fun _ => (hload key).bind fun _ => .pure
  · intro key
    refine (haccept key).bind fun _ => ?_
    rw [hcontext]
    exact c.delete_sends True.intro
  · intro object
    have hitem : Run.Sends (Command.ScansOnly (Permits declarations defaults .single))
        (Run.ofExcept (r.itemOf object.ownFields)) := .ofExcept fun _ _ => True.intro
    refine hitem.bind fun item => ?_
    rw [hcontext]
    exact (c.save_sends True.intro).bind fun _ => .pure
  · exact findAll_obeys hstore h
  · exact count_obeys hstore h

end Obeys

/-- **No scan without permission.** Whatever is declared, whatever the store answers and whatever
was done before, creating a repository sends nothing, and every scan that an action sends is
permitted to the one on whose behalf the action is done. -/
theorem scans_permitted {c : ConfiguredStore} (hstore : ctx.store = c.operations)
    {start created : Session Reply}
    (hcreate : (create ctx e declarations defaults).run.run start = (.ok r, created)) :
    (∃ events, created.journal = start.journal ++ events ∧
        ∀ command, .command command ∉ events) ∧
      ∀ (before : List Action) (action : Action),
        ∃ events,
          (r.step (r.uses { session := created } before) action).session.journal =
            (r.uses { session := created } before).session.journal ++ events ∧
          ∀ input, .command (.scan input) ∈ events →
            ∃ caller, (r.uses { session := created } before).caller action = some caller ∧
              Permits declarations defaults caller input.countOnly := by
  -- where nothing may be sent, creation can still do all it does
  have hcreates : Run.Ensures (fun _ => True) (Event.Sends fun _ => False)
      (create ctx e declarations defaults) _ := create_ensures ctx e declarations defaults
  obtain ⟨events, hjournal, hevents, -, hdeclares⟩ := hcreates start start.isSound_true
  rw [hcreate] at hjournal hdeclares
  have hobeys := obeys_permits hstore (hdeclares r rfl)
  refine ⟨⟨events, hjournal, fun command hmem => hevents _ hmem⟩, fun before action => ?_⟩
  have hnone : Usage.Obeys (fun caller => Command.ScansOnly (Permits declarations defaults caller))
      { session := created } := by
    intro held hheld
    cases hheld
  obtain ⟨-, sent, hsent, hpermitted⟩ := hobeys.step (hobeys.uses hnone before) action
  exact ⟨sent, hsent, fun input hmem => hpermitted _ hmem⟩

/-- The declaration of a stream of orders that may be scanned for. -/
def scannedOrders : Fields Declaration :=
  [("findByTotal", { returns := "stream", enableScan := some true })]

/-- The repository with that method. -/
def ordersByTotal : Repository Reply :=
  { context := { store := ConfiguredStore.operations {} }
    entity := .orders
    methods :=
      [("findByTotal",
        { entity := .orders
          query :=
            { method := "findByTotal", subject := .find, limit := none
              criteria := [⟨.own "total", .equals, 0⟩], order := none }
          path := .scan [⟨.own "total", .equals, 0⟩]
          shape := .stream
          options := {} })]
    defaults := {} }

/-- The call sends nothing, and the first item of its stream is scanned for on its behalf. -/
theorem scans_permitted_stream :
    (create ordersByTotal.context .orders scannedOrders {}).run.run {} = (.ok ordersByTotal, {}) ∧
      ∃ input,
        (ordersByTotal.step (ordersByTotal.uses { session := {} }
            [.invoke "findByTotal" [.number 5]]) (.first 0)).session.journal =
          [.command (.scan input)] ∧
        Permits scannedOrders {} (.method "findByTotal") input.countOnly := by
  have hcreate : (create ordersByTotal.context .orders scannedOrders {}).run.run {} =
      (.ok ordersByTotal, {}) := rfl
  have hstore : ordersByTotal.context.store = ConfiguredStore.operations {} := rfl
  refine ⟨hcreate, _, rfl, ?_⟩
  obtain ⟨-, hactions⟩ := scans_permitted hstore hcreate
  obtain ⟨events, hjournal, hscans⟩ :=
    hactions [.invoke "findByTotal" [.number 5]] (.first 0)
  -- nothing was sent before, so the journal holds what the last action sent
  have hevents : [.command (.scan _)] = events := hjournal
  obtain ⟨caller, hcaller, hpermits⟩ := hscans _ (hevents ▸ List.mem_singleton_self _)
  obtain rfl : .method "findByTotal" = caller := Option.some.inj hcaller
  exact hpermits

end Repository

end NamedQuery
