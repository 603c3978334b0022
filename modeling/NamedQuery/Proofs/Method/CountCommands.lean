import NamedQuery.Proofs.Request.Mentions
import NamedQuery.Proofs.Store.Configured
import NamedQuery.Proofs.Store.Sent

/-!
# What count commands define

A command that counts is the one that reads, without its projection. The placeholders of the
projection are left out then, and they are told by what they start with. A declaration may give a
placeholder of its static filter a name that starts in the same way, as long as no number follows,
and that one is left out as well.

* `ReadInput.Defines` — a command defines what its expressions mention;
* `Client.defines_countCommand_iff` — when a count command does, for any request;
* `Request.IsGenerated.not_projection` — nothing that is generated for a condition is left out;
* `ConfiguredStore.count_writes`, `Method.call_writes_count` — a call that counts sends such a
  command in any case;
* `Method.count_defines_iff` — when all count commands of a call define what they mention.
  `Method.count_loses_price` is a call where one does not.
-/

namespace NamedQuery

/-- Every placeholder of the expressions that select items is defined. -/
def ReadInput.Defines (input : ReadInput) : Prop :=
  ∀ s ∈ input.keyCondition.toList.flatMap mentions ++ input.filter.toList.flatMap mentions,
    Placeholders.Defines { names := input.names.getD [], values := input.values.getD [] } s

instance : DecidablePred ReadInput.Defines := fun _ =>
  inferInstanceAs (Decidable (∀ s ∈ _, _))

/-- What a command counts, if it asks for a number only. -/
def Command.counted? : Command → Option ReadInput
  | query input | scan input => if input.countOnly then some input else none
  | _ => none

/-! ### Commands -/

namespace Client

variable {table : TableName} {r : PagedRequest} {start : Value}

/-- The placeholders that are left for counting. -/
def countNames (r : PagedRequest) : Fields String :=
  if r.shared.projection.isSome then dropProjection r.shared.placeholders.names
  else r.shared.placeholders.names

/-- **A count command** selects what the request selects, with the placeholders that are left. -/
theorem countCommand_counted? (table : TableName) (r : PagedRequest) (start : Value) :
    ∃ input, (countCommand table r start).counted? = some input ∧
      input.keyCondition = r.keyCondition? ∧ input.filter = r.shared.filter ∧
      input.names.getD [] = countNames r ∧
      input.values.getD [] = r.shared.placeholders.values := by
  -- where nothing is left of the names, none are sent, which stands for no names
  have hnames : ∀ input : ReadInput, input.names = nonEmpty? r.shared.placeholders.names →
      input.projection = r.shared.projection →
      (countInput input r.shared.placeholders.names).names.getD [] = countNames r := by
    intro input hnames hprojection
    unfold countInput countNames
    rw [hprojection, hnames]
    simp only
    split
    · exact getD_nonEmpty? _
    · exact getD_nonEmpty? _
  cases r with
  | query r =>
    exact ⟨_, rfl, rfl, rfl, hnames (queryInput table r) rfl rfl, getD_nonEmpty? _⟩
  | scan r => exact ⟨_, rfl, rfl, rfl, hnames (scanInput table r) rfl rfl, getD_nonEmpty? _⟩

theorem mem_dropProjection {names : Fields String} {s : String} :
    s ∈ (dropProjection names).names ↔ s ∈ names.names ∧ ¬"#p".toList <+: s.toList := by
  simp only [Fields.mem_names, dropProjection, List.mem_filter, Bool.not_eq_true',
    ← List.isPrefixOf_iff_prefix, Bool.not_eq_true, exists_and_right]

/-- **What a count command defines.** It defines what it mentions exactly if nothing that it
mentions is taken for a placeholder of the projection. -/
theorem defines_countCommand_iff (hr : ∀ s ∈ r.mentions, r.shared.placeholders.Defines s)
    {input : ReadInput} (hinput : (countCommand table r start).counted? = some input) :
    input.Defines ↔
      r.shared.projection = none ∨ ∀ s ∈ r.mentions, ¬"#p".toList <+: s.toList := by
  obtain ⟨input', hinput', hkey, hfilter, hnames, hvalues⟩ := countCommand_counted? table r start
  obtain rfl := Option.some.inj (hinput'.symm.trans hinput)
  -- only names of attributes can be dropped, since the mark of a projection is one of those
  have hnamed : ∀ s : String, "#p".toList <+: s.toList → s.toList.head? = some '#' := by
    rintro s ⟨tail, htail⟩
    rw [← htail]
    rfl
  rw [ReadInput.Defines, hkey, hfilter, hnames, hvalues]
  show (∀ s ∈ r.mentions, _) ↔ _
  unfold countNames
  cases hprojection : r.shared.projection with
  | none => simpa using hr
  | some properties =>
    simp only [Option.isSome_some, if_true, reduceCtorEq, false_or]
    refine forall₂_congr fun s hs => ?_
    have hdefined := hr s hs
    unfold Placeholders.Defines at hdefined ⊢
    -- a placeholder for a value is not touched; one for a name has to survive the drop
    by_cases hmark : s.toList.head? = some '#'
    · rw [if_pos hmark] at hdefined ⊢
      rw [mem_dropProjection, and_iff_right hdefined]
    · rw [if_neg hmark] at hdefined ⊢
      exact iff_of_true hdefined (mt (hnamed s) hmark)

end Client

/-! ### Requests -/

namespace Request

variable {e : Entity} {options : RequestOptions} {path : AccessPath} {args : List Value}

theorem projection_eq_none_iff {p : Placeholders} :
    (projection e options p).1 = none ↔ options.projection = [] := by
  unfold projection
  split
  · next hnone => exact iff_of_true rfl hnone
  · next hsome => exact iff_of_false nofun hsome

/-- A request has a projection if properties are listed. -/
theorem paged_projection_eq_none_iff {r : PagedRequest} (h : paged e options path args = .ok r) :
    r.shared.projection = none ↔ options.projection = [] := by
  obtain ⟨plan, p, hreading⟩ := exists_reading h
  obtain ⟨p', -, hprojection, -⟩ := reading_eq_ok hreading
  rw [hprojection]
  exact projection_eq_none_iff

/-- A mark tells what a placeholder with a number starts with. -/
theorem mark_eq_of_start {mark : String} {n : Nat} (hlength : mark.toList.length = 2)
    (h : "#p".toList <+: (mark ++ toString n).toList) : mark = "#p" := by
  rw [String.toList_append] at h
  have hmark : "#p".toList <+: mark.toList :=
    List.prefix_of_prefix_length_le h (List.prefix_append _ _) (hlength.symm ▸ Nat.le_refl 2)
  exact (String.toList_injective (hmark.eq_of_length hlength.symm)).symm

/-- No placeholder of a condition is taken for one of the projection. -/
theorem IsGenerated.not_projection {s : String} (h : IsGenerated s) :
    ¬"#p".toList <+: s.toList := by
  obtain ⟨family, hfamily, i, hs⟩ := h
  -- the projection has one mark, and the other generated placeholders start differently
  intro hprefix
  rcases hs with rfl | rfl
  · cases family with
    | key => exact absurd (mark_eq_of_start rfl hprefix) (by decide)
    | filter => exact absurd (mark_eq_of_start rfl hprefix) (by decide)
    | projection => exact hfamily rfl
  · cases family with
    | key => exact absurd (mark_eq_of_start rfl hprefix) (by decide)
    | filter => exact absurd (mark_eq_of_start rfl hprefix) (by decide)
    | projection => exact absurd (mark_eq_of_start rfl hprefix) (by decide)

end Request

/-! ### Runs -/

namespace Client

/-- The first page is always asked for. -/
theorem countAll_writes (table : TableName) (r : PagedRequest) :
    Run.Writes (.command (countCommand table r .absent)) (countAll table r) := by
  have hsend : Run.Writes (.command (countCommand table r .absent))
      (send (countCommand table r .absent)) :=
    -- the command is written before its answer is asked for
    Run.Writes.record.bind (.record trivial) fun _ _ => .mono (.answer trivial) fun _ _ => trivial
  have hfrom : ∀ fuel, Run.Writes (.command (countCommand table r .absent))
      (countFrom (countCommand table r) (fuel + 1) .absent 0) := by
    intro fuel
    rw [countFrom]
    refine hsend.bind (send_sends trivial).any fun reply _ => ?_
    cases nextStart? reply.lastKey with
    | some next => exact (countFrom_sends (fun _ => trivial) fuel next _).any
    | none => exact .pure trivial
  -- there is fuel for two pages more than there are answers
  have hfuel : NamedQuery.Ensures (fun _ => True) (fun _ => True)
      (ExceptT.lift Run.fuel : Run Reply Nat).run fun result => ∃ fuel, result = .ok (fuel + 1) :=
    fun s hs => ⟨[], (List.append_nil _).symm, by simp, hs, s.script.length + 1, rfl⟩
  show NamedQuery.Writes _ ((ExceptT.lift Run.fuel : Run Reply Nat).run >>=
    ExceptT.bindCont fun fuel => countFrom (countCommand table r) fuel .absent 0)
  refine NamedQuery.Writes.after hfuel fun result hresult => ?_
  obtain ⟨fuel, rfl⟩ := hresult
  exact hfrom fuel

end Client

namespace ConfiguredStore

variable (c : ConfiguredStore) {e : Entity}

/-- Observing an operation leaves what it writes. -/
theorem observed_writes {α : Type} {operation : String} {call : TableName → Run Reply α}
    {event : Event} (h : Run.Writes event (call (c.tableName e))) :
    Run.Writes event (c.observed operation e call) := by
  have hlog : ∀ entry, Run.Sends (fun _ => True) (c.observers.log entry) :=
    fun _ => .log trivial trivial
  refine Run.Writes.after (Run.Ensures.kept trivial) fun _ =>
    Run.Writes.tryCatch ?_ fun thrown => ?_
  · exact h.bind h.ensures fun _ _ => Run.Sends.any ((hlog _).bind fun _ => .pure)
  · exact (c.report_sends operation (c.tableName e) thrown _).any

theorem count_writes (r : PagedRequest) :
    Run.Writes (.command (Client.countCommand (c.tableName e) r .absent))
      (c.operations.count e r) := by
  show Run.Writes _ (c.observed _ e fun table => Client.countAll table r)
  exact c.observed_writes (Client.countAll_writes _ r)

end ConfiguredStore

namespace Method

variable {e : Entity} {name : String} {d : Declaration} {defaults : ScanDefaults} {m : Method}
  {ctx : Context Reply} {args : List Value} {r : PagedRequest}

/-- A call that counts asks for the first page, whatever comes before. -/
theorem call_writes_count (c : ConfiguredStore) (hstore : ctx.store = c.operations)
    (hshape : m.shape = .count) (hload : m.isLoad = false)
    (hlength : args.length = m.query.parameterCount)
    (hr : Request.paged m.entity m.options m.path args = .ok r) :
    Run.Writes (.command (Client.countCommand (c.tableName m.entity) r .absent))
      (m.call ctx args) := by
  have hstart := start_succeeds ctx hlength
  have hcount : Run.Writes (.command (Client.countCommand (c.tableName m.entity) r .absent))
      (m.count ctx args) := by
    rw [hshape] at hstart
    refine Run.Writes.after hstart fun _ => ?_
    rw [if_neg (by simp [hload]), hr, hstore]
    -- the request is built, and the store counts what it asks for
    exact c.count_writes r
  unfold call callAs
  rw [hshape]
  exact hcount.map hcount.ensures

/-- **Where count commands define what they mention.** Whatever the entity, the name, the
declaration, the arguments and the answers of the store, every count command of a call defines the
placeholders of its expressions exactly if no properties are listed, or no placeholder of the static
filter is taken for one of the projection. -/
theorem count_defines_iff (c : ConfiguredStore) (h : derive e name d defaults = .ok m)
    (hshape : m.shape = .count) (hload : m.isLoad = false)
    (huses : ∀ s ∈ d.options.staticMentions, d.options.placeholders.Defines s)
    (hlength : args.length = m.query.parameterCount)
    (hr : Request.paged e d.options m.path args = .ok r) (hstore : ctx.store = c.operations)
    (s : Session Reply) :
    ∃ events, ((m.call ctx args).run s).2.journal = s.journal ++ events ∧
      ((∀ command input, .command command ∈ events → command.counted? = some input →
          input.Defines) ↔
        d.options.projection = [] ∨
          ∀ s ∈ d.options.staticMentions, ¬"#p".toList <+: s.toList) := by
  obtain ⟨-, -, -, hcheck, -, rfl, hoptions⟩ := derive_eq_ok h
  obtain ⟨-, -, -, hreserved⟩ := Declaration.check_eq_ok hcheck
  have havoids : d.options.staticFilter?.isSome = true → d.options.AvoidsGenerated :=
    fun _ => Declaration.avoidsGenerated hreserved
  obtain ⟨hstatic, hmentions⟩ := Request.paged_mentions havoids huses hr
  -- what a command of the request defines is told by the static filter
  have hdefines : ∀ start input,
      (Client.countCommand (c.tableName m.entity) r start).counted? = some input →
        (input.Defines ↔ d.options.projection = [] ∨
          ∀ s ∈ d.options.staticMentions, ¬"#p".toList <+: s.toList) := by
    intro start input hinput
    rw [Client.defines_countCommand_iff (fun s hs => (hmentions s hs).1) hinput,
      Request.paged_projection_eq_none_iff hr]
    refine or_congr_right ⟨fun hall s hs => hall s (hstatic s hs), fun hall s hs => ?_⟩
    rcases (hmentions s hs).2 with hs | hgenerated
    · exact hall s hs
    · exact hgenerated.not_projection
  rw [← hoptions] at hr
  obtain ⟨events, hjournal, hevent⟩ := call_writes_count c hstore hshape hload hlength hr s
  refine ⟨events, hjournal, fun hall => ?_, fun hcondition => ?_⟩
  · -- the first page is asked for by a command of the request, so there is one to tell by
    obtain ⟨input, hinput, -⟩ := Client.countCommand_counted? (c.tableName m.entity) r .absent
    exact (hdefines .absent input hinput).mp (hall _ input hevent hinput)
  · -- nothing else than such commands counts
    have hreads : m.Reads (fun _ => True)
        (Event.Sends fun command => ∀ input, command.counted? = some input → input.Defines)
        (fun _ => True) (fun _ => True) ctx args m.shape := by
      refine .configured c hstore (fun _ _ => by simp [Command.counted?])
        (fun hother => absurd hshape hother) (fun _ r' hr' start input hinput => ?_)
        (fun _ => by simp [Command.counted?])
      obtain rfl := Except.ok.inj (hr'.symm.trans hr)
      exact (hdefines start input hinput).mpr hcondition
    obtain ⟨events', hjournal', hsends, -⟩ := hreads.call_ensures s s.isSound_true
    obtain rfl : events' = events := List.append_cancel_left (hjournal'.symm.trans hjournal)
    exact fun command input hcommand => hsends _ hcommand input

end Method

/-- The declaration of a method that counts orders above a total, where the total goes by some
placeholder. Their status is listed to be read. -/
def Declaration.countAbove (placeholder : String) : Declaration :=
  { returns := "count"
    options :=
      { projection := ["status"]
        filter := some (placeholder ++ " > :min")
        placeholders :=
          { names := [(placeholder, "total")], values := [(":min", .number 10)] } } }

/-- The orders of a customer above that total, counted. -/
def Method.countAbove (placeholder : String) : Method :=
  { entity := .orders
    query :=
      { method := "countByCustomerId", subject := .count, limit := none
        criteria := [⟨.own "customerId", .equals, 0⟩], order := none }
    path :=
      .query
        { target := .table, hash := ⟨.own "customerId", .equals, 0⟩, range := none
          rangeKey := some "orderId", forward := none, filters := [] }
    shape := .count
    options := (Declaration.countAbove placeholder).options }

/-- What a call does that counts above a total. -/
def Method.journalAbove (placeholder : String) : List Event :=
  (((Method.countAbove placeholder).call { store := ConfiguredStore.operations {} }
    [.text "c-1"]).run {}).2.journal

/-- The costs that are counted by are defined. -/
theorem Method.count_defines_cost :
    derive Entity.orders "countByCustomerId" (.countAbove "#cost") {} = .ok (countAbove "#cost") ∧
      ∀ command input, .command command ∈ journalAbove "#cost" → command.counted? = some input →
        input.Defines := by
  have h : derive Entity.orders "countByCustomerId" (.countAbove "#cost") {} =
      .ok (countAbove "#cost") := rfl
  have hr : Request.paged Entity.orders (Declaration.countAbove "#cost").options
      (countAbove "#cost").path [.text "c-1"] = .ok _ := rfl
  have hstore : ({ store := ConfiguredStore.operations {} } : Context Reply).store =
      ConfiguredStore.operations {} := rfl
  -- no placeholder of the request has the mark of a projection
  obtain ⟨events, hjournal, hiff⟩ := count_defines_iff {} h rfl rfl (by decide) rfl hr hstore {}
  refine ⟨h, fun command input hcommand => hiff.mpr (Or.inr (by decide)) command input ?_⟩
  rwa [journalAbove, hjournal] at hcommand

/-- **A count command loses a static placeholder.** The declaration defines the price that its
filter mentions, and the command that counts mentions it undefined. -/
theorem Method.count_loses_price :
    derive Entity.orders "countByCustomerId" (.countAbove "#price") {} =
        .ok (countAbove "#price") ∧
      (∀ s ∈ (Declaration.countAbove "#price").options.staticMentions,
        (Declaration.countAbove "#price").options.placeholders.Defines s) ∧
      ∃ command input, .command command ∈ journalAbove "#price" ∧
        command.counted? = some input ∧ input.filter = some "#price > :min" ∧
        input.names = some [("#k0", "customerId")] ∧ ¬input.Defines :=
  ⟨rfl, by decide, _, _, List.mem_singleton_self _, rfl, rfl, rfl, by decide⟩

end NamedQuery
