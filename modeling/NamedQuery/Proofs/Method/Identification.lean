import NamedQuery.Proofs.Method.Deletion
import NamedQuery.Proofs.Method.Derived
import NamedQuery.Proofs.Request.Projection
import NamedQuery.Proofs.Store.Configured
import NamedQuery.Proofs.Store.Identity

/-!
# Deletions that identify what they read

A deletion takes the keys of what it deletes from what it read. Over a configured store that is what
was left of the stored items by a projection, read back under the names of their properties.

* `Entity.Serves` — answers of a table whose items have keys, and which returns what a projection
  asks for;
* `Method.delete_removes` — the commands of a deletion: those of its reads, and the batches;
* `Method.identifies_found_iff` — a deletion never fails for want of a key, and sends the key of
  everything it found, exactly if what it reads covers both keys (`Entity.Covers`).

A declaration may be accepted and not do so: `Method.deletion_of_statuses` reads nothing but the
status of each order.
-/

namespace NamedQuery

/-! ### Answers of a table -/

/-- What a table returns of an item: all of it, or the attributes that a projection asks for. -/
def ReadInput.Returns (input : ReadInput) (item returned : Item) : Prop :=
  ∃ asked, Projects (input.names.getD []) input.projection asked ∧
    returned.Perm (Fields.restrict item fun name => asked.all (·.contains name))

/-- The items in a reply are stored ones, or what a projection leaves of them. -/
def Command.AnsweredBy (e : Entity) (reply : Reply) : Command → Prop
  | get .. => ∀ item ∈ reply.item, e.IsStored item
  | query input | scan input =>
    ∀ returned ∈ reply.items.getD [], ∃ item, e.IsStored item ∧ input.Returns item returned
  | _ => True

/-- Every command is answered from a table, or fails for a reason of the table's own. -/
structure Entity.Serves (e : Entity) (commands : List Command)
    (script : List (Except Thrown Reply)) : Prop where
  answers : ∀ i command reply, commands[i]? = some command → answerAt {} script i = .ok reply →
    command.AnsweredBy e reply
  foreign : ∀ error, .error (.error error) ∉ script

/-- A reply without items answers everything. -/
theorem Command.answeredBy_empty (e : Entity) (command : Command) : command.AnsweredBy e {} := by
  cases command with
  | get => exact fun item hitem => absurd hitem (by simp)
  | query | scan => exact fun returned hreturned => absurd hreturned (by simp)
  | _ => trivial

/-- A table whose only reply answers the first command serves every run. -/
theorem Entity.serves_single {e : Entity} {command : Command} {reply : Reply}
    (h : command.AnsweredBy e reply) (commands : List Command) :
    e.Serves (command :: commands) [.ok reply] where
  answers i command' reply' hcommand hreply := by
    cases i with
    | zero =>
      obtain rfl : command = command' := by simpa using hcommand
      obtain rfl : reply = reply' := Except.ok.inj hreply
      exact h
    | succ i =>
      -- behind the script every reply is an empty one
      obtain rfl : ({} : Reply) = reply' := Except.ok.inj hreply
      exact command'.answeredBy_empty e
  foreign error := by simp

/-- **A page of a request** is answered with what the listed properties leave of stored items. -/
theorem Request.answeredBy_page {e : Entity} {options : RequestOptions} {path : AccessPath}
    {args : List Value} {r : PagedRequest} (h : paged e options path args = .ok r)
    {table : TableName} {start : Value} {reply : Reply} :
    (Client.pageCommand table r start).AnsweredBy e reply ↔
      ∀ returned ∈ reply.items.getD [], ∃ item, e.IsStored item ∧
        returned.Perm (Fields.restrict item fun name =>
          (options.attributes? e).all (·.contains name)) := by
  have hasked := paged_projects h
  -- what a reply may hold depends on what is asked for, not on where it is read
  have hinput : ∀ input : ReadInput, input.names = Client.nonEmpty? r.shared.placeholders.names →
      input.projection = r.shared.projection → ∀ item returned, input.Returns item returned ↔
        returned.Perm (Fields.restrict item fun name =>
          (options.attributes? e).all (·.contains name)) := by
    intro input hnames hprojection item returned
    unfold ReadInput.Returns
    rw [hnames, hprojection, Client.getD_nonEmpty?]
    constructor
    · rintro ⟨asked, hprojects, hperm⟩
      rwa [hprojects.unique hasked] at hperm
    · intro hperm
      exact ⟨_, hasked, hperm⟩
  -- a query and a scan name the same attributes
  cases r with
  | query r =>
    have hquery := hinput { Client.queryInput table r with start } rfl rfl
    exact forall₂_congr fun _ _ => exists_congr fun _ => and_congr_right fun _ => hquery _ _
  | scan r =>
    have hscan := hinput { Client.scanInput table r with start } rfl rfl
    exact forall₂_congr fun _ _ => exists_congr fun _ => and_congr_right fun _ => hscan _ _

namespace Method

variable {c : ConfiguredStore} {m : Method} {args : List Value}
  {script : List (Except Thrown Reply)}

/-! ### What is found -/

/-- The attributes that a method reads. A look-up reads all of them, whatever is declared. -/
def reads (m : Method) (name : String) : Bool :=
  m.isLoad || (m.options.attributes? m.entity).all (·.contains name)

theorem reads_of_load (h : m.isLoad = true) (name : String) : m.reads name = true := by
  rw [reads, h, Bool.true_or]

theorem reads_of_pages (h : m.isLoad = false) :
    m.reads = fun name => (m.options.attributes? m.entity).all (·.contains name) := by
  funext name
  rw [reads, h, Bool.false_or]

/-- What the reads of a method show of a stored item. -/
def Found (m : Method) (found : Item) : Prop :=
  ∃ item, m.entity.IsStored item ∧ m.entity.Shows m.reads item found

theorem page_eq_ok {answer : Except Thrown Reply} {page : Page}
    (h : (ReadView.commands c m.entity).items answer = .ok page) :
    ∃ reply, answer = .ok reply ∧ page.items = (reply.items.getD []).map m.entity.ofStored := by
  obtain ⟨reply', hreply', rfl⟩ := map_eq_ok_iff.mp (mapError_eq_ok_iff.mp h)
  obtain ⟨reply, hreply, rfl⟩ := map_eq_ok_iff.mp hreply'
  exact ⟨reply, hreply, rfl⟩

theorem item_eq_ok {answer : Except Thrown Reply} {item : Option Item}
    (h : (ReadView.commands c m.entity).item answer = .ok item) :
    ∃ reply, answer = .ok reply ∧ item = reply.item.map m.entity.ofStored := by
  obtain ⟨item', hitem', rfl⟩ := map_eq_ok_iff.mp (mapError_eq_ok_iff.mp h)
  obtain ⟨reply, hreply, rfl⟩ := map_eq_ok_iff.mp hitem'
  exact ⟨reply, hreply, rfl⟩

theorem page_eq_error {answer : Except Thrown Reply} {thrown : Thrown}
    (h : (ReadView.commands c m.entity).items answer = .error thrown) :
    ∃ failure, answer = .error failure ∧ thrown = failure.logged := by
  obtain ⟨failure, hfailure, rfl⟩ := mapError_eq_error_iff.mp h
  exact ⟨failure, map_eq_error_iff.mp (map_eq_error_iff.mp hfailure), rfl⟩

theorem item_eq_error {answer : Except Thrown Reply} {thrown : Thrown}
    (h : (ReadView.commands c m.entity).item answer = .error thrown) :
    ∃ failure, answer = .error failure ∧ thrown = failure.logged := by
  obtain ⟨failure, hfailure, rfl⟩ := mapError_eq_error_iff.mp h
  exact ⟨failure, map_eq_error_iff.mp (map_eq_error_iff.mp hfailure), rfl⟩

/-- **Everything that is found** was read of a stored item. -/
theorem found_of_finds {reads sent : List Command} {found : List Item}
    (h : m.Finds (.commands c m.entity) args script reads (.ok found))
    (hserves : m.entity.Serves (reads ++ sent) script) : ∀ item ∈ found, m.Found item := by
  -- the result is kept apart, so that the cases of the search can say what it is
  obtain ⟨result, hresult, h⟩ : ∃ result, result = .ok found ∧
      m.Finds (.commands c m.entity) args script reads result := ⟨_, rfl, h⟩
  intro item hitem
  cases h with
  | refused | unbuilt => exact absurd hresult (by simp)
  | @loaded r count built =>
    obtain ⟨loaded, hloaded, rfl⟩ := map_eq_ok_iff.mp hresult
    obtain ⟨reply, hreply, rfl⟩ := item_eq_ok hloaded
    obtain ⟨stored, hstored, rfl⟩ := Option.map_eq_some_iff.mp (Option.mem_toList.mp hitem)
    have hanswered : (Command.get _ _ _).AnsweredBy m.entity reply :=
      hserves.answers 0 _ _ rfl hreply
    -- a loaded item was asked for as a whole
    refine ⟨stored, hanswered stored hstored, stored, ?_, rfl⟩
    rw [Fields.restrict_true (reads_of_load (load_of_build built).1)]
  | @read r starts _ count built pages =>
    obtain ⟨hload, hpaged⟩ := paged_of_build built
    subst hresult
    -- an item that was found stood on one of the pages, and that page answered its command
    obtain ⟨i, page, hi, hpage, hmem⟩ := pages.mem_answer hitem
    obtain ⟨reply, hreply, hitems⟩ := page_eq_ok hpage
    rw [hitems] at hmem
    obtain ⟨returned, hreturned, rfl⟩ := List.mem_map.mp hmem
    have hcommand : (starts.map ((ReadView.commands c m.entity).page r) ++ sent)[i]? =
        some (Client.pageCommand (c.tableName m.entity) r starts[i]) := by
      rw [List.getElem?_append_left (by simpa using hi), List.getElem?_map,
        List.getElem?_eq_getElem hi]
      rfl
    obtain ⟨stored, hstored, hperm⟩ :=
      (Request.answeredBy_page hpaged).mp (hserves.answers i _ _ hcommand hreply) _ hreturned
    refine ⟨stored, hstored, returned, ?_, rfl⟩
    rwa [reads_of_pages hload]

/-- A failure of the store is passed on as one, and never as an error of this library. -/
theorem logged_eq_error {thrown : Thrown} {error : Error} (h : thrown.logged = .error error) :
    thrown = .error error := by
  -- only a value that is thrown is shown, and what fails then is no error of this library
  cases thrown with
  | error e => exact h
  | fault name message => exact h
  | value v =>
    unfold Thrown.logged at h
    cases hshown : v.unshown? with
    | none => simp [hshown] at h
    | some cause => cases cause <;> simp [hshown, Value.Unshown.thrown] at h

/-- **A read that fails** fails for a reason of the store's. -/
theorem thrown_of_finds {reads : List Command} {thrown : Thrown} {request : BuiltRequest}
    (hlength : args.length = m.query.parameterCount)
    (hbuilt : Request.build m.entity m.options m.path args = .ok request)
    (h : m.Finds (.commands c m.entity) args script reads (.error thrown)) :
    ∃ failure, .error failure ∈ script ∧ thrown = failure.logged := by
  -- the result is kept apart, as for a search that succeeds
  obtain ⟨result, hresult, h⟩ : ∃ result, result = .error thrown ∧
      m.Finds (.commands c m.entity) args script reads result := ⟨_, rfl, h⟩
  cases h with
  | refused count => exact absurd hlength count
  | unbuilt count built => exact absurd (built.symm.trans hbuilt) (by simp)
  -- only the store can have failed, since the request was built for the right number of arguments
  | @loaded r count built =>
    obtain ⟨failure, hfailure, rfl⟩ := item_eq_error (map_eq_error_iff.mp hresult)
    exact ⟨failure, mem_of_answerAt_error hfailure, rfl⟩
  | @read r starts _ count built pages =>
    subst hresult
    obtain ⟨i, hi⟩ := pages.error_answer
    obtain ⟨failure, hfailure, rfl⟩ := page_eq_error hi
    exact ⟨failure, mem_of_answerAt_error hfailure, rfl⟩

/-- Reads delete nothing. -/
theorem reads_of_finds {reads : List Command} {found : Except Thrown (List Item)}
    (h : m.Finds (.commands c m.entity) args script reads found) :
    reads.flatMap Client.batchedKeys = [] := by
  -- reading sends no batches
  cases h with
  | refused | unbuilt | loaded => rfl
  | @read r starts _ count built pages =>
    refine List.flatMap_eq_nil_iff.mpr fun command hcommand => ?_
    obtain ⟨start, -, rfl⟩ := List.mem_map.mp hcommand
    cases r with
    | query r => rfl
    | scan r => rfl

/-! ### What is removed -/

/-- What a deletion sends after its reads, and its result. -/
inductive Removes (c : ConfiguredStore) (e : Entity) (script : List (Except Thrown Reply)) :
    Except Thrown (List Item) → List Command → Except Thrown (List Item) → Prop where
  /-- The reads have failed, and nothing is sent. -/
  | unread {thrown : Thrown} : Removes c e script (.error thrown) [] (.error thrown)
  /-- An item has no key, and nothing is sent. -/
  | unidentified {found : List Item} {error : Error} (taken : found.mapM e.keyOf = .error error) :
      Removes c e script (.ok found) [] (.error (.error error))
  /-- The key of every item is sent. -/
  | sent {found : List Item} {keys : List Key} {commands : List Command}
      {result : Except Thrown (List Item)} (taken : found.mapM e.keyOf = .ok keys)
      (all : commands.flatMap Client.batchedKeys = keys.map e.keyMap)
      (ends : result = .ok found ∨ ∃ undone,
        result = .error (.error { cause := .unprocessedDeletes (c.tableName e) undone })) :
      Removes c e script (.ok found) commands result
  /-- A batch has failed. -/
  | broken {found : List Item} {commands : List Command} {failure : Thrown}
      (failed : .error failure ∈ script) :
      Removes c e script (.ok found) commands (.error failure.logged)

/-- **What a deletion sends.** -/
theorem delete_removes {ctx : Context Reply} (hstore : ctx.store = c.operations)
    (hshape : m.shape = .delete) (hlength : args.length = m.query.parameterCount)
    (script : List (Except Thrown Reply)) :
    ∃ reads found rest commands result,
      m.Finds (.commands c m.entity) args script reads found ∧
      Removes c m.entity script found commands result ∧
      Run.Leads .commands (m.delete ctx args) script rest (reads ++ commands) result := by
  have hfits : (ReadView.commands c m.entity).Fits ctx.store m.entity := by
    rw [hstore]
    exact ReadView.commands_fits c m.entity
  obtain ⟨reads, found, hfinds, hcollect⟩ := collect_finds hfits hlength script
  -- what the search gives decides: a failure and nothing found end the deletion without a command
  match found with
  | .error thrown =>
    refine ⟨reads, _, script.drop reads.length, [], _, hfinds, .unread, ?_⟩
    rw [List.append_nil]
    exact delete_failed hshape hlength hcollect
  | .ok [] =>
    have hsent : Removes c m.entity script (.ok []) [] (.ok []) := .sent rfl rfl (Or.inl rfl)
    refine ⟨reads, _, script.drop reads.length, [], _, hfinds, hsent, ?_⟩
    rw [List.append_nil]
    exact delete_nothing hshape hlength hcollect
  | .ok (item :: items) =>
    have hfound : item :: items ≠ [] := List.cons_ne_nil item items
    -- what has no key is refused before anything is sent
    cases hkeys : (item :: items).mapM m.entity.keyOf with
    | error error =>
      have hrefused := c.batchDelete_refused (script.drop reads.length) m.entity hkeys
      rw [← hstore] at hrefused
      exact ⟨reads, _, script.drop reads.length, [], _, hfinds, .unidentified hkeys,
        delete_found hshape hlength hfound hcollect hrefused⟩
    | ok keys =>
      obtain ⟨rest, commands, result, hleads, hsent⟩ :=
        c.batchDelete_leads (script.drop reads.length) m.entity hkeys
      rw [← hstore] at hleads
      refine ⟨reads, _, rest, commands, _, hfinds, ?_,
        delete_found hshape hlength hfound hcollect hleads⟩
      rcases hsent with ⟨hall, ⟨deleted, rfl⟩ | ⟨undone, rfl⟩⟩ | ⟨failure, rfl, hfailure⟩
      · exact .sent hkeys hall (Or.inl rfl)
      · exact .sent hkeys hall (Or.inr ⟨undone, rfl⟩)
      · exact .broken (List.mem_of_mem_drop hfailure)

/-- The call of a deletion, with the entries that it writes. -/
theorem call_removes {ctx : Context Reply} (hstore : ctx.store = c.operations)
    (hshape : m.shape = .delete) (hlength : args.length = m.query.parameterCount)
    (s : Session Reply) :
    ∃ reads found commands result events,
      m.Finds (.commands c m.entity) args s.script reads found ∧
      Removes c m.entity s.script found commands result ∧
      ((m.call ctx args).run.run s).2.journal = s.journal ++ events ∧
      JournalView.commands.shows events = reads ++ commands ∧
      ((m.call ctx args).run.run s).1 = result.map .delete := by
  obtain ⟨reads, found, rest, commands, result, hfinds, hremoves, hleads⟩ :=
    delete_removes hstore hshape hlength s.script
  obtain ⟨events, hjournal, hshown, -, hresult⟩ := call_leads hshape hleads s rfl
  exact ⟨reads, found, commands, result, events, hfinds, hremoves, hjournal, hshown, hresult⟩

/-! ### Deletions that identify -/

/-- A deletion identifies what it finds: it does not fail for want of a key, and where no command
fails it sends the keys of the stored items that it found, and no others. -/
structure Identified (c : ConfiguredStore) (m : Method) (args : List Value)
    (script : List (Except Thrown Reply)) (commands : List Command)
    (result : Except Thrown (Outcome Reply)) : Prop where
  keyed : ∀ property,
    result ≠ .error (.error { cause := .itemWithoutKey m.entity.name property })
  sends : (∀ failure, .error failure ∉ script) → ∃ reads found keys,
    m.Finds (.commands c m.entity) args script reads (.ok found) ∧
    List.Forall₂ (m.entity.Identifies m.reads) found keys ∧
    commands.flatMap Client.batchedKeys = keys.map m.entity.keyMap

/-- A reply with one stored item, and with what the reads of a method leave of it. -/
def oneItem (m : Method) (item : Item) : Reply :=
  { item := some item, items := some [Fields.restrict item m.reads] }

/-- **One stored item** is found where it is all that there is. -/
theorem finds_oneItem {reads : List Command} {found : Except Thrown (List Item)}
    {request : BuiltRequest} (hlength : args.length = m.query.parameterCount)
    (hbuilt : Request.build m.entity m.options m.path args = .ok request)
    (hadmits : (m.query.limit.getD .unlimited).admits 0 = true) {item : Item}
    (hitem : m.entity.IsStored item)
    (h : m.Finds (.commands c m.entity) args [.ok (m.oneItem item)] reads found) :
    found = .ok [m.entity.ofStored (Fields.restrict item m.reads)] ∧
      ∃ command, reads = [command] ∧ command.AnsweredBy m.entity (m.oneItem item) := by
  cases h with
  | refused count => exact absurd hlength count
  | unbuilt count built => exact absurd (built.symm.trans hbuilt) (by simp)
  | @loaded r count built =>
    rw [Fields.restrict_true (reads_of_load (load_of_build built).1)]
    refine ⟨rfl, _, rfl, fun stored hstored => ?_⟩
    obtain rfl : item = stored := Option.some.inj hstored
    exact hitem
  -- the only page of the script is the last one, so nothing is cut off but by the limit
  | @read r starts _ count built pages =>
    obtain ⟨hload, hpaged⟩ := paged_of_build built
    have hpage : (ReadView.commands c m.entity).items
        (answerAt (ReadView.commands c m.entity).default [.ok (m.oneItem item)] 0) =
          .ok (ConfiguredStore.ofStoredPage m.entity (m.oneItem item).page) := rfl
    obtain ⟨rfl, rfl⟩ := pages.of_last hadmits hpage rfl
    refine ⟨?_, _, rfl, (Request.answeredBy_page hpaged).mpr fun returned hreturned => ?_⟩
    · exact congrArg Except.ok (ItemLimit.takeFrom_singleton hadmits)
    · refine ⟨item, hitem, ?_⟩
      rw [List.mem_singleton.mp hreturned, reads_of_pages hload]

/-- Items that were read of stored ones are identified, one by one. -/
theorem identified_of_found (hcovers : ∀ property ∈ m.entity.keyProperties,
      m.entity.Covers m.reads property) {found : List Item} (h : ∀ item ∈ found, m.Found item) :
    ∃ keys, found.mapM m.entity.keyOf = .ok keys ∧
      List.Forall₂ (m.entity.Identifies m.reads) found keys := by
  obtain ⟨keys, hkeys⟩ := exists_forall₂ fun item hitem => by
    obtain ⟨stored, hstored, hshows⟩ := h item hitem
    exact Entity.identifies_of_covers hcovers hstored hshows
  exact ⟨keys, mapM_eq_ok_iff.mpr (hkeys.imp fun _ _ hkey => hkey.taken), hkeys⟩

/-- **A deletion whose reads cover both keys** identifies what it finds. -/
theorem identified_of_covers {request : BuiltRequest} {reads commands : List Command}
    {found result : Except Thrown (List Item)}
    (hlength : args.length = m.query.parameterCount)
    (hbuilt : Request.build m.entity m.options m.path args = .ok request)
    (hcovers : ∀ property ∈ m.entity.keyProperties, m.entity.Covers m.reads property)
    (hfinds : m.Finds (.commands c m.entity) args script reads found)
    (hremoves : Removes c m.entity script found commands result)
    (hserves : m.entity.Serves (reads ++ commands) script) :
    m.Identified c args script (reads ++ commands) (result.map .delete) := by
  -- what the store throws is not of the kind that the claim excludes
  have hforeign : ∀ {failure error}, .error failure ∈ script →
      (.error failure.logged : Except Thrown (Outcome Reply)) ≠ .error (.error error) := by
    intro failure error hfailure h
    rw [logged_eq_error (Except.error.inj h)] at hfailure
    exact hserves.foreign error hfailure
  cases hremoves with
  | unread =>
    obtain ⟨failure, hfailure, rfl⟩ := thrown_of_finds hlength hbuilt hfinds
    exact ⟨fun _ => hforeign hfailure, fun hnone => absurd hfailure (hnone failure)⟩
  | broken hfailure =>
    exact ⟨fun _ => hforeign hfailure, fun hnone => absurd hfailure (hnone _)⟩
  -- the items are covered, so each of them has its key
  | unidentified htaken =>
    obtain ⟨keys, hkeys, -⟩ := identified_of_found hcovers (found_of_finds hfinds hserves)
    exact absurd (hkeys.symm.trans htaken) (by simp)
  | @sent found keys commands result htaken hall hends =>
    obtain ⟨keys', hkeys, hidentified⟩ :=
      identified_of_found hcovers (found_of_finds hfinds hserves)
    obtain rfl : keys' = keys := Except.ok.inj (hkeys.symm.trans htaken)
    refine ⟨fun property h => ?_, fun _ => ⟨reads, found, keys', hfinds, hidentified, ?_⟩⟩
    · -- what was left undone is another error than a missing key
      rcases hends with rfl | ⟨undone, rfl⟩
      · cases h
      · cases h
    · rw [List.flatMap_append, reads_of_finds hfinds, hall, List.nil_append]

/-- **Deletions that identify what they read.** Whatever a table of items with keys answers, a
deletion identifies what it finds. That is so exactly if what it reads covers both keys. -/
theorem identifies_found_iff {e : Entity} {name : String} {d : Declaration}
    {defaults : ScanDefaults} {ctx : Context Reply} {request : BuiltRequest}
    (hderive : derive e name d defaults = .ok m) (hshape : m.shape = .delete)
    (hstore : ctx.store = c.operations) (hlength : args.length = m.query.parameterCount)
    (hbuilt : Request.build e d.options m.path args = .ok request) :
    (∀ (s : Session Reply) (events : List Event),
        ((m.call ctx args).run.run s).2.journal = s.journal ++ events →
        e.Serves (JournalView.commands.shows events) s.script →
        m.Identified c args s.script (JournalView.commands.shows events)
          ((m.call ctx args).run.run s).1) ↔
      ∀ property ∈ e.keyProperties, e.Covers m.reads property := by
  obtain ⟨-, -, -, -, -, rfl, hoptions⟩ := derive_eq_ok hderive
  rw [← hoptions] at hbuilt
  have hadmits := derive_admits hderive
  constructor
  · intro h
    refine Entity.identifies_iff.mp fun item hitem => ?_
    -- a table with that item only
    let s : Session Reply := { script := [.ok (m.oneItem item)] }
    obtain ⟨reads, found, commands, result, events, hfinds, -, hjournal, hshown, -⟩ :=
      call_removes hstore hshape hlength s
    obtain ⟨-, command, rfl, hanswered⟩ := finds_oneItem hlength hbuilt hadmits hitem hfinds
    have hserves : m.entity.Serves (JournalView.commands.shows events) s.script := by
      rw [hshown]
      exact Entity.serves_single hanswered commands
    obtain ⟨reads', found', keys, hfinds', hkeys, -⟩ :=
      (h s events hjournal hserves).sends (by simp [s])
    obtain ⟨hone, -⟩ := finds_oneItem hlength hbuilt hadmits hitem hfinds'
    obtain rfl := Except.ok.inj hone
    obtain ⟨key, -, hkey, -, -⟩ := List.forall₂_cons_left_iff.mp hkeys
    exact ⟨key, hkey⟩
  · -- the items that are read are covered, whatever was stored
    intro hcovers s events hjournal hserves
    obtain ⟨reads, found, commands, result, events', hfinds, hremoves, hjournal', hshown,
        hresult⟩ :=
      call_removes hstore hshape hlength s
    obtain rfl : events' = events := List.append_cancel_left (hjournal'.symm.trans hjournal)
    rw [hshown] at hserves ⊢
    rw [hresult]
    exact identified_of_covers hlength hbuilt hcovers hfinds hremoves hserves

/-- An item with both key attributes of an order is one that the table of orders can hold. -/
theorem orders_isStored {item : Item} {customerId orderId : String}
    (hdistinct : (Fields.names item).Nodup)
    (hcustomer : Fields.get? item "customerId" = some (.text customerId))
    (horder : Fields.get? item "orderId" = some (.text orderId)) : Entity.orders.IsStored item where
  distinct := hdistinct
  hasKey := by
    refine ⟨{ partitionKey := .text customerId, sortKey := .text orderId }, ⟨hcustomer, rfl⟩, ?_,
      ?_, rfl⟩
    · intro property hsort
      obtain rfl : "orderId" = property := Option.some.inj hsort
      exact ⟨horder, rfl⟩
    · exact fun hsort => absurd hsort (by decide)

/-- An order with nothing but its key. -/
def storedOrder (id : String) : Item := [("customerId", .text "c-1"), ("orderId", .text id)]

/-- The reply with two orders. -/
def twoOrders : Reply := { items := some [storedOrder "o-1", storedOrder "o-2"] }

/-- Both orders are found and their keys are sent. -/
theorem identifies_found_topThree :
    derive Entity.orders "deleteTop3ByCustomerId" { returns := "delete" } {} =
        .ok topThreeOfCustomer ∧
      ∃ reads found keys,
        topThreeOfCustomer.Finds (.commands {} Entity.orders) [.text "c-1"] [.ok twoOrders] reads
          (.ok found) ∧
        List.Forall₂ (Entity.orders.Identifies topThreeOfCustomer.reads) found keys ∧
        keys.map Entity.orders.keyMap = [storedOrder "o-1", storedOrder "o-2"] := by
  have hderive : derive Entity.orders "deleteTop3ByCustomerId" { returns := "delete" } {} =
      .ok topThreeOfCustomer := rfl
  let ctx : Context Reply := { store := ConfiguredStore.operations {} }
  let s : Session Reply := { script := [.ok twoOrders] }
  let events := ((topThreeOfCustomer.call ctx [.text "c-1"]).run.run s).2.journal
  obtain ⟨r, commands, hr, hshown⟩ : ∃ r commands,
      Request.paged topThreeOfCustomer.entity topThreeOfCustomer.options topThreeOfCustomer.path
        [.text "c-1"] = .ok r ∧
      JournalView.commands.shows events =
        Client.pageCommand (.text "Orders") r .absent :: commands :=
    ⟨_, _, rfl, rfl⟩
  have hserves : Entity.orders.Serves (JournalView.commands.shows events) s.script := by
    rw [hshown]
    -- both stored orders may be answered
    refine Entity.serves_single ((Request.answeredBy_page hr).mpr fun returned hreturned => ?_) _
    have hmem : returned ∈ [storedOrder "o-1", storedOrder "o-2"] := hreturned
    refine ⟨returned, ?_, List.Perm.of_eq (Fields.restrict_true fun _ => rfl).symm⟩
    rcases List.mem_cons.mp hmem with rfl | hmem
    · exact orders_isStored (by decide) rfl rfl
    · rw [List.mem_singleton.mp hmem]
      exact orders_isStored (by decide) rfl rfl
  have hcovers : ∀ property ∈ Entity.orders.keyProperties,
      Entity.orders.Covers topThreeOfCustomer.reads property := by decide
  have hstore : ctx.store = ConfiguredStore.operations {} := rfl
  have hidentified := (identifies_found_iff hderive rfl hstore rfl rfl).mpr hcovers s events rfl
    hserves
  obtain ⟨reads, found, keys, hfinds, hkeys, hsent⟩ := hidentified.sends fun failure => by simp [s]
  exact ⟨hderive, reads, found, keys, hfinds, hkeys, hsent.symm⟩

/-- A method that deletes the orders of a customer and reads nothing but their status. -/
def statusesOfCustomer : Method :=
  { entity := .orders
    query :=
      { method := "deleteByCustomerId", subject := .delete, limit := none
        criteria := [⟨.own "customerId", .equals, 0⟩], order := none }
    path :=
      .query
        { target := .table, hash := ⟨.own "customerId", .equals, 0⟩, range := none
          rangeKey := some "orderId", forward := none, filters := [] }
    shape := .delete
    options := { projection := ["status"] } }

/-- The reply with the status of an order. -/
def oneStatus : Reply := { items := some [[("order_status", .text "open")]] }

/-- **A projection without the keys.** The declaration is accepted, the table returns what it is
asked for, and the deletion fails on the first order. -/
theorem deletion_of_statuses :
    derive Entity.orders "deleteByCustomerId"
        { returns := "delete", options := { projection := ["status"] } } {} =
        .ok statusesOfCustomer ∧
      ∃ s : Session Reply,
        (statusesOfCustomer.call { store := ConfiguredStore.operations {} } [.text "c-1"]).run.run
            { script := [.ok oneStatus] } =
          (.error (.error { cause := .itemWithoutKey "Order" "customerId" }), s) ∧
        Entity.orders.Serves (JournalView.commands.shows s.journal) [.ok oneStatus] := by
  obtain ⟨r, hr⟩ : ∃ r, Request.paged statusesOfCustomer.entity statusesOfCustomer.options
      statusesOfCustomer.path [.text "c-1"] = .ok r := ⟨_, rfl⟩
  have hanswered :
      (Client.pageCommand (.text "Orders") r .absent).AnsweredBy Entity.orders oneStatus := by
    refine (Request.answeredBy_page hr).mpr fun returned hreturned => ?_
    obtain rfl : returned = [("order_status", .text "open")] := List.mem_singleton.mp hreturned
    have hstored : Entity.orders.IsStored (storedOrder "o-1" ++ [("order_status", .text "open")]) :=
      orders_isStored (by decide) rfl rfl
    exact ⟨_, hstored, List.Perm.refl _⟩
  -- the error is that of the first item without its keys
  refine ⟨rfl, _, rfl, ?_⟩
  obtain rfl := Except.ok.inj hr
  exact Entity.serves_single hanswered []

end Method

end NamedQuery
