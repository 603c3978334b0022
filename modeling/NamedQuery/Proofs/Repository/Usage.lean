import NamedQuery.Proofs.Store.Sent
import NamedQuery.Repository

/-!
# A repository in use

A repository is used by one call after the other: its declared methods, the operations on single
items and the base queries, in any order, and between them the streams that some of the calls have
handed out are gone through, with several cursors and not to the end.

* `Action`, `Usage` — what a user does next, and what has come of what was done before: the session
  and the streams that are held;
* `Caller` — on whose behalf something is done. What is read for a stream is read on behalf of the
  method that handed it out;
* `Repository.step`, `Repository.uses` — one action, and any number of them;
* `Repository.Obeys` — every call of a repository sends only what its caller may send;
* `Repository.Obeys.step`, `Repository.Obeys.uses` — then so does every action, in every usage.

The invariant of the run is that the pages of every held stream may be read by its method
(`Usage.Obeys`).
-/

namespace NamedQuery

/-! ### Actions -/

/-- What a user of a repository does next. Streams are numbered as they were handed out, and cursors
as they were asked for. -/
inductive Action where
  | invoke (name : String) (args : List Value)
  | invokeAs (name : String) (shape : ResultShape) (args : List Value)
  | findById (key : Key)
  | existsById (key : Key)
  | deleteById (key : Key)
  | save (object : Value)
  | findAll
  | count
  /-- Asks for a cursor of a stream. -/
  | open (stream : Nat)
  /-- Asks a cursor for the next item. -/
  | advance (stream cursor : Nat)
  /-- Asks for all items of a stream at once. -/
  | toList (stream : Nat)
  /-- Asks for the first item of a stream. -/
  | first (stream : Nat)

/-- On whose behalf something is done. -/
inductive Caller where
  | method (name : String)
  | findAll
  | count
  /-- An operation on a single item. -/
  | single
deriving DecidableEq, Repr

/-- A stream that a method has handed out, with its cursors. -/
structure HeldStream where
  method : String
  stream : ItemStream Reply Item
  cursors : List (Cursor Item) := []

/-- What has come of the actions so far. -/
structure Usage where
  session : Session Reply
  held : List HeldStream := []

namespace HeldStream

/-- Asks a cursor for the next item, if there is such a cursor. -/
def advance (h : HeldStream) (cursor : Nat) : StateM (Session Reply) HeldStream :=
  match h.cursors[cursor]? with
  | none => pure h
  | some c =>
    (fun result => { h with stream := result.2.1, cursors := h.cursors.set cursor result.2.2 }) <$>
      h.stream.advance c

def toList (h : HeldStream) : StateM (Session Reply) HeldStream :=
  (fun result => { h with stream := result.2 }) <$> h.stream.toList

def first (h : HeldStream) : StateM (Session Reply) HeldStream :=
  (fun result => { h with stream := result.2 }) <$> h.stream.first?

end HeldStream

namespace Usage

/-- The usage after a call of a method, whose stream is held if it gave one. -/
def keep (u : Usage) (name : String) (call : Run Reply (Outcome Reply)) : Usage :=
  match call.run.run u.session with
  | (.ok (.stream s), session) => { session, held := u.held ++ [{ method := name, stream := s }] }
  | (_, session) => { u with session }

/-- The usage after a call that hands out no stream. -/
def after {α : Type} (u : Usage) (call : Run Reply α) : Usage :=
  { u with session := (call.run.run u.session).2 }

/-- The usage after something was done with a stream, if there is such a stream. -/
def consume (u : Usage) (stream : Nat)
    (act : HeldStream → StateM (Session Reply) HeldStream) : Usage :=
  match u.held[stream]? with
  | none => u
  | some h =>
    let done := (act h).run u.session
    { session := done.2, held := u.held.set stream done.1 }

/-- On whose behalf an action is done. -/
def caller (u : Usage) : Action → Option Caller
  | .invoke name _ | .invokeAs name _ _ => some (.method name)
  | .findById _ | .existsById _ | .deleteById _ | .save _ => some .single
  | .findAll => some .findAll
  | .count => some .count
  | .open stream | .advance stream _ | .toList stream | .first stream =>
    (u.held[stream]?).map fun h => .method h.method

end Usage

namespace Repository

variable (r : Repository Reply)

/-- One action. -/
def step (u : Usage) : Action → Usage
  | .invoke name args => u.keep name (r.invoke name args)
  | .invokeAs name shape args => u.keep name (r.invokeAs name shape args)
  | .findById key => u.after (r.findById key)
  | .existsById key => u.after (r.existsById key)
  | .deleteById key => u.after (r.deleteById key)
  | .save object => u.after (r.save object)
  | .findAll => u.after r.findAll
  | .count => u.after r.count
  | .open stream => u.consume stream fun h => pure { h with cursors := h.cursors ++ [.fresh] }
  | .advance stream cursor => u.consume stream (·.advance cursor)
  | .toList stream => u.consume stream (·.toList)
  | .first stream => u.consume stream (·.first)

/-- Any number of actions. -/
def uses (u : Usage) (actions : List Action) : Usage :=
  actions.foldl r.step u

end Repository

/-! ### What may be sent -/

variable {may : Caller → Command → Prop}

/-- The pages of a stream may be read by its method. -/
def HeldStream.Obeys (may : Caller → Command → Prop) (h : HeldStream) : Prop :=
  h.stream.source.Yields (fun _ => True) (Event.Sends (may (.method h.method))) fun _ => True

/-- The pages of all held streams may be read. -/
def Usage.Obeys (may : Caller → Command → Prop) (u : Usage) : Prop :=
  ∀ h ∈ u.held, h.Obeys may

/-- Every call of a repository sends only what its caller may send, and hands out streams that do
the same. -/
structure Repository.Obeys (may : Caller → Command → Prop) (r : Repository Reply) : Prop where
  call : ∀ name m, r.method name = .ok m → ∀ args shape,
    Run.Ensures (fun _ => True) (Event.Sends (may (.method name)))
      (m.callAs r.context args shape)
      (Outcome.Passes (fun _ => True) (Event.Sends (may (.method name))) (fun _ => True)
        fun _ => True)
  findById : ∀ key, Run.Sends (may .single) (r.findById key)
  existsById : ∀ key, Run.Sends (may .single) (r.existsById key)
  deleteById : ∀ key, Run.Sends (may .single) (r.deleteById key)
  save : ∀ object, Run.Sends (may .single) (r.save object)
  findAll : Run.Sends (may .findAll) r.findAll
  count : Run.Sends (may .count) r.count

/-- One usage comes after another one by sending what a caller may send. -/
def Usage.Follows (may : Caller → Command → Prop) (caller : Option Caller) (u u' : Usage) : Prop :=
  ∃ events, u'.session.journal = u.session.journal ++ events ∧
    ∀ event ∈ events, event.Sends fun command => ∃ by', caller = some by' ∧ may by' command

namespace Usage

variable {u : Usage} {caller : Caller}

theorem Follows.of_events {u' : Usage} {events : List Event}
    (hjournal : u'.session.journal = u.session.journal ++ events)
    (hevents : ∀ event ∈ events, event.Sends (may caller)) :
    u.Follows may (some caller) u' := by
  refine ⟨events, hjournal, fun event hevent => ?_⟩
  have hsends := hevents event hevent
  cases event with
  | command sent => exact ⟨caller, rfl, hsends⟩
  | _ => trivial

/-- Nothing is done where there is nothing to do it with. -/
theorem Follows.refl (caller : Option Caller) : u.Follows may caller u :=
  ⟨[], (List.append_nil _).symm, by simp⟩

/-- A call that hands out no stream leaves the held ones as they are. -/
theorem after_obeys {α : Type} {call : Run Reply α} (hu : u.Obeys may)
    (hcall : Run.Sends (may caller) call) :
    (u.after call).Obeys may ∧ u.Follows may (some caller) (u.after call) := by
  obtain ⟨events, hjournal, hevents, -⟩ := hcall u.session u.session.isSound_true
  exact ⟨hu, .of_events hjournal hevents⟩

/-- A stream that is handed out is held besides the others. -/
theorem keep_obeys {name : String} {call : Run Reply (Outcome Reply)} (hu : u.Obeys may)
    (hcall : Run.Ensures (fun _ => True) (Event.Sends (may (.method name))) call
      (Outcome.Passes (fun _ => True) (Event.Sends (may (.method name))) (fun _ => True)
        fun _ => True)) :
    (u.keep name call).Obeys may ∧
      u.Follows may (some (.method name)) (u.keep name call) := by
  obtain ⟨events, hjournal, hevents, -, hpost⟩ := hcall u.session u.session.isSound_true
  unfold keep
  generalize call.run.run u.session = done at hjournal hpost
  obtain ⟨result, session⟩ := done
  match result with
  | .ok (.stream s) =>
    have hstream : s.source.Yields _ _ _ := hpost _ rfl
    refine ⟨fun h hheld => ?_, .of_events hjournal hevents⟩
    -- the stream that was handed out is kept with the others
    rcases List.mem_append.mp hheld with hheld | hheld
    · exact hu h hheld
    · rw [List.mem_singleton.mp hheld]
      exact hstream
  -- every other outcome leaves nothing behind that could be used later
  | .error _ | .ok (.one _) | .ok (.many _) | .ok (.count _) | .ok (.exists _)
  | .ok (.delete _) => exact ⟨hu, .of_events hjournal hevents⟩

/-- What is done with a stream is done on behalf of its method, and leaves it a stream of its
source. -/
theorem consume_obeys {stream : Nat} {act : HeldStream → StateM (Session Reply) HeldStream}
    (hu : u.Obeys may)
    (hact : ∀ h : HeldStream, h.Obeys may →
      Ensures (fun _ => True) (Event.Sends (may (.method h.method))) (act h) fun h' =>
        h'.method = h.method ∧ h'.stream.source = h.stream.source) :
    (u.consume stream act).Obeys may ∧
      u.Follows may ((u.held[stream]?).map fun h => .method h.method) (u.consume stream act) := by
  unfold consume
  -- without such a stream nothing is done
  cases hheld : u.held[stream]? with
  | none => exact ⟨hu, .refl none⟩
  | some h =>
    have hobeys : h.Obeys may := hu h (List.mem_of_getElem? hheld)
    obtain ⟨events, hjournal, hevents, -, hmethod, hsource⟩ :=
      hact h hobeys u.session u.session.isSound_true
    refine ⟨fun h' hmem => ?_, .of_events hjournal hevents⟩
    -- the stream at its place is still of the same method and the same source
    rcases List.mem_or_eq_of_mem_set hmem with hmem | rfl
    · exact hu h' hmem
    · unfold HeldStream.Obeys
      rw [hmethod, hsource]
      exact hobeys

end Usage

namespace HeldStream

variable {h : HeldStream} (hobeys : h.Obeys may)

include hobeys

theorem advance_obeys (cursor : Nat) :
    Ensures (fun _ => True) (Event.Sends (may (.method h.method))) (h.advance cursor) fun h' =>
      h'.method = h.method ∧ h'.stream.source = h.stream.source := by
  unfold advance
  -- a cursor that there is not stays as it is
  split
  · exact .pure ⟨rfl, rfl⟩
  · next c _ =>
    have hgood : c.IsGood fun _ => True := by
      cases c with
      | reading pending returned => exact fun _ _ => trivial
      | _ => trivial
    exact .map ((ItemStream.advance_ensures hobeys hgood).mono fun _ hresult => ⟨rfl, hresult.2.1⟩)

theorem toList_obeys :
    Ensures (fun _ => True) (Event.Sends (may (.method h.method))) h.toList fun h' =>
      h'.method = h.method ∧ h'.stream.source = h.stream.source :=
  .map ((ItemStream.toList_keeps hobeys).mono fun _ hresult => ⟨rfl, hresult⟩)

theorem first_obeys :
    Ensures (fun _ => True) (Event.Sends (may (.method h.method))) h.first fun h' =>
      h'.method = h.method ∧ h'.stream.source = h.stream.source :=
  .map ((ItemStream.first?_keeps hobeys).mono fun _ hresult => ⟨rfl, hresult⟩)

end HeldStream

namespace Repository.Obeys

variable {r : Repository Reply} (h : r.Obeys may) {u : Usage}

include h

theorem invokeAs_ensures (name : String) (shape : ResultShape) (args : List Value) :
    Run.Ensures (fun _ => True) (Event.Sends (may (.method name))) (r.invokeAs name shape args)
      (Outcome.Passes (fun _ => True) (Event.Sends (may (.method name))) (fun _ => True)
        fun _ => True) :=
  Run.Ensures.bind (.ofExcept fun _ hm => hm) fun m hm => h.call name m hm args shape

theorem invoke_ensures (name : String) (args : List Value) :
    Run.Ensures (fun _ => True) (Event.Sends (may (.method name))) (r.invoke name args)
      (Outcome.Passes (fun _ => True) (Event.Sends (may (.method name))) (fun _ => True)
        fun _ => True) :=
  Run.Ensures.bind (.ofExcept fun _ hm => hm) fun m hm => h.call name m hm args m.shape

/-- **One action** sends only what its caller may send. -/
theorem step (hu : u.Obeys may) (action : Action) :
    (r.step u action).Obeys may ∧ u.Follows may (u.caller action) (r.step u action) := by
  -- calls keep streams, single operations keep nothing, and streams that are kept keep their source
  cases action with
  | invoke name args => exact u.keep_obeys hu (h.invoke_ensures name args)
  | invokeAs name shape args => exact u.keep_obeys hu (h.invokeAs_ensures name shape args)
  | findById key => exact u.after_obeys hu (h.findById key)
  | existsById key => exact u.after_obeys hu (h.existsById key)
  | deleteById key => exact u.after_obeys hu (h.deleteById key)
  | save object => exact u.after_obeys hu (h.save object)
  | findAll => exact u.after_obeys hu h.findAll
  | count => exact u.after_obeys hu h.count
  | «open» stream => exact u.consume_obeys hu fun _ _ => .pure ⟨rfl, rfl⟩
  | advance stream cursor =>
    exact u.consume_obeys hu fun _ hobeys => HeldStream.advance_obeys hobeys cursor
  | toList stream => exact u.consume_obeys hu fun _ hobeys => HeldStream.toList_obeys hobeys
  | first stream => exact u.consume_obeys hu fun _ hobeys => HeldStream.first_obeys hobeys

/-- **Any number of actions.** The streams that are held go on to obey. -/
theorem uses (hu : u.Obeys may) (actions : List Action) : (r.uses u actions).Obeys may := by
  induction actions generalizing u with
  | nil => exact hu
  | cons action actions ih => exact ih (h.step hu action).1

end Repository.Obeys

end NamedQuery
