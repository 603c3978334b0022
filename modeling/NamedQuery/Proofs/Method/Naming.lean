import NamedQuery.Proofs.Access.Chosen
import NamedQuery.Proofs.Method.Derived

/-!
# Methods that differ in their verb

The verb of a method name says what is done with the items that the rest of the name selects. So
methods with the same rest and the same options select the same items, in the same way.

* `Verb.read?_word` — a verb is read back from the start of a name;
* `AccessPath.keyed` — the rules for access paths that do not look at what is done with the items.
  Only the scan does, which needs a permission of its own for counting;
* `Method.reshaped` — a method with another verb and another shape of its result;
* `Method.derive_reshaped` — it is derived from the name with that verb, if both of them count or
  none does;
* `Method.eq_reshaped` — where both are derived, they differ in nothing else.
-/

namespace NamedQuery

variable {e : Entity} {policy : ScanPolicy}

/-! ### Names -/

/-- No verb is the beginning of another one. -/
theorem Verb.after?_word (verb verb' : Verb) (rest : List Char) :
    Text.after? verb'.word.toList (verb.word.toList ++ rest) =
      if verb' = verb then some rest else none := by
  cases verb <;> cases verb' <;> rfl

theorem Verb.read?_word (verb : Verb) (rest : List Char) :
    read? (verb.word.toList ++ rest) = if Text.atWordEnd rest then some (verb, rest) else none := by
  unfold read?
  simp only [after?_word]
  cases hend : Text.atWordEnd rest with
  | false =>
    -- no verb is read where the word goes on
    refine List.findSome?_eq_none_iff.mpr fun verb' _ => ?_
    split
    · rw [Option.filter_some, hend]
      rfl
    · rfl
  | true => cases verb <;> simp [all, Option.filter_some, hend]

namespace MethodName

theorem parse_eq_ok_iff {verb : Verb} {rest : String} {name : MethodName} :
    parse (verb.word ++ rest) = .ok name ↔
      Text.atWordEnd rest.toList = true ∧
        ofSections (verb.word ++ rest) verb.subject (sections rest.toList) = .ok name := by
  unfold parse
  rw [String.toList_append, Verb.read?_word]
  cases Text.atWordEnd rest.toList with
  | false => simp
  | true => simp [mapError_eq_ok_iff]

/-- What follows the verb is read in the same way behind each. -/
theorem ofSections_other {text : String} {subject : Subject} {s : Sections} {name : MethodName}
    (h : ofSections text subject s = .ok name) (text' : String) (subject' : Subject) :
    ofSections text' subject' s = .ok { name with text := text', subject := subject' } := by
  obtain ⟨-, -, hread⟩ := ofSections_eq_ok_iff.mp h
  exact ofSections_eq_ok_iff.mpr ⟨rfl, rfl, hread⟩

theorem parse_subject {verb : Verb} {rest : String} {name : MethodName}
    (h : parse (verb.word ++ rest) = .ok name) : name.subject = verb.subject := by
  obtain ⟨-, hsections⟩ := parse_eq_ok_iff.mp h
  have hname := Except.ok.inj (hsections.symm.trans (ofSections_other hsections _ _))
  exact congrArg MethodName.subject hname

theorem parse_other {verb : Verb} {rest : String} {name : MethodName}
    (h : parse (verb.word ++ rest) = .ok name) (verb' : Verb) :
    parse (verb'.word ++ rest) =
      .ok { name with text := verb'.word ++ rest, subject := verb'.subject } := by
  obtain ⟨hend, hsections⟩ := parse_eq_ok_iff.mp h
  exact parse_eq_ok_iff.mpr ⟨hend, ofSections_other hsections _ _⟩

end MethodName

theorem Query.bind_other {name : MethodName} {q : Query} (h : bind e name = .ok q) (text : String)
    (subject : Subject) :
    bind e { name with text := text, subject := subject } =
      .ok { q with method := text, subject := subject } := by
  obtain ⟨criteria, hcriteria, h⟩ := bind_eq_ok_iff.mp (mapError_eq_ok_iff.mp h)
  obtain ⟨order, horder, h⟩ := bind_eq_ok_iff.mp h
  obtain rfl := pure_eq_ok_iff.mp h
  exact mapError_eq_ok_iff.mpr
    (bind_eq_ok_iff.mpr ⟨criteria, hcriteria, bind_eq_ok_iff.mpr ⟨order, horder, rfl⟩⟩)

/-! ### Access paths -/

namespace AccessPath

variable {q : Query} {path path' : AccessPath} {last : Except Cause AccessPath}

/-- The rules in front of the last one. -/
def keyed (e : Entity) (q : Query) (last : Except Cause AccessPath) : Except Cause AccessPath :=
  match directLoad? e q with
  | some path => .ok path
  | none => do
    if let some path ← idLoad e q then return path
    if let some path ← rangeQuery e q then return path
    if let some path ← globalQuery e q then return path
    if let some path ← partitionQuery e q then return path
    last

theorem choose_eq_keyed : choose e policy q = keyed e q (scanAll q policy) := rfl

/-- These rules look neither at the name of the method nor at what it does. -/
theorem keyed_other (method : String) (subject : Subject) :
    keyed e { q with method := method, subject := subject } last = keyed e q last := rfl

/-- A path comes from one of these rules or from the last one. -/
theorem keyed_eq_ok (h : keyed e q last = .ok path) :
    (∀ last', keyed e q last' = .ok path) ∨ last = .ok path ∧ ∀ last', keyed e q last' = last' := by
  unfold keyed at h ⊢
  cases hdirect : directLoad? e q with
  | some path' =>
    rw [hdirect] at h
    exact Or.inl fun _ => h
  | none =>
    simp only [hdirect] at h ⊢
    -- the rule that gave the path is reached with any last resort
    rcases rule_eq_ok h with hid | ⟨hid, h⟩
    · exact Or.inl fun _ => by rw [hid]; rfl
    rcases rule_eq_ok h with hrange | ⟨hrange, h⟩
    · exact Or.inl fun _ => by rw [hid, hrange]; rfl
    rcases rule_eq_ok h with hglobal | ⟨hglobal, h⟩
    · exact Or.inl fun _ => by rw [hid, hrange, hglobal]; rfl
    rcases rule_eq_ok h with hpartition | ⟨hpartition, h⟩
    · exact Or.inl fun _ => by rw [hid, hrange, hglobal, hpartition]; rfl
    · exact Or.inr ⟨h, fun _ => by rw [hid, hrange, hglobal, hpartition]; rfl⟩

theorem scanAll_eq_ok (h : scanAll q policy = .ok path) : path = .scan q.criteria := by
  unfold scanAll at h
  repeat' split at h
  all_goals first
    | exact (Except.ok.inj h).symm
    | exact absurd h (by simp)

theorem choose_other (h : choose e policy q = .ok path) (method : String) {subject : Subject}
    (hsubject : subject = .count ↔ q.subject = .count) :
    choose e policy { q with method := method, subject := subject } = .ok path := by
  have hscan : scanAll { q with method := method, subject := subject } policy =
      scanAll q policy := by
    simp only [scanAll, ne_eq, hsubject]
  rw [choose_eq_keyed, keyed_other, hscan]
  exact h

/-- Permissions decide whether there is a path, and not which one it is. -/
theorem choose_unique {method : String} {subject : Subject} (h : choose e policy q = .ok path)
    (h' : choose e policy { q with method := method, subject := subject } = .ok path') :
    path' = path := by
  rw [choose_eq_keyed] at h
  rw [choose_eq_keyed, keyed_other] at h'
  -- a path by keys does not depend on the subject, and a scan is chosen only where there is none
  rcases keyed_eq_ok h with hpath | ⟨hscan, hlast⟩
  · exact Except.ok.inj (h'.symm.trans (hpath _))
  · rw [hlast] at h'
    rw [scanAll_eq_ok hscan, scanAll_eq_ok h']

end AccessPath

/-! ### Declarations -/

namespace Declaration

variable {d : Declaration}

/-- The shape is the one whose name was declared. -/
theorem eq_of_shape? {subject : Subject} {shape shape' : ResultShape}
    (hname : d.returns = shape.name) (h : d.shape? subject = some shape') : shape' = shape := by
  have hname' : shape'.name = shape.name := by simpa [hname] using List.find?_some h
  cases shape <;> cases shape' <;> first | rfl | exact absurd hname' (by decide)

/-- A shape is found by its name. -/
theorem shape?_of_mem {subject : Subject} {shape : ResultShape} (h : shape ∈ subject.shapes)
    (hname : d.returns = shape.name) : d.shape? subject = some shape := by
  unfold shape?
  rw [hname]
  cases subject <;> cases shape <;> first | rfl | exact absurd h (by decide)

/-- The other parts of a declaration are judged in the same way for each shape. -/
theorem check_other {q : Query} {shape shape' : ResultShape} (h : d.check e q = .ok shape)
    (method : String) {subject : Subject} (hshape : shape' ∈ subject.shapes) :
    { d with returns := shape'.name }.check e { q with method := method, subject := subject } =
      .ok shape' := by
  obtain ⟨-, hcount, hpageSize, hprojection, hreserved⟩ := check_eq_ok_iff.mp h
  exact check_eq_ok_iff.mpr
    ⟨shape?_of_mem hshape rfl, hcount, hpageSize, hprojection, hreserved⟩

end Declaration

/-! ### Methods -/

namespace Method

/-- A method with another verb in front of the rest of its name, and another shape. -/
def reshaped (m : Method) (verb : Verb) (rest : String) (shape : ResultShape) : Method :=
  { m with
    query := { m.query with method := verb.word ++ rest, subject := verb.subject }
    shape }

variable (verb verb' : Verb) {rest : String} {d : Declaration} {defaults : ScanDefaults}
  {m m' : Method} {shape : ResultShape}

/-- A method has the shape it is declared with. -/
theorem shape_of_derive (shape : ResultShape) {name : String}
    (h : derive e name { d with returns := shape.name } defaults = .ok m) : m.shape = shape := by
  obtain ⟨-, -, -, hcheck, -⟩ := derive_eq_ok h
  exact Declaration.eq_of_shape? rfl (Declaration.check_eq_ok hcheck).1

/-- The same rest of a name serves another verb as well. -/
theorem derive_reshaped (h : derive e (verb.word ++ rest) d defaults = .ok m)
    (hcount : verb'.subject = .count ↔ verb.subject = .count)
    (hshape : shape ∈ verb'.subject.shapes) :
    derive e (verb'.word ++ rest) { d with returns := shape.name } defaults =
      .ok (m.reshaped verb' rest shape) := by
  obtain ⟨parsed, hparse, h⟩ := bind_eq_ok_iff.mp h
  obtain ⟨query, hquery, h⟩ := bind_eq_ok_iff.mp h
  obtain ⟨shape', hcheck, h⟩ := bind_eq_ok_iff.mp h
  obtain ⟨path, hpath, h⟩ := bind_eq_ok_iff.mp h
  obtain rfl := pure_eq_ok_iff.mp h
  -- what a verb says of a query is its subject, and the shapes have to fit that
  have hsubject : query.subject = verb.subject :=
    (Query.bind_eq_ok hquery).1.trans (MethodName.parse_subject hparse)
  have hcheck' := Declaration.check_other (mapError_eq_ok_iff.mp hcheck) (verb'.word ++ rest) hshape
  have hpath' := AccessPath.choose_other (mapError_eq_ok_iff.mp hpath) (verb'.word ++ rest)
    (hcount.trans (by rw [hsubject]))
  exact bind_eq_ok_iff.mpr ⟨_, MethodName.parse_other hparse verb',
    bind_eq_ok_iff.mpr ⟨_, Query.bind_other hquery _ _,
      bind_eq_ok_iff.mpr ⟨_, mapError_eq_ok_iff.mpr hcheck',
        bind_eq_ok_iff.mpr ⟨_, mapError_eq_ok_iff.mpr hpath', rfl⟩⟩⟩⟩

/-- Two methods whose names differ in the verb alone differ in nothing else than what they do. -/
theorem eq_reshaped {returns : String} (h : derive e (verb.word ++ rest) d defaults = .ok m)
    (h' : derive e (verb'.word ++ rest) { d with returns := returns } defaults = .ok m') :
    m' = m.reshaped verb' rest m'.shape := by
  obtain ⟨parsed, hparse, h⟩ := bind_eq_ok_iff.mp h
  obtain ⟨query, hquery, h⟩ := bind_eq_ok_iff.mp h
  obtain ⟨shape, -, h⟩ := bind_eq_ok_iff.mp h
  obtain ⟨path, hpath, h⟩ := bind_eq_ok_iff.mp h
  obtain rfl := pure_eq_ok_iff.mp h
  obtain ⟨parsed', hparse', h'⟩ := bind_eq_ok_iff.mp h'
  -- step by step the two derivations have the same results
  obtain rfl := Except.ok.inj ((MethodName.parse_other hparse verb').symm.trans hparse')
  obtain ⟨query', hquery', h'⟩ := bind_eq_ok_iff.mp h'
  obtain rfl := Except.ok.inj ((Query.bind_other hquery _ _).symm.trans hquery')
  obtain ⟨shape', -, h'⟩ := bind_eq_ok_iff.mp h'
  obtain ⟨path', hpath', h'⟩ := bind_eq_ok_iff.mp h'
  obtain rfl := pure_eq_ok_iff.mp h'
  obtain rfl := AccessPath.choose_unique (mapError_eq_ok_iff.mp hpath)
    (mapError_eq_ok_iff.mp hpath')
  rfl

end Method

end NamedQuery
