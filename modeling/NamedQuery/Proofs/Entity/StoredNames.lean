import NamedQuery.Method
import NamedQuery.Proofs.Entity.Declarations
import NamedQuery.Proofs.Query.Seen

/-!
# What stored names decide

The name a property is stored under is declared beside the part the property plays in the keys and
indexes. Two schemas that are the same but for these names have the same keys and the same indexes,
so that a method name means the same query for both, and the query is served in the same way.

* `Schema.unnamed` — a schema with every property under its own name;
* `Entity.SameButNames` — two entities whose schemas are the same but for the stored names;
* `Entity.SameButNames.bind_eq`, `Entity.SameButNames.resolve_eq` — they read a method name alike,
  and serve a query alike;
* `Entity.SameButNames.derive_eq` — so they derive the same methods.
-/

namespace NamedQuery

/-- An attribute without a stored name. -/
def Attribute.unnamed (a : Attribute) : Attribute :=
  { a with attributeName := none }

namespace Schema

/-- A schema with every property under its own name. -/
def unnamed (s : Schema) : Schema :=
  { s with
    attributes := s.attributes.mapValues Attribute.unnamed
    distinct := by
      rw [Fields.names_mapValues]
      exact s.distinct }

/-! ### Keys and claims without stored names -/

variable (s : Schema)

theorem names_unnamed : s.unnamed.attributes.names = s.attributes.names :=
  Fields.names_mapValues Attribute.unnamed s.attributes

theorem partitionKeys_unnamed : s.unnamed.partitionKeys = s.partitionKeys := by
  simp only [partitionKeys, unnamed, Fields.mapValues, List.filter_map, List.map_map]
  rfl

theorem sortKeys_unnamed : s.unnamed.sortKeys = s.sortKeys := by
  simp only [sortKeys, unnamed, Fields.mapValues, List.filter_map, List.map_map]
  rfl

theorem localClaims_unnamed : s.unnamed.localClaims = s.localClaims := by
  simp only [localClaims, unnamed, Fields.mapValues, List.flatMap_map]
  rfl

theorem hashClaims_unnamed : s.unnamed.hashClaims = s.hashClaims := by
  simp only [hashClaims, unnamed, Fields.mapValues, List.flatMap_map]
  rfl

theorem rangeClaims_unnamed : s.unnamed.rangeClaims = s.rangeClaims := by
  simp only [rangeClaims, unnamed, Fields.mapValues, List.flatMap_map]
  rfl

theorem globalNames_unnamed : s.unnamed.globalNames = s.globalNames := by
  simp only [globalNames, indexNames, unnamed, Fields.mapValues, List.flatMap_map]
  rfl

theorem mapValues_unnamed {part : Attribute → List String}
    (hpart : ∀ a : Attribute, part a.unnamed = part a) :
    s.unnamed.attributes.mapValues part = s.attributes.mapValues part := by
  simp only [unnamed, Fields.mapValues, List.map_map, Function.comp_def, hpart]

end Schema

namespace Entity

/-- Two entities whose schemas are the same but for the stored names. -/
def SameButNames (e e' : Entity) : Prop :=
  e.schema.unnamed = e'.schema.unnamed

namespace SameButNames

variable {e e' : Entity} (h : e.SameButNames e')

include h

/-! ### Keys, indexes and properties -/

/-- What does not look at stored names is the same. -/
theorem congr {α : Type} (read : Schema → α) (hread : ∀ s : Schema, read s.unnamed = read s) :
    read e.schema = read e'.schema := by
  have hunnamed : read e.schema.unnamed = read e'.schema.unnamed := congrArg read h
  rwa [hread, hread] at hunnamed

theorem name_eq : e.name = e'.name :=
  h.congr Schema.name fun _ => rfl

theorem compositeId_eq : e.compositeId? = e'.compositeId? :=
  h.congr Schema.compositeId fun _ => rfl

theorem partitionKey_eq : e.partitionKey = e'.partitionKey :=
  h.congr (fun s => s.partitionKeys.headD "") fun s => by rw [s.partitionKeys_unnamed]

theorem sortKey_eq : e.sortKey? = e'.sortKey? :=
  h.congr (fun s => s.sortKeys.head?) fun s => by rw [s.sortKeys_unnamed]

theorem properties_eq : e.properties = e'.properties := by
  have hnames : e.schema.attributes.names = e'.schema.attributes.names :=
    h.congr (fun s => s.attributes.names) fun s => s.names_unnamed
  unfold properties
  rw [hnames, h.compositeId_eq]

theorem localIndexes_eq : e.localIndexes = e'.localIndexes := by
  unfold localIndexes
  rw [h.congr Schema.localClaims Schema.localClaims_unnamed]

theorem hashIndexes_eq : e.hashIndexes = e'.hashIndexes := by
  unfold hashIndexes
  rw [h.congr (fun s => s.attributes.mapValues Attribute.hashIndexes) fun s =>
    s.mapValues_unnamed fun _ => rfl]

theorem globalIndexes_eq : e.globalIndexes = e'.globalIndexes := by
  have hnames : e.globalIndexNames = e'.globalIndexNames :=
    congrArg List.eraseDups (h.congr Schema.globalNames Schema.globalNames_unnamed)
  unfold globalIndexes
  rw [hnames, h.congr Schema.hashClaims Schema.hashClaims_unnamed,
    h.congr Schema.rangeClaims Schema.rangeClaims_unnamed]

/-! ### Method names and queries -/

/-- **A method name means the same query.** -/
theorem bind_eq (name : MethodName) : Query.bind e name = Query.bind e' name :=
  ReadAlike.bind_eq ⟨h.name_eq, h.properties_eq, h.compositeId_eq⟩ name

theorem localIndex_eq (property : String) : e.localIndex? property = e'.localIndex? property := by
  unfold localIndex?
  rw [h.localIndexes_eq]

/-- No query can tell the two entities apart. -/
theorem lookAlike (q : Query) : LookAlike q e e' where
  -- nothing that a path looks at depends on the stored names
  partitionKey := h.partitionKey_eq
  sortKey := h.sortKey_eq
  compositeId := h.compositeId_eq
  localIndex property _ := h.localIndex_eq property
  globalIndexes := by rw [h.globalIndexes_eq]
  hashIndexes _ _ := by rw [h.hashIndexes_eq]

/-- **A query is served in the same way.** -/
theorem resolve_eq (policy : ScanPolicy) (q : Query) :
    AccessPath.resolve e policy q = AccessPath.resolve e' policy q :=
  (h.lookAlike q).resolve_eq policy

/-! ### Deriving a method -/

theorem check_eq (d : Declaration) (q : Query) : d.check e q = d.check e' q := by
  unfold Declaration.check hasProperty
  simp only [h.properties_eq, h.name_eq]

/-- **The same methods are derived**, each for its entity. -/
theorem derive_eq (name : String) (d : Declaration) (defaults : ScanDefaults) :
    Method.derive e' name d defaults =
      (Method.derive e name d defaults).map fun m => { m with entity := e' } := by
  unfold Method.derive
  cases MethodName.parse name with
  | error cause => rfl
  | ok parsed =>
    -- one step after the other gives the same, up to the entity in the method at the end
    show (Query.bind e' parsed >>= _) = (Query.bind e parsed >>= _).map _
    rw [h.bind_eq]
    cases Query.bind e' parsed with
    | error cause => rfl
    | ok q =>
      show ((d.check e' q).mapError _ >>= _) = ((d.check e q).mapError _ >>= _).map _
      rw [h.check_eq]
      cases (d.check e' q).mapError (Cause.of · name) with
      | error cause => rfl
      | ok shape =>
        show (AccessPath.resolve e' _ q >>= _) = (AccessPath.resolve e _ q >>= _).map _
        rw [h.resolve_eq]
        cases AccessPath.resolve e' (d.policy defaults.enableScan defaults.enableScanCount) q with
        | error cause => rfl
        | ok path => rfl

end SameButNames

end Entity

end NamedQuery
