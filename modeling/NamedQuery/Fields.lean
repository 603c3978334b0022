/-!
# Named fields

Records, items, placeholder maps and label sets are lists of named fields with one entry per name.
The order of the entries is part of the value, since it decides which of two faults is reported
first and how a record is written:

* names that are array indices stand in front, in ascending order;
* all other names follow in the order in which they were first given.

`Fields.insert` keeps that order and replaces the value of a name that is already there, and
`Fields.ofList` builds fields from any list of pairs. `Fields.insert_nodup` and
`Fields.ofList_nodup` say that no name ever stands twice.
-/

namespace NamedQuery

/-- A list of named values. -/
abbrev Fields (α : Type) := List (String × α)

namespace Fields

variable {α β : Type}

/-- The number a name stands for when it is an array index: a decimal numeral without leading
zeros, below `2 ^ 32 - 1`. -/
def index? (name : String) : Option Nat :=
  match name.toList with
  | [] => none
  | ['0'] => some 0
  | '0' :: _ => none
  | digits =>
    if digits.all Char.isDigit then
      let n := digits.foldl (fun n d => 10 * n + (d.toNat - '0'.toNat)) 0
      if n < 4294967295 then some n else none
    else
      none

/-- The names, in order. -/
def names (fields : Fields α) : List String :=
  fields.map Prod.fst

/-- Whether there is a field of that name. -/
def has (fields : Fields α) (name : String) : Bool :=
  fields.any fun field => field.1 == name

/-- The value of a field. -/
def get? (fields : Fields α) (name : String) : Option α :=
  (fields.find? fun field => field.1 == name).map Prod.snd

/-- Whether the field stands in front of the array index `i`. -/
def isBefore (i : Nat) (field : String × α) : Bool :=
  match index? field.1 with
  | some j => j < i
  | none => false

/-- Sets a field: in its place if the name is there, else where a new name belongs. -/
def insert (fields : Fields α) (name : String) (value : α) : Fields α :=
  if fields.has name then
    fields.map fun field => if field.1 == name then (name, value) else field
  else
    match index? name with
    | none => fields ++ [(name, value)]
    | some i => fields.takeWhile (isBefore i) ++ (name, value) :: fields.dropWhile (isBefore i)

/-- The fields given by a list of pairs; of several values for one name the last counts. -/
def ofList (pairs : List (String × α)) : Fields α :=
  pairs.foldl (fun fields pair => fields.insert pair.1 pair.2) []

/-- Applies a function to every value. -/
def mapValues (f : α → β) (fields : Fields α) : Fields β :=
  fields.map fun field => (field.1, f field.2)

/-! ### Names stay distinct -/

theorem has_eq_true_iff {fields : Fields α} {name : String} :
    fields.has name = true ↔ name ∈ fields.names := by
  simp [has, names]

theorem insert_nodup {fields : Fields α} (h : fields.names.Nodup) (name : String) (value : α) :
    (fields.insert name value).names.Nodup := by
  unfold insert
  split
  · -- The name is there: only its value changes.
    have hsame : (fields.map fun field =>
        if field.1 == name then (name, value) else field).map Prod.fst = fields.map Prod.fst := by
      rw [List.map_map]
      refine List.map_congr_left fun field _ => ?_
      simp only [Function.comp_apply]
      split
      · next heq => simpa using (beq_iff_eq.mp heq).symm
      · rfl
    show (List.map Prod.fst _).Nodup
    rw [hsame]
    exact h
  · next hnew =>
    have hnot : name ∉ fields.names := fun hmem => hnew (has_eq_true_iff.mpr hmem)
    split
    · -- A new name that is no index stands behind all others.
      simp only [names, List.map_append, List.map_cons, List.map_nil] at *
      rw [List.nodup_append]
      refine ⟨h, by simp, ?_⟩
      intro a ha b hb heq
      simp only [List.mem_cons, List.not_mem_nil, or_false] at hb
      exact hnot (hb ▸ heq ▸ ha)
    · next i _ =>
      -- A new index stands somewhere among them, and the order does not matter here.
      have hperm : ((fields.takeWhile (isBefore i)) ++ (name, value) ::
          fields.dropWhile (isBefore i)).Perm ((name, value) :: fields) := by
        have := @List.perm_middle _ (name, value) (fields.takeWhile (isBefore i))
          (fields.dropWhile (isBefore i))
        rwa [List.takeWhile_append_dropWhile] at this
      have hmap := (hperm.map Prod.fst).nodup_iff
      exact hmap.mpr (by simpa [names] using ⟨by simpa [names] using hnot, h⟩)

theorem ofList_nodup (pairs : List (String × α)) : (ofList pairs).names.Nodup := by
  suffices h : ∀ (fields : Fields α), fields.names.Nodup →
      (pairs.foldl (fun fields pair => fields.insert pair.1 pair.2) fields).names.Nodup from
    h [] (by simp [names])
  induction pairs with
  | nil => exact fun _ h => h
  | cons pair pairs ih => exact fun fields h => ih _ (insert_nodup h pair.1 pair.2)

end Fields

end NamedQuery
