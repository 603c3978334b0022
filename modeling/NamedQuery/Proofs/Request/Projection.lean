import NamedQuery.Proofs.Request.Built

/-!
# What built requests read

A declaration may list the properties to read. Their attributes are written as one text, a
placeholder for each with commas between them, and this module reads such a text back:

* `attributes?`, `Projects` — the attributes that a text asks for, by the placeholders of its
  request;
* `Builder.Named` — the invariant of writing: the placeholders so far stand for the attributes so
  far, and their numbers have been used up;
* `Request.paged_projects` — a finished request asks for the attributes of the listed properties, in
  order, and for nothing where there is no list.
-/

namespace NamedQuery

/-! ### Reading names -/

/-- Reads names with commas between them. -/
def readNames? : List Token → Option (List String)
  | [.name n] => some [n]
  | .name n :: .comma :: rest => (readNames? rest).map (n :: ·)
  | _ => none

/-- The attributes that a list of names asks for. -/
def attributes? (names : Fields String) (text : String) : Option (List String) :=
  (readNames? (tokens text.toList)).bind fun placeholders => placeholders.mapM names.get?

/-- A projection asks for a list of attributes, or for all of them where there is no list. -/
inductive Projects (names : Fields String) : Option String → Option (List String) → Prop where
  | all : Projects names none none
  | listed {text : String} {attrs : List String} (read : attributes? names text = some attrs) :
      Projects names (some text) (some attrs)

/-- A projection asks for one list only. -/
theorem Projects.unique {names : Fields String} {projection : Option String}
    {asked asked' : Option (List String)} (h : Projects names projection asked)
    (h' : Projects names projection asked') : asked = asked' := by
  cases h with
  | all => cases h' with | all => rfl
  | listed read => cases h' with | listed read' => exact read.symm.trans read'

/-- A comma stands between a name and the next ones. -/
theorem tokens_names_cons {name : String} (h : IsPlaceholder '#' name) (name' : String)
    (names : List String) :
    tokens (", ".intercalate (name :: name' :: names)).toList =
      .name name :: .comma :: tokens (", ".intercalate (name' :: names)).toList := by
  have htext : (", ".intercalate (name :: name' :: names)).toList =
      name.toList ++ ',' :: ([] ++ ' ' :: (", ".intercalate (name' :: names)).toList) := by
    simp [String.intercalate_cons_cons]
  rw [htext, tokens_comma, tokens_blank, tokens_name h]
  rfl

/-- Reading undoes writing. -/
theorem readNames?_tokens {name : String} {names : List String}
    (h : ∀ n ∈ name :: names, IsPlaceholder '#' n) :
    readNames? (tokens (", ".intercalate (name :: names)).toList) = some (name :: names) := by
  -- behind each name comes a comma and the rest, or nothing
  induction names generalizing name with
  | nil =>
    rw [String.intercalate_singleton, tokens_name (h name (by simp))]
    rfl
  | cons name' names ih =>
    rw [tokens_names_cons (h name (by simp)), readNames?,
      ih fun n hn => h n (List.mem_cons_of_mem _ hn)]
    rfl

/-! ### Writing names -/

namespace Builder

/-- The placeholders that a builder has given to some attributes. -/
structure Named (b : Builder) (names attrs : List String) : Prop where
  numbered : ∀ name ∈ names, ∃ n, n < b.nameCount ∧ name = b.family.name n
  standFor : names.map b.placeholders.names.get? = attrs.map some

/-- **One step.** The next placeholder is another one than those before it. -/
theorem Named.addName {b : Builder} {names attrs : List String} (h : b.Named names attrs)
    (attr : String) :
    (b.addName attr).2.Named (names ++ [(b.addName attr).1]) (attrs ++ [attr]) where
  numbered name hname := by
    rcases List.mem_append.mp hname with hname | hname
    · obtain ⟨n, hn, rfl⟩ := h.numbered name hname
      exact ⟨n, Nat.lt_succ_of_lt hn, rfl⟩
    · exact ⟨b.nameCount, Nat.lt_succ_self _, List.mem_singleton.mp hname⟩
  standFor := by
    rw [List.map_append, List.map_append, ← h.standFor]
    -- the names that were there keep their attributes, since the new one is none of them
    refine congr_arg₂ _ (List.map_congr_left fun name hname => ?_) ?_
    · obtain ⟨n, hn, rfl⟩ := h.numbered name hname
      have hne : b.family.name n ≠ b.family.name b.nameCount := by
        rw [ne_eq, Family.name_eq_iff]
        omega
      exact Fields.get?_insert_of_ne hne
    · rw [List.map_singleton, List.map_singleton, addName_get?]

/-- **Every step.** -/
theorem Named.foldl {b : Builder} {names attrs : List String} (h : b.Named names attrs)
    (attr : String → String) (properties : List String) :
    let named := properties.foldl (fun named property =>
      let added := Builder.addName named.2 (attr property)
      (named.1 ++ [added.1], added.2)) (names, b)
    named.2.Named named.1 (attrs ++ properties.map attr) := by
  induction properties generalizing names attrs b with
  | nil => simpa using h
  | cons property properties ih =>
    have hstep := ih (h.addName (attr property))
    rw [List.append_assoc] at hstep
    exact hstep

/-- The placeholders are read back as the attributes. -/
theorem Named.read {b : Builder} {names : List String} {attr : String} {attrs : List String}
    (h : b.Named names (attr :: attrs)) :
    attributes? b.placeholders.names (", ".intercalate names) = some (attr :: attrs) := by
  have hmarked : ∀ name ∈ names, IsPlaceholder '#' name := by
    intro name hname
    obtain ⟨n, -, rfl⟩ := h.numbered name hname
    exact Family.name_isPlaceholder _ _
  -- without names nothing stands for the first attribute
  cases names with
  | nil => exact absurd h.standFor (by simp)
  | cons name names =>
    rw [attributes?, readNames?_tokens hmarked, Option.bind_some]
    exact Placeholders.mapM_eq_some h.standFor

end Builder

/-- The attributes of the listed properties, if there is a list. -/
def RequestOptions.attributes? (options : RequestOptions) (e : Entity) : Option (List String) :=
  if options.projection.isEmpty then none else some (options.projection.map e.attributeName)

namespace Request

variable {e : Entity} {options : RequestOptions} {plan : RequestPlan} {args : List Value}

theorem projection_projects (e : Entity) (options : RequestOptions) (p : Placeholders) :
    Projects (projection e options p).2.names (projection e options p).1
      (options.attributes? e) := by
  have hstart : (Builder.start .projection p).Named [] [] := ⟨by simp, rfl⟩
  have hnamed := hstart.foldl e.attributeName options.projection
  rw [List.nil_append] at hnamed
  unfold projection RequestOptions.attributes?
  -- an empty projection asks for the whole item
  cases hproperties : options.projection with
  | nil => exact .all
  | cons property properties =>
    rw [hproperties] at hnamed
    exact .listed hnamed.read

/-- **What a finished request reads.** -/
theorem reading_projects {p : Placeholders} {r : ScanRequest}
    (h : reading e options plan args p = .ok r) :
    Projects r.placeholders.names r.projection (options.attributes? e) := by
  obtain ⟨p', -, hprojection, hplaceholders⟩ := reading_eq_ok h
  rw [hprojection, hplaceholders]
  exact projection_projects e options p'

end Request

/-- What queries and scans share of a request. -/
def PagedRequest.shared : PagedRequest → ScanRequest
  | query r => r.toScanRequest
  | scan r => r

/-- What queries and scans share is built by the same steps. -/
theorem Request.exists_reading {e : Entity} {options : RequestOptions} {path : AccessPath}
    {args : List Value} {r : PagedRequest} (h : paged e options path args = .ok r) :
    ∃ plan p, reading e options plan args p = .ok r.shared := by
  unfold paged at h
  -- a scan is read as it is, and a query behind its key conditions
  split at h
  · obtain ⟨r, hscan, rfl⟩ := map_eq_ok_iff.mp h
    exact ⟨_, _, hscan⟩
  · obtain ⟨r, hquery, rfl⟩ := map_eq_ok_iff.mp h
    obtain ⟨conditions, b, -, -, -, -, hreading⟩ := queryOf_eq_ok hquery
    exact ⟨_, _, hreading⟩

theorem Request.paged_projects {e : Entity} {options : RequestOptions} {path : AccessPath}
    {args : List Value} {r : PagedRequest} (h : paged e options path args = .ok r) :
    Projects r.shared.placeholders.names r.shared.projection (options.attributes? e) := by
  obtain ⟨plan, p, hreading⟩ := exists_reading h
  exact reading_projects hreading

end NamedQuery
