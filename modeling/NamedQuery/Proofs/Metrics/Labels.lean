import Mathlib
import NamedQuery.Proofs.Metrics
import NamedQuery.Proofs.Text.Alphabetical

/-!
# The text of a series

A series is identified by its name and its labels, whose order does not count. The text that stands
for it has the labels in alphabetical order, and nothing in it is escaped. So the text tells the
series only if neither its name nor its labels contain the marks between them, and if alphabetical
order takes no two of the label names for one.

* `Series`, `IsSame` — a name with labels, and when two of them are one;
* `Alphabetical`, `sortLabels_congr` — labels that alphabetical order tells apart are put in the
  same order, wherever they stood;
* `labelTexts_inj` — labels whose names and values avoid the marks are told by their text;
* `Series.IsPlain`, `Series.text_eq_iff` — so plain series are told apart;
* `Series.ofCall_isPlain` — such as those of the calls of the store.
-/

namespace NamedQuery

/-- What identifies a series: a name and labels with different names, which may be left out. -/
structure Series where
  name : String
  labels : Option Labels
  distinct : ((labels.getD []).map Prod.fst).Nodup

namespace Series

/-- The labels of a series. Labels that are left out are none. -/
def labelSet (s : Series) : Labels :=
  s.labels.getD []

/-- The text that stands for a series. -/
def text (s : Series) : String :=
  seriesKey s.name s.labels

/-- Whether two series have the same name and the same labels, in any order. -/
def IsSame (s t : Series) : Prop :=
  s.name = t.name ∧ s.labelSet.Perm t.labelSet

instance (s t : Series) : Decidable (s.IsSame t) :=
  inferInstanceAs (Decidable (_ ∧ _))

end Series

/-! ### Alphabetical order -/

/-- Alphabetical order takes no two of the labels for one. -/
def Alphabetical (labels : Labels) : Prop :=
  ∀ l ∈ labels, ∀ l' ∈ labels, Text.compareLabels l.1 l'.1 = .eq → l.1 = l'.1

theorem alphabetical_of_printable {labels : Labels}
    (h : ∀ l ∈ labels, ∀ c ∈ l.1.toList, Text.IsPrintable c) : Alphabetical labels :=
  fun l hl l' hl' => Text.eq_of_compareLabels_eq (h l hl) (h l' hl')

theorem sortLabels_perm (labels : Labels) : (sortLabels labels).Perm labels :=
  List.mergeSort_perm _ _

theorem sortLabels_ne_nil {labels : Labels} (h : labels ≠ []) : sortLabels labels ≠ [] :=
  fun heq => h (List.nil_perm.mp (heq ▸ sortLabels_perm labels))

theorem sortLabels_pairwise (labels : Labels) :
    (sortLabels labels).Pairwise fun l l' => (Text.compareLabels l.1 l'.1).isLE := by
  -- sorting is asked for what is not greater, and the order is stated by what is less or the same
  have hle : ∀ order : Ordering, (order != .gt) = order.isLE := by
    intro order
    cases order <;> rfl
  have htrans : ∀ l l' l'' : String × String, (Text.compareLabels l.1 l'.1 != .gt) = true →
      (Text.compareLabels l'.1 l''.1 != .gt) = true →
      (Text.compareLabels l.1 l''.1 != .gt) = true := by
    simp only [hle]
    exact fun l l' l'' => Std.TransCmp.isLE_trans
  have htotal : ∀ l l' : String × String, ((Text.compareLabels l.1 l'.1 != .gt) ||
      (Text.compareLabels l'.1 l.1 != .gt)) = true := by
    intro l l'
    rw [@Std.OrientedCmp.eq_swap _ Text.compareLabels _ l'.1]
    cases Text.compareLabels l.1 l'.1 <;> rfl
  simpa only [sortLabels, hle] using List.pairwise_mergeSort htrans htotal labels

/-- **Labels that alphabetical order tells apart** are put in the same order, wherever they
stood. -/
theorem sortLabels_congr {labels labels' : Labels} (hdistinct : (labels.map Prod.fst).Nodup)
    (halphabetical : Alphabetical labels) (hperm : labels.Perm labels') :
    sortLabels labels = sortLabels labels' := by
  have hsame : (sortLabels labels).Perm (sortLabels labels') :=
    (sortLabels_perm labels).trans (hperm.trans (sortLabels_perm labels').symm)
  refine List.Perm.eq_of_pairwise (fun l l' hl hl' hle hge => ?_) (sortLabels_pairwise labels)
    (sortLabels_pairwise labels') hsame
  -- two labels at one place have names that compare as equal, and no name has two labels
  have hmem : l ∈ labels := (sortLabels_perm labels).mem_iff.mp hl
  have hmem' : l' ∈ labels := hperm.mem_iff.mpr ((sortLabels_perm labels').mem_iff.mp hl')
  have hname : l.1 = l'.1 :=
    halphabetical l hmem l' hmem' (Std.OrientedCmp.isLE_antisymm hle hge)
  exact List.inj_on_of_nodup_map hdistinct hmem hmem' hname

/-! ### Marks -/

/-- A label as it stands in the text of a series. -/
def labelText (label : String × String) : List Char :=
  label.1.toList ++ '=' :: label.2.toList

/-- The text of some labels. -/
def labelTexts (labels : Labels) : List Char :=
  [','].intercalate (labels.map labelText)

theorem seriesKey_toList (name : String) (labels : Option Labels) :
    (seriesKey name labels).toList =
      if labels.getD [] = [] then name.toList
      else name.toList ++ ':' :: labelTexts (sortLabels (labels.getD [])) := by
  match labels with
  | none | some [] => rfl
  | some (label :: labels) =>
    rw [Option.getD_some, if_neg (List.cons_ne_nil label labels)]
    -- the text of a label is the list of characters that the text of a series is made of
    have htexts : (String.toList ∘ fun label : String × String => label.1 ++ "=" ++ label.2) =
        labelText := by
      funext label
      simp [labelText]
    simp only [seriesKey, String.toList_append, String.toList_intercalate, List.map_map, htexts,
      List.append_assoc]
    rfl

theorem labelText_append (label : String × String) (rest : List Char) :
    labelText label ++ [','] ++ rest =
      label.1.toList ++ '=' :: (label.2.toList ++ ',' :: rest) := by
  simp [labelText]

/-- A mark behind the last label makes all of them alike. -/
theorem intercalate_append_mark {α : Type} (mark : α) {parts : List (List α)} (h : parts ≠ []) :
    [mark].intercalate parts ++ [mark] = parts.flatMap (· ++ [mark]) := by
  induction parts with
  | nil => exact absurd rfl h
  | cons part parts ih =>
    -- the mark stands behind each part but the last, and then behind that one as well
    cases parts with
    | nil => simp [List.intercalate]
    | cons next parts =>
      rw [List.flatMap_cons, ← ih (List.cons_ne_nil next parts), List.intercalate_cons_cons]
      simp

/-- Labels whose names and values avoid the marks that follow them. -/
def AvoidMarks (labels : Labels) : Prop :=
  ∀ label ∈ labels, '=' ∉ label.1.toList ∧ ',' ∉ label.2.toList

theorem AvoidMarks.sort {labels : Labels} (h : AvoidMarks labels) :
    AvoidMarks (sortLabels labels) :=
  fun label hlabel => h label ((sortLabels_perm labels).mem_iff.mp hlabel)

/-- **Labels that avoid the marks** are told by their text. -/
theorem flatMap_labelText_inj {labels labels' : Labels} (h : AvoidMarks labels)
    (h' : AvoidMarks labels')
    (htext : labels.flatMap (labelText · ++ [',']) = labels'.flatMap (labelText · ++ [','])) :
    labels = labels' := by
  -- a label is told by its text, and what is behind it by the induction
  induction labels generalizing labels' with
  | nil =>
    cases labels' with
    | nil => rfl
    | cons label' labels' => simp [labelText] at htext
  | cons label labels ih =>
    cases labels' with
    | nil => simp [labelText] at htext
    | cons label' labels' =>
      obtain ⟨⟨hname, hvalue⟩, hrest⟩ := List.forall_mem_cons.mp h
      obtain ⟨⟨hname', hvalue'⟩, hrest'⟩ := List.forall_mem_cons.mp h'
      rw [List.flatMap_cons, List.flatMap_cons, labelText_append, labelText_append] at htext
      -- the name ends at the first mark and the value at the next one
      obtain ⟨hsame, htext⟩ := eq_of_append_mark hname hname' htext
      obtain ⟨hsame', htext⟩ := eq_of_append_mark hvalue hvalue' htext
      have hlabel : label = label' :=
        Prod.ext (String.toList_injective hsame) (String.toList_injective hsame')
      rw [hlabel, ih hrest hrest' htext]

theorem labelTexts_inj {labels labels' : Labels} (h : AvoidMarks labels)
    (h' : AvoidMarks labels') (hne : labels ≠ []) (hne' : labels' ≠ [])
    (htext : labelTexts labels = labelTexts labels') : labels = labels' := by
  have hbehind := congrArg (· ++ [',']) htext
  simp only [labelTexts] at hbehind
  rw [intercalate_append_mark _ (mt List.map_eq_nil_iff.mp hne),
    intercalate_append_mark _ (mt List.map_eq_nil_iff.mp hne'), List.flatMap_map,
    List.flatMap_map] at hbehind
  exact flatMap_labelText_inj h h' hbehind

/-! ### Plain series -/

namespace Series

/-- Series whose texts can be read back: no mark stands where the text has one behind it, and
alphabetical order tells the label names apart. -/
structure IsPlain (s : Series) : Prop where
  name : ':' ∉ s.name.toList
  labels : AvoidMarks s.labelSet
  alphabetical : Alphabetical s.labelSet

theorem text_toList (s : Series) :
    s.text.toList =
      if s.labelSet = [] then s.name.toList
      else s.name.toList ++ ':' :: labelTexts (sortLabels s.labelSet) :=
  seriesKey_toList s.name s.labels

/-- Series that are the same have one text, if alphabetical order tells the label names apart. -/
theorem text_congr {s t : Series} (hs : Alphabetical s.labelSet) (h : s.IsSame t) :
    s.text = t.text := by
  obtain ⟨hname, hperm⟩ := h
  -- series that are the same have their labels in some order, and the text sorts them
  have hempty : s.labelSet = [] ↔ t.labelSet = [] := by
    rw [← List.length_eq_zero_iff, ← List.length_eq_zero_iff, hperm.length_eq]
  have hsorted : sortLabels s.labelSet = sortLabels t.labelSet :=
    sortLabels_congr s.distinct hs hperm
  refine String.toList_injective ?_
  simp only [text_toList, hname, hsorted, hempty]

/-- **Plain series** are told apart by their texts. -/
theorem text_eq_iff {s t : Series} (hs : s.IsPlain) (ht : t.IsPlain) :
    s.text = t.text ↔ s.IsSame t := by
  refine ⟨fun h => ?_, text_congr hs.alphabetical⟩
  have hlists := congrArg String.toList h
  rw [text_toList, text_toList] at hlists
  split at hlists
  · next hnone =>
    split at hlists
    · next hnone' =>
      refine ⟨String.toList_injective hlists, ?_⟩
      rw [hnone, hnone']
    · -- only a series with labels has the mark behind its name
      exact absurd (hlists ▸ by simp) hs.name
  · next hsome =>
    split at hlists
    · exact absurd (hlists ▸ by simp) ht.name
    · next hsome' =>
      obtain ⟨hname, hlabels⟩ := eq_of_append_mark hs.name ht.name hlists
      -- sorting loses nothing, so the labels are the same in another order
      have hsorted : sortLabels s.labelSet = sortLabels t.labelSet :=
        labelTexts_inj hs.labels.sort ht.labels.sort (sortLabels_ne_nil hsome)
          (sortLabels_ne_nil hsome') hlabels
      refine ⟨String.toList_injective hname, ?_⟩
      calc s.labelSet.Perm (sortLabels s.labelSet) := (sortLabels_perm _).symm
        _ = sortLabels t.labelSet := hsorted
        List.Perm _ t.labelSet := sortLabels_perm _

/-- The series of the calls of the store, for one of their counters. -/
def ofCall (name operation table : String) : Series where
  name := name
  labels := callLabels operation table
  distinct := show ["operation", "table"].Nodup by decide

/-- **Series of calls** are plain if neither the operation nor the table has a comma in its name. -/
theorem ofCall_isPlain {name operation table : String} (hname : ':' ∉ name.toList)
    (hoperation : ',' ∉ operation.toList) (htable : ',' ∉ table.toList) :
    (ofCall name operation table).IsPlain where
  name := hname
  labels := by
    -- the marks must not stand in the names, and the values here are the names of the call
    have hmarks : ∀ label ∈ [("operation", operation), ("table", table)],
        '=' ∉ label.1.toList ∧ ',' ∉ label.2.toList := by
      simp [hoperation, htable]
    exact hmarks
  alphabetical := by
    have hprintable : ∀ name ∈ ["operation", "table"], ∀ c ∈ name.toList, Text.IsPrintable c := by
      simp [Text.IsPrintable]
    exact alphabetical_of_printable fun l hl => hprintable l.1 (List.mem_map_of_mem hl)

end Series

end NamedQuery
