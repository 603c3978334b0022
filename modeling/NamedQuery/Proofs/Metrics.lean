import Mathlib.Data.List.Basic
import NamedQuery.Metrics
import NamedQuery.Proofs.Decimal.Sums
import NamedQuery.Run

/-!
# What counters come to

A collector keeps its counters by the text of their series. So a counter has been counted as often
as there are measurements with that text, whatever else was measured, and two series are kept apart
if their texts differ.

* `Collector.counter_add`, `Collector.values_add` — a measurement changes the counter or the
  histogram with its text, and no other;
* `Collector.counter_addAll` — a counter after any number of increments by one;
* `callLabels`, `seriesKey_callLabels_inj` — the series of calls of the store are told apart by
  their name, their operation and their table, as long as no operation has a comma in its name.
-/

namespace NamedQuery

/-- The text that identifies the series of a measurement. -/
def Measurement.key : Measurement → String
  | counter name _ labels | histogram name _ labels => seriesKey name labels

/-- A counter that goes up by one. -/
def Measurement.IsIncrement (m : Measurement) : Prop :=
  ∃ name labels, m = .counter name (some 1) labels

namespace Collector

variable {name name' : String} {labels labels' : Option Labels}

/-- Taking the entries of one key away leaves those of the others. -/
theorem lookup_filter_ne {α : Type} {entries : List (String × α)} {key key' : String}
    (h : key' ≠ key) :
    (entries.filter fun entry => entry.1 != key).lookup key' = entries.lookup key' := by
  induction entries with
  | nil => rfl
  | cons entry entries ih =>
    obtain ⟨other, value⟩ := entry
    -- an entry under the removed key is passed over in any case
    by_cases hother : other = key
    · subst hother
      rw [List.filter_cons_of_neg (by simp), ih, List.lookup_cons, beq_false_of_ne h]
    · rw [List.filter_cons_of_pos (by simpa using hother), List.lookup_cons, List.lookup_cons, ih]

theorem lookup_replace {α : Type} (entries : List (String × α)) (key key' : String) (value : α) :
    (replace entries key value).lookup key' =
      if key' = key then some value else entries.lookup key' := by
  rw [replace, List.lookup_cons]
  by_cases hkey : key' = key
  · rw [if_pos hkey, beq_iff_eq.mpr hkey]
  · rw [if_neg hkey, beq_false_of_ne hkey, lookup_filter_ne hkey]

/-- **A counter that is counted** grows. The others stay as they were. -/
theorem counter_add (m : Collector) (value : Option Float) :
    (m.add (.counter name' value labels')).counter name labels =
      if seriesKey name labels = seriesKey name' labels' then
        m.counter name labels + value.getD 1
      else m.counter name labels := by
  show ((replace _ _ _).lookup _).getD 0 = _
  rw [lookup_replace]
  split
  · next hkey => rw [counter, counter, hkey, Option.getD_some]
  · rfl

/-- **A histogram that records a value** has it behind the others. The other histograms stay as they
were. -/
theorem values_add (m : Collector) (value : Float) :
    (m.add (.histogram name' value labels')).values name labels =
      if seriesKey name labels = seriesKey name' labels' then m.values name labels ++ [value]
      else m.values name labels := by
  show ((replace _ _ _).lookup _).getD [] = _
  rw [lookup_replace]
  split
  · next hkey => rw [values, values, hkey, Option.getD_some]
  · rfl

/-- **A counter after some increments** counts those of its series. -/
theorem counter_addAll {ms : List Measurement} (hms : ∀ m ∈ ms, m.IsIncrement) {m : Collector}
    {n : Nat} (hn : m.counter name labels = Decimal.tally n) :
    (m.addAll ms).counter name labels =
      Decimal.tally (n + ms.countP (·.key == seriesKey name labels)) := by
  -- The induction is on the measurements, and the collector is what those before have made of it.
  induction ms generalizing m n with
  | nil => exact hn
  | cons increment ms ih =>
    obtain ⟨⟨name', labels', rfl⟩, hrest⟩ := List.forall_mem_cons.mp hms
    have hadd := @counter_add name name' labels labels' m (some 1)
    rw [addAll, List.foldl_cons]
    by_cases hkey : seriesKey name' labels' = seriesKey name labels
    · rw [if_pos hkey.symm, hn, Option.getD_some, Decimal.tally_add_one] at hadd
      rw [List.countP_cons_of_pos (by simpa [Measurement.key] using hkey), ← Nat.add_assoc,
        Nat.add_right_comm]
      exact ih hrest hadd
    · rw [if_neg (Ne.symm hkey), hn] at hadd
      rw [List.countP_cons_of_neg (by simpa [Measurement.key] using hkey)]
      exact ih hrest hadd

end Collector

/-! ### Calls of the store -/

/-- The labels of a call of the store. -/
def callLabels (operation table : String) : Option Labels :=
  some [("operation", operation), ("table", table)]

/-- The labels stand in order. -/
theorem seriesKey_callLabels (name operation table : String) :
    (seriesKey name (callLabels operation table)).toList =
      name.toList ++ ":operation=".toList ++ (operation.toList ++ ',' :: ("table=".toList ++
        table.toList)) := by
  -- the names of the labels are in alphabetical order as they stand
  have hsorted : sortLabels [("operation", operation), ("table", table)] =
      [("operation", operation), ("table", table)] := by
    refine List.mergeSort_of_pairwise (List.pairwise_pair.mpr ?_)
    show (Text.compareLabels "operation" "table" != .gt) = true
    decide
  have hjoined : seriesKey name (callLabels operation table) =
      name ++ ":" ++ ("operation=" ++ operation ++ "," ++ ("table=" ++ table)) := by
    simp only [seriesKey, callLabels, hsorted]
    rfl
  rw [hjoined]
  simp [String.toList_append]

/-- What stands in front of the first mark is told by it. -/
theorem eq_of_append_mark {α : Type} {mark : α} {front front' rest rest' : List α}
    (hfront : mark ∉ front) (hfront' : mark ∉ front')
    (h : front ++ mark :: rest = front' ++ mark :: rest') : front = front' ∧ rest = rest' := by
  -- the longer front would hold the mark that the shorter one stops at
  rcases List.append_eq_append_iff.mp h with ⟨more, rfl, hmore⟩ | ⟨more, rfl, hmore⟩
  · cases more with
    | nil => exact ⟨by simp, by simpa using hmore⟩
    | cons c more =>
      obtain ⟨rfl, -⟩ := List.cons.inj hmore
      exact absurd (by simp) hfront'
  · cases more with
    | nil => exact ⟨by simp, by simpa using hmore.symm⟩
    | cons c more =>
      obtain ⟨rfl, -⟩ := List.cons.inj hmore
      exact absurd (by simp) hfront

/-- The two counters of calls have different texts, whatever their labels are. -/
theorem seriesKey_errors_ne (operation table operation' table' : String) :
    seriesKey MetricName.errors (callLabels operation table) ≠
      seriesKey MetricName.storageCalls (callLabels operation' table') := by
  intro h
  -- the names part at the twelfth character
  have hlists := congrArg (fun text : String => text.toList.take 12) h
  simp only [seriesKey_callLabels] at hlists
  exact absurd hlists (by simp [MetricName.errors, MetricName.storageCalls])

/-- **Series of calls** are told apart by their operation and their table. -/
theorem seriesKey_callLabels_inj {name operation table operation' table' : String}
    (hoperation : ',' ∉ operation.toList) (hoperation' : ',' ∉ operation'.toList) :
    seriesKey name (callLabels operation table) = seriesKey name (callLabels operation' table') ↔
      operation = operation' ∧ table = table' := by
  refine ⟨fun h => ?_, fun ⟨hname, htable⟩ => by rw [hname, htable]⟩
  have hlists := congrArg String.toList h
  rw [seriesKey_callLabels, seriesKey_callLabels] at hlists
  obtain ⟨hsame, hrest⟩ :=
    eq_of_append_mark hoperation hoperation' (List.append_cancel_left hlists)
  exact ⟨String.toList_injective hsame, String.toList_injective (List.append_cancel_left hrest)⟩

end NamedQuery
