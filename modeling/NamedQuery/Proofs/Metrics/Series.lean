import Mathlib
import NamedQuery.Proofs.Decimal.Extremes
import NamedQuery.Proofs.Metrics.Labels

/-!
# What a collector reports of a series

A collector is called any number of times and can be reset in between. What it reports of a series
is to be made of the calls for that series since the last reset: the sum of the increments, and the
summary of the values. Calls go to the texts of their series, so this holds of some series exactly
if their texts tell them apart.

* `Collector.Call`, `run` — the calls of a collector, one after the other;
* `sinceReset`, `increments`, `records` — the calls since the last reset, and what they add to a
  choice of series;
* `counter_run`, `values_run` — a counter and a histogram are made of the calls with their text;
* `Reports`, `KeepsApart` — what a collector is to report of its series;
* `keepsApart_iff` — when it does.
-/

namespace NamedQuery.Collector

/-- A call of a collector. -/
inductive Call where
  /-- Counts a series up, by one if no value is given. -/
  | increment (series : Series) (value : Option Float)
  | record (series : Series) (value : Float)
  | reset

/-- Carries out a call. -/
def perform (m : Collector) : Call → Collector
  | .increment series value => m.add (.counter series.name value series.labels)
  | .record series value => m.add (.histogram series.name value series.labels)
  | .reset => m.reset

/-- A new collector after some calls. -/
def run (calls : List Call) : Collector :=
  calls.foldl perform {}

namespace Call

/-- Whether a call begins anew. -/
def isReset : Call → Bool
  | reset => true
  | increment .. | record .. => false

/-- What a call adds to the counters of a choice of series. -/
def increment? (chosen : Series → Bool) : Call → Option Float
  | increment series value => if chosen series then some (value.getD 1) else none
  | record .. | reset => none

/-- What a call records for the histograms of a choice of series. -/
def record? (chosen : Series → Bool) : Call → Option Float
  | record series value => if chosen series then some value else none
  | increment .. | reset => none

/-- Whether the series of a call, if it has one, is in a set. -/
def IsIn (S : Set Series) : Call → Prop
  | increment series _ | record series _ => series ∈ S
  | reset => True

end Call

/-- The calls since the last reset. -/
def sinceReset (calls : List Call) : List Call :=
  calls.rtakeWhile fun call => !call.isReset

/-- The increments of a choice of series since the last reset. -/
def increments (chosen : Series → Bool) (calls : List Call) : List Float :=
  (sinceReset calls).filterMap (Call.increment? chosen)

/-- The values recorded for a choice of series since the last reset. -/
def records (chosen : Series → Bool) (calls : List Call) : List Float :=
  (sinceReset calls).filterMap (Call.record? chosen)

/-- The sum of some numbers, in their order. -/
def total (values : List Float) : Float :=
  values.foldl (· + ·) 0

variable {S : Set Series} {s t : Series} {calls : List Call} {call : Call}

/-! ### One more call -/

theorem run_concat (calls : List Call) (call : Call) :
    run (calls ++ [call]) = (run calls).perform call :=
  List.foldl_append

theorem sinceReset_concat (hcall : call.isReset = false) :
    sinceReset (calls ++ [call]) = sinceReset calls ++ [call] :=
  List.rtakeWhile_concat_pos _ _ _ (by rw [hcall]; rfl)

theorem sinceReset_concat_reset : sinceReset (calls ++ [.reset]) = [] :=
  List.rtakeWhile_concat_neg _ _ _ Bool.false_ne_true

/-- One more call adds what is taken from it. -/
theorem filterMap_sinceReset_concat (taken? : Call → Option Float) (hcall : call.isReset = false) :
    (sinceReset (calls ++ [call])).filterMap taken? =
      (sinceReset calls).filterMap taken? ++ (taken? call).toList := by
  rw [sinceReset_concat hcall, List.filterMap_append]
  cases hvalue : taken? call <;> simp [hvalue]

/-! ### Calls by their texts -/

/-- Whether a series has the text of a given one. -/
def sharesText (s t : Series) : Bool :=
  t.text == s.text

/-- **An increment** adds to the counter with its text. -/
theorem counter_increment (m : Collector) (s t : Series) (value : Option Float) :
    (m.perform (.increment t value)).counter s.name s.labels =
      if sharesText s t then m.counter s.name s.labels + value.getD 1
      else m.counter s.name s.labels := by
  show (m.add (.counter t.name value t.labels)).counter s.name s.labels = _
  rw [counter_add]
  exact if_congr (eq_comm.trans beq_iff_eq.symm) rfl rfl

/-- **A recorded value** is put behind those of the histogram with its text. -/
theorem values_record (m : Collector) (s t : Series) (value : Float) :
    (m.perform (.record t value)).values s.name s.labels =
      if sharesText s t then m.values s.name s.labels ++ [value]
      else m.values s.name s.labels := by
  show (m.add (.histogram t.name value t.labels)).values s.name s.labels = _
  rw [values_add]
  exact if_congr (eq_comm.trans beq_iff_eq.symm) rfl rfl

/-- **A counter is made of the increments with its text**, whatever else was called. -/
theorem counter_run (calls : List Call) (s : Series) :
    (run calls).counter s.name s.labels = total (increments (sharesText s) calls) := by
  -- The induction is on the calls from the last one, which adds to what those before have made.
  induction calls using List.reverseRecOn with
  | nil => rfl
  | append_singleton calls call ih =>
    rw [run_concat]
    cases call with
    | increment t value =>
      -- only an increment of a series with the same text adds to the total
      rw [counter_increment, increments, filterMap_sinceReset_concat _ rfl, Call.increment?, ih]
      split
      · rw [Option.toList_some, total, total, List.foldl_append]
        rfl
      · rw [Option.toList_none, List.append_nil]
        rfl
    -- a value that is recorded adds nothing
    | record t value =>
      rw [increments, filterMap_sinceReset_concat _ rfl, Call.increment?, Option.toList_none,
        List.append_nil]
      exact ih
    -- behind a reset the account starts anew
    | reset =>
      rw [increments, sinceReset_concat_reset]
      rfl

/-- **A histogram is made of the values with its text**, whatever else was called. -/
theorem values_run (calls : List Call) (s : Series) :
    (run calls).values s.name s.labels = records (sharesText s) calls := by
  -- the induction is on the calls from the last one again
  induction calls using List.reverseRecOn with
  | nil => rfl
  | append_singleton calls call ih =>
    rw [run_concat]
    cases call with
    | increment t value =>
      rw [records, filterMap_sinceReset_concat _ rfl, Call.record?, Option.toList_none,
        List.append_nil]
      exact ih
    -- a record is added at the end, for a series with the same text
    | record t value =>
      rw [values_record, records, filterMap_sinceReset_concat _ rfl, Call.record?, ih]
      split
      · rfl
      · rw [Option.toList_none, List.append_nil]
        rfl
    | reset =>
      rw [records, sinceReset_concat_reset]
      rfl

/-! ### Calls by their series -/

/-- Whether a series is the same as a given one. -/
def isSame (s t : Series) : Bool :=
  decide (t.IsSame s)

/-- What a collector is to report of a series after some calls. -/
structure Reports (m : Collector) (calls : List Call) (s : Series) : Prop where
  /-- The counter is the sum of the increments. -/
  counter : m.counter s.name s.labels = total (increments (isSame s) calls)
  /-- Integers are added up exactly. -/
  integers_counted : ∀ {zs : List Int}, increments (isSame s) calls = zs.map Float.ofInt →
    Decimal.SumsSafely zs → m.counter s.name s.labels = Float.ofInt zs.sum
  /-- The histogram is the summary of the values. -/
  histogram : m.histogram? s.name s.labels = Summary.of? (records (isSame s) calls)
  /-- Integers are summarised exactly. -/
  integers_recorded : ∀ {zs : List Int}, records (isSame s) calls = zs.map Float.ofInt →
    Decimal.SumsSafely zs → m.histogram? s.name s.labels = Summary.ofIntegers? zs
  /-- There is no summary if there are no values. -/
  unrecorded : m.histogram? s.name s.labels = none ↔ records (isSame s) calls = []

/-- Whether a collector reports what it is to, as long as the series of a set are used. -/
def KeepsApart (S : Set Series) : Prop :=
  ∀ calls : List Call, (∀ call ∈ calls, call.IsIn S) → ∀ s ∈ S, (run calls).Reports calls s

/-- A collector reports what it is to if its counter and its values are those of the series. -/
theorem Reports.intro {m : Collector} {calls : List Call} {s : Series}
    (hcounter : m.counter s.name s.labels = total (increments (isSame s) calls))
    (hvalues : m.values s.name s.labels = records (isSame s) calls) : m.Reports calls s where
  -- all other reports are computed from the counter and the values
  counter := hcounter
  integers_counted hzs hsafe := by rw [hcounter, hzs, total, Decimal.foldl_add_ofInt hsafe]
  histogram := by rw [histogram?, hvalues]
  integers_recorded hzs hsafe := by rw [histogram?, hvalues, hzs, Summary.of?_map_ofInt hsafe]
  unrecorded := by
    rw [histogram?, hvalues]
    cases records (isSame s) calls <;> simp [Summary.of?]

theorem mem_of_mem_sinceReset (hcall : call ∈ sinceReset calls) : call ∈ calls :=
  (List.rtakeWhile_suffix _ _).subset hcall

/-- **Series whose texts tell them apart** are kept apart. -/
theorem keepsApart_of_texts (hS : ∀ s ∈ S, ∀ t ∈ S, s.text = t.text ↔ s.IsSame t) :
    KeepsApart S := by
  intro calls hcalls s hs
  -- among series of `S` sharing a text and being the same are one
  have hchosen : ∀ t ∈ S, sharesText s t = isSame s t := by
    intro t ht
    rw [Bool.eq_iff_iff, sharesText, isSame, beq_iff_eq, decide_eq_true_iff]
    exact hS t ht s hs
  -- what is counted since the last reset is among the calls, so it is about series of `S`
  have hin : ∀ call ∈ sinceReset calls, call.IsIn S := fun call hcall =>
    hcalls call (mem_of_mem_sinceReset hcall)
  refine .intro ?_ ?_
  · -- counters: a call is chosen by its text exactly if it is chosen by its series
    rw [counter_run]
    refine congrArg total (List.filterMap_congr fun call hcall => ?_)
    cases call with
    | increment t value => rw [Call.increment?, Call.increment?, hchosen t (hin _ hcall)]
    | record t value => rfl
    | reset => rfl
  · -- recorded values: the same, for the other kind of call
    rw [values_run]
    refine List.filterMap_congr fun call hcall => ?_
    cases call with
    | increment t value => rfl
    | record t value => rw [Call.record?, Call.record?, hchosen t (hin _ hcall)]
    | reset => rfl

/-- The increments of a choice of series after one increment. -/
theorem total_increments_single (chosen : Series → Bool) (s : Series) :
    total (increments chosen [.increment s (some 1)]) = if chosen s then 1 else 0 := by
  have hsince : sinceReset [.increment s (some 1)] = [.increment s (some 1)] :=
    @sinceReset_concat [] _ rfl
  have hone : (0 : Float) + 1 = 1 := by decide
  cases hchosen : chosen s <;> simp [increments, hsince, Call.increment?, hchosen, total, hone]

/-- **Series that are kept apart** are told apart by their texts. If one of them is counted once,
then the other is counted as well if it has the same text. -/
theorem texts_of_keepsApart (h : KeepsApart S) (hs : s ∈ S) (ht : t ∈ S) :
    s.text = t.text ↔ s.IsSame t := by
  -- one call of one series shows whether the other one is counted with it
  have hcounter := (h [.increment s (some 1)] (by simpa [Call.IsIn] using hs) t ht).counter
  rw [counter_run, total_increments_single, total_increments_single] at hcounter
  have hone : (1 : Float) ≠ 0 := by decide
  -- sharing a text without being the same would count what should not be, and the other way round
  have hsame : sharesText t s = isSame t s := by
    by_contra hdiffer
    cases htext : sharesText t s with
    | true =>
      rw [if_pos htext, if_neg fun hsame => hdiffer (htext.trans hsame.symm)] at hcounter
      exact hone hcounter
    | false =>
      have hseries : isSame t s = true := by simpa [htext] using Ne.symm hdiffer
      rw [if_neg (by rw [htext]; decide), if_pos hseries] at hcounter
      exact hone hcounter.symm
  rwa [Bool.eq_iff_iff, sharesText, isSame, beq_iff_eq, decide_eq_true_iff] at hsame

/-- **A collector keeps series apart** exactly if their texts tell them apart, which those of plain
series do. -/
theorem keepsApart_iff (S : Set Series) :
    (KeepsApart S ↔ ∀ s ∈ S, ∀ t ∈ S, s.text = t.text ↔ s.IsSame t) ∧
      ((∀ s ∈ S, s.IsPlain) → KeepsApart S) :=
  ⟨⟨fun h _ hs _ ht => texts_of_keepsApart h hs ht, keepsApart_of_texts⟩,
    fun hplain => keepsApart_of_texts fun s hs t ht =>
      Series.text_eq_iff (hplain s hs) (hplain t ht)⟩

/-- A label whose value reads like two labels. -/
def joinedLabels : Series :=
  { name := "calls", labels := some [("a", "1,b=2")], distinct := by decide }

/-- The two labels that it reads like. -/
def twoLabels : Series :=
  { name := "calls", labels := some [("a", "1"), ("b", "2")], distinct := by decide }

/-- The comma in a value stands in the text as the one between two labels does. So the counter of
one series has the increment of the other. -/
theorem increment_mixed :
    ¬ joinedLabels.IsSame twoLabels ∧
      (run [.increment joinedLabels (some 1)]).counter twoLabels.name twoLabels.labels = 1 ∧
        ¬ (run [.increment joinedLabels (some 1)]).Reports [.increment joinedLabels (some 1)]
          twoLabels := by
  have hdiffer : ¬ joinedLabels.IsSame twoLabels := by decide
  -- the comma in the value is read like the one between two labels
  have htext : sharesText twoLabels joinedLabels = true := by
    have hsorted : sortLabels [("a", "1"), ("b", "2")] = [("a", "1"), ("b", "2")] := by
      refine List.mergeSort_of_pairwise (List.pairwise_pair.mpr ?_)
      show (Text.compareLabels "a" "b" != .gt) = true
      decide
    have hsingle : sortLabels [("a", "1,b=2")] = [("a", "1,b=2")] := List.mergeSort_singleton _
    simp only [sharesText, Series.text, joinedLabels, twoLabels, seriesKey, hsorted, hsingle]
    decide
  have hcounted : (run [.increment joinedLabels (some 1)]).counter twoLabels.name
      twoLabels.labels = 1 := by
    rw [counter_run, total_increments_single, if_pos htext]
  refine ⟨hdiffer, hcounted, fun hreports => ?_⟩
  -- what is counted is one, and what should be is zero
  have hcounter := hreports.counter
  rw [hcounted, total_increments_single, isSame, if_neg (by simpa using hdiffer)] at hcounter
  exact absurd hcounter (by decide)

end NamedQuery.Collector
