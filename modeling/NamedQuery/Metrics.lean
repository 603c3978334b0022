import NamedQuery.Fields
import NamedQuery.Decimal.Notation
import NamedQuery.Text.Collation

/-!
# Metrics

Counters and histograms, each identified by a name and a set of labels.

* `Measurement` — something that was counted or recorded;
* `Collector` — what has been measured, by series;
* `seriesKey` — the text that identifies a series: the name and the labels in alphabetical order;
* `Summary` — count, sum and extremes of a histogram.
-/

namespace NamedQuery

/-- The labels of a series. -/
abbrev Labels := Fields String

/-- Something that was counted or recorded. -/
inductive Measurement where
  /-- An increment of a counter, by one if no value is given. -/
  | counter (name : String) (value : Option Float) (labels : Option Labels)
  | histogram (name : String) (value : Float) (labels : Option Labels)

namespace MetricName

/-- Calls of query methods, by method and access path. -/
def queries : String := "repository_queries_total"

/-- Calls of the store, by operation and table. -/
def storageCalls : String := "repository_storage_calls_total"

/-- Pages that a query or scan read. -/
def pagesFetched : String := "repository_pages_fetched_total"

/-- Items that were handed back. -/
def itemsReturned : String := "repository_items_returned"

/-- Calls of the store that failed, by operation and table. -/
def errors : String := "repository_errors_total"

end MetricName

/-- The labels in alphabetical order. -/
def sortLabels (labels : Labels) : Labels :=
  labels.mergeSort fun a b => Text.compareLabels a.1 b.1 != .gt

/-- The text that identifies a series. -/
def seriesKey (name : String) (labels : Option Labels) : String :=
  match labels with
  | none | some [] => name
  | some labels =>
    name ++ ":" ++ ",".intercalate ((sortLabels labels).map fun (k, v) => k ++ "=" ++ v)

/-- The smaller of two numbers; undefined if one of them is. A negative zero is smaller. -/
def smaller (x y : Float) : Float :=
  if x.isNaN then x
  else if y.isNaN then y
  else if x < y then x
  else if y < x then y
  else if Decimal.isNegative x then x else y

/-- The larger of two numbers; undefined if one of them is. A negative zero is smaller. -/
def larger (x y : Float) : Float :=
  if x.isNaN then x
  else if y.isNaN then y
  else if x < y then y
  else if y < x then x
  else if Decimal.isNegative x then y else x

/-- Count, sum and extremes of what a histogram recorded. -/
structure Summary where
  count : Nat
  sum : Float
  min : Float
  max : Float

/-- The summary of some values, if there are any. -/
def Summary.of? : List Float → Option Summary
  | [] => none
  | x :: xs =>
    some
      { count := xs.length + 1
        sum := (x :: xs).foldl (· + ·) 0
        min := xs.foldl smaller x
        max := xs.foldl larger x }

/-- What has been measured, by series. -/
structure Collector where
  counters : List (String × Float) := []
  histograms : List (String × List Float) := []

namespace Collector

/-- The value of a counter; zero if it was never counted. -/
def counter (m : Collector) (name : String) (labels : Option Labels) : Float :=
  (m.counters.lookup (seriesKey name labels)).getD 0

/-- The values a histogram recorded. -/
def values (m : Collector) (name : String) (labels : Option Labels) : List Float :=
  (m.histograms.lookup (seriesKey name labels)).getD []

/-- The summary of a histogram, if it recorded anything. -/
def histogram? (m : Collector) (name : String) (labels : Option Labels) : Option Summary :=
  Summary.of? (m.values name labels)

/-- Puts an entry in front and takes the older one of that key away. -/
def replace {α : Type} (entries : List (String × α)) (key : String) (value : α) :
    List (String × α) :=
  (key, value) :: entries.filter fun entry => entry.1 != key

/-- Adds a measurement to its series. -/
def add (m : Collector) : Measurement → Collector
  | .counter name value labels =>
    let total := m.counter name labels + value.getD 1
    { m with counters := replace m.counters (seriesKey name labels) total }
  | .histogram name value labels =>
    let values := m.values name labels ++ [value]
    { m with histograms := replace m.histograms (seriesKey name labels) values }

/-- Adds measurements in order. -/
def addAll (m : Collector) (ms : List Measurement) : Collector :=
  ms.foldl add m

/-- Forgets all that has been measured. -/
def reset (_ : Collector) : Collector := {}

end Collector

end NamedQuery
