import ShadowIndex.Observe.Attribute
import ShadowIndex.Observe.Note

/-!
Contract: the trail of a service, one sequence of events from which logs, spans and metrics
are read.

Owns:
- `Event` and `Trail`;
- the reading of a trail as log lines, each with the fields bound at the time;
- its reading as finished spans, each with the span around it;
- its reading as counters.

Does not own: when events happen, or the written forms of these readings.
-/

set_option autoImplicit false

namespace ShadowIndex

inductive Metric where
  | queries
  | staleMarks
  | reindexed
  | reindexFailures
  | latency
deriving DecidableEq, Repr, Inhabited

/-- One event. Fields are bound, and spans opened, in pairs that nest. -/
inductive Event where
  | bind (fields : List (String × Value))
  | unbind
  | openSpan (name : String) (attributes : List (String × Value))
  | setAttribute (name : String) (value : Value)
  | closeSpan (failure : Option Failure)
  | count (metric : Metric) (labels : List (String × String)) (amount : Nat)
  | note (note : Note)
deriving Inhabited

/-- The events so far, the last one first. -/
structure Trail where
  latestFirst : List Event
deriving Inhabited

namespace Trail

def empty : Trail := ⟨[]⟩

def record (trail : Trail) (event : Event) : Trail := ⟨event :: trail.latestFirst⟩

def events (trail : Trail) : List Event := trail.latestFirst.reverse

@[simp] theorem events_record (trail : Trail) (event : Event) :
    (trail.record event).events = trail.events ++ [event] := by
  simp [events, record]

end Trail

/-! ## Log lines -/

/-- A note and the fields bound when it was written. -/
structure LogLine where
  note : Note
  bound : Table String Value

/-- The lines under way: the fields bound by each open binding, innermost first. -/
structure LogReading where
  bindings : List (Table String Value)
  lines : List LogLine

namespace LogReading

def start : LogReading := ⟨[], []⟩

def bound (reading : LogReading) : Table String Value := reading.bindings.headD .empty

/-- A binding adds to the fields bound around it. -/
def step (reading : LogReading) : Event → LogReading
  | .bind fields =>
      { reading with bindings := reading.bound.insertAll fields :: reading.bindings }
  | .unbind => { reading with bindings := reading.bindings.drop 1 }
  | .note note => { reading with lines := ⟨note, reading.bound⟩ :: reading.lines }
  | _ => reading

end LogReading

def Trail.logLines (trail : Trail) : List LogLine :=
  (trail.events.foldl LogReading.step LogReading.start).lines.reverse

/-! ## Spans -/

/-- A span of work; `parent` is the number of the span around it. What ends a program is no failure
of the work. -/
structure Span where
  number : Nat
  parent : Option Nat
  name : String
  attributes : Table String Value
  failure : Option Failure

/-- The spans under way: the open ones, innermost first, and the finished ones, last first. -/
structure SpanReading where
  opened : Nat
  active : List Span
  finished : List Span

namespace SpanReading

def start : SpanReading := ⟨0, [], []⟩

def step (reading : SpanReading) : Event → SpanReading
  | .openSpan name attributes =>
      { reading with
        opened := reading.opened + 1
        active :=
          ⟨reading.opened, reading.active.head?.map Span.number, name, Attribute.ofSpan attributes,
            none⟩ :: reading.active }
  | .setAttribute name value =>
      match reading.active with
      | [] => reading
      | span :: around =>
          { reading with
            active :=
              { span with attributes := Attribute.put span.attributes name value } :: around }
  | .closeSpan failure =>
      match reading.active with
      | [] => reading
      | span :: around =>
          { reading with
            active := around
            finished :=
              { span with failure := failure.filter (!·.isEnding) } :: reading.finished }
  | _ => reading

end SpanReading

/-- The finished spans of a trail, in order of finishing. -/
def Trail.spans (trail : Trail) : List Span :=
  (trail.events.foldl SpanReading.step SpanReading.start).finished.reverse

/-! ## Counters -/

/-- One counter: a metric with the values of its labels. -/
structure Counter where
  metric : Metric
  labels : List (String × String)
deriving DecidableEq, Repr, Inhabited

namespace Event

def amount (counter : Counter) : Event → Nat
  | count metric labels amount =>
      if Counter.mk metric labels = counter then amount else 0
  | _ => 0

end Event

def Trail.total (trail : Trail) (counter : Counter) : Nat :=
  (trail.events.map (Event.amount counter)).foldr (· + ·) 0

/-- The counters that a trail touches, in order of first use, with their values. -/
def Trail.counters (trail : Trail) : Table Counter Nat :=
  trail.events.foldl
    (fun totals event =>
      match event with
      | .count metric labels amount =>
          totals.insert ⟨metric, labels⟩ ((totals.find? ⟨metric, labels⟩).getD 0 + amount)
      | _ => totals)
    .empty

end ShadowIndex
