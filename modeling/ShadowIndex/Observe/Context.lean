import ShadowIndex.Failure
import ShadowIndex.Table

/-!
Contract: the trace context, the fields that go with everything that is written.

Owns:
- `TraceIds`, what names a trace and a span in it;
- `TraceContext`, the fields in force and those that open bindings have put aside;
- reading, replacing and binding fields. A context whose trace has no id counts as none, and
  reading starts a new trace.

Does not own: how ids are made; a source gives them by number.
-/

set_option autoImplicit false

namespace ShadowIndex

structure TraceIds where
  trace : String
  span : String
deriving DecidableEq, Repr, Inhabited

namespace TraceIds

def traceField : String := "trace_id"

def spanField : String := "span_id"

def fields (ids : TraceIds) : List (String × Value) :=
  [(traceField, .str ids.trace), (spanField, .str ids.span)]

end TraceIds

/-- The fields in force, if any were ever set; what each open binding has put aside, innermost
first; and how many traces were started. -/
structure TraceContext where
  current : Option (Table String Value)
  aside : List (Option (Table String Value))
  started : Nat

namespace TraceContext

def empty : TraceContext := ⟨none, [], 0⟩

instance : Inhabited TraceContext := ⟨empty⟩

def hasTrace (fields : Table String Value) : Bool :=
  ((fields.find? TraceIds.traceField).map Value.truthy).getD false

/-- The fields in force; without a trace, those of a new one, which come into force. -/
def read (source : Nat → TraceIds) (context : TraceContext) : Table String Value × TraceContext :=
  let fresh := Table.ofList (source context.started).fields
  let start := (fresh, { context with current := some fresh, started := context.started + 1 })
  match context.current with
  | none => start
  | some fields => if hasTrace fields then (fields, context) else start

/-- The function that puts fields into force, as messages name it. -/
def setName : String := "set_trace_context"

/-- Puts ids and further fields into force. No further field has the name of an id. -/
def set (ids : TraceIds) (extra : List (String × Value)) (context : TraceContext) :
    Except Failure TraceContext :=
  match extra.find? fun row => (ids.fields.map Prod.fst).contains row.1 with
  | some row => .error (.argument setName row.1 .repeated)
  | none => .ok { context with current := some (Table.ofList (ids.fields ++ extra)) }

/-- Puts ids into force and keeps the other fields. -/
def adopt (ids : TraceIds) (context : TraceContext) : TraceContext :=
  { context with current := some ((context.current.getD .empty).insertAll ids.fields) }

/-- Adds fields until the binding is closed. -/
def bind (source : Nat → TraceIds) (fields : List (String × Value)) (context : TraceContext) :
    Table String Value × TraceContext :=
  let (around, context) := context.read source
  let bound := around.insertAll fields
  (bound, { context with current := some bound, aside := some around :: context.aside })

/-- Closes the innermost binding; what was set since it was opened is forgotten. -/
def leave (context : TraceContext) : TraceContext :=
  match context.aside with
  | [] => context
  | fields :: outer => { context with current := fields, aside := outer }

/-- Closing a binding brings back the fields that were read when it was opened. -/
theorem current_leave_bind (source : Nat → TraceIds) (fields : List (String × Value))
    (context : TraceContext) :
    (context.bind source fields).2.leave.current = some (context.read source).1 := rfl

end TraceContext

end ShadowIndex
