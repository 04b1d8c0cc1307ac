import ShadowIndex.Value.Basic

/-!
Contract: streams, values that can be read once.

Owns:
- `Streams`, the marks of the streams that were read, and the number of uncertain look-ups;
- `Value.draw`, a value as it reads now: a stream that was read is empty, and any other counts as
  read afterwards.

Main statement: a value within which no stream is read draws as itself (`draw_eq_self`).

Does not own: the text of what is read.
-/

set_option autoImplicit false

namespace ShadowIndex

/-- What was read of what does not stay the same: the streams, by their marks, and the number of
look-ups at a host that does not always answer. -/
structure Streams where
  marks : List Nat
  lookUps : Nat
deriving DecidableEq, Repr, Inhabited

namespace Streams

def none : Streams := ⟨[], 0⟩

/-- Whether a stream was read. Streams with the mark zero are new each time. -/
def contains (streams : Streams) (mark : Nat) : Bool := mark ≠ 0 && streams.marks.contains mark

def insert (streams : Streams) (mark : Nat) : Streams :=
  { streams with marks := mark :: streams.marks }

end Streams

namespace Value

mutual

/-- A value as it reads now, and the streams that were read afterwards. Members are read in their
order; what a map holds is not read. -/
def draw : Value → Streams → Value × Streams
  | .stream items mark, streams =>
      if streams.contains mark then (.stream [] mark, streams)
      else
        let drawn := drawAll items (streams.insert mark)
        (.stream drawn.1 mark, drawn.2)
  | .list items, streams =>
      let drawn := drawAll items streams
      (.list drawn.1, drawn.2)
  | .tuple items, streams =>
      let drawn := drawAll items streams
      (.tuple drawn.1, drawn.2)
  | .set items, streams =>
      let drawn := drawAll items streams
      (.set drawn.1, drawn.2)
  | .frozenset items, streams =>
      let drawn := drawAll items streams
      (.frozenset drawn.1, drawn.2)
  | item, streams => (item, streams)

def drawAll : List Value → Streams → List Value × Streams
  | [], streams => ([], streams)
  | item :: rest, streams =>
      let drawn := draw item streams
      let others := drawAll rest drawn.2
      (drawn.1 :: others.1, others.2)

end

mutual

def readsStream : Value → Bool
  | .stream .. => true
  | .list items | .tuple items | .set items | .frozenset items => anyReadsStream items
  | _ => false

def anyReadsStream : List Value → Bool
  | [] => false
  | item :: rest => readsStream item || anyReadsStream rest

end

mutual

/-- A value within which no stream is read draws as itself, and no stream counts as read. -/
theorem draw_eq_self (item : Value) (streams : Streams) (solid : item.readsStream = false) :
    item.draw streams = (item, streams) := by
  cases item with
  | stream => simp [readsStream] at solid
  | list items =>
      rw [draw, drawAll_eq_self items streams (by simpa [readsStream] using solid)]
  | tuple items =>
      rw [draw, drawAll_eq_self items streams (by simpa [readsStream] using solid)]
  | set items =>
      rw [draw, drawAll_eq_self items streams (by simpa [readsStream] using solid)]
  | frozenset items =>
      rw [draw, drawAll_eq_self items streams (by simpa [readsStream] using solid)]
  | _ => simp [draw]

theorem drawAll_eq_self (items : List Value) (streams : Streams)
    (solid : anyReadsStream items = false) : drawAll items streams = (items, streams) := by
  cases items with
  | nil => rfl
  | cons item rest =>
      simp only [anyReadsStream, Bool.or_eq_false_iff] at solid
      rw [drawAll, draw_eq_self item streams solid.1, drawAll_eq_self rest streams solid.2]

end

end Value

end ShadowIndex
