import ShadowIndex.Host.Basic

/-!
Contract: a host whose look-ups may fail, each by itself.

Owns:
- `LookUp`, what is asked of a host;
- `Faults`, which look-ups fail, by their number and by what they ask;
- `Host.under`, a host seen through faults.

Does not own: what a look-up gives that does not fail.
-/

set_option autoImplicit false

namespace ShadowIndex

inductive LookUp where
  | fetch (entityType : String) (id : Value)
  | resolve (entityType : String) (id : Value) (relation : String)

/-- The failure of a look-up, if it fails, by the number of look-ups before it and by what it
asks. -/
abbrev Faults := Nat → LookUp → Option Failure

def Faults.none : Faults := fun _ _ => Option.none

/-- Counts a look-up, and fails if it is one that fails. -/
def Faults.pass (faults : Faults) (lookUp : LookUp) : Action Streams Unit := fun streams =>
  ((faults streams.lookUps lookUp).elim (.ok ()) .error,
    { streams with lookUps := streams.lookUps + 1 })

/-- A host seen through faults: what it gives, unless the look-up is one that fails. -/
def Host.under (faults : Faults) (host : Host) : Source where
  fetch entityType id := do
    faults.pass (.fetch entityType id)
    Action.lift (host.fetch entityType id)
  resolve entityType id name := do
    faults.pass (.resolve entityType id name)
    Action.lift (host.resolve entityType id name)
  candidates entityType scope := Action.lift (host.candidates entityType scope)

end ShadowIndex
