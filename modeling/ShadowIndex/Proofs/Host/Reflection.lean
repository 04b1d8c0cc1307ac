import ShadowIndex.Host.Fault

/-!
Contract: look-ups at a host that may fail, but give nothing that the host does not have.

Owns:
- what it takes to see a record (`LookUps.snapshot_inv`);
- `Source.Reflects`: what look-ups give, if they do not fail, is what a host has;
- a host seen through any faults reflects that host (`Host.under_reflects`).

Does not own: which look-ups fail.
-/

set_option autoImplicit false

namespace ShadowIndex

/-- Look-ups that fail or give what a host has, whatever was looked up before. -/
structure Source.Reflects (source : Source) (host : Host) : Prop where
  fetch : ∀ {entityType : String} {id : Value} {streams : Streams} {fields? : Option Fields},
    (source.fetch entityType id streams).1 = .ok fields? → host.fetch entityType id = .ok fields?
  resolve : ∀ {entityType : String} {id : Value} {name : String} {streams : Streams}
    {refs : List Ref}, (source.resolve entityType id name streams).1 = .ok refs →
      host.resolve entityType id name = .ok refs
  candidates : ∀ {entityType : String} {scope : Scope} {streams : Streams} {ids : List Value},
    (source.candidates entityType scope streams).1 = .ok ids →
      host.candidates entityType scope = .ok ids

/-- A look-up that passes gives what it gives without faults. -/
theorem Faults.of_pass {α : Type} {faults : Faults} {lookUp : LookUp} {outcome : Except Failure α}
    {streams : Streams} {value : α}
    (given : ((do faults.pass lookUp; Action.lift outcome : Action Streams α) streams).1 =
      .ok value) : outcome = .ok value := by
  rw [Action.bind_apply, pass] at given
  cases faulty : faults streams.lookUps lookUp with
  | none =>
      rw [faulty] at given
      exact given
  | some failure =>
      rw [faulty] at given
      cases given

theorem Host.under_reflects (faults : Faults) (host : Host) :
    (host.under faults).Reflects host where
  fetch := Faults.of_pass
  resolve := Faults.of_pass
  candidates := id

/-! ## Snapshots -/

variable {source : Source} {entityType : String} {id : Value} {streams after : Streams}

/-- A record is seen through its fields, under its type and its id. -/
theorem LookUps.snapshot_inv {snapshot? : Option Snapshot}
    (looked : source.snapshot entityType id streams = (.ok snapshot?, after)) :
    source.fetch entityType id streams = (.ok none, after) ∧ snapshot? = none ∨
      ∃ fields ref, source.fetch entityType id streams = (.ok (some fields), after) ∧
        Host.checkedRef entityType id = .ok ref ∧ snapshot? = some ⟨ref, fields⟩ := by
  unfold LookUps.snapshot at looked
  rw [Action.bind_apply] at looked
  cases fetched : source.fetch entityType id streams with
  | mk outcome between =>
      rw [fetched] at looked
      match outcome, looked with
      | .error failure, looked => cases looked
      | .ok none, looked =>
          cases looked
          exact Or.inl ⟨rfl, rfl⟩
      | .ok (some fields), looked =>
          cases checked : Host.checkedRef entityType id <;> rw [checked] at looked <;> cases looked
          exact Or.inr ⟨fields, _, rfl, rfl, rfl⟩

/-- The owner of a snapshot is what its type and its id were checked as. -/
theorem LookUps.checkedRef_of_snapshot {snapshot : Snapshot}
    (found : source.snapshot entityType id streams = (.ok (some snapshot), after)) :
    Host.checkedRef entityType id = .ok snapshot.ref := by
  rcases snapshot_inv found with ⟨-, absent⟩ | ⟨fields, ref, -, checked, same⟩
  · cases absent
  · cases same
    exact checked

/-- A record that is seen is one that the host has. -/
theorem Source.Reflects.snapshot {host : Host} (reflects : source.Reflects host)
    {snapshot? : Option Snapshot}
    (looked : source.snapshot entityType id streams = (.ok snapshot?, after)) :
    host.snapshot entityType id = .ok snapshot? := by
  rw [Host.snapshot_eq_fetch]
  rcases LookUps.snapshot_inv looked with ⟨fetched, rfl⟩ | ⟨fields, ref, fetched, checked, rfl⟩
  · rw [reflects.fetch (congrArg Prod.fst fetched)]
    rfl
  · rw [reflects.fetch (congrArg Prod.fst fetched), checked]
    rfl

end ShadowIndex
