import ShadowIndex.Record.Snapshot

/-!
Contract: ways to read a record and, from it, its associates.

Owns:
- `Reading`, look-ups one after the other, each of which may depend on what those before it gave or
  on how they failed, and the value in the end;
- `Reading.run`, what it comes to for records that are seen in some way.

Main rule: records are told apart by the order in which they are seen, the record itself first.

Does not own: how records are seen.
-/

set_option autoImplicit false

namespace ShadowIndex

/-- A way to read a record: the value that it has in the end, or the associates that it looks at
next, of which record, and how it goes on from the outcome. -/
inductive Reading where
  | done (outcome : Except Failure Value)
  | look (seen : Nat) (relation : String) (next : Except Failure (List Snapshot) → Reading)

instance : Inhabited Reading := ⟨.done (.ok .nothing)⟩

namespace Reading

/-- A way to read that goes on where a look-up gives associates, and ends where it fails. -/
def follow (seen : Nat) (relation : String) (next : List Snapshot → Reading) : Reading :=
  look seen relation fun
    | .ok found => next found
    | .error failure => done (.error failure)

/-- A value made of what a relation reaches. -/
def of (relation : String) (value : List Snapshot → Value) : Reading :=
  follow 0 relation fun found => done (.ok (value found))

/-- Values made of what a relation reaches from each of some records, in their order. -/
def each (relation : String) (value : List Snapshot → Value) : List Nat → List Value → Reading
  | [], values => done (.ok (.list values.reverse))
  | seen :: others, values =>
      follow seen relation fun found => each relation value others (value found :: values)

variable {m : Type → Type} {ρ : Type} [Monad m] [MonadLiftT (Except Failure) m]
  [MonadExceptOf Failure m]

/-- What a way to read comes to for a record, after others were seen. A number that was not reached
yet stands for the record itself. -/
def run (reader : RecordReader m ρ) (record : ρ) : List ρ → Reading → m Value
  | _, done outcome => liftM outcome
  | others, look seen relation next => do
      let outcome ← observing (reader.associated ((record :: others).getD seen record) relation)
      run reader record (others ++ outcome.toOption.getD [])
        (next (outcome.map fun found => found.map reader.snapshot))

end Reading

end ShadowIndex
