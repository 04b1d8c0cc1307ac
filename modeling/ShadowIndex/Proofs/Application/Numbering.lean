import ShadowIndex.Proofs.Application.Announcing

/-!
Contract: the ids that a host chooses for new records.

Owns:
- numbers are given out in order, one for each creation without an id, also for one that is refused
  (`Mutation.nextNumber_afterAll`);
- `Mutation.Knew`, whether there ever was a record under a key: under a number that was not given
  out, exactly if a creation named it (`Mutation.knew_iff_named`);
- what a creation without an id does, and when its record is a new one
  (`Announcer.numbered_along_mutations`).

Does not own: ids that creations name.
-/

set_option autoImplicit false

namespace ShadowIndex

/-- Nothing was created yet. -/
structure Host.IsBare (host : Host) : Prop where
  records : host.records = .empty
  destroyed : host.destroyed = .empty
  counters : host.counters = .empty

namespace Mutation

variable {mutation : Mutation} {host : Host} {entityType : String} {name : String × Key}

/-! ## Numbers -/

/-- The id that a creation is given; nothing where the host is to choose one. -/
def given (fields : Fields) : Value := (fields.find? "id").getD .nothing

/-- Whether a mutation creates a record of a type and leaves its id to the host. -/
def isUnnamed (entityType : String) : Mutation → Bool
  | create other fields => decide (other = entityType) && (given fields).isNothing
  | _ => false

theorem counters_create (host : Host) (entityType : String) (fields : Fields) :
    (host.create entityType fields).2.counters =
      (host.assignId entityType (given fields)).2.counters := by
  unfold Host.create given
  dsimp only
  split
  · rfl
  · split <;> rfl

theorem counters_update {id : Value} {changes fields : Fields} {after : Host}
    (updated : host.update entityType id changes = .ok (fields, after)) :
    after.counters = host.counters := by
  unfold Host.update at updated
  split at updated
  · simp [throw, throwThe, MonadExceptOf.throw, bind, Except.bind] at updated
  · cases isKey : id.key with
    | error failure => simp [isKey, bind, Except.bind] at updated
    | ok key =>
        simp only [isKey, bind, Except.bind, pure, Except.pure] at updated
        split at updated
        · simp [throw, throwThe, MonadExceptOf.throw] at updated
        · simp only [Except.ok.injEq, Prod.mk.injEq] at updated
          rw [← updated.2]

theorem counters_destroy {id : Value} {destroyed : Bool} {after : Host}
    (destroys : host.destroy entityType id = .ok (destroyed, after)) :
    after.counters = host.counters := by
  unfold Host.destroy at destroys
  split at destroys
  · cases destroys
    rfl
  · cases isKey : id.key with
    | error failure => simp [isKey, bind, Except.bind] at destroys
    | ok key =>
        simp only [isKey, bind, Except.bind, pure, Except.pure] at destroys
        split at destroys <;> cases destroys <;> rfl

theorem nextNumber_assignId (host : Host) (entityType : String) (given : Value) (other : String) :
    (host.assignId entityType given).2.nextNumber other =
      host.nextNumber other + if entityType = other ∧ given.isNothing = true then 1 else 0 := by
  unfold Host.assignId Host.nextNumber
  by_cases isNothing : given.isNothing = true
  · by_cases same : other = entityType
    · subst same
      simp [isNothing, Table.find?_insert]
    · have different : ¬ entityType = other := fun equal => same equal.symm
      simp [isNothing, Table.find?_insert, same, different]
  · simp [isNothing]

/-- A number is used up by a creation that leaves its id open, and by nothing else. -/
theorem nextNumber_after (mutation : Mutation) (host : Host) (entityType : String) :
    (mutation.after host).nextNumber entityType =
      host.nextNumber entityType + if mutation.isUnnamed entityType = true then 1 else 0 := by
  unfold Mutation.after
  cases mutation with
  | create other fields =>
      have numbered := nextNumber_assignId host other (given fields) entityType
      rw [Host.nextNumber, ← counters_create, ← Host.nextNumber] at numbered
      have sameHost : (commit host (create other fields)).2 = (host.create other fields).2 := by
        rw [commit]
        split <;> rename_i created <;> rw [created]
      rw [sameHost, numbered]
      simp [isUnnamed]
  | update other id changes =>
      simp only [commit, isUnnamed, Bool.false_eq_true, if_false, Nat.add_zero]
      split
      · rename_i updated
        rw [Host.nextNumber, counters_update updated, Host.nextNumber]
      · rfl
  | destroy other id =>
      simp only [commit, isUnnamed, Bool.false_eq_true, if_false, Nat.add_zero]
      split
      · rename_i destroyed
        rw [Host.nextNumber, counters_destroy destroyed, Host.nextNumber]
      · rfl

theorem nextNumber_afterAll (host : Host) (mutations : List Mutation) (entityType : String) :
    (afterAll host mutations).nextNumber entityType =
      host.nextNumber entityType + mutations.countP (isUnnamed entityType) := by
  induction mutations generalizing host with
  | nil => rfl
  | cons mutation rest inductionHypothesis =>
      rw [afterAll_cons, inductionHypothesis, nextNumber_after, List.countP_cons]
      omega

/-! ## Names -/

/-- The key under which a creation is told to put its record. -/
def named? : Mutation → Option (String × Key)
  | create entityType fields =>
      if (given fields).isNothing then none
      else (given fields).key.toOption.map fun key => (entityType, key)
  | _ => none

/-- A committed creation is one of a record under the id that was given or chosen for it. -/
theorem exists_create_of_committed {change : Change}
    (committed : mutation.change? host = some change) (isCreation : change.kind = .create) :
    ∃ fields, mutation = .create change.entityType fields ∧
      change.id = (host.assignId change.entityType (given fields)).1 := by
  unfold change? at committed
  cases mutation with
  | create entityType fields =>
      cases created : host.create entityType fields with
      | mk outcome after =>
          rcases create_moves created with ⟨⟨failure, rfl⟩, -⟩ | ⟨id, key, rfl, -, assigned, -⟩
          · simp [commit, created] at committed
          · simp only [commit, created, Option.some.injEq] at committed
            subst committed
            exact ⟨fields, rfl, assigned⟩
  | update entityType id changes =>
      simp only [commit] at committed
      split at committed <;> cases committed
      cases isCreation
  | destroy entityType id =>
      simp only [commit] at committed
      split at committed <;> cases committed
      cases isCreation

/-- What was not there before a mutation, and is there after it, was created by it. -/
theorem committed_of_appears (absent : host.has name = false)
    (present : (mutation.after host).has name = true) :
    ∃ change key, mutation.change? host = some change ∧ change.kind = .create ∧
      change.id.key = .ok key ∧ (change.entityType, key) = name := by
  cases committed : mutation.change? host with
  | none =>
      rw [Host.has, (keeps_of_uncommitted committed).records, ← Host.has, absent] at present
      cases present
  | some change =>
      obtain ⟨key, isKey, moves⟩ := moves_of_committed committed
      by_cases isName : (change.entityType, key) = name
      · have step := step_of_moves moves
        rw [isName, absent, present] at step
        refine ⟨change, key, rfl, ?_, isKey, isName⟩
        cases kind : change.kind with
        | create => rfl
        | update =>
            rw [kind] at step
            cases step
        | destroy =>
            rw [kind] at step
            cases step
      · have isOther : name ≠ (change.entityType, key) := fun same => isName same.symm
        rw [Host.has, moves.records name isOther, ← Host.has, absent] at present
        cases present

/-- A record that was not there is created under a name that the creation has, or under the next
number. -/
theorem named_or_unnamed_of_appears {number : Nat}
    (absent : host.has (entityType, .int number) = false)
    (present : (mutation.after host).has (entityType, .int number) = true) :
    mutation.named? = some (entityType, .int number) ∨
      mutation.isUnnamed entityType = true ∧ number = host.nextNumber entityType := by
  obtain ⟨change, key, committed, isCreation, isKey, isName⟩ := committed_of_appears absent present
  obtain ⟨fields, isCreate, assigned⟩ := exists_create_of_committed committed isCreation
  obtain ⟨sameType, rfl⟩ := Prod.mk.inj isName
  rw [sameType] at isCreate assigned
  rw [isCreate]
  unfold Host.assignId at assigned
  by_cases isNothing : (given fields).isNothing = true
  · right
    rw [if_pos isNothing] at assigned
    rw [assigned, Value.key] at isKey
    simp only [Except.ok.injEq, Key.int.injEq] at isKey
    refine ⟨by simp [isUnnamed, isNothing], ?_⟩
    omega
  · left
    rw [if_neg isNothing] at assigned
    rw [assigned] at isKey
    simp [named?, isNothing, isKey, Except.toOption]

/-- A creation under a name that is free is not refused. -/
theorem appears_of_named (named : mutation.named? = some name) (absent : host.has name = false) :
    (mutation.after host).has name = true := by
  cases mutation with
  | create entityType fields =>
      simp only [named?] at named
      split at named
      · cases named
      · rename_i isSomething
        cases isKey : (given fields).key with
        | error failure => simp [isKey, Except.toOption] at named
        | ok key =>
            simp only [isKey, Except.toOption, Option.map_some, Option.some.injEq] at named
            subst named
            have assigned : host.assignId entityType ((fields.find? "id").getD .nothing) =
                (given fields, host) := if_neg isSomething
            have free : host.records.contains (entityType, key) = false := by
              rw [Table.contains_eq_isSome]
              exact absent
            simp [Mutation.after, commit, Host.create, assigned, isKey, free, Host.has,
              Table.find?_insert]
  | update entityType id changes => cases named
  | destroy entityType id => cases named

/-! ## What ever was there -/

/-- Whether there was a record under a key at some time along mutations. -/
def Knew (host : Host) (mutations : List Mutation) (name : String × Key) : Prop :=
  ∃ earlier, earlier <+: mutations ∧ (afterAll host earlier).has name = true

theorem knew_of_has (mutations : List Mutation) (present : host.has name = true) :
    Knew host mutations name :=
  ⟨[], List.nil_prefix, present⟩

theorem knew_cons_iff (host : Host) (mutation : Mutation) (rest : List Mutation)
    (name : String × Key) :
    Knew host (mutation :: rest) name ↔
      host.has name = true ∨ Knew (mutation.after host) rest name := by
  constructor
  · intro ⟨earlier, isPrefix, present⟩
    cases earlier with
    | nil => exact Or.inl present
    | cons first others =>
        obtain ⟨rfl, isPrefixToo⟩ := List.cons_prefix_cons.1 isPrefix
        exact Or.inr ⟨others, isPrefixToo, present⟩
  · rintro (present | ⟨earlier, isPrefix, present⟩)
    · exact knew_of_has _ present
    · exact ⟨mutation :: earlier, List.cons_prefix_cons.2 ⟨rfl, isPrefix⟩, present⟩

theorem has_of_knew_nil (knew : Knew host [] name) : host.has name = true := by
  obtain ⟨earlier, isPrefix, present⟩ := knew
  rw [List.prefix_nil.1 isPrefix] at present
  exact present

/-- A record under a number that is not given out has that number from its creation. The induction
is on the mutations: numbers only grow, so the number is not given out at the first one either. -/
theorem named_of_knew {mutations : List Mutation} {number : Nat}
    (absent : host.has (entityType, .int number) = false)
    (unspent : (afterAll host mutations).nextNumber entityType ≤ number)
    (knew : Knew host mutations (entityType, .int number)) :
    ∃ mutation ∈ mutations, mutation.named? = some (entityType, .int number) := by
  induction mutations generalizing host with
  | nil =>
      rw [has_of_knew_nil knew] at absent
      cases absent
  | cons mutation rest inductionHypothesis =>
      have later : Knew (mutation.after host) rest (entityType, .int number) := by
        rcases (knew_cons_iff _ _ _ _).1 knew with present | later
        · rw [present] at absent
          cases absent
        · exact later
      cases present : (mutation.after host).has (entityType, .int number) with
      | true =>
          rcases named_or_unnamed_of_appears absent present with named | ⟨isUnnamed, isNext⟩
          · exact ⟨mutation, List.mem_cons_self, named⟩
          · have grown := nextNumber_afterAll host (mutation :: rest) entityType
            rw [List.countP_cons, if_pos isUnnamed] at grown
            omega
      | false =>
          obtain ⟨other, member, named⟩ := inductionHypothesis present unspent later
          exact ⟨other, List.mem_cons_of_mem mutation member, named⟩

/-- The first creation under a name that is free is not refused. -/
theorem knew_of_named {mutations : List Mutation} (absent : host.has name = false)
    (member : mutation ∈ mutations) (named : mutation.named? = some name) :
    Knew host mutations name := by
  induction mutations generalizing host with
  | nil => cases member
  | cons first rest inductionHypothesis =>
      rw [knew_cons_iff]
      right
      cases present : (first.after host).has name with
      | true => exact knew_of_has rest present
      | false =>
          rcases List.mem_cons.1 member with rfl | inRest
          · rw [appears_of_named named absent] at present
            cases present
          · exact inductionHypothesis present inRest

/-- Under a number that was not given out there was a record exactly if a creation named it. -/
theorem knew_iff_named {mutations : List Mutation} {number : Nat}
    (absent : host.has (entityType, .int number) = false)
    (unspent : (afterAll host mutations).nextNumber entityType ≤ number) :
    Knew host mutations (entityType, .int number) ↔
      ∃ mutation ∈ mutations, mutation.named? = some (entityType, .int number) :=
  ⟨named_of_knew absent unspent, fun ⟨_, member, named⟩ => knew_of_named absent member named⟩

/-- Only what was there leaves a trace when it is destroyed. -/
theorem undestroyed_of_not_knew {mutations : List Mutation}
    (undestroyed : host.destroyed.find? name = none) (unknown : ¬ Knew host mutations name) :
    (afterAll host mutations).destroyed.find? name = none := by
  induction mutations generalizing host with
  | nil => exact undestroyed
  | cons mutation rest inductionHypothesis =>
      rw [knew_cons_iff, not_or] at unknown
      apply inductionHypothesis _ unknown.2
      cases committed : mutation.change? host with
      | none => rw [(keeps_of_uncommitted committed).destroyed, undestroyed]
      | some change =>
          obtain ⟨key, -, moves⟩ := moves_of_committed committed
          by_cases isName : name = (change.entityType, key)
          · have own := moves.own
            rw [← isName] at own
            cases kind : change.kind with
            | create =>
                rw [kind] at own
                exact own.2.2
            | update =>
                rw [kind] at own
                exact own.2.2.trans undestroyed
            | destroy =>
                rw [kind] at own
                obtain ⟨record, found, -⟩ := own
                exact absurd (by simp [Host.has, found]) unknown.1
          · rw [moves.destroyed name isName, undestroyed]

/-! ## Creations without an id -/

/-- A creation without an id takes the next number. It is refused, and changes no record, if there
is a record under that number; else it adds the record, and changes no other. -/
theorem create_of_isUnnamed {fields : Fields} (isUnnamed : (given fields).isNothing = true)
    (host : Host) (entityType : String) :
    (host.has (entityType, .int (host.nextNumber entityType)) = true →
      (host.create entityType fields).1 =
          .error (.recordExists entityType (.int (host.nextNumber entityType))) ∧
        (create entityType fields).change? host = none ∧
        host.Keeps ((create entityType fields).after host)) ∧
    (host.has (entityType, .int (host.nextNumber entityType)) = false →
      (host.create entityType fields).1 = .ok (.int (host.nextNumber entityType)) ∧
        (create entityType fields).change? host =
          some ⟨.create, entityType, .int (host.nextNumber entityType)⟩ ∧
        Host.Moves .create (entityType, .int (host.nextNumber entityType)) host
          ((create entityType fields).after host)) := by
  have assigned : host.assignId entityType ((fields.find? "id").getD .nothing) =
      (.int (host.nextNumber entityType), { host with
        counters := host.counters.insert entityType (host.nextNumber entityType + 1) }) :=
    if_pos isUnnamed
  refine ⟨fun taken => ?_, fun free => ?_⟩
  · have refused : (host.create entityType fields).1 =
        .error (.recordExists entityType (.int (host.nextNumber entityType))) := by
      have contained : host.records.contains
          (entityType, .int (host.nextNumber entityType)) = true := by
        rw [Table.contains_eq_isSome]
        exact taken
      simp only [Host.create, assigned, Value.key, contained, if_true]
    have uncommitted : (create entityType fields).change? host = none := by
      cases created : host.create entityType fields with
      | mk outcome after =>
          rw [created] at refused
          dsimp only at refused
          subst refused
          simp [change?, commit, created]
    exact ⟨refused, uncommitted, keeps_of_uncommitted uncommitted⟩
  · have accepted : (host.create entityType fields).1 =
        .ok (.int (host.nextNumber entityType)) := by
      have contained : host.records.contains
          (entityType, .int (host.nextNumber entityType)) = false := by
        rw [Table.contains_eq_isSome]
        exact free
      simp [Host.create, assigned, Value.key, contained]
    have committed : (create entityType fields).change? host =
        some ⟨.create, entityType, .int (host.nextNumber entityType)⟩ := by
      cases created : host.create entityType fields with
      | mk outcome after =>
          rw [created] at accepted
          dsimp only at accepted
          subst accepted
          simp [change?, commit, created]
    obtain ⟨key, isKey, moves⟩ := moves_of_committed committed
    cases isKey
    exact ⟨accepted, committed, moves⟩

theorem nextNumber_of_isBare (bare : host.IsBare) (entityType : String) :
    host.nextNumber entityType = 1 := by
  rw [Host.nextNumber, bare.counters]
  rfl

theorem has_of_isBare (bare : host.IsBare) (name : String × Key) : host.has name = false := by
  rw [Host.has, bare.records]
  rfl

/-- A creation under a name that was never known leaves what is kept of destroyed records. -/
theorem destroyed_of_unknown (bare : host.IsBare) {mutations : List Mutation}
    {name : String × Key} (unknown : ¬ Knew host mutations name) {after : Host}
    (moves : Host.Moves .create name (Mutation.afterAll host mutations) after)
    (other : String × Key) : after.destroyed.find? other =
      (Mutation.afterAll host mutations).destroyed.find? other := by
  by_cases isName : other = name
  · have undestroyed : host.destroyed.find? name = none := by
      rw [bare.destroyed]
      rfl
    rw [isName, moves.own.2.2]
    exact (undestroyed_of_not_knew undestroyed unknown).symm
  · exact moves.destroyed other isName

end Mutation

/-! ## Listeners -/

namespace Announcer

variable {σ τ ε : Type} {announcer : Announcer σ τ}

theorem listeners_afterAll (lawful : announcer.IsLawful) (state : σ) (mutations : List Mutation) :
    announcer.listeners (announcer.afterAll state mutations) = announcer.listeners state := by
  have keeps : Run.Keeps (fun mutation state => announcer.after state mutation) (fun _ _ => True)
      fun later => announcer.listeners later = announcer.listeners state :=
    fun later mutation same _ => (listeners_after lawful later mutation).trans same
  exact keeps.afterAll rfl (Run.along_of_forall fun _ _ => trivial)

/-- What is told of a creation without an id is the creation of the record under the next number. -/
theorem eq_of_mem_delivery_of_isUnnamed {fields : Fields}
    (isUnnamed : (Mutation.given fields).isNothing = true) {earlier : List τ} {state : σ}
    {entityType : String} {told : Change × Host}
    (member : told ∈ announcer.delivery earlier state (.create entityType fields)) :
    told.1 = ⟨.create, entityType, .int ((announcer.host state).nextNumber entityType)⟩ := by
  obtain ⟨refused, accepted⟩ :=
    Mutation.create_of_isUnnamed isUnnamed (announcer.host state) entityType
  unfold delivery at member
  cases taken : (announcer.host state).has
      (entityType, .int ((announcer.host state).nextNumber entityType)) with
  | true =>
      rw [(refused taken).2.1] at member
      cases member
  | false =>
      rw [(accepted taken).2.1] at member
      dsimp only at member
      split at member
      · rw [List.mem_singleton.1 member]
      · cases member

/-- A creation without an id, after mutations of a host in which nothing was created before them. It
takes the number of creations without an id so far, plus one, whether it is refused or not. If there
is a record under that number it is refused, all records stay, and nothing is told. Else it adds the
record, changes no other, and tells of no other. There never was another record under the number
exactly if no creation named it; then it is not refused, and all that is kept of destroyed records
stays, too. -/
theorem numbered_along_mutations (lawful : announcer.IsLawful) {listener : τ} {heard : σ → List ε}
    {event : Change → Host → ε} (hears : announcer.Hears listener heard event) {state : σ}
    {earlier later : List τ} (subscribed : announcer.listeners state = earlier ++ listener :: later)
    (once : listener ∉ earlier ++ later) (bare : (announcer.host state).IsBare)
    (mutations : List Mutation) (entityType : String) {fields : Fields}
    (isUnnamed : (Mutation.given fields).isNothing = true) :
    let before := announcer.afterAll state mutations
    let after := announcer.after before (.create entityType fields)
    let number := 1 + mutations.countP (Mutation.isUnnamed entityType)
    let name := (entityType, Key.int number)
    let outcome := ((announcer.host before).create entityType fields).1
    let told := announcer.delivery earlier before (.create entityType fields)
    let knew := Mutation.Knew (announcer.host state) mutations name
    heard after = heard before ++ told.map (fun row => event row.1 row.2) ∧
      (∀ row ∈ told, row.1 = ⟨.create, entityType, .int number⟩) ∧
      ((announcer.host before).has name = true →
        outcome = .error (.recordExists entityType (.int number)) ∧
          (announcer.host before).Keeps (announcer.host after) ∧ told = []) ∧
      ((announcer.host before).has name = false →
        outcome = .ok (.int number) ∧
          Host.Moves .create name (announcer.host before) (announcer.host after)) ∧
      (knew ↔ ∃ mutation ∈ mutations, mutation.named? = some name) ∧
      (¬ knew → outcome = .ok (.int number) ∧ ∀ other,
        (announcer.host after).destroyed.find? other =
          (announcer.host before).destroyed.find? other) := by
  intro before after number name outcome told knew
  have isBefore : announcer.host before = Mutation.afterAll (announcer.host state) mutations :=
    host_afterAll lawful state mutations
  have isAfter : announcer.host after =
      (Mutation.create entityType fields).after (announcer.host before) :=
    host_after lawful before _
  have isNext : (announcer.host before).nextNumber entityType = number := by
    rw [isBefore, Mutation.nextNumber_afterAll, Mutation.nextNumber_of_isBare bare]
  obtain ⟨refused, accepted⟩ :=
    Mutation.create_of_isUnnamed isUnnamed (announcer.host before) entityType
  rw [isNext] at refused accepted
  have absent : (announcer.host state).has name = false := Mutation.has_of_isBare bare name
  have added (free : (announcer.host before).has name = false) : outcome = .ok (.int number) ∧
      Host.Moves .create name (announcer.host before) (announcer.host after) := by
    obtain ⟨succeeds, -, moves⟩ := accepted free
    rw [isAfter]
    exact ⟨succeeds, moves⟩
  refine ⟨?_, ?_, fun taken => ?_, added, ?_, fun unknown => ?_⟩
  · have sameListeners : announcer.listeners before = earlier ++ listener :: later :=
      (listeners_afterAll lawful state mutations).trans subscribed
    exact heard_after lawful hears once sameListeners _
  · intro row member
    rw [eq_of_mem_delivery_of_isUnnamed isUnnamed member, isNext]
  · obtain ⟨fails, uncommitted, kept⟩ := refused taken
    refine ⟨fails, ?_, ?_⟩
    · rw [isAfter]
      exact kept
    · show announcer.delivery earlier before (.create entityType fields) = []
      rw [delivery, uncommitted]
  · apply Mutation.knew_iff_named absent
    rw [← isBefore, isNext]
  · have free : (announcer.host before).has name = false := by
      rw [← Bool.not_eq_true]
      intro present
      rw [isBefore] at present
      exact unknown ⟨mutations, List.prefix_refl _, present⟩
    obtain ⟨succeeds, moves⟩ := added free
    rw [isBefore] at moves ⊢
    exact ⟨succeeds, Mutation.destroyed_of_unknown bare unknown moves⟩

end Announcer

/-! ## Users -/

namespace Application

/-- Nothing was created yet, and the recorder alone is told of changes. -/
def lobby : Application := start default [.recorder]

def arrival (id : Value) : Mutation := .create "user" (.ofList [("id", id)])

/-- After one user without an id, a named one and one under a higher number, the next one is
number two. -/
theorem numbered_along_mutations_lobby :
    let mutations := [arrival (.str "abe"), arrival .nothing, .destroy "user" (.int 1),
      arrival (.int 7)]
    let before := announcer.afterAll lobby mutations
    let after := announcer.after before (arrival .nothing)
    (announcer.host lobby).IsBare ∧
      ¬ Mutation.Knew lobby.host mutations ("user", .int 2) ∧
      (before.host.create "user" (.ofList [("id", .nothing)])).1 = .ok (.int 2) ∧
      after.heard.reverse = before.heard.reverse ++ [⟨.create, "user", .int 2⟩] := by
  intro mutations before after
  have bare : (announcer.host lobby).IsBare := ⟨rfl, rfl, rfl⟩
  have isUnnamed : (Mutation.given (.ofList [("id", .nothing)])).isNothing = true := by decide
  have subscribed : announcer.listeners lobby = [] ++ .recorder :: [] := rfl
  obtain ⟨heard, -, -, -, knew_iff, fresh⟩ :=
    Announcer.numbered_along_mutations announcer_isLawful recorder_hears subscribed (by decide) bare
      mutations "user" isUnnamed
  have unknown : ¬ Mutation.Knew lobby.host mutations ("user", .int 2) := by
    intro knew
    obtain ⟨mutation, member, named⟩ := knew_iff.1 knew
    revert mutation
    decide +kernel
  exact ⟨bare, unknown, (fresh unknown).1, heard⟩

/-- A user that was named one keeps another from being created, and once it is destroyed, the other
takes its id, and what was kept of it is gone. -/
theorem number_taken :
    let named := announcer.afterAll lobby [arrival (.int 1)]
    let left := announcer.afterAll lobby [arrival (.int 1), .destroy "user" (.int 1)]
    (named.host.create "user" .empty).1 = .error (.recordExists "user" (.int 1)) ∧
      (left.host.create "user" .empty).1 = .ok (.int 1) ∧
      left.host.destroyed.contains ("user", .int 1) = true ∧
      (left.host.create "user" .empty).2.destroyed.contains ("user", .int 1) = false := by
  intro named left
  exact ⟨rfl, rfl, rfl, rfl⟩

end Application

end ShadowIndex
