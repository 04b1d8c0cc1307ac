import ShadowIndex.Host.Basic

/-!
Contract: hosts whose records stand under their ids.

Owns:
- `Host.IsKeyed`, records under ids of a certain kind, and no candidates besides them;
- `Host.IsLive`, owners that have a record;
- what a relation reaches and what is listed as a candidate is live, whichever look-ups fail
  (`isLive_of_resolve`, `isLive_of_candidates`).

Does not own: what records hold.
-/

set_option autoImplicit false

namespace ShadowIndex

theorem Id.value_injective {left right : Id} (same : left.value = right.value) : left = right := by
  cases left <;> cases right <;> simp_all [Id.value]

/-- An id that is read from a value with the key of an id is that id. -/
theorem Value.eq_of_checkId {value : Value} {location : List String} {id other : Id}
    (checked : value.checkId location = .ok id) (isKey : value.key = .ok other.key) : id = other := by
  have other_of {key : Key} (given : value.key = .ok key) : other.key = key := by
    rw [isKey] at given
    exact Except.ok.inj given
  have unlike (form : String) : other.key ≠ .other form := by cases other <;> simp [Id.key]
  cases value with
  | int whole =>
      cases checked
      exact Id.key_injective (other_of rfl).symm
  | str text =>
      cases checked
      exact Id.key_injective (other_of rfl).symm
  | bool truth =>
      cases checked
      exact Id.key_injective (other_of rfl).symm
  | float number =>
      cases whole? : number.toInt? with
      | none => exact absurd (other_of (by rw [key, whole?])) (unlike _)
      | some whole =>
          have isWhole : id = .int whole := by
            cases number with
            | finite negative significand exponent =>
                have read : (float (.finite negative significand exponent)).idInteger =
                    if whole.natAbs < 2 ^ 63 then .ok whole else .error .integerTooLong := by
                  simp only [idInteger, wholeOf, whole?]
                by_cases small : whole.natAbs < 2 ^ 63
                · rw [if_pos small] at read
                  simp only [checkId, read, Except.ok.injEq] at checked
                  exact checked.symm
                · rw [if_neg small] at read
                  simp [checkId, read, checkText, Checked.wrong] at checked
            | infinite negative => cases whole?
            | nan payload => cases whole?
          have isOther : other.key = .int whole := other_of (by rw [key, whole?])
          rw [isWhole]
          exact Id.key_injective isOther.symm
  | _ =>
      simp only [key] at isKey
      split at isKey
      · cases isKey
      · exact absurd (Except.ok.inj isKey).symm (unlike _)

theorem mem_of_mapM_eq_ok {α β : Type} {action : α → Except Failure β} {items : List α}
    {results : List β} (done : items.mapM action = .ok results) {result : β}
    (member : result ∈ results) : ∃ item ∈ items, action item = .ok result := by
  induction items generalizing results with
  | nil =>
      simp only [List.mapM_nil, pure, Except.pure, Except.ok.injEq] at done
      subst done
      cases member
  | cons item rest inductionHypothesis =>
      rw [List.mapM_cons] at done
      cases first : action item with
      | error failure => simp [first, bind, Except.bind] at done
      | ok value =>
          cases others : rest.mapM action with
          | error failure => simp [first, others, bind, Except.bind] at done
          | ok values =>
              simp only [first, others, bind, Except.bind, pure, Except.pure,
                Except.ok.injEq] at done
              subst done
              rcases List.mem_cons.1 member with isFirst | later
              · exact ⟨item, by simp, by rw [first, isFirst]⟩
              · obtain ⟨other, isItem, gives⟩ := inductionHypothesis others later
                exact ⟨other, by simp [isItem], gives⟩

namespace Host

/-- Every record stands under its id, which is of a certain kind, and only records are candidates. -/
structure IsKeyed (host : Host) (ids : Id → Prop) : Prop where
  keyed : ∀ entityType key record, host.records.find? (entityType, key) = some record →
    ∃ id : Id, record.id = id.value ∧ key = id.key ∧ ids id
  real : host.outage.phantoms = []

/-- An owner that has a record. -/
def IsLive (host : Host) (owner : Ref) : Prop :=
  (host.records.find? (owner.entityType, owner.id.key)).isSome = true

variable {host : Host} {ids : Id → Prop} {entityType name : String} {id : Id}

theorem isKeyed_of_unrecorded (unrecorded : host.records = .empty)
    (real : host.outage.phantoms = []) : host.IsKeyed ids where
  keyed := by
    intro entityType key record found
    rw [unrecorded, Table.find?_empty] at found
    cases found
  real := real

theorem mem_ofType_iff (record : HostRecord) :
    record ∈ host.ofType entityType ↔ ∃ key, host.records.find? (entityType, key) = some record := by
  simp only [ofType, List.mem_map, List.mem_filter, decide_eq_true_eq, Table.find?_eq_some_iff]
  constructor
  · rintro ⟨⟨⟨rowType, key⟩, found⟩, ⟨member, rfl⟩, rfl⟩
    exact ⟨key, member⟩
  · rintro ⟨key, member⟩
    exact ⟨((entityType, key), record), ⟨member, rfl⟩, rfl⟩

/-- What passes a test is what was tested, in its order, without what failed it. -/
theorem sublist_of_filterChecked {α : Type} {test : α → Except Failure Bool} {items kept : List α}
    (filtered : filterChecked test items = .ok kept) : kept.Sublist items := by
  induction items generalizing kept with
  | nil =>
      cases filtered
      exact List.Sublist.refl []
  | cons first rest inductionHypothesis =>
      rw [filterChecked] at filtered
      cases passes : test first with
      | error failure => simp [passes, bind, Except.bind] at filtered
      | ok isKept =>
          cases others : filterChecked test rest with
          | error failure => simp [passes, others, bind, Except.bind] at filtered
          | ok found =>
              simp only [passes, others, bind, Except.bind, pure, Except.pure,
                Except.ok.injEq] at filtered
              subst filtered
              split
              · exact (inductionHypothesis others).cons_cons first
              · exact (inductionHypothesis others).cons first

/-! ## References -/

theorem eq_ok_of_mapError {ε ζ α : Type} {outcome : Except ε α} {change : ε → ζ} {value : α}
    (mapped : outcome.mapError change = .ok value) : outcome = .ok value := by
  cases outcome with
  | error failure => cases mapped
  | ok given => exact congrArg Except.ok (Except.ok.inj mapped)

theorem checkedRef_inv {value : Value} {ref : Ref}
    (checked : checkedRef entityType value = .ok ref) :
    ref.entityType = entityType ∧ value.checkId ["1"] = .ok ref.id := by
  replace checked := eq_ok_of_mapError checked
  unfold Ref.check at checked
  cases isId : value.checkId ["1"] with
  | error issues =>
      cases isName : Value.checkName ["0"] (.str entityType) <;>
        simp [isId, isName, Checked.both, Except.map] at checked
  | ok id =>
      by_cases named : entityType.isEmpty = true
      · simp [isId, Value.checkName, Value.checkText, bind, Except.bind, named, Checked.wrong,
          Checked.both, Except.map] at checked
      · simp only [isId, Value.checkName, Value.checkText, bind, Except.bind, named, Checked.both,
          Except.map] at checked
        cases checked
        exact ⟨rfl, rfl⟩

namespace IsKeyed

/-- A record that stands under a key has the id with that key. -/
theorem isLive_of_key (keyed : host.IsKeyed ids) {key : Key} {record : HostRecord}
    (found : host.records.find? (entityType, key) = some record) :
    ∃ id : Id, record.id = id.value ∧ key = id.key ∧ ids id ∧ host.IsLive ⟨entityType, id⟩ := by
  obtain ⟨id, isId, rfl, known⟩ := keyed.keyed entityType key record found
  exact ⟨id, isId, rfl, known, by simp [IsLive, found]⟩

theorem known_of_isLive (keyed : host.IsKeyed ids) {owner : Ref} (live : host.IsLive owner) :
    ids owner.id := by
  obtain ⟨record, found⟩ := Option.isSome_iff_exists.1 live
  obtain ⟨id, -, isKey, known⟩ := keyed.keyed _ _ record found
  rwa [Id.key_injective isKey]

theorem isLive_of_resolveOne (keyed : host.IsKeyed ids) {owner : Value} {relation : Relation}
    {refs : List Ref} (resolved : host.resolveOne entityType owner relation = .ok refs) {ref : Ref}
    (member : ref ∈ refs) : ref.entityType = relation.target ∧ host.IsLive ref := by
  unfold resolveOne at resolved
  cases ownerKey : owner.key with
  | error failure => simp [ownerKey, bind, Except.bind] at resolved
  | ok key =>
      simp only [ownerKey, bind, Except.bind, pure, Except.pure] at resolved
      generalize (Option.bind _ _).getD Value.nothing = target at resolved
      split at resolved
      · cases resolved
        cases member
      · cases targetKey : target.key with
        | error failure => simp [targetKey] at resolved
        | ok key =>
            simp only [targetKey] at resolved
            split at resolved
            · rename_i present
              cases checked : checkedRef relation.target target with
              | error failure => simp [checked] at resolved
              | ok found =>
                  simp only [checked, Except.ok.injEq] at resolved
                  subst resolved
                  obtain rfl := List.mem_singleton.1 member
                  obtain ⟨isType, isId⟩ := checkedRef_inv checked
                  rw [Table.contains_eq_isSome] at present
                  obtain ⟨record, stands⟩ := Option.isSome_iff_exists.1 present
                  obtain ⟨id, -, rfl, -, live⟩ := keyed.isLive_of_key stands
                  obtain rfl := Value.eq_of_checkId isId targetKey
                  exact ⟨isType, by rwa [← isType] at live⟩
            · cases resolved
              cases member

theorem isLive_of_resolveMany (keyed : host.IsKeyed ids) {owner : Value} {relation : Relation}
    {refs : List Ref} (resolved : host.resolveMany owner relation = .ok refs) {ref : Ref}
    (member : ref ∈ refs) : ref.entityType = relation.target ∧ host.IsLive ref := by
  obtain ⟨record, isOwned, checked⟩ := mem_of_mapM_eq_ok resolved member
  obtain ⟨key, found⟩ := (mem_ofType_iff record).1 (List.mem_filter.1 isOwned).1
  obtain ⟨id, recordId, -, -, live⟩ := keyed.isLive_of_key found
  obtain ⟨isType, isId⟩ := checkedRef_inv checked
  rw [recordId] at isId
  obtain rfl := Value.eq_of_checkId isId (Value.key_value id)
  exact ⟨isType, by rwa [← isType] at live⟩

/-- What a relation reaches is live, and of the type that the relation leads to. -/
theorem isLive_of_resolve (keyed : host.IsKeyed ids) {owner : Value} {refs : List Ref}
    (resolved : host.resolve entityType owner name = .ok refs) {ref : Ref} (member : ref ∈ refs) :
    host.IsLive ref ∧ ∃ relation, host.relations.find? (entityType, name) = some relation ∧
      ref.entityType = relation.target := by
  unfold Host.resolve at resolved
  split at resolved
  · cases resolved
  · cases declared : host.relations.find? (entityType, name) with
    | none =>
        rw [declared] at resolved
        cases resolved
        cases member
    | some relation =>
        rw [declared] at resolved
        cases kind : relation.kind with
        | belongsTo =>
            simp only [kind] at resolved
            obtain ⟨isTarget, live⟩ := keyed.isLive_of_resolveOne resolved member
            exact ⟨live, relation, rfl, isTarget⟩
        | hasMany =>
            simp only [kind] at resolved
            obtain ⟨isTarget, live⟩ := keyed.isLive_of_resolveMany resolved member
            exact ⟨live, relation, rfl, isTarget⟩

/-- All candidates are ids of live records, in whichever scope. -/
theorem isLive_of_candidates (keyed : host.IsKeyed ids) {scope : Scope}
    {candidates : List Value} (listed : host.candidates entityType scope = .ok candidates)
    {candidate : Value} (member : candidate ∈ candidates) :
    ∃ id : Id, candidate = id.value ∧ ids id ∧ host.IsLive ⟨entityType, id⟩ := by
  unfold Host.candidates at listed
  cases filtered : filterChecked (admits scope) (host.ofType entityType) with
  | error failure => simp [filtered, bind, Except.bind] at listed
  | ok kept =>
      simp only [filtered, bind, Except.bind, pure, Except.pure, Except.ok.injEq,
        keyed.real, List.flatMap_nil, List.append_nil] at listed
      rw [← listed] at member
      obtain ⟨record, isKept, rfl⟩ := List.mem_map.1 member
      have isRecord := (sublist_of_filterChecked filtered).subset isKept
      obtain ⟨key, found⟩ := (mem_ofType_iff record).1 isRecord
      obtain ⟨id, isId, -, known, live⟩ := keyed.isLive_of_key found
      exact ⟨id, isId, known, live⟩

end IsKeyed

end Host

end ShadowIndex
