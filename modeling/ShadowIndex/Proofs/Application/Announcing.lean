import ShadowIndex.Application
import ShadowIndex.Proofs.Host.Mutation

/-!
Contract: which listeners are told of which committed changes.

Owns:
- `Announcer`, what an application does with its host, for listeners of any kind;
  `Application.announcer` is the one of applications;
- a mutation tells each listener of the change that it commits, unless one before it fails
  (`Announcer.heard_after`);
- what a listener hears along mutations in a row (`Announcer.heard_along_mutations`).

Does not own: listeners that change the host themselves.
-/

set_option autoImplicit false

namespace ShadowIndex

/-! ## Repetitions -/

namespace Action

variable {σ α β γ : Type}

theorem bind_pure_after (action : Action σ α) (change : α → β) (state : σ) :
    ((action >>= fun value => pure (change value)) state).2 = (action state).2 := by
  rw [bind_apply]
  cases action state with
  | mk outcome after => cases outcome <;> rfl

/-- After an action that does not fail, the next one goes on from where it ends. -/
theorem bind_after {action : Action σ Unit} {state : σ} (returned : (action state).1 = .ok ())
    (next : Action σ α) : ((action >>= fun _ => next) state).2 = (next (action state).2).2 := by
  rw [bind_apply]
  cases ran : action state with
  | mk outcome after =>
      rw [ran] at returned
      cases returned
      rfl

theorem each_cons_after (action : α → Action σ β) (item : α) (rest : List α) (state : σ) :
    (each action (item :: rest) state).2 =
      if (action item state).1.isOk then (each action rest (action item state).2).2
      else (action item state).2 := by
  rw [each, bind_apply]
  cases step : action item state with
  | mk outcome middle =>
      cases outcome with
      | error failure => rfl
      | ok value =>
          dsimp only
          rw [bind_apply]
          cases others : each action rest middle with
          | mk outcome after => cases outcome <;> rfl

theorem isOk_each_cons (action : α → Action σ β) (item : α) (rest : List α) (state : σ) :
    (each action (item :: rest) state).1.isOk =
      ((action item state).1.isOk && (each action rest (action item state).2).1.isOk) := by
  rw [each, bind_apply]
  cases step : action item state with
  | mk outcome middle =>
      cases outcome with
      | error failure => rfl
      | ok value =>
          dsimp only
          rw [bind_apply]
          cases others : each action rest middle with
          | mk outcome after => cases outcome <;> rfl

/-- What no step of a repetition changes is as it was, also if a step fails. -/
theorem each_keeps {action : α → Action σ β} {items : List α} (observe : σ → γ)
    (keeps : ∀ item ∈ items, ∀ state, observe (action item state).2 = observe state) (state : σ) :
    observe (each action items state).2 = observe state := by
  induction items generalizing state with
  | nil => rfl
  | cons item rest inductionHypothesis =>
      have first := keeps item (by simp) state
      have others := inductionHypothesis (fun other member => keeps other (by simp [member]))
        (action item state).2
      rw [each_cons_after]
      split
      · exact others.trans first
      · exact first

/-- A repetition reaches the second part of a list if no step of the first part fails. -/
theorem each_append (action : α → Action σ β) (first second : List α) (state : σ) :
    (each action (first ++ second) state).2 =
      if (each action first state).1.isOk then (each action second (each action first state).2).2
      else (each action first state).2 := by
  induction first generalizing state with
  | nil => rfl
  | cons item rest inductionHypothesis =>
      rw [List.cons_append, each_cons_after, each_cons_after, isOk_each_cons, inductionHypothesis]
      by_cases returned : (action item state).1.isOk = true <;> simp [returned]

end Action

/-! ## Announcers -/

/-- A state with a host and with listeners that are told of its changes. -/
structure Announcer (σ τ : Type) where
  host : σ → Host
  withHost : Host → σ → σ
  note : Note → Action σ Unit
  listeners : σ → List τ
  tell : Change → τ → Action σ Unit

namespace Announcer

variable {σ τ ε α : Type}

section Definitions

variable (announcer : Announcer σ τ)

/-- Commits a change of the host; a change that fails commits nothing. -/
def commit (change : Host → Except Failure α × Host) : Action σ α := fun state =>
  let (outcome, host) := change (announcer.host state)
  (outcome, announcer.withHost host state)

def tellAll (change : Change) : Action σ Unit := do
  let state ← Action.read
  let _ ← Action.each (announcer.tell change) (announcer.listeners state)

/-- As applications create records (`Application.create_eq`); likewise for updates and
destructions. -/
def create (entityType : String) (fields : Fields) : Action σ Value := do
  let id ← announcer.commit fun host => host.create entityType fields
  announcer.note (.recordCreated entityType id)
  announcer.tellAll ⟨.create, entityType, id⟩
  return id

def update (entityType : String) (id : Value) (changes : Fields) : Action σ Fields := do
  let fields ← announcer.commit fun host =>
    Application.orSame host (host.update entityType id changes)
  announcer.note (.recordUpdated entityType id changes.keys)
  announcer.tellAll ⟨.update, entityType, id⟩
  return fields

def destroy (entityType : String) (id : Value) : Action σ Bool := do
  let destroyed ← announcer.commit fun host => Application.orSame host (host.destroy entityType id)
  if destroyed then
    announcer.note (.recordDestroyed entityType id)
    announcer.tellAll ⟨.destroy, entityType, id⟩
  return destroyed

/-- The state after a mutation, whether or not a listener failed. -/
def after (state : σ) : Mutation → σ
  | .create entityType fields => (announcer.create entityType fields state).2
  | .update entityType id changes => (announcer.update entityType id changes state).2
  | .destroy entityType id => (announcer.destroy entityType id state).2

def afterAll (state : σ) (mutations : List Mutation) : σ :=
  Run.afterAll (fun mutation state => announcer.after state mutation) state mutations

theorem afterAll_cons (state : σ) (mutation : Mutation) (rest : List Mutation) :
    announcer.afterAll state (mutation :: rest) =
      announcer.afterAll (announcer.after state mutation) rest := rfl

end Definitions

/-! ## Laws -/

/-- Commits change the host alone. Notes do not fail, and neither they nor listeners change the host
or the listeners. -/
structure IsLawful (announcer : Announcer σ τ) : Prop where
  host_withHost : ∀ host state, announcer.host (announcer.withHost host state) = host
  listeners_withHost : ∀ host state,
    announcer.listeners (announcer.withHost host state) = announcer.listeners state
  noted : ∀ note state, (announcer.note note state).1 = .ok ()
  host_note : ∀ note state, announcer.host (announcer.note note state).2 = announcer.host state
  listeners_note : ∀ note state,
    announcer.listeners (announcer.note note state).2 = announcer.listeners state
  host_tell : ∀ change listener state,
    announcer.host (announcer.tell change listener state).2 = announcer.host state
  listeners_tell : ∀ change listener state,
    announcer.listeners (announcer.tell change listener state).2 = announcer.listeners state

/-- A listener that keeps what it is told, whether or not it fails then, besides the host that it
sees; nothing else changes what it keeps. -/
structure Hears (announcer : Announcer σ τ) (listener : τ) (heard : σ → List ε)
    (event : Change → Host → ε) : Prop where
  own : ∀ change state, heard (announcer.tell change listener state).2 =
    heard state ++ [event change (announcer.host state)]
  others : ∀ other, other ≠ listener → ∀ change state,
    heard (announcer.tell change other state).2 = heard state
  withHost : ∀ host state, heard (announcer.withHost host state) = heard state
  note : ∀ note state, heard (announcer.note note state).2 = heard state

end Announcer

namespace Mutation

/-- The note that a committed change leaves. -/
def note (change : Change) : Mutation → Note
  | create .. => .recordCreated change.entityType change.id
  | update _ _ changes => .recordUpdated change.entityType change.id changes.keys
  | destroy .. => .recordDestroyed change.entityType change.id

end Mutation

namespace Announcer

variable {σ τ ε : Type} {announcer : Announcer σ τ}

/-! ## One mutation -/

section Definitions

variable (announcer)

/-- The state in which listeners are told of a change that a mutation commits. -/
def committed (state : σ) (mutation : Mutation) (change : Change) : σ :=
  (announcer.note (mutation.note change)
    (announcer.withHost (mutation.after (announcer.host state)) state)).2

/-- Whether all of some listeners return when they are told of a change. -/
def Returns (listeners : List τ) (change : Change) (state : σ) : Prop :=
  (Action.each (announcer.tell change) listeners state).1.isOk = true

instance (listeners : List τ) (change : Change) (state : σ) :
    Decidable (announcer.Returns listeners change state) :=
  inferInstanceAs (Decidable (_ = true))

end Definitions

/-- A mutation commits nothing, or notes the change that it commits and then tells it. -/
theorem after_eq (lawful : announcer.IsLawful) (state : σ) (mutation : Mutation) :
    announcer.after state mutation =
      match mutation.change? (announcer.host state) with
      | none => announcer.withHost (mutation.after (announcer.host state)) state
      | some change =>
          (announcer.tellAll change (announcer.committed state mutation change)).2 := by
  cases mutation with
  | create entityType fields =>
      rw [after, create, Action.bind_apply]
      cases created : (announcer.host state).create entityType fields with
      | mk outcome host =>
          cases outcome with
          | error failure => simp only [commit, created, Mutation.change?, Mutation.after, Mutation.commit]
          | ok id =>
              simp only [commit, created, Mutation.change?, Mutation.commit, committed,
                Mutation.after]
              rw [Action.bind_after (lawful.noted _ _), Action.bind_pure_after]
              rfl
  | update entityType id changes =>
      rw [after, update, Action.bind_apply]
      cases updated : (announcer.host state).update entityType id changes with
      | error failure =>
          simp only [commit, updated, Application.orSame, Mutation.change?, Mutation.after,
            Mutation.commit]
      | ok result =>
          obtain ⟨fields, host⟩ := result
          simp only [commit, updated, Application.orSame, Mutation.change?, Mutation.after,
            Mutation.commit, committed]
          rw [Action.bind_after (lawful.noted _ _), Action.bind_pure_after]
          rfl
  | destroy entityType id =>
      rw [after, destroy, Action.bind_apply]
      cases destroyed : (announcer.host state).destroy entityType id with
      | error failure =>
          simp only [commit, destroyed, Application.orSame, Mutation.change?, Mutation.after,
            Mutation.commit]
      | ok result =>
          obtain ⟨isDestroyed, host⟩ := result
          cases isDestroyed with
          | false =>
              obtain rfl := Mutation.eq_of_undestroyed destroyed
              simp only [commit, destroyed, Application.orSame, Mutation.change?, Mutation.after,
                Mutation.commit]
              rfl
          | true =>
              simp only [commit, destroyed, Application.orSame, Mutation.change?, Mutation.after,
                Mutation.commit, committed, if_true]
              rw [Action.bind_after (lawful.noted _ _), Action.bind_pure_after]
              rfl

theorem tellAll_after (change : Change) (state : σ) :
    (announcer.tellAll change state).2 =
      (Action.each (announcer.tell change) (announcer.listeners state) state).2 := by
  have told := Action.bind_pure_after
    (Action.each (announcer.tell change) (announcer.listeners state)) (fun _ => ()) state
  rw [← told]
  rfl

/-- A listener hears of a change, and sees the host as it is then, if all before it return. -/
theorem heard_tellAll (lawful : announcer.IsLawful) {listener : τ} {heard : σ → List ε}
    {event : Change → Host → ε} (hears : announcer.Hears listener heard event) {state : σ}
    {earlier later : List τ} (subscribed : announcer.listeners state = earlier ++ listener :: later)
    (once : listener ∉ earlier ++ later) (change : Change) :
    heard (announcer.tellAll change state).2 = heard state ++
      if announcer.Returns earlier change state then [event change (announcer.host state)] else [] := by
  have unheard {others : List τ} (among : ∀ other ∈ others, other ∈ earlier ++ later) (start : σ) :
      heard (Action.each (announcer.tell change) others start).2 = heard start :=
    Action.each_keeps heard (fun other member => hears.others other
      (fun isListener => once (isListener ▸ among other member)) change) start
  have before := unheard (fun other member => List.mem_append_left later member) state
  -- The listener is reached exactly if all before it return; none of the others adds to its log.
  rw [tellAll_after, subscribed, Action.each_append]
  by_cases returned : (Action.each (announcer.tell change) earlier state).1.isOk = true
  · have returns : announcer.Returns earlier change state := returned
    have sameHost : announcer.host (Action.each (announcer.tell change) earlier state).2 =
        announcer.host state :=
      Action.each_keeps announcer.host (fun other _ => lawful.host_tell change other) state
    have afterwards := unheard (fun other member => List.mem_append_right earlier member)
      (announcer.tell change listener (Action.each (announcer.tell change) earlier state).2).2
    rw [if_pos returned, if_pos returns, Action.each_cons_after]
    have own := hears.own change (Action.each (announcer.tell change) earlier state).2
    rw [before, sameHost] at own
    split
    · exact afterwards.trans own
    · exact own
  · have failed : ¬ announcer.Returns earlier change state := returned
    rw [if_neg returned, if_neg failed, List.append_nil]
    exact before

/-- Failing listeners do not undo what is committed. -/
theorem host_after (lawful : announcer.IsLawful) (state : σ) (mutation : Mutation) :
    announcer.host (announcer.after state mutation) = mutation.after (announcer.host state) := by
  rw [after_eq lawful]
  cases mutation.change? (announcer.host state) with
  | none => exact lawful.host_withHost _ _
  | some change =>
      dsimp only
      rw [tellAll_after, Action.each_keeps announcer.host fun other _ => lawful.host_tell change other,
        committed, lawful.host_note, lawful.host_withHost]

theorem listeners_after (lawful : announcer.IsLawful) (state : σ) (mutation : Mutation) :
    announcer.listeners (announcer.after state mutation) = announcer.listeners state := by
  rw [after_eq lawful]
  cases mutation.change? (announcer.host state) with
  | none => exact lawful.listeners_withHost _ _
  | some change =>
      dsimp only
      rw [tellAll_after,
        Action.each_keeps announcer.listeners fun other _ => lawful.listeners_tell change other,
        committed, lawful.listeners_note, lawful.listeners_withHost]

/-! ## Mutations in a row -/

section Definitions

variable (announcer) (earlier : List τ)

/-- The change that is told of behind some listeners when a mutation is made, with the host right
after it: the one that the mutation commits, if all of those return. -/
def delivery (state : σ) (mutation : Mutation) : List (Change × Host) :=
  match mutation.change? (announcer.host state) with
  | none => []
  | some change =>
      if announcer.Returns earlier change (announcer.committed state mutation change) then
        [(change, mutation.after (announcer.host state))]
      else []

def deliveries (state : σ) : List Mutation → List (Change × Host)
  | [] => []
  | mutation :: rest =>
      announcer.delivery earlier state mutation ++
        deliveries (announcer.after state mutation) rest

/-- Some listeners return whenever they are told of a change along mutations. -/
def NoneFails (state : σ) : List Mutation → Prop
  | [] => True
  | mutation :: rest =>
      (∀ change, mutation.change? (announcer.host state) = some change →
        announcer.Returns earlier change (announcer.committed state mutation change)) ∧
      NoneFails (announcer.after state mutation) rest

end Definitions

theorem host_afterAll (lawful : announcer.IsLawful) (state : σ) (mutations : List Mutation) :
    announcer.host (announcer.afterAll state mutations) =
      Mutation.afterAll (announcer.host state) mutations := by
  induction mutations generalizing state with
  | nil => rfl
  | cons mutation rest inductionHypothesis =>
      rw [afterAll_cons, inductionHypothesis, host_after lawful, Mutation.afterAll_cons]

section Listener

variable {listener : τ} {heard : σ → List ε} {event : Change → Host → ε} {earlier later : List τ}
variable (lawful : announcer.IsLawful) (hears : announcer.Hears listener heard event)
variable (once : listener ∉ earlier ++ later)
include lawful hears once

/-- One mutation adds its delivery to what a listener heard. -/
theorem heard_after {state : σ} (subscribed : announcer.listeners state = earlier ++ listener :: later)
    (mutation : Mutation) :
    heard (announcer.after state mutation) = heard state ++
      (announcer.delivery earlier state mutation).map fun told => event told.1 told.2 := by
  rw [after_eq lawful, delivery]
  cases mutation.change? (announcer.host state) with
  | none => exact (hears.withHost _ _).trans (List.append_nil _).symm
  | some change =>
      have sameListeners : announcer.listeners (announcer.committed state mutation change) =
          earlier ++ listener :: later := by
        rw [committed, lawful.listeners_note, lawful.listeners_withHost, subscribed]
      have sameHeard : heard (announcer.committed state mutation change) = heard state := by
        rw [committed, hears.note, hears.withHost]
      have isHost : announcer.host (announcer.committed state mutation change) =
          mutation.after (announcer.host state) := by
        rw [committed, lawful.host_note, lawful.host_withHost]
      dsimp only
      rw [heard_tellAll lawful hears sameListeners once, sameHeard, isHost]
      split <;> rfl

theorem heard_afterAll {state : σ}
    (subscribed : announcer.listeners state = earlier ++ listener :: later)
    (mutations : List Mutation) :
    heard (announcer.afterAll state mutations) = heard state ++
      (announcer.deliveries earlier state mutations).map fun told => event told.1 told.2 := by
  induction mutations generalizing state with
  | nil => exact (List.append_nil _).symm
  | cons mutation rest inductionHypothesis =>
      rw [afterAll_cons,
        inductionHypothesis ((listeners_after lawful state mutation).trans subscribed),
        heard_after lawful hears once subscribed, deliveries, List.map_append, List.append_assoc]

end Listener

/-- What is told is committed, in this order. -/
theorem deliveries_sublist (lawful : announcer.IsLawful) (earlier : List τ) (state : σ)
    (mutations : List Mutation) :
    (announcer.deliveries earlier state mutations).Sublist
      (Mutation.commits (announcer.host state) mutations) := by
  induction mutations generalizing state with
  | nil => exact List.Sublist.refl []
  | cons mutation rest inductionHypothesis =>
      have others := inductionHypothesis (announcer.after state mutation)
      rw [host_after lawful] at others
      refine List.Sublist.append ?_ others
      rw [delivery]
      cases mutation.change? (announcer.host state) with
      | none => exact List.Sublist.refl []
      | some change =>
          dsimp only
          split
          · exact List.Sublist.refl _
          · exact List.nil_sublist _

/-- All that is committed is told behind some listeners exactly if none of those ever fails. -/
theorem deliveries_eq_commits_iff (lawful : announcer.IsLawful) (earlier : List τ) (state : σ)
    (mutations : List Mutation) :
    announcer.deliveries earlier state mutations =
        Mutation.commits (announcer.host state) mutations ↔
      announcer.NoneFails earlier state mutations := by
  induction mutations generalizing state with
  | nil => exact iff_of_true rfl trivial
  | cons mutation rest inductionHypothesis =>
      have others := inductionHypothesis (announcer.after state mutation)
      have fewer := deliveries_sublist lawful earlier (announcer.after state mutation) rest
      rw [host_after lawful] at others fewer
      rw [deliveries, Mutation.commits, NoneFails, delivery]
      cases mutation.change? (announcer.host state) with
      | none => simpa using others
      | some change =>
          by_cases returns :
              announcer.Returns earlier change (announcer.committed state mutation change)
          · simpa [returns] using others
          · -- This change is missing, and what is told later cannot make up for it.
            have shorter := fewer.length_le
            refine iff_of_false (fun same => ?_) fun returned => returns (returned.1 change rfl)
            have sameLength := congrArg List.length same
            simp [returns] at sameLength
            omega

/-- Listeners that return whatever they are told of never fail. -/
theorem noneFails_of_returning {earlier : List τ}
    (returning : ∀ listener ∈ earlier, ∀ change state,
      (announcer.tell change listener state).1.isOk = true) (state : σ) (mutations : List Mutation) :
    announcer.NoneFails earlier state mutations := by
  have returns (change : Change) (start : σ) : announcer.Returns earlier change start := by
    clear state mutations
    unfold Returns
    induction earlier generalizing start with
    | nil => rfl
    | cons first rest inductionHypothesis =>
        rw [Action.isOk_each_cons, returning first (by simp), Bool.true_and]
        exact inductionHypothesis (fun other member => returning other (by simp [member])) _
  induction mutations generalizing state with
  | nil => trivial
  | cons mutation rest inductionHypothesis =>
      exact ⟨fun change _ => returns change _, inductionHypothesis _⟩

end Announcer

/-! ## Applications -/

namespace Application

/-- Applications announce the changes of their host to their listeners. -/
def announcer : Announcer Application Listener where
  host := Application.host
  withHost := fun host application => { application with host := host }
  note := Application.note
  listeners := Application.listeners
  tell := Application.tell

theorem create_eq : Application.create = announcer.create := rfl

theorem update_eq : Application.update = announcer.update := rfl

theorem destroy_eq : Application.destroy = announcer.destroy := rfl

theorem announcer_isLawful : announcer.IsLawful where
  host_withHost := fun _ _ => rfl
  listeners_withHost := fun _ _ => rfl
  noted := fun _ _ => rfl
  host_note := fun _ _ => rfl
  listeners_note := fun _ _ => rfl
  host_tell := by
    intro change listener application
    cases listener <;> rfl
  listeners_tell := by
    intro change listener application
    cases listener <;> rfl

theorem recorder_hears :
    announcer.Hears .recorder (fun application => application.heard.reverse) fun change _ => change where
  own := fun _ _ => List.reverse_cons
  others := by
    intro other isOther change application
    cases other with
    | service => rfl
    | recorder => exact absurd rfl isOther
  withHost := fun _ _ => rfl
  note := fun _ _ => rfl

/-- Posts depend on their user, whose posts cannot be resolved; the service is told before the
recorder. -/
def desk : Application where
  host := { Host.empty.relate "user" "posts" ⟨"post", "user_id", .hasMany⟩ with
    outage := ⟨[], ["posts"], []⟩ }
  sight := Host.source
  service := ⟨⟨default, ⟨true, .ofList
    [("post", ⟨true, .ofList [("title", ⟨.extractor (.attributes ["title"]), true⟩)]⟩)]⟩,
    .ofEdges [⟨"post", "user", "posts"⟩]⟩, default⟩
  listeners := [.service, .recorder]
  heard := []

def admission : Mutation := .create "user" (.ofList [("id", .int 1)])

def posting : Mutation := .create "post" (.ofList [("id", .int 7), ("user_id", .int 1)])

end Application

namespace Announcer

variable {σ τ ε : Type} {announcer : Announcer σ τ}

/-- Along mutations, a listener hears once of each committed change at which all listeners before it
return, in order and after the commit, and of nothing else: of all of them exactly if those never
fail, as when there are none. The changes of each record alternate, and lead to what the host holds
of it at last. -/
theorem heard_along_mutations (lawful : announcer.IsLawful) {listener : τ} {heard : σ → List ε}
    {event : Change → Host → ε} (hears : announcer.Hears listener heard event) {state : σ}
    {earlier later : List τ} (subscribed : announcer.listeners state = earlier ++ listener :: later)
    (once : listener ∉ earlier ++ later) (mutations : List Mutation) :
    let last := announcer.afterAll state mutations
    let told := announcer.deliveries earlier state mutations
    let commits := Mutation.commits (announcer.host state) mutations
    heard last = heard state ++ told.map (fun row => event row.1 row.2) ∧
      told.Sublist commits ∧
      (told = commits ↔ announcer.NoneFails earlier state mutations) ∧
      ((∀ other ∈ earlier, ∀ change start, (announcer.tell change other start).1.isOk = true) →
        told = commits) ∧
      announcer.host last = Mutation.afterAll (announcer.host state) mutations ∧
      ∀ name, ChangeKind.Alternates ((announcer.host state).has name)
        (Change.kindsOf name (commits.map Prod.fst)) ((announcer.host last).has name) := by
  intro last told commits
  have isHost := host_afterAll lawful state mutations
  refine ⟨heard_afterAll lawful hears once subscribed mutations,
    deliveries_sublist lawful earlier state mutations,
    deliveries_eq_commits_iff lawful earlier state mutations, fun returning => ?_, isHost,
    fun name => ?_⟩
  · exact (deliveries_eq_commits_iff lawful earlier state mutations).2
      (noneFails_of_returning returning state mutations)
  · rw [isHost, Mutation.map_fst_commits]
    exact Mutation.alternates_afterAll (announcer.host state) mutations name

/-- The service fails when it is told of the user, not when it is told of the post. -/
theorem heard_along_mutations_desk :
    let mutations := [Application.admission, Application.posting]
    let last := Application.announcer.afterAll Application.desk mutations
    let told := Application.announcer.deliveries [.service] Application.desk mutations
    let commits := Mutation.commits Application.desk.host mutations
    last.heard.reverse = told.map Prod.fst ∧ told.Sublist commits ∧
      commits.length = 2 ∧ told.length = 1 ∧
      ¬ Application.announcer.NoneFails [.service] Application.desk mutations := by
  intro mutations last told commits
  have subscribed : Application.announcer.listeners Application.desk =
      [.service] ++ .recorder :: [] := rfl
  obtain ⟨heard, fewer, all_iff, -⟩ := heard_along_mutations Application.announcer_isLawful
    Application.recorder_hears subscribed (by decide) mutations
  have committed : commits.length = 2 := by decide +kernel
  have heardOf : told.length = 1 := by decide +kernel
  refine ⟨heard, fewer, committed, heardOf, fun unfailing => ?_⟩
  have same : told = commits := all_iff.2 unfailing
  rw [same, committed] at heardOf
  cases heardOf

end Announcer

namespace Application

/-- A user is created, and the recorder does not hear of it. -/
theorem admission_unheard :
    let admitted := (create "user" (.ofList [("id", .int 1)]) desk).2
    admitted.host.has ("user", .int 1) = true ∧
      admitted.heard.reverse ≠ desk.heard.reverse ++ Mutation.changes desk.host [admission] := by
  intro admitted
  refine ⟨by decide +kernel, fun heard => ?_⟩
  have sameLength := congrArg List.length heard
  exact absurd sameLength (by decide +kernel)

end Application

end ShadowIndex
