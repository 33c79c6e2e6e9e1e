import Nephe.Effects.Flight

/-!
# Which operations are retried

The operation under which a failed call is queued is chosen by its response
goroutine.  An address group must only be queued under an operation that
`runPendingItemImpl` can run for it.
-/

namespace Nephe

open Library

/-! ## Operations of address groups -/

/-- The operations that can be retried for an address group. -/
def SecurityGroupOperation.OfAddress (op : SecurityGroupOperation) : Prop :=
  op = .add ∨ op = .updateMembers ∨ op = .delete

instance (op : SecurityGroupOperation) : Decidable op.OfAddress :=
  inferInstanceAs (Decidable (_ ∨ _ ∨ _))

/-- Every retry item that has been run for an address group could be run. -/
def RunsOfAddress (r : Reconciler) : Prop :=
  ∀ x ∈ r.observed, ∀ c op, x.action = .runPendingItem c (some op) →
    (x.before.objects c).membershipOnly = true → op.OfAddress

/-- Failures of address groups are reported and queued under their own operations. -/
structure RetryTags (r : Reconciler) : Prop where
  messages : ∀ m ∈ r.inFlight, ∀ op message, m.stage = .answered op (some message) →
    (r.objects m.sg).membershipOnly = true → op.OfAddress
  retryOps : ∀ c op, (r.objects c).retryOp = some op →
    (r.objects c).membershipOnly = true → op.OfAddress
  runs : RunsOfAddress r

theorem retryTags_setup : RetryTags Reconciler.setup where
  messages _ member := absurd member List.not_mem_nil
  retryOps _ _ retries := nomatch retries
  runs _ member := absurd member List.not_mem_nil

/-! ## Effects -/

namespace RetryTags

variable {o : Origin} {r r' : Reconciler}

theorem effect_messages (tags : RetryTags r) (base : Base r.toCore) (effect : Effect o r r')
    (other : o ≠ .answering) :
    ∀ m ∈ r'.inFlight, ∀ op message, m.stage = .answered op (some message) →
      (r'.objects m.sg).membershipOnly = true → op.OfAddress := by
  intro m member op message answered address
  have old := effect.flight.answered_before other member answered
  rw [(effect.static (base.messages m old).allocated).1] at address
  exact tags.messages m old op message answered address

/-- Only a failed response puts a new operation into an object. -/
theorem effect_retryOps (tags : RetryTags r) (effect : Effect o r r')
    (failed : ∀ c op message, o = .response c op (some message) →
      (r.objects c).membershipOnly = true → op.OfAddress) :
    ∀ c op, (r'.objects c).retryOp = some op →
      (r'.objects c).membershipOnly = true → op.OfAddress := by
  intro c op retries address
  rcases effect.objects c with same | written
  · rw [same] at retries address
    exact tags.retryOps c op retries address
  · generalize r'.objects c = new at written retries address
    cases written with
    | allocate group new clean => exact absurd (clean.retryOp.symm.trans retries) (by simp)
    | forget | beginDelete | startRetry => cases retries
    | queueRetry op' message origin =>
      cases retries
      exact failed c op message origin address
    | endRetry op' origin queued idle alive other ran =>
      cases retries
      obtain ⟨x, member, action, sameKind⟩ := ran
      exact tags.runs x member c op action (sameKind.trans address)
    | retryAdd | retryAddEarly =>
      cases retries
      exact .inl rfl
    | retryDelete =>
      cases retries
      exact .inr (.inr rfl)
    | answerItem d op' err count origin found =>
      rw [SecurityGroup.updatePendingItem_membershipOnly] at address
      rcases (r.objects c).updatePendingItem_retryOp op' with kept | dropped
      · exact tags.retryOps c op (kept.symm.trans retries) address
      · exact absurd (dropped.symm.trans retries) (by simp)
    | _ => exact tags.retryOps c op retries address

theorem effect_runs (tags : RetryTags r) (effect : Effect o r r') : RunsOfAddress r' := by
  intro x member c op action address
  rcases effect.run_source member action with old | ⟨before, retries⟩
  · exact tags.runs x old c op action address
  · rw [before] at address
    exact tags.retryOps c op retries address

end RetryTags

/-! ## Steps -/

/-- The call in flight for which the event prepares a response. -/
def Event.answered? (event : Event) (messages : List Message) : Option Message :=
  match event with
  | .answer position => messages[position]?
  | _ => none

/-- The call has been executed and has failed. -/
def Stage.Failed : Stage → Prop
  | .executed (some _) => True
  | _ => False

instance : DecidablePred Stage.Failed
  | .issued => isFalse id
  | .executed none => isFalse id
  | .executed (some _) => isTrue trivial
  | .answered _ _ => isFalse id

/--
No response goroutine picks up an error for the members of an address group
that has no members left.
-/
def KeepsMembersOnError (s : System) (label : Label) : Prop :=
  ∀ m ∈ label.event.answered? s.reconciler.inFlight, m.stage.Failed → m.op = none →
    (s.reconciler.objects m.sg).membershipOnly = true →
    (s.reconciler.objects m.sg).members ≠ []

instance (s : System) (label : Label) : Decidable (KeepsMembersOnError s label) :=
  inferInstanceAs (Decidable (∀ m ∈ label.event.answered? s.reconciler.inFlight, _))

/-- A response of an address group is reported under one of its operations. -/
theorem ofAddress_responseOp {r : Reconciler} {m : Message} (known : MessageOf r.toCore m)
    (address : (r.objects m.sg).membershipOnly = true)
    (members : m.op = none → (r.objects m.sg).members ≠ []) : (r.responseOp m).OfAddress := by
  have call := known.call
  unfold Reconciler.responseOp
  cases late : m.op with
  | none => simp [members late, SecurityGroupOperation.OfAddress]
  | some op =>
    cases there : m.call with
    | createSecurityGroup => simp_all [SecurityGroupOperation.OfAddress]
    | deleteSecurityGroup => simp_all [SecurityGroupOperation.OfAddress]
    | updateSecurityGroupMembers =>
      simp only [there, late] at call
      obtain ⟨_, kind, _, none_ | ⟨_, _, applied⟩⟩ := call
      · cases none_
      · exact absurd (applied.symm.trans (kind.trans address)) (by simp)
    | updateSecurityGroupRules =>
      simp only [there] at call
      exact absurd (call.2.1.symm.trans address) (by simp)

theorem RetryTags.answer {r : Reconciler} (tags : RetryTags r) (base : Base r.toCore)
    (position : Nat)
    (members : ∀ m, r.inFlight[position]? = some m → m.stage.Failed → m.op = none →
      (r.objects m.sg).membershipOnly = true → (r.objects m.sg).members ≠ []) :
    RetryTags (r.answer position) := by
  simp only [Reconciler.answer]
  split
  next m found =>
    split
    next err executed =>
      refine ⟨fun m' member op message answered address => ?_, tags.retryOps, tags.runs⟩
      rcases r.mem_setStage member with old | ⟨same, there, rfl⟩
      · exact tags.messages m' old op message answered address
      · obtain rfl := Option.some.inj (found.symm.trans there)
        cases answered
        exact ofAddress_responseOp (base.messages m (List.mem_of_getElem? found)) address
          fun late => members m found (executed ▸ trivial) late address
    next => exact tags
  next => exact tags

theorem RetryTags.step {s : System} {label : Label} (tags : RetryTags s.reconciler)
    (base : Base s.reconciler.toCore) (allowed : KeepsMembersOnError s label) :
    RetryTags (s.step label).reconciler := by
  cases running : s.reconciler.panicked with
  | true =>
    rw [s.step_panicked label running]
    exact tags
  | false =>
    -- The answer of a goroutine is the one effect that needs the condition.
    by_cases answers : ∃ position, label.event = .answer position
    · obtain ⟨position, event⟩ := answers
      have entered : RetryTags (s.reconciler.enter label) :=
        ⟨tags.messages, tags.retryOps, tags.runs⟩
      have base' : Base (s.reconciler.enter label).toCore :=
        (Effect.enter label.env label.order).base base
      simp only [System.step, running, event, Bool.false_eq_true, if_false]
      rw [KeepsMembersOnError, event] at allowed
      exact entered.answer base' position allowed
    · refine System.step_along base RetryTags (fun o r r' effects origin base' effect tags' => ?_)
        tags
      refine ⟨tags'.effect_messages base' effect ?_, tags'.effect_retryOps effect ?_,
        tags'.effect_runs effect⟩
      · rintro rfl
        exact answers (Origin.answering_of_step origin)
      · rintro c op message rfl address
        obtain ⟨position, m, _, found, rfl, answered⟩ := Origin.response_of_step origin
        have member := List.mem_of_getElem? found
        have known := base.messages m member
        rw [(static_effects effects known.allocated).2.1] at address
        exact tags.messages m member op message answered address

/-! ## Runs -/

/--
A retry item of an address group is run for an addition, an update of its
members or a deletion, as long as no failed update is picked up after the last
member of its group is gone.
-/
theorem retried_operation_fits (cloud : Cloud) (labels : List Label)
    (allowed : Allowed System.step KeepsMembersOnError (System.initial cloud) labels) :
    let s := run System.step (System.initial cloud) labels
    ∀ x ∈ s.reconciler.observed, ∀ c op, x.action = .runPendingItem c (some op) →
      (x.before.objects c).membershipOnly = true → op.OfAddress :=
  (run_effects KeepsMembersOnError RetryTags
    (fun _ _ allowed base tags => tags.step base allowed) allowed base_setup
    retryTags_setup).2.runs

/-! ## Sample runs -/

namespace Sample

/-- Two machines are in one VPC, all others are in another. -/
def env : Env where
  getExternalEntity key :=
    .ok ⟨"ns", some "virtualmachine", some ("VirtualMachine", key.name), []⟩
  getVirtualMachine key :=
    .ok ⟨some (if key.name = "a" ∨ key.name = "b" then "v1" else "v2"), some key.name⟩
  listByCloudID _ := .ok []
  listByCloudName _ := .ok []
  syncContents := []

/-- The member of a group that stands for a machine. -/
def member (name : String) : GroupMember :=
  ⟨some ⟨"ns", name⟩⟩

/-- The steps of the events, in that environment. -/
def steps (events : List Event) : List Label :=
  events.map fun event => { event, env }

/-- The state after the events, from a cloud without groups. -/
def after (events : List Event) : System :=
  run System.step (System.initial fun _ => none) (steps events)

/-- Every watch delivers its bookmark. -/
def bookmarks : List Event :=
  [.addrGroup .bookmark (.complete "" []), .appliedToGroup .bookmark (.complete "" []),
    .networkPolicy .bookmark ⟨"", "", none, [], []⟩]

/-- The call at a position is executed, perhaps with a fault, answered and received. -/
def callback (position : Nat) (fault : Option String) : List Event :=
  [.execute position fault, .answer position, .respond position]

/-- The creation of an address group fails and is retried. -/
def failedCreation : List Event :=
  bookmarks ++ [.addrGroup .added (.complete "g" [member "a"])] ++
    callback 0 (some "denied") ++ [.checkToRun]

/-- The only member of an address group is removed, and the update of the cloud fails. -/
def failedClearing : List Event :=
  bookmarks ++ [.addrGroup .added (.complete "g" [member "a"])] ++ callback 0 none ++
    callback 0 none ++ [.addrGroup .modified (.patch "g" [] [member "a"])] ++
    callback 0 (some "denied") ++ [.checkToRun]

end Sample

/-- A creation that fails and is retried is one of the runs of the theorem. -/
theorem retried_creation_fits :
    (∃ x ∈ (Sample.after Sample.failedCreation).reconciler.observed,
        x.action = .runPendingItem 0 (some .add)) ∧
      ∀ x ∈ (Sample.after Sample.failedCreation).reconciler.observed, ∀ c op,
        x.action = .runPendingItem c (some op) →
        (x.before.objects c).membershipOnly = true → op.OfAddress :=
  ⟨by decide +kernel, retried_operation_fits _ _ (by decide +kernel)⟩

/-- The failed clearing of an address group is retried as if it had rules, and panics. -/
theorem retried_operation_misfits :
    (Sample.after Sample.failedClearing).reconciler.panicked = true ∧
      ¬ ∀ x ∈ (Sample.after Sample.failedClearing).reconciler.observed, ∀ c op,
        x.action = .runPendingItem c (some op) →
        (x.before.objects c).membershipOnly = true → op.OfAddress := by
  refine ⟨by decide +kernel, fun fits => ?_⟩
  obtain ⟨x, member, action, address⟩ :
      ∃ x ∈ (Sample.after Sample.failedClearing).reconciler.observed,
        x.action = .runPendingItem 0 (some .clearMembers) ∧
          (x.before.objects 0).membershipOnly = true := by decide +kernel
  exact absurd (fits x member 0 _ action address) (by decide)

end Nephe
