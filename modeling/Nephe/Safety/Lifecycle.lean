import Nephe.Effects.Observed

/-!
# The life cycle of a group object

An object is created, updated and deleted in this order, whatever fails and
whatever arrives late.
-/

namespace Nephe

open Library

namespace CloudCall

/-- The call updates a group that exists. -/
def IsUpdate : CloudCall → Prop
  | .updateSecurityGroupMembers _ _ _ => True
  | .updateSecurityGroupRules _ _ _ => True
  | _ => False

/-- The call deletes a group. -/
def IsDelete : CloudCall → Prop
  | .deleteSecurityGroup _ _ => True
  | _ => False

end CloudCall

/-! ## Updates -/

/-- Updates have been sent only for objects that were created then. -/
def UpdatesWhenCreated (r : Reconciler) : Prop :=
  ∀ x ∈ r.observed, ∀ c call, x.action = .call c call → call.IsUpdate →
    (x.before.objects c).state = .created

variable {o : Origin} {r r' : Reconciler} {c : Ref}

theorem Effect.updatesWhenCreated (effect : Effect o r r') (before : UpdatesWhenCreated r) :
    UpdatesWhenCreated r' := by
  intro x member c call action update
  cases call with
  | updateSecurityGroupMembers id members membershipOnly =>
    rcases effect.members_source member action with old | sent | sent
    · exact before x old c _ action update
    · rw [sent.before, Reconciler.objects_assign, if_pos rfl]
      exact sent.created
    · rw [sent.before]
      exact sent.created
  | updateSecurityGroupRules id ingress egress =>
    rcases effect.rules_source member action with old | sent
    · exact before x old c _ action update
    · rw [sent.before]
      exact sent.created
  | createSecurityGroup => exact update.elim
  | deleteSecurityGroup => exact update.elim

/-! ## Becoming created -/

/-- An object becomes created by the answer to its creation or by a sync that reports it. -/
theorem Effect.created_source (effect : Effect o r r') (created : (r'.objects c).state = .created) :
    (r.objects c).state = .created ∨ o = .response c .add none ∨
      (o.IsSync ∧ r.Reported (r'.objects c).membershipOnly (r'.objects c).id) := by
  rcases effect.objects c with same | written
  · exact .inl (same ▸ created)
  · generalize value : r'.objects c = new at written created ⊢
    cases written with
    | created origin => exact .inr (.inl origin)
    | reported origin indexed networked reported => exact .inr (.inr ⟨.inr ⟨c, origin⟩, reported⟩)
    | allocate group new clean fresh =>
      rcases fresh with ⟨init, _⟩ | ⟨origin, _, _, _, reported⟩
      · exact absurd (init.symm.trans created) (by simp)
      · exact .inr (.inr ⟨.inl origin, reported⟩)
    | beginDelete => cases created
    | answerItem d op err count =>
      exact .inl (((r.objects c).updatePendingItem_state op).symm.trans created)
    | _ => exact .inl created

/-- An object that is not in the initial state has been allocated. -/
theorem Base.allocated_of_created {core : Core} (base : Base core)
    (created : (core.objects c).state = .created) : c < core.nextRef := by
  by_contra new
  exact absurd ((base.unallocated c (Nat.not_lt.mp new)).symm.trans created) (by simp)

theorem Base.created_source {allowed : Origin → Prop} (base : Base r.toCore)
    (effects : Effects allowed r r') (inside : ¬ allowed .start)
    (created : (r'.objects c).state = .created) :
    (r.objects c).state = .created ∨ allowed (.response c .add none) ∨
      ((∃ o, allowed o ∧ o.IsSync) ∧
        r.Reported (r'.objects c).membershipOnly (r'.objects c).id) := by
  induction effects with
  | refl => exact .inl created
  | @tail middle last o before permitted effect induction =>
    have sameEnv := env_effects before inside
    rcases effect.created_source created with earlier | origin | ⟨isSync, reported⟩
    · have allocated := (base.effects before).allocated_of_created earlier
      obtain ⟨sameKind, sameId⟩ := effect.static allocated
      rw [sameKind, sameId]
      exact induction earlier
    · exact .inr (.inl (origin ▸ permitted))
    · refine .inr (.inr ⟨⟨o, permitted, isSync⟩, ?_⟩)
      rw [Core.Reported, sameEnv] at reported
      exact reported

/-- The step is a sync, and the cloud reports the group. -/
def Label.Reports (label : Label) (membershipOnly : Bool) (id : CloudResourceID) : Prop :=
  label.event.Syncs ∧ ∃ content ∈ label.env.syncContents,
    content.membershipOnly = membershipOnly ∧ content.resource = id

/-- The step receives the answer to a successful creation for the object. -/
def System.AcknowledgesCreation (s : System) (label : Label) (c : Ref) : Prop :=
  ∃ position m, label.event = .respond position ∧
    s.reconciler.inFlight[position]? = some m ∧ m.sg = c ∧ m.stage = .answered .add none ∧
    m.call = .createSecurityGroup (s.reconciler.objects c).id
      (s.reconciler.objects c).membershipOnly

theorem System.step_created (s : System) (label : Label) (base : Base s.reconciler.toCore)
    (not_ : (s.reconciler.objects c).state ≠ .created)
    (created : ((s.step label).reconciler.objects c).state = .created) :
    s.AcknowledgesCreation label c ∨
      label.Reports ((s.step label).reconciler.objects c).membershipOnly
        ((s.step label).reconciler.objects c).id := by
  cases running : s.reconciler.panicked with
  | true =>
    rw [s.step_panicked label running] at created
    exact absurd created not_
  | false =>
    obtain ⟨entered, handled⟩ := s.step_effects label base running
    have base' := base.effects entered
    rcases base'.created_source handled Origin.not_start created with
      old | origin | ⟨⟨o, origin, isSync⟩, reported⟩
    · exact absurd old not_
    · obtain ⟨position, m, event, found, rfl, answered⟩ := Origin.response_of_event origin
      have known := base.messages m (List.mem_of_getElem? found)
      exact .inl ⟨position, m, event, found, rfl, answered,
        known.create_of_op (known.op_of_answered answered (by simp) (by simp))⟩
    · exact .inr ⟨Origin.sync_of_event origin isSync, reported⟩

/-! ## After a deletion -/

/-- Once a delete has been sent for an object, only deletes follow. -/
structure DeletedForGood (r : Reconciler) : Prop where
  garbage : ∀ x ∈ r.observed, ∀ c id membershipOnly,
    x.action = .call c (.deleteSecurityGroup id membershipOnly) →
    c < r.nextRef ∧ (r.objects c).state = .garbageCollectState
  order : r.observed.Pairwise fun later earlier => ∀ c call id membershipOnly,
    earlier.action = .call c (.deleteSecurityGroup id membershipOnly) →
    later.action = .call c call → call.IsDelete

/-- An action that is not a delete of its object leaves the record in order. -/
theorem DeletedForGood.cons (before : DeletedForGood r) {x : Observation}
    (alive : ∀ c call, x.action = .call c call → call.IsDelete ∨
      (r.objects c).state ≠ .garbageCollectState) :
    (x :: r.observed).Pairwise fun later earlier => ∀ c call id membershipOnly,
      earlier.action = .call c (.deleteSecurityGroup id membershipOnly) →
      later.action = .call c call → call.IsDelete := by
  refine List.pairwise_cons.mpr ⟨?_, before.order⟩
  intro earlier member c call id membershipOnly deleted action
  rcases alive c call action with delete | alive
  · exact delete
  · exact absurd (before.garbage earlier member c id membershipOnly deleted).2 alive

/-- Noting a run of a queued object leaves the record in order. -/
theorem DeletedForGood.observe (before : DeletedForGood r) (d : Ref)
    (op : Option SecurityGroupOperation) :
    DeletedForGood (r.observe (.runPendingItem d op)) where
  garbage x member c id membershipOnly action := by
    rcases List.mem_cons.mp member with rfl | old
    · cases action
    · exact before.garbage x old c id membershipOnly action
  order := before.cons fun c call action => nomatch action

theorem Effect.deletedForGood (base : Base r.toCore) (effect : Effect o r r')
    (before : DeletedForGood r) : DeletedForGood r' where
  garbage x member c id membershipOnly action := by
    rcases effect.observed_source member with old | recorded
    · obtain ⟨allocated, garbage⟩ := before.garbage x old c id membershipOnly action
      exact ⟨allocated.trans_le effect.nextRef_le, (effect.state_mono base allocated).2 garbage⟩
    obtain ⟨_, _, sent | again⟩ := recorded.deletes action
    · refine ⟨sent.allocated.trans_le effect.nextRef_le, ?_⟩
      rw [sent.after, Reconciler.objects_beginDelete, if_pos rfl]
    · exact ⟨again.allocated.trans_le effect.nextRef_le,
        (effect.state_mono base again.allocated).2 again.garbage⟩
  order := by
    cases effect with
    | listen | finished | startRetry | retryAddEarly =>
      exact before.cons fun c call action => nomatch action
    | create d allocated indexed networked synced init =>
      refine before.cons fun c call action => .inr ?_
      cases action
      simp [init]
    | pushMembers d members allocated networked source created
    | pushNoMembers d allocated created | pushRules d ingress egress allocated created =>
      refine before.cons fun c call action => .inr ?_
      cases action
      simp [created]
    | beginDelete d =>
      refine before.cons fun c call action => .inl ?_
      cases action
      trivial
    | retryAdd d allocated queued retries alive =>
      refine (before.observe d _).cons fun c call action => .inr ?_
      cases action
      exact alive
    | retryDelete d =>
      refine (before.observe d _).cons fun c call action => .inl ?_
      cases action
      trivial
    | _ => exact before.order

/-! ## Every run -/

/--
The life cycle of every object in every run: updates are sent only while it is
created, it becomes created only by the answer to its creation or by a sync
that reports it, and after a delete only deletes are sent for it.
-/
theorem group_lifecycle (cloud : Cloud) (labels : List Label) :
    let s := run System.step (System.initial cloud) labels
    (∀ x ∈ s.reconciler.observed, ∀ c call, x.action = .call c call → call.IsUpdate →
      (x.before.objects c).state = .created) ∧
    (∀ label c, (s.reconciler.objects c).state ≠ .created →
      ((s.step label).reconciler.objects c).state = .created →
      s.AcknowledgesCreation label c ∨
        label.Reports ((s.step label).reconciler.objects c).membershipOnly
          ((s.step label).reconciler.objects c).id) ∧
    s.reconciler.observed.Pairwise fun later earlier => ∀ c call id membershipOnly,
      earlier.action = .call c (.deleteSecurityGroup id membershipOnly) →
      later.action = .call c call → call.IsDelete := by
  intro s
  obtain ⟨base, updates, deleted⟩ :=
    run_unconditional (fun r => UpdatesWhenCreated r ∧ DeletedForGood r)
      (fun _ _ _ base effect before =>
        ⟨effect.updatesWhenCreated before.1, effect.deletedForGood base before.2⟩)
      ⟨fun _ member => absurd member List.not_mem_nil,
        fun _ member => absurd member List.not_mem_nil, .nil⟩ cloud labels
  exact ⟨updates, fun label c not_ created => s.step_created label base not_ created,
    deleted.order⟩

/--
Every state that the controller reaches is consistent, whatever fails: among others, an
object is indexed under its own name and kind and is then not garbage, and a call in
flight is about an object that was made, carries its id and kind, and deletes only
garbage.
-/
theorem reachable_states_are_consistent (cloud : Cloud) (labels : List Label) :
    Base (run System.step (System.initial cloud) labels).reconciler.toCore :=
  System.base_run base_setup labels

/-- What an object that was made by now keeps for good. -/
structure Persists (c : Ref) (r r' : Reconciler) : Prop where
  allocated : c < r'.nextRef
  kind : (r'.objects c).membershipOnly = (r.objects c).membershipOnly
  id : (r'.objects c).id = (r.objects c).id
  sent : (r.objects c).state ≠ .init → (r'.objects c).state ≠ .init
  garbage : (r.objects c).state = .garbageCollectState →
    (r'.objects c).state = .garbageCollectState

theorem Persists.effect {r₀ : Reconciler} (persists : Persists c r₀ r) (base : Base r.toCore)
    (effect : Effect o r r') : Persists c r₀ r' := by
  obtain ⟨sameKind, sameId⟩ := effect.static persists.allocated
  obtain ⟨sent, garbage⟩ := effect.state_mono base persists.allocated
  exact ⟨persists.allocated.trans_le effect.nextRef_le, sameKind.trans persists.kind,
    sameId.trans persists.id, sent ∘ persists.sent, garbage ∘ persists.garbage⟩

/--
Whatever happens after a run, an object that was made by then keeps its kind and its id,
is not set back before its creation was sent, and stays garbage once it is.
-/
theorem objects_are_not_reused (cloud : Cloud) (labels later : List Label)
    (c : Fin (run System.step (System.initial cloud) labels).reconciler.nextRef) :
    Persists c (run System.step (System.initial cloud) labels).reconciler
      (run System.step (System.initial cloud) (labels ++ later)).reconciler := by
  have joined : run System.step (System.initial cloud) (labels ++ later) =
    run System.step (run System.step (System.initial cloud) labels) later := List.foldl_append
  rw [joined]
  exact (run_effects (fun _ _ => True) (Persists c _)
    (fun s label _ base => s.step_invariant (Persists c _)
      (fun _ _ _ base effect persists => persists.effect base effect) label base)
    (allowed_of_forall (fun _ _ => trivial) _ later) (System.base_run base_setup labels)
    ⟨c.isLt, rfl, rfl, id, id⟩).2

end Nephe
