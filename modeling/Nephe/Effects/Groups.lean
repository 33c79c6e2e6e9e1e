import Nephe.Effects.Base
import Nephe.SecurityGroup.Members

/-!
# The operations on groups, as effects
-/

namespace Nephe

open Library

/-! ## Changes of trackers -/

namespace Shrunk

variable {lost : String → Prop} {before between after : GoMap String CloudResourceNPTracker}

theorem refl (trackers : GoMap String CloudResourceNPTracker) : Shrunk lost trackers trackers :=
  ⟨fun _ tracker found => ⟨tracker, found, rfl, fun _ => id⟩,
    fun _ old found _ listed => .inr ⟨old, found, listed⟩⟩

theorem trans (left : Shrunk lost before between) (right : Shrunk lost between after) :
    Shrunk lost before after where
  known text tracker found := by
    obtain ⟨middle, there, same, fewer⟩ := right.known text tracker found
    obtain ⟨old, here, same', fewer'⟩ := left.known text middle there
    exact ⟨old, here, same.trans same', fun id => fewer' id ∘ fewer id⟩
  kept text old found id listed := by
    rcases left.kept text old found id listed with gone | ⟨middle, there, listed⟩
    · exact .inl gone
    · exact right.kept text middle there id listed

theorem mono {more : String → Prop} (included : ∀ id, lost id → more id)
    (shrunk : Shrunk lost before after) : Shrunk more before after :=
  ⟨shrunk.known, fun text old found id listed =>
    (shrunk.kept text old found id listed).imp_left (included id)⟩

theorem set {text : String} {old tracker : CloudResourceNPTracker}
    (found : before.get? text = some old) (same : tracker.cloudResource = old.cloudResource)
    (fewer : ∀ id, (tracker.appliedToSGs.get? id).isSome → (old.appliedToSGs.get? id).isSome)
    (kept : ∀ id, (old.appliedToSGs.get? id).isSome →
      lost id ∨ (tracker.appliedToSGs.get? id).isSome) :
    Shrunk lost before (before.set text tracker) where
  known other stored there := by
    rw [GoMap.get?_set] at there
    split at there
    next here =>
      subst here
      obtain rfl := Option.some.inj there
      exact ⟨old, found, same, fewer⟩
    next => exact ⟨stored, there, rfl, fun _ => id⟩
  kept other stored there id listed := by
    by_cases here : other = text
    · subst here
      obtain rfl := Option.some.inj (found.symm.trans there)
      refine (kept id listed).imp_right fun listed => ⟨tracker, ?_, listed⟩
      exact GoMap.get?_set_self _ _ _
    · exact .inr ⟨stored, (GoMap.get?_set_of_ne _ _ here).trans there, listed⟩

end Shrunk

/--
Only trackers and iteration orders change; `new` may enter the trackers, and if
nothing does, only the groups in `lost` may leave them.
-/
def Quiet (new : Ref → Prop) (lost : String → Prop) (r r' : Reconciler) : Prop :=
  ∃ trackers order,
    r' = { r with cloudResourceNPTrackerIndexer := trackers, order := order } ∧
      (∀ c, Core.TrackedIn trackers c → r.Tracked c ∨ new c) ∧
      ((∃ c, new c) ∨ Shrunk lost r.cloudResourceNPTrackerIndexer trackers)

namespace Quiet

variable {new : Ref → Prop} {lost : String → Prop} {r r' r'' : Reconciler}

theorem refl (r : Reconciler) : Quiet new lost r r :=
  ⟨_, _, rfl, fun _ tracked => .inl tracked, .inr (.refl _)⟩

theorem trans (left : Quiet new lost r r') (right : Quiet new lost r' r'') :
    Quiet new lost r r'' := by
  obtain ⟨_, _, rfl, before, shrunk⟩ := left
  obtain ⟨trackers, order, rfl, after, shrunk'⟩ := right
  refine ⟨trackers, order, rfl, fun c tracked => ?_, ?_⟩
  · rcases after c tracked with middle | here
    · exact before c middle
    · exact .inr here
  · rcases shrunk with grows | shrunk
    · exact .inl grows
    · exact shrunk'.imp_right shrunk.trans

theorem mono {more : Ref → Prop} {lose : String → Prop} (included : ∀ c, new c → more c)
    (loses : ∀ id, lost id → lose id) (quiet : Quiet new lost r r') : Quiet more lose r r' := by
  obtain ⟨trackers, order, rfl, known, shrunk⟩ := quiet
  exact ⟨trackers, order, rfl, fun c tracked => (known c tracked).imp_right (included c),
    shrunk.imp (Exists.imp included) (Shrunk.mono loses)⟩

theorem foldl {α : Type} {body : α → Reconciler → Reconciler} {list : List α}
    (pass : ∀ element ∈ list, ∀ r, Quiet new lost r (body element r)) (r : Reconciler) :
    Quiet new lost r (list.foldl (fun r element => body element r) r) := by
  induction list generalizing r with
  | nil => exact refl r
  | cons element rest induction =>
    exact (pass element List.mem_cons_self r).trans
      (induction (fun other member => pass other (List.mem_cons_of_mem _ member)) _)

theorem forEach {α : Type} {body : α → Reconciler → Reconciler} {list : List α}
    (pass : ∀ element ∈ list, ∀ r, Quiet new lost r (body element r)) (r : Reconciler) :
    Quiet new lost r (r.forEach list body) :=
  foldl pass r

theorem forRange {α : Type} {body : α → Reconciler → Reconciler} {list : List α}
    (pass : ∀ element ∈ list, ∀ r, Quiet new lost r (body element r)) (r : Reconciler) :
    Quiet new lost r (r.forRange list body) := by
  have drawn : Quiet new lost r r.advance :=
    ⟨_, _, rfl, fun _ tracked => .inl tracked, .inr (.refl _)⟩
  exact drawn.trans
    (foldl (fun element member => pass element ((mem_arrange _ _ _).mp member)) _)

/-- What is listed when nothing has entered the trackers was listed before. -/
theorem lists (quiet : Quiet new lost r r') (none_ : ∀ c, ¬ new c) {text id : String}
    (listed : r'.Lists text id) : r.Lists text id := by
  obtain ⟨trackers, order, rfl, _, shrunk⟩ := quiet
  obtain ⟨tracker, found, listed⟩ := listed
  obtain ⟨old, there, _, fewer⟩ :=
    (shrunk.resolve_left fun ⟨c, new⟩ => none_ c new).known text tracker found
  exact ⟨old, there, fewer id listed⟩

/-- Quiet changes are effects, if the origin may list and unlist the groups. -/
theorem effects (quiet : Quiet new lost r r') (o : Origin)
    (known : ∀ c, new c → c < r.nextRef ∧ (r.objects c).membershipOnly = false ∧
      ((r.objects c).state = .init ∨ r.Indexed c))
    (relists : o.Enrols ∨ ((∀ c, ¬ new c) ∧ ∀ id, lost id → Unlisted o r.toCore id)) :
    Effects (· = o) r r' := by
  obtain ⟨trackers, order, rfl, source, shrunk⟩ := quiet
  refine .tail (.single rfl (.trackers trackers (fun c tracked => ?_) ?_)) rfl (.order order)
  · exact (source c tracked).imp_right (known c)
  · refine relists.imp_right fun ⟨none_, unlisted⟩ => ?_
    exact (shrunk.resolve_left fun ⟨c, new⟩ => none_ c new).mono unlisted

/-- Marking trackers is an effect of any origin. -/
theorem mark_effects (quiet : Quiet (fun _ => False) (fun _ => False) r r') (o : Origin) :
    Effects (· = o) r r' :=
  quiet.effects o (fun _ => False.elim) (.inr ⟨fun _ => id, fun _ => False.elim⟩)

end Quiet

namespace Reconciler

variable {r : Reconciler} {c : Ref} {o : Origin}

/-- Discarding used iteration orders is an effect of any origin. -/
theorem advance_effects (o : Origin) : Effects (· = o) r r.advance :=
  .single rfl (.order _)

variable {rsc name : String} {tracker : CloudResourceNPTracker}

/-- A change of the entry of one resource that lists the same groups. -/
theorem quiet_setTracker {old : CloudResourceNPTracker}
    (found : r.cloudResourceNPTrackerIndexer.get? rsc = some old)
    (same : tracker.cloudResource = old.cloudResource)
    (groups : tracker.appliedToSGs = old.appliedToSGs) :
    Quiet (fun _ => False) (fun _ => False) r
      { r with
        cloudResourceNPTrackerIndexer := r.cloudResourceNPTrackerIndexer.set rsc tracker } := by
  refine ⟨_, _, rfl, ?_, .inr (.set found same ?_ ?_)⟩
  · rintro d ⟨other, stored, id, there, listed⟩
    rw [GoMap.get?_set] at there
    split at there
    next =>
      obtain rfl := Option.some.inj there
      exact .inl ⟨rsc, old, id, found, groups ▸ listed⟩
    next => exact .inl ⟨other, stored, id, there, listed⟩
  · rw [groups]
    exact fun _ => id
  · rw [groups]
    exact fun _ => .inr

/-- A tracker that lists no group is dropped. -/
theorem quiet_removeTracker (found : r.cloudResourceNPTrackerIndexer.get? rsc = some tracker)
    (empty : tracker.appliedToSGs.bindings = []) :
    Quiet (fun _ => False) (fun _ => False) r
      { r with
        cloudResourceNPTrackerIndexer := r.cloudResourceNPTrackerIndexer.remove rsc } := by
  have left {other : String} {stored : CloudResourceNPTracker}
      (there : (r.cloudResourceNPTrackerIndexer.remove rsc).get? other = some stored) :
      r.cloudResourceNPTrackerIndexer.get? other = some stored := by
    rw [GoMap.get?_remove] at there
    split at there
    next => cases there
    next => exact there
  refine ⟨_, _, rfl, ?_, .inr ⟨?_, ?_⟩⟩
  · rintro d ⟨other, stored, id, there, listed⟩
    exact .inl ⟨other, stored, id, left there, listed⟩
  · exact fun other stored there => ⟨stored, left there, rfl, fun _ => id⟩
  · intro other old there id listed
    by_cases here : other = rsc
    · subst here
      obtain rfl := Option.some.inj (found.symm.trans there)
      obtain ⟨d, listed⟩ := Option.isSome_iff_exists.mp listed
      have bound := (GoMap.mem_bindings _ _ _).mpr listed
      rw [empty] at bound
      cases bound
    · exact .inr ⟨old, (GoMap.get?_remove_of_ne _ here).trans there, listed⟩

/-- Which groups a tracker lists after an update. -/
theorem get?_update_appliedToSGs (tracker : CloudResourceNPTracker) (id : String) (sg : Ref)
    (isDelete : Bool) (other : String) :
    (tracker.update id sg isDelete).appliedToSGs.get? other =
      if other = id then
        if isDelete then none else some ((tracker.appliedToSGs.get? id).getD sg)
      else tracker.appliedToSGs.get? other := by
  unfold CloudResourceNPTracker.update
  cases listed : tracker.appliedToSGs.get? id <;> cases isDelete <;>
    by_cases here : other = id <;> simp [here, listed]

theorem update_cloudResource (tracker : CloudResourceNPTracker) (id : String) (sg : Ref)
    (isDelete : Bool) :
    (tracker.update id sg isDelete).cloudResource = tracker.cloudResource := by
  unfold CloudResourceNPTracker.update
  split
  · rfl
  · split <;> rfl

/-- `updateTracker` records the group, or takes it out. -/
theorem quiet_updateTracker (rsc : CloudResource) (create : Bool) (sg : Ref) (isDelete : Bool) :
    Quiet (fun d => (create = true ∨ isDelete = false) ∧ d = sg)
      (· = (r.objects sg).id.string) r (r.updateTracker rsc create sg isDelete) := by
  have put (trackers : GoMap String CloudResourceNPTracker) (tracker : CloudResourceNPTracker)
      (known : ∀ id d, tracker.appliedToSGs.get? id = some d → r.Tracked d)
      (stored : trackers = r.cloudResourceNPTrackerIndexer.set rsc.string
        (tracker.update (r.objects sg).id.string sg isDelete)) (d : Ref)
      (tracked : Core.TrackedIn trackers d) :
      r.Tracked d ∨ ((create = true ∨ isDelete = false) ∧ d = sg) := by
    obtain ⟨other, stored', id, found, listed⟩ := tracked
    rw [stored, GoMap.get?_set] at found
    split at found
    next =>
      obtain rfl := Option.some.inj found
      rw [get?_update_appliedToSGs] at listed
      split at listed
      next here =>
        cases isDelete with
        | true => cases listed
        | false =>
          simp only [Bool.false_eq_true, if_false, Option.some.injEq] at listed
          cases there : tracker.appliedToSGs.get? (r.objects sg).id.string with
          | none => exact .inr ⟨.inr rfl, by simpa [there] using listed.symm⟩
          | some e =>
            obtain rfl : e = d := by simpa [there] using listed
            exact .inl (known _ _ there)
      next => exact .inl (known _ _ listed)
    next => exact .inl ⟨other, stored', id, found, listed⟩
  simp only [updateTracker]
  cases found : r.cloudResourceNPTrackerIndexer.get? rsc.string with
  | some tracker =>
    refine ⟨_, _, rfl, put _ tracker (fun id d listed => ⟨_, tracker, id, found, listed⟩) rfl,
      ?_⟩
    cases isDelete with
    | false => exact .inl ⟨sg, .inr rfl, rfl⟩
    | true =>
      refine .inr (.set found (update_cloudResource _ _ _ _) ?_ ?_)
      · intro id listed
        rw [get?_update_appliedToSGs] at listed
        split at listed
        next => cases listed
        next => exact listed
      · intro id listed
        rw [get?_update_appliedToSGs]
        by_cases here : id = (r.objects sg).id.string
        · exact .inl here
        · rw [if_neg here]
          exact .inr listed
  | none =>
    cases create with
    | false => exact .refl r
    | true =>
      exact ⟨_, _, rfl, put _ ⟨rsc, false, ∅, ∅⟩ (by simp) rfl,
        .inl ⟨sg, .inl rfl, rfl⟩⟩

/-- The trackers of several resources record the group, or take it out. -/
theorem quiet_updateTrackers (list : List CloudResource) (create : Bool) (sg : Ref)
    (isDelete : Bool) (r : Reconciler) :
    Quiet (· = sg) (fun _ => True) r
      (r.forEach list fun rsc r => r.updateTracker rsc create sg isDelete) :=
  Quiet.forEach (fun rsc _ _ => (quiet_updateTracker rsc create sg isDelete).mono
    (fun _ here => here.2) fun _ _ => trivial) r

theorem quiet_adjustTracker (rsc : String)
    (change : CloudResourceNPTracker → CloudResourceNPTracker)
    (same : ∀ tracker, (change tracker).cloudResource = tracker.cloudResource ∧
      (change tracker).appliedToSGs = tracker.appliedToSGs) :
    Quiet (fun _ => False) (fun _ => False) r
      { r with
        cloudResourceNPTrackerIndexer :=
          r.cloudResourceNPTrackerIndexer.adjust rsc change } := by
  cases found : r.cloudResourceNPTrackerIndexer.get? rsc with
  | none =>
    simp only [GoMap.adjust, found]
    exact .refl r
  | some tracker =>
    simp only [GoMap.adjust, found]
    exact quiet_setTracker found (same tracker).1 (same tracker).2

theorem quiet_markGroupDirty (sg : Ref) :
    Quiet (fun _ => False) (fun _ => False) r (r.markGroupDirty sg) := by
  refine Quiet.forEach (fun rsc _ r => ?_) r
  exact quiet_adjustTracker rsc.string _ fun _ => ⟨rfl, rfl⟩

theorem untrack_spec (list : List CloudResource) (r : Reconciler) :
    let after := r.forEach list fun rsc r => r.updateTracker rsc false c true
    Quiet (fun _ => False) (· = (r.objects c).id.string) r after ∧
      ∀ rsc ∈ list, ¬ after.Lists rsc.string (r.objects c).id.string := by
  induction list generalizing r with
  | nil => exact ⟨.refl r, fun _ member => absurd member List.not_mem_nil⟩
  | cons rsc rest induction =>
    have first : Quiet (fun _ => False) (· = (r.objects c).id.string) r
        (r.updateTracker rsc false c true) :=
      (quiet_updateTracker rsc false c true).mono
        (fun d new => new.1.elim (by simp) (by simp)) fun _ => id
    have taken : ¬ (r.updateTracker rsc false c true).Lists rsc.string
        (r.objects c).id.string := by
      rintro ⟨tracker, found, listed⟩
      cases there : r.cloudResourceNPTrackerIndexer.get? rsc.string with
      | none =>
        simp only [updateTracker, there, Bool.false_eq_true, if_false] at found
        cases found
      | some old =>
        simp only [updateTracker, there, GoMap.get?_set_self, Option.some.injEq] at found
        subst found
        simp [get?_update_appliedToSGs] at listed
    have same : (r.updateTracker rsc false c true).objects = r.objects := by
      obtain ⟨_, _, same, _⟩ := first
      rw [same]
    obtain ⟨others, gone⟩ := induction (r.updateTracker rsc false c true)
    rw [same] at others gone
    refine ⟨first.trans others, fun other member => ?_⟩
    rcases List.mem_cons.mp member with rfl | later
    · exact fun listed => taken (others.lists (fun _ => id) listed)
    · exact gone other later

/-! ## Deletion -/

/-- Counting a delete never meets an entry of another shape. -/
theorem pendingDeleteGroupsUpdate_reference {id : String}
    (shape : ∀ counting, r.pendingDeleteGroups.items.get? id = some counting →
      EntryOf counting) (n : Int) (b : Bool) :
    r.pendingDeleteGroupsUpdate id (.reference n b) =
      { r with pendingDeleteGroups := r.pendingDeleteGroups.reference id n b } := by
  simp only [pendingDeleteGroupsUpdate, QueueAt.update, pendingDeleteGroupsAt,
    PendingItemQueue.reference, PendingItemQueue.setItem, GoMap.adjust]
  cases found : r.pendingDeleteGroups.items.get? id with
  | none => rfl
  | some counting =>
    obtain ⟨_, group, refCnt, isGroup, some_, _⟩ := shape counting found
    simp [isGroup, PendingItem.updatePendingItem, PendingGroup.updatePendingItem,
      PendingItem.reference, some_, found]

/-- The end of `deleteImpl`, for an object that is not being retried. -/
theorem deleteImplIssue_eq (idle : (r.objects c).retryOp = none)
    (shape : ∀ counting, r.pendingDeleteGroups.items.get? (r.objects c).guName =
      some counting → EntryOf counting) :
    r.deleteImplIssue c =
      (((r.countDelete c).assign c fun s => { s with status := some .inProgress }).issueDelete
        c) := by
  simp only [deleteImplIssue, idle, Option.isSome_none, Bool.false_eq_true, if_false,
    pendingDeleteGroupsUpdate_reference shape]
  simp [countDelete, issueDelete, assign]

/-- `deleteImpl` of an object that is not garbage. -/
theorem deleteImpl_of_alive (base : Base r.toCore)
    (alive : (r.objects c).state ≠ .garbageCollectState) :
    r.deleteImpl c =
      if r.policiesOf (r.objects c) ≠ [] then r.markDeletePending c
      else if (r.objects c).state = .init ∧ (r.objects c).status ≠ some .inProgress then
        r.forget c
      else r.beginDelete c := by
  have policies : (r.deleteImplEntry c).policiesOf (r.objects c) = r.policiesOf (r.objects c) :=
    rfl
  simp only [deleteImpl, if_pos alive, policies]
  by_cases referenced : r.policiesOf (r.objects c) ≠ []
  · rw [if_pos referenced, if_pos referenced]
    rfl
  · rw [if_neg referenced, if_neg referenced]
    by_cases idle : (r.objects c).state = .init ∧ (r.objects c).status ≠ some .inProgress
    · rw [if_pos idle, if_pos idle]
      rfl
    · rw [if_neg idle, if_neg idle, deleteImplIssue_eq]
      · simp [beginDelete, unlist, countDelete, assign, indexerDelete, deleteImplEntry,
          SecurityGroup.guName, SecurityGroup.uName]
      · simp [assign]
      · intro counting found
        exact base.entries_add found

theorem deleteImpl_effects (base : Base r.toCore) (allocated : c < r.nextRef)
    (networked : (r.objects c).Networked) (deletes : Deletes o r.toCore c)
    (alive : (r.objects c).state ≠ .garbageCollectState) (untracked : r.Untracked c) :
    Effects (· = o) r (r.deleteImpl c) := by
  rw [deleteImpl_of_alive base alive]
  split
  next referenced =>
    exact .single rfl
      (.deletePending c allocated deletes networked alive referenced untracked)
  next unreferenced =>
    have unreferenced := not_not.mp unreferenced
    split
    next idle =>
      exact .single rfl
        (.forget c allocated deletes networked unreferenced idle.1 idle.2 untracked)
    next started =>
      exact .single rfl
        (.beginDelete c allocated deletes networked alive unreferenced started untracked)

/-- What `Deletes` says does not depend on trackers. -/
theorem deletes_of_quiet {new : Ref → Prop} {lost : String → Prop} {r' : Reconciler}
    (deletes : Deletes o r.toCore c) (quiet : Quiet new lost r r') (kept : ∀ d, ¬ new d) :
    Deletes o r'.toCore c := by
  obtain ⟨trackers, order, rfl, source, _⟩ := quiet
  cases o with
  | sync =>
    have temporary : r.Temporary c := deletes
    refine ⟨temporary.allocated, temporary.created, temporary.members, temporary.clean,
      temporary.free, ⟨temporary.untouched.messages, temporary.untouched.queue, ?_⟩,
      temporary.reported⟩
    intro tracked
    rcases source c tracked with old | here
    · exact temporary.untouched.trackers old
    · exact kept c here
  | _ => exact deletes

theorem delete_effects (base : Base r.toCore) (allocated : c < r.nextRef)
    (deletes : Deletes o r.toCore c) (alive : (r.objects c).state ≠ .garbageCollectState) :
    Effects (· = o) r (r.delete c) := by
  simp only [delete]
  split
  next kind =>
    split
    next addresses =>
      refine .single rfl (.unindexAddresses c allocated kind ?_ deletes)
      simpa [SecurityGroup.isIPBlocks] using addresses
    next addresses =>
      refine deleteImpl_effects base allocated (fun _ => ?_) deletes alive
        fun applied => absurd (kind.symm.trans applied) (by simp)
      simpa [SecurityGroup.isIPBlocks] using addresses
  next kind =>
    have networked : (r.objects c).Networked := fun address => absurd address kind
    split
    next =>
      obtain ⟨untracked, gone⟩ := untrack_spec (c := c) (r.objects c).members r
      have effects : Effects (· = o) r
          (r.forEach (r.objects c).members fun rsc r => r.updateTracker rsc false c true) := by
        refine untracked.effects o (fun _ => False.elim) (.inr ⟨fun _ => id, ?_⟩)
        rintro id rfl
        exact ⟨c, deletes, by simpa using kind, rfl⟩
      have after := deletes_of_quiet deletes untracked fun _ => id
      have rest := base.effects effects
      obtain ⟨_, _, same, _⟩ := untracked
      rw [same] at effects after rest gone ⊢
      exact effects.trans (deleteImpl_effects rest allocated networked after alive
        fun _ _ => gone)
    next none_ =>
      exact deleteImpl_effects base allocated networked deletes alive fun _ has =>
        absurd has none_

/-! ## Creation -/

/-- What `addImpl` does when the object is new or is looked at by a sync. -/
theorem addImpl_issue_effects (base : Base r.toCore) (indexed : r.Indexed c)
    (networked : (r.objects c).Networked) (init : (r.objects c).state = .init)
    (origin : (∃ name membershipOnly, o = .event name membershipOnly ∧
      ∀ m ∈ r.inFlight, m.sg ≠ c) ∨ o = .syncGroup c) :
    Effects (· = o) r
      (if !r.syncedWithCloud then r
        else if (r.objects c).retryOp.isSome then r else r.issueCreate c) := by
  split
  · exact .refl r
  next synced =>
    split
    · exact .refl r
    next idle =>
      exact .single rfl (.create c (base.allocated indexed) indexed networked
        (by simpa using synced) init (by simpa using idle) origin)

/-- After an object is put into its indexer it is indexed. -/
theorem indexed_indexerAdd : (r.indexerAdd c).Indexed c :=
  (r.get?_indexerAdd c _ _).trans (if_pos ⟨rfl, rfl⟩)

theorem addImpl_new_effects (base : Base r.toCore) (new : r.New c)
    (networked : (r.objects c).Networked) :
    Effects (· = .event (r.objects c).id.name (r.objects c).membershipOnly) r
      (r.addImpl c) := by
  have put : Effects (· = .event (r.objects c).id.name (r.objects c).membershipOnly) r
      (r.indexerAdd c) := .single rfl (.index c new rfl rfl)
  exact put.trans (addImpl_issue_effects (base.effects put) indexed_indexerAdd networked new.init
    (.inl ⟨_, _, rfl, new.untouched⟩))

theorem addImpl_sync_effects (base : Base r.toCore) (indexed : r.Indexed c)
    (networked : (r.objects c).Networked) (init : (r.objects c).state = .init) :
    Effects (· = .syncGroup c) r (r.addImpl c) := by
  have put : Effects (· = .syncGroup c) r (r.indexerAdd c) :=
    .single rfl (.reindex c indexed)
  exact put.trans (addImpl_issue_effects (base.effects put) indexed_indexerAdd networked init
    (.inr rfl))

theorem add_effects (base : Base r.toCore) (new : r.New c) :
    Effects (· = .event (r.objects c).id.name (r.objects c).membershipOnly) r (r.add c) := by
  simp only [add]
  split
  · split
    · exact .single rfl (.index c new rfl rfl)
    next addresses =>
      refine addImpl_new_effects base new fun _ => ?_
      simpa [SecurityGroup.isIPBlocks] using addresses
  next kind =>
    have applied : (r.objects c).membershipOnly = false := by simpa using kind
    have tracked := quiet_updateTrackers (r.objects c).members true c false r
    have effects : Effects
        (· = .event (r.objects c).id.name (r.objects c).membershipOnly) r
        (r.forEach (r.objects c).members fun rsc r => r.updateTracker rsc true c false) := by
      refine tracked.effects _ ?_ (.inl ⟨_, by rw [applied]⟩)
      rintro d rfl
      exact ⟨new.allocated, applied, .inl new.init⟩
    have rest := base.effects effects
    obtain ⟨_, _, same, _⟩ := tracked
    rw [same] at effects rest ⊢
    exact effects.trans (addImpl_new_effects rest
      ⟨new.allocated, new.init, new.clean, new.free, new.untouched, new.unqueued,
        new.unparked⟩ fun address => absurd address kind)

/-! ## Members and rules -/

/-- Merging nothing into the members leaves them as they are. -/
theorem sameMembers_merge (code : Nat) (members : List CloudResource) :
    SameMembers members (mergeCloudResources code members [] []) where
  known _ member :=
    (mem_of_mem_mergeCloudResources member).elim (fun added => absurd added List.not_mem_nil)
      And.left
  kept _ member :=
    List.mem_map.mp (mem_namesOf_mergeCloudResources
      (.inr ⟨List.mem_map_of_mem member, List.not_mem_nil⟩))

/-- `updateImpl`, for whoever may update a created group. -/
theorem updateImpl_effects (allocated : c < r.nextRef) (networked : (r.objects c).Networked)
    (origin : (r.objects c).state = .created → (r.objects c).retryOp = none →
      Pushes o r.toCore c) {added removed : List CloudResource}
    (source : (added = [] ∧ removed = []) ∨
      ∃ name, o = .event name (r.objects c).membershipOnly) :
    Effects (· = o) r (r.updateImpl c added removed) := by
  have kept : (r.objects c).membershipOnly = true ∨ o.Enrols ∨
      SameMembers (r.objects c).members
        (mergeCloudResources (r.order 0) (r.objects c).members added removed) := by
    rcases source with ⟨rfl, rfl⟩ | ⟨name, origin⟩
    · exact .inr (.inr (sameMembers_merge _ _))
    · cases kind : (r.objects c).membershipOnly with
      | true => exact .inl rfl
      | false => exact .inr (.inl ⟨name, by rw [origin, kind]⟩)
  simp only [updateImpl]
  split
  · exact .refl r
  next some_ =>
    have drawn : Effects (· = o) r r.advance := advance_effects o
    have source : MembersFrom o r.toCore c := by
      refine source.imp ?_ fun ⟨name, origin⟩ => ⟨name, _, origin⟩
      rintro ⟨rfl, rfl⟩ none_
      simp [none_] at some_
    split
    next waiting =>
      exact .tail drawn rfl (.setMembers c _ allocated source (.inl waiting) kept)
    next created =>
      split
      next retrying =>
        refine .tail drawn rfl (.setMembers c _ allocated source (.inr ?_) kept)
        exact Option.isSome_iff_ne_none.mp retrying
      next idle =>
        have created := not_not.mp created
        have idle : (r.objects c).retryOp = none := by simpa using idle
        exact .tail drawn rfl (.pushMembers c _ allocated networked source created idle
          (origin created idle) kept)

theorem update_event_effects (base : Base r.toCore) {membershipOnly : Bool} {vpc : String}
    (found : (r.indexer membershipOnly).get? (CloudResourceID.mk name vpc).string = some c)
    (added removed : List CloudResource) :
    Effects (· = .event name membershipOnly) r (r.update c added removed) := by
  obtain ⟨allocated, kind, named⟩ := base.index _ _ _ found
  have indexed := base.indexed found
  have origin : Pushes (.event name membershipOnly) r.toCore c :=
    ⟨indexed, kind, vpc, named⟩
  simp only [update]
  split
  · split
    · exact .refl r
    next addresses =>
      exact updateImpl_effects allocated
        (fun _ => by simpa [SecurityGroup.isIPBlocks] using addresses)
        (fun _ _ => origin) (.inr ⟨name, by rw [kind]⟩)
  next applied =>
    have applied' : (r.objects c).membershipOnly = false := by simpa using applied
    have tracked : Quiet (· = c) (fun _ => True) r
        ((r.forEach removed fun rsc r => r.updateTracker rsc false c true).forEach added
          fun rsc r => r.updateTracker rsc true c false) :=
      (quiet_updateTrackers removed false c true r).trans
        (quiet_updateTrackers added true c false _)
    have effects := tracked.effects (.event name membershipOnly) (by
      rintro d rfl
      exact ⟨allocated, applied', .inr indexed⟩) (.inl ⟨name, by rw [← kind, applied']⟩)
    obtain ⟨_, _, same, _⟩ := tracked
    rw [same] at effects ⊢
    refine effects.trans (updateImpl_effects ?_ ?_ ?_ (.inr ⟨name, by rw [← kind]⟩))
    · exact allocated
    · exact fun address => absurd address applied
    · exact fun _ _ => origin

theorem update_nil_effects (allocated : c < r.nextRef)
    (origin : (r.objects c).state = .created → (r.objects c).retryOp = none →
      Pushes o r.toCore c) :
    Effects (· = o) r (r.update c [] []) := by
  simp only [update, forEach, List.foldl_nil]
  split
  · split
    · exact .refl r
    next addresses =>
      exact updateImpl_effects allocated
        (fun _ => by simpa [SecurityGroup.isIPBlocks] using addresses)
        origin (.inl ⟨rfl, rfl⟩)
  next applied =>
    exact updateImpl_effects allocated (fun address => absurd address applied) origin
      (.inl ⟨rfl, rfl⟩)

theorem removeStaleMembers_effects (indexed : r.Indexed c) (named : (r.objects c).id.name = name)
    (stales : List String) : Effects (· = .stale name) r (r.removeStaleMembers c stales) := by
  simp only [removeStaleMembers]
  split
  · exact .refl r
  · have drawn : Effects (· = .stale name) r r.advance := .single rfl (.order _)
    exact .tail drawn rfl (.dropStale c _ indexed named)

theorem updateIPs_effects (indexed : r.Indexed c) (added removed : List IPNet) :
    Effects (· = o) r (r.updateIPs c added removed) := by
  have drawn : Effects (· = o) r r.advance := .single rfl (.order _)
  exact .tail drawn rfl (.setAddresses c _ indexed)

/-- The rules that `updateRules` sends come from ready policies. -/
theorem rulesFrom_policies {nps : List (String × NetworkPolicy)}
    (policies : ∀ np ∈ nps, np ∈ r.policiesByAppliedToGrp name)
    (ready : (nps.all fun np => np.2.rulesReady) = true) (left right : Supply) :
    RulesFrom r.toCore name
      (deduplicateIngressRules left (nps.flatMap fun np => np.2.ingressRules) ++
        deduplicateEgressRules right (nps.flatMap fun np => np.2.egressRules)) := by
  intro rule member id names
  have source : ∃ np ∈ nps, ∃ cached ∈ np.2.ingressRules ++ np.2.egressRules,
      id ∈ cached.securityGroups := by
    rcases List.mem_append.mp member with ingress | egress
    · obtain ⟨given, there, names⟩ := mem_securityGroups_deduplicateRules ingress names
      obtain ⟨np, listed, cached⟩ := List.mem_flatMap.mp there
      exact ⟨np, listed, given, List.mem_append_left _ cached, names⟩
    · obtain ⟨given, there, names⟩ := mem_securityGroups_deduplicateRules egress names
      obtain ⟨np, listed, cached⟩ := List.mem_flatMap.mp there
      exact ⟨np, listed, given, List.mem_append_right _ cached, names⟩
  obtain ⟨⟨key, policy⟩, listed, cached⟩ := source
  obtain ⟨bound, applies⟩ := List.mem_filter.mp (policies _ listed)
  exact ⟨key, policy, (GoMap.mem_bindings _ _ _).mp bound, by simpa using applies,
    List.all_eq_true.mp ready _ listed, cached⟩

/-- `updateRules`, for whoever may update the rules of a created group. -/
theorem updateRules_effects (allocated : c < r.nextRef)
    (kind : (r.objects c).membershipOnly = false) (origin : UpdatesRules o r.toCore c) :
    Effects (· = o) r (r.updateRules c) := by
  have drawn : Effects (· = o) r r.advance := .single rfl (.order _)
  simp only [updateRules]
  split
  · exact .refl r
  next ready =>
    have created : (r.objects c).state = .created := by
      simpa [SecurityGroup.isReady, kind] using ready
    split
    · exact .refl r
    next idle =>
      have idle : (r.objects c).retryOp = none := by simpa using idle
      split
      next none_ =>
        have unreferenced := (arrange_eq_nil _ _).mp none_
        split
        next hasMembers =>
          exact .tail drawn rfl (.pushNoMembers c allocated created idle kind
            unreferenced hasMembers origin)
        next hasMembers =>
          exact .tail drawn rfl (.dropRules c allocated created kind unreferenced
            (Bool.eq_false_iff.mpr hasMembers) origin)
      next some_ =>
        have referenced : r.policiesByAppliedToGrp (r.objects c).id.name ≠ [] :=
          fun none_ => some_ ((arrange_eq_nil _ _).mpr none_)
        split
        next allReady =>
          have divided : Effects (· = o) r r.advance.split :=
            .tail drawn rfl (.order _)
          refine .tail divided rfl (.pushRules c _ _ allocated created idle kind
            referenced ?_ origin)
          exact rulesFrom_policies (fun np => (mem_arrange _ _ _).mp) allReady _ _
        next => exact drawn

theorem notifyNetworkPolicyChange_effects (base : Base r.toCore) (indexed : r.Indexed c) :
    Effects (· = .policy (some c)) r (r.notifyNetworkPolicyChange c) := by
  have allocated := base.allocated indexed
  have alive := base.alive c indexed
  simp only [notifyNetworkPolicyChange]
  split
  · split
    · exact .refl r
    next pending =>
      split
      · refine delete_effects base allocated ⟨rfl, indexed, ?_⟩ alive
        simpa using pending
      · exact .refl r
  next kind =>
    have kind : (r.objects c).membershipOnly = false := by simpa using kind
    split
    next gone => exact delete_effects base allocated ⟨rfl, indexed, gone.2⟩ alive
    next =>
      split
      · exact updateRules_effects allocated kind ⟨rfl, indexed⟩
      · exact .refl r

/-- `notifyNetworkPolicyChange` of an appliedTo group that some policy refers to. -/
theorem notifyNetworkPolicyChange_referenced_effects (allocated : c < r.nextRef)
    (kind : (r.objects c).membershipOnly = false)
    (referenced : r.policiesByAppliedToGrp (r.objects c).id.name ≠ [])
    (origin : UpdatesRules o r.toCore c) :
    Effects (· = o) r (r.notifyNetworkPolicyChange c) := by
  simp only [notifyNetworkPolicyChange, kind, Bool.false_eq_true, if_false, referenced,
    false_and]
  split
  · exact updateRules_effects allocated kind origin
  · exact .refl r

end Reconciler

end Nephe
