import Nephe.Safety.Passes
import Nephe.Safety.Deferred
import Nephe.Membership.Events

/-!
# Groups that a sync must not delete

A sync deletes every group that the cloud reports and no indexer knows.  An
announced group is unknown to the indexers for as long as the event that
announces it waits to be applied.  Once it has been applied, the object of the
group stays indexed until a Deleted event arrives.
-/

namespace Nephe

open Library

/-! ## What is announced -/

/-- The kind, the type and the object of a group event. -/
def Event.group? : Event → Option (Bool × EventType × GroupObject)
  | .addrGroup type object => some (true, type, object)
  | .appliedToGroup type object => some (false, type, object)
  | _ => none

namespace GroupObject

/-- The members that an Added event lists or a Modified event adds. -/
def announced (type : EventType) (object : GroupObject) : List GroupMember :=
  match type, object with
  | .added, .complete _ members => members
  | .modified, .patch _ added _ => added
  | _, _ => []

end GroupObject

namespace Label

/-- The step announces a machine of the VPC as a member of the group. -/
def Announces (label : Label) (kind : Bool) (name vpc : String) : Prop :=
  ∃ type object, label.event.group? = some (kind, type, object) ∧ object.name = name ∧
    label.env.resourcesIn (object.announced type) vpc ≠ []

/-- The step is a Deleted event of the group. -/
def Withdraws (label : Label) (kind : Bool) (name : String) : Prop :=
  ∃ object, label.event.group? = some (kind, .deleted, object) ∧ object.name = name

end Label

/-- The group has been announced with a machine of the VPC, and not been deleted since. -/
def Wanted (kind : Bool) (name vpc : String) (labels : List Label) : Prop :=
  ∃ before label after, labels = before ++ label :: after ∧ label.Announces kind name vpc ∧
    ∀ later ∈ after, ¬ later.Withdraws kind name

/-! ## The condition -/

/-- The event can be applied: its group is not being deleted and its entities can be read. -/
structure Applicable (core : Core) (env : Env) (kind : Bool) (type : EventType)
    (object : GroupObject) : Prop where
  unparked : core.pendingDeleteGroups.has (getGroupUniqueName object.name kind) = false
  unmarked : ∀ c ∈ core.groupsByName kind object.name, (core.objects c).deletePending = false
  accepted : env.Accepts (object.announced type) object.removed

instance (core : Core) (env : Env) (kind : Bool) (type : EventType) (object : GroupObject) :
    Decidable (Applicable core env kind type object) :=
  decidable_of_iff (_ ∧ _ ∧ _)
    ⟨fun ⟨unparked, unmarked, accepted⟩ => ⟨unparked, unmarked, accepted⟩,
      fun ⟨unparked, unmarked, accepted⟩ => ⟨unparked, unmarked, accepted⟩⟩

/-- An event that announces members of the group is applied when it arrives. -/
def AppliedAtOnce (kind : Bool) (name : String) (s : System) (label : Label) : Prop :=
  ∀ about ∈ label.event.group?, about.1 = kind → about.2.2.name = name →
    about.2.2.announced about.2.1 ≠ [] →
      Applicable s.reconciler.toCore label.env kind about.2.1 about.2.2

instance (kind : Bool) (name : String) (s : System) (label : Label) :
    Decidable (AppliedAtOnce kind name s label) :=
  inferInstanceAs (Decidable (∀ about ∈ label.event.group?, _))

/-- The names are plain, no dropped object fails late, and the group is applied at once. -/
def KeepsAnnounced (kind : Bool) (name : String) (s : System) (label : Label) : Prop :=
  label.Plain ∧ FailsListed s label ∧ AppliedAtOnce kind name s label

instance (kind : Bool) (name : String) (s : System) (label : Label) :
    Decidable (KeepsAnnounced kind name s label) :=
  inferInstanceAs (Decidable (_ ∧ _ ∧ _))

/-! ## Objects that stand -/

/-- The object of the id is indexed and not marked for deletion. -/
structure Stands (core : Core) (kind : Bool) (id : CloudResourceID) (c : Ref) : Prop where
  indexed : core.Indexed c
  kind : (core.objects c).membershipOnly = kind
  named : (core.objects c).id = id
  unmarked : (core.objects c).deletePending = false

namespace Stands

variable {kind : Bool} {id : CloudResourceID} {c : Ref} {o : Origin} {r r' : Reconciler}

/-- Only a Deleted event of the group deletes the object. -/
theorem not_deletes (stands : Stands r.toCore kind id c)
    (other : ∀ target, o ≠ .deleted id.name kind target) : ¬ Deletes o r.toCore c := by
  intro deletes
  cases o with
  | deleted name membershipOnly target =>
    obtain ⟨_, _, rfl, rfl⟩ := deletes
    exact other target (by rw [stands.named, stands.kind])
  | policy target => exact absurd (stands.unmarked.symm.trans deletes.2.2) (by simp)
  | sync => exact absurd (deletes.free.symm.trans stands.indexed) (by simp)
  | _ => exact deletes.elim

theorem effect (stands : Stands r.toCore kind id c) (base : Base r.toCore)
    (noOrphans : NoOrphans r) (effect : Effect o r r')
    (other : ∀ target, o ≠ .deleted id.name kind target) : Stands r'.toCore kind id c := by
  have spared := stands.not_deletes other
  have allocated := base.allocated stands.indexed
  obtain ⟨sameKind, sameId⟩ := effect.static allocated
  refine ⟨?_, sameKind.trans stands.kind, sameId.trans stands.named, ?_⟩
  · exact (effect.indexed_or base stands.indexed fun d _ => noOrphans d).resolve_right
      fun gone => spared gone.1
  · refine Bool.eq_false_of_not_eq_true fun marked => ?_
    rcases effect.deletePending_source allocated marked with old | ⟨deletes, _⟩
    · exact absurd (stands.unmarked.symm.trans old) (by simp)
    · exact spared deletes

/-- No object of the id is deleted while the object stands. -/
theorem spares (stands : Stands r.toCore kind id c)
    (other : ∀ target, o ≠ .deleted id.name kind target) {d : Ref}
    (sameKind : (r.objects d).membershipOnly = kind) (sameId : (r.objects d).id = id) :
    ¬ Deletes o r.toCore d := by
  intro deletes
  have found := stands.indexed
  rw [Core.Indexed, stands.kind, stands.named] at found
  rcases deletes.listed with ⟨_, indexed⟩ | free
  · rw [Core.Indexed, sameKind, sameId] at indexed
    obtain rfl : c = d := Option.some.inj (found.symm.trans indexed)
    exact stands.not_deletes other deletes
  · rw [Core.KeyFree, sameKind, sameId] at free
    exact absurd (free.symm.trans found) (by simp)

end Stands

/-! ## Applying an event -/

/-- No object of the group is marked for deletion. -/
def GroupUnmarked (core : Core) (kind : Bool) (name : String) : Prop :=
  ∀ c, core.Indexed c → (core.objects c).membershipOnly = kind → (core.objects c).id.name = name →
    (core.objects c).deletePending = false

/-- The group event can be applied to the state. -/
structure Receptive (r : Reconciler) (kind : Bool) (name : String) : Prop where
  named : Named r.toCore
  noOrphans : NoOrphans r
  unparked : r.pendingDeleteGroups.has (getGroupUniqueName name kind) = false
  unmarked : GroupUnmarked r.toCore kind name

/-- The origins with which an event of the group is applied. -/
def Origin.Applies (name : String) (kind : Bool) (o : Origin) : Prop :=
  o = .event name kind ∨ o = .stale name

namespace Receptive

variable {kind : Bool} {name vpc : String} {c : Ref} {o : Origin} {r r' : Reconciler}

theorem effect (receptive : Receptive r kind name) (plain : PlainName name)
    (origin : o.Applies name kind) (effect : Effect o r r') : Receptive r' kind name := by
  have base := receptive.named.base
  have spared (c : Ref) : ¬ Deletes o r.toCore c := by
    rcases origin with rfl | rfl <;> exact id
  have other : o.Plain ∧ o ≠ .start ∧ ¬ o.IsRetry ∧ (∀ c, o ≠ .release c) ∧
      ∀ c message, o ≠ .response c .add (some message) := by
    rcases origin with rfl | rfl
    · exact ⟨plain, by simp, by simp [Origin.IsRetry], by simp, by simp⟩
    · exact ⟨trivial, by simp, by simp [Origin.IsRetry], by simp, by simp⟩
  obtain ⟨plain', inside, notRetry, unreleased, unanswered⟩ := other
  refine ⟨receptive.named.effect plain' inside effect,
    receptive.noOrphans.effect base effect fun c message same =>
      absurd same (unanswered c message),
    (effect.has_pendingDeleteGroups spared notRetry unreleased _).trans receptive.unparked, ?_⟩
  intro c indexed kind_ named
  refine Bool.eq_false_of_not_eq_true fun marked => ?_
  have old (allocated : c < r.nextRef)
      (unmarked : (r.objects c).membershipOnly = kind → (r.objects c).id.name = name →
        (r.objects c).deletePending = false) : False := by
    obtain ⟨sameKind, sameId⟩ := effect.static allocated
    rcases effect.deletePending_source allocated marked with before | ⟨deletes, _⟩
    · have unmarked := unmarked (sameKind.symm.trans kind_) (sameId ▸ named)
      exact absurd (unmarked.symm.trans before) (by simp)
    · exact spared c deletes
  rcases effect.indexed_source base indexed with before | ⟨new, _⟩ | ⟨origin, _⟩
  · exact old (base.allocated before) (receptive.unmarked c before)
  · exact old new.allocated fun _ _ => new.clean.deletePending
  · exact notRetry ⟨c, _, origin⟩

theorem effects (receptive : Receptive r kind name) (plain : PlainName name)
    (effects : Effects (Origin.Applies name kind) r r') : Receptive r' kind name :=
  effects.invariant (fun r => Receptive r kind name)
    (fun _ _ _ permitted effect before => before.effect plain permitted effect) receptive

/-- Once the object stands, the rest of the event leaves it standing. -/
theorem stands_effects {id : CloudResourceID} (receptive : Receptive r kind name)
    (plain : PlainName name) (effects : Effects (Origin.Applies name kind) r r')
    (stands : Stands r.toCore kind id c) : Stands r'.toCore kind id c :=
  (effects.invariant (fun r => Receptive r kind name ∧ Stands r.toCore kind id c)
    (fun _ _ _ permitted effect before =>
      ⟨before.1.effect plain permitted effect,
        before.2.effect before.1.named.base before.1.noOrphans effect (by
          rcases permitted with rfl | rfl <;> simp)⟩)
    ⟨receptive, stands⟩).2

/-- The object that is indexed for a VPC of the group stands. -/
theorem stands_of_found (receptive : Receptive r kind name) (plain : PlainName name)
    (found : (r.indexer kind).get? (CloudResourceID.mk name vpc).string = some c) :
    Stands r.toCore kind ⟨name, vpc⟩ c := by
  have base := receptive.named.base
  have indexed := base.indexed found
  obtain ⟨allocated, kind_, text⟩ := base.index _ _ _ found
  have named : (r.objects c).id = ⟨name, vpc⟩ :=
    CloudResourceID.string_inj (receptive.named.names.objects c allocated) plain text
  exact ⟨indexed, kind_, named, receptive.unmarked c indexed kind_ (by rw [named])⟩

end Receptive

namespace Reconciler

variable {kind : Bool} {name vpc : String}

/-- After its pass of the loop, the object of the VPC stands. -/
theorem addMembersOfVpc_stands {loop : MemberLoop} (receptive : Receptive loop.r kind name)
    (plain : PlainName name) (members : List CloudResource) :
    ∃ c, Stands (addMembersOfVpc name kind loop (vpc, members)).r.toCore kind ⟨name, vpc⟩ c := by
  have effects : Effects (Origin.Applies name kind) loop.r
      (addMembersOfVpc name kind loop (vpc, members)).r :=
    (addMembersOfVpc_effects loop receptive.named.base receptive.unparked _).only (.inl rfl)
  cases found : (loop.r.indexer kind).get? (CloudResourceID.mk name vpc).string with
  | some c => exact ⟨c, receptive.stands_effects plain effects
      (receptive.stands_of_found plain found)⟩
  | none =>
    obtain ⟨status, creates⟩ := loop.r.creates_add
      { membershipOnly := kind, id := ⟨name, vpc⟩, members := members }
    have after : (addMembersOfVpc name kind loop (vpc, members)).r =
        (loop.r.allocate { membershipOnly := kind, id := ⟨name, vpc⟩, members := members }).add
          loop.r.nextRef := by
      simp only [addMembersOfVpc, found]
    refine ⟨loop.r.nextRef, (receptive.effects plain effects).stands_of_found plain ?_⟩
    rw [after, creates.indexer]
    exact GoMap.get?_set_self _ _ _

variable {members : List CloudResource} {r : Reconciler} {type : EventType} {object : GroupObject}

theorem addMembers_stands {entries : List (String × List CloudResource)} (loop : MemberLoop)
    (receptive : Receptive loop.r kind name) (plain : PlainName name)
    (listed : (vpc, members) ∈ entries) :
    ∃ c, Stands (entries.foldl (addMembersOfVpc name kind) loop).r.toCore kind ⟨name, vpc⟩ c := by
  induction entries generalizing loop with
  | nil => cases listed
  | cons entry rest induction =>
    have first := receptive.effects plain
      ((addMembersOfVpc_effects loop receptive.named.base receptive.unparked entry).only
        (.inl rfl))
    rcases List.mem_cons.mp listed with rfl | later
    · obtain ⟨c, stands⟩ := addMembersOfVpc_stands receptive plain members
      exact ⟨c, first.stands_effects plain
        ((addMembers_effects _ first.named.base first.unparked rest).only (.inl rfl)) stands⟩
    · exact induction _ first later

theorem applyMemberGrp_stands (receptive : Receptive r kind name) (plain : PlainName name)
    (type : EventType) (added removed : List GroupMember)
    {addedResources removedResources : GroupResources}
    (listed : addedResources.vpcs.get? vpc = some members) :
    ∃ c, Stands (r.applyMemberGrp name type kind added removed addedResources
      removedResources).toCore kind ⟨name, vpc⟩ c := by
  have drawn : Receptive r.advance kind name :=
    receptive.effects plain ((advance_effects (.event name kind)).only (.inl rfl))
  let start : MemberLoop :=
    { removedMembers := removedResources.vpcs, sgChanges := false, r := r.advance }
  have entry : (vpc, members) ∈ arrange (r.order 0) addedResources.vpcs.bindings :=
    (mem_arrange _ _ _).mpr ((GoMap.mem_bindings _ _ _).mpr listed)
  obtain ⟨c, stands⟩ := addMembers_stands start drawn plain entry
  have grown := drawn.effects plain ((addMembers_effects start drawn.named.base
    drawn.unparked (arrange (r.order 0) addedResources.vpcs.bindings)).only (.inl rfl))
  rw [applyMemberGrp_eq]
  exact ⟨c, grown.stands_effects plain
    ((finishMemberGrp_effects grown.named.base grown.unparked type added removed _ _).only
      (.inl rfl)) stands⟩

/-- An event that announces members carries them to `processMemberGrp`. -/
theorem processGrpEvent_announced (r : Reconciler) (kind : Bool)
    (announced : object.announced type ≠ []) :
    ChangesMembers type object.removed ∧
      r.processGrpEvent type object kind =
        (r.processMemberGrp object.name type kind (object.announced type) object.removed).2 := by
  cases type <;> cases object <;>
    simp_all [GroupObject.announced, GroupObject.removed, GroupObject.name, ChangesMembers,
      processGrpEvent]

theorem processGrpEvent_stands (receptive : Receptive r kind object.name)
    (plain : PlainName object.name) (announced : r.env.resourcesIn (object.announced type) vpc ≠ [])
    (accepted : r.env.Accepts (object.announced type) object.removed) :
    ∃ c, Stands (r.processGrpEvent type object kind).toCore kind ⟨object.name, vpc⟩ c := by
  have nonempty : object.announced type ≠ [] := by
    intro empty
    rw [empty] at announced
    exact announced rfl
  obtain ⟨event, carried⟩ :=
    processGrpEvent_announced r kind nonempty
  have kept : type ≠ .deleted := by
    rcases event with ⟨rfl, _⟩ | rfl <;> simp
  have listed : ((object.announced type).foldl (GroupResources.collect r.env) {}).vpcs.get? vpc =
      some (r.env.resourcesIn (object.announced type) vpc) := by
    rw [GroupResources.get?_foldl_collect, if_neg announced]
  have stale := receptive.effects plain
    ((removeStale_effects receptive.named.base object.name (r.env.missing object.removed)).mono
      fun _ same => .inr same.1)
  rw [carried, processMemberGrp, receptive.unparked]
  simp only [Bool.false_eq_true, if_false, processMembers_accepted event accepted,
    retryMemberGrp, false_and, if_neg kept]
  exact applyMemberGrp_stands stale plain type _ _ listed

end Reconciler

/-! ## Steps -/

/-- Only a Deleted event has the origins of one. -/
theorem Origin.deleted_of_step {core : Core} {event : Event} {name : String} {kind : Bool}
    {target : Option Ref} (origin : OfStep core event (.deleted name kind target)) :
    ∃ object, event.group? = some (kind, .deleted, object) ∧ object.name = name := by
  have origin := origin.resolve_left (by simp)
  cases event with
  | addrGroup type object | appliedToGroup type object =>
    rcases origin with ⟨_, isBookmark⟩ | isGroup | ⟨stale, _⟩
    · simp [IsBookmark, IsSync] at isBookmark
    · unfold IsGroup at isGroup
      split at isGroup
      next deleted =>
        subst deleted
        obtain ⟨_, same⟩ := isGroup
        cases same
        exact ⟨object, rfl, rfl⟩
      next => cases isGroup
    · cases stale
  | _ => simp [OfEvent, IsBookmark, IsSync, IsPolicy, IsResponse, IsTick] at origin

namespace Event.Syncs

variable {core : Core} {event : Event}

theorem not_deleted {kind : Bool} {object : GroupObject} (syncs : event.Syncs) :
    event.group? ≠ some (kind, .deleted, object) := by
  rintro isGroup
  cases event <;> cases isGroup <;> cases syncs

/-- A sync runs nothing that is queued. -/
theorem not_retry {c : Ref} {op : Option SecurityGroupOperation} (syncs : event.Syncs) :
    ¬ Origin.OfStep core event (.retry c op) := by
  intro origin
  have origin := origin.resolve_left (by simp)
  cases event with
  | addrGroup type object | appliedToGroup type object =>
    cases syncs
    simp [Origin.OfEvent, Origin.IsBookmark, Origin.IsSync, Origin.OfGroup,
      Origin.IsGroup] at origin
  | networkPolicy type anp =>
    simp [Origin.OfEvent, Origin.IsBookmark, Origin.IsSync, Origin.IsPolicy] at origin
  | cloudSync => simp [Origin.OfEvent, Origin.IsSync] at origin
  | _ => exact syncs.elim

end Event.Syncs

namespace System

variable {kind : Bool} {name vpc : String} {s : System} {label : Label}

theorem step_group {type : EventType} {object : GroupObject}
    (running : s.reconciler.panicked = false)
    (event : label.event.group? = some (kind, type, object)) (proper : type ≠ .error) :
    (s.step label).reconciler = (s.reconciler.enter label).processGrpEvent type object kind := by
  obtain ⟨event', env, order⟩ := label
  cases event' <;> cases event
  · simp [step, running, Reconciler.handle, proper, Reconciler.processAddrGrp]
  · simp [step, running, Reconciler.handle, proper, Reconciler.processAppliedToGrp]

/-- After the event that announces it, the object stands. -/
theorem step_announced (named : Named s.reconciler.toCore) (noOrphans : NoOrphans s.reconciler)
    (running : s.reconciler.panicked = false) (allowed : KeepsAnnounced kind name s label)
    (announces : label.Announces kind name vpc) :
    ∃ c, Stands (s.step label).reconciler.toCore kind ⟨name, vpc⟩ c := by
  obtain ⟨plain, _, applied⟩ := allowed
  obtain ⟨type, object, event, rfl, announced⟩ := announces
  have nonempty : object.announced type ≠ [] := by
    intro empty
    rw [empty] at announced
    exact announced rfl
  have proper : type ≠ .error := by
    rintro rfl
    exact nonempty rfl
  have applicable := applied _ event rfl rfl nonempty
  have plainName : PlainName object.name := by
    have plainEvent := plain.1
    cases there : label.event <;> rw [there] at event plainEvent <;> cases event <;>
      exact plainEvent
  have unmarked : GroupUnmarked s.reconciler.toCore kind object.name := by
    rintro c indexed rfl sameName
    refine applicable.unmarked c (List.mem_filter.mpr ⟨?_, by simpa using sameName⟩)
    exact (GoMap.mem_values _ _).mpr ⟨_, indexed⟩
  have receptive : Receptive (s.reconciler.enter label) kind object.name :=
    ⟨named.enter plain, noOrphans, applicable.unparked, unmarked⟩
  rw [step_group running event proper]
  exact Reconciler.processGrpEvent_stands receptive plainName announced applicable.accepted

/-- A step that does not delete the group leaves its object standing. -/
theorem step_stands {id : CloudResourceID} {c : Ref} (base : Base s.reconciler.toCore)
    (noOrphans : NoOrphans s.reconciler) (allowed : FailsListed s label)
    (kept : ¬ label.Withdraws kind id.name)
    (stands : Stands s.reconciler.toCore kind id c) :
    NoOrphans (s.step label).reconciler ∧ Stands (s.step label).reconciler.toCore kind id c := by
  refine noOrphans.step_along base allowed (fun r => Stands r.toCore kind id c) ?_ stands
  intro o r r' _ origin base' noOrphans' effect stands'
  refine stands'.effect base' noOrphans' effect ?_
  rintro target rfl
  exact kept (Origin.deleted_of_step origin)

/-- A sync deletes no group whose object stands. -/
theorem step_sync_spares {id : CloudResourceID} {c : Ref} (base : Base s.reconciler.toCore)
    (noOrphans : NoOrphans s.reconciler) (syncs : label.event.Syncs)
    (stands : Stands s.reconciler.toCore kind id c) :
    ∃ issued, (s.step label).reconciler.observed = issued ++ s.reconciler.observed ∧
      ∀ x ∈ issued, ∀ d, x.action ≠ .call d (.deleteSecurityGroup id kind) := by
  have allowed : FailsListed s label := by
    intro m received
    obtain ⟨position, event, _⟩ := label.event.received_eq received
    rw [event] at syncs
    exact syncs.elim
  refine (noOrphans.step_along base allowed (fun r => (∃ issued,
    r.observed = issued ++ s.reconciler.observed ∧ ∀ x ∈ issued, ∀ d,
      x.action ≠ .call d (.deleteSecurityGroup id kind)) ∧ Stands r.toCore kind id c)
    ?_ ⟨⟨[], rfl, fun x member => absurd member List.not_mem_nil⟩, stands⟩).2.1
  rintro o r r' _ origin base' noOrphans' effect ⟨⟨issued, same, spared⟩, stands'⟩
  have other (target : Option Ref) : o ≠ .deleted id.name kind target := by
    rintro rfl
    obtain ⟨object, event, _⟩ := Origin.deleted_of_step origin
    exact syncs.not_deleted event
  refine ⟨?_, stands'.effect base' noOrphans' effect other⟩
  obtain ⟨taken, more, recorded⟩ := effect.observed_append
  refine ⟨taken ++ issued, by rw [more, same, List.append_assoc], fun x member d action => ?_⟩
  rcases List.mem_append.mp member with new | old
  · obtain ⟨sameId, sameKind, first | again⟩ := (recorded x new).deletes action
    · exact stands'.spares other sameKind.symm sameId.symm first.deletes
    · exact syncs.not_retry (again.origin ▸ origin)
  · exact spared x old d action

theorem named_step (named : Named s.reconciler.toCore) (plain : label.Plain) :
    Named (s.step label).reconciler.toCore :=
  (named.step plain (fun _ => True) trivial (fun _ _ _ _ _ _ _ _ _ => trivial)
    (fun _ named' => named'.tick (fun _ _ => True) (fun _ _ _ _ _ _ => trivial)
      fun _ => trivial)
    (fun _ _ _ _ _ named' found answered =>
      named'.respond found answered (fun _ => True) (fun _ => True) trivial
        (fun _ _ _ _ _ => trivial) (fun _ _ _ _ _ => trivial)
        fun _ _ _ _ => ⟨fun _ => trivial, fun _ => trivial⟩) trivial).1

end System

/-! ## Runs -/

section

variable {kind : Bool} {name vpc : String} {s : System} {labels : List Label}

/-- The names are plain and every creation that waits to be retried is that of an indexed object. -/
def Regular (s : System) : Prop :=
  Named s.reconciler.toCore ∧ NoOrphans s.reconciler

theorem Regular.step {label : Label} (regular : Regular s)
    (allowed : KeepsAnnounced kind name s label) : Regular (s.step label) := by
  refine ⟨System.named_step regular.1 allowed.1, ?_⟩
  exact (regular.2.step_along regular.1.base allowed.2.1 (fun _ => True)
    (fun _ _ _ _ _ _ _ _ _ => trivial) trivial).1

/-- The object of a group that is not deleted stands to the end of the run. -/
theorem run_stands {c : Ref}
    (allowed : Allowed System.step (KeepsAnnounced kind name) s labels)
    (kept : ∀ label ∈ labels, ¬ label.Withdraws kind name) (regular : Regular s)
    (stands : Stands s.reconciler.toCore kind ⟨name, vpc⟩ c) :
    Regular (run System.step s labels) ∧
      Stands (run System.step s labels).reconciler.toCore kind ⟨name, vpc⟩ c := by
  induction labels generalizing s with
  | nil => exact ⟨regular, stands⟩
  | cons label rest induction =>
    obtain ⟨now, later⟩ := allowed
    exact induction later (fun label listed => kept label (List.mem_cons_of_mem _ listed))
      (regular.step now) (System.step_stands regular.1.base regular.2 now.2.1
        (kept label List.mem_cons_self) stands).2

theorem run_panicked (panicked : s.reconciler.panicked = true) (labels : List Label) :
    run System.step s labels = s := by
  induction labels with
  | nil => rfl
  | cons label rest induction =>
    rw [run, List.foldl_cons, s.step_panicked label panicked]
    exact induction

end

/--
A sync does not delete an announced group, as long as the events that announce
its members are applied when they arrive and no creation fails for an object
that has been dropped from its indexer.
-/
theorem announced_group_is_not_torn_down (cloud : Cloud) (kind : Bool) (name vpc : String)
    (labels : List Label)
    (allowed : Allowed System.step (KeepsAnnounced kind name) (System.initial cloud) labels)
    (wanted : Wanted kind name vpc labels) (label : Label) (syncs : label.event.Syncs) :
    let s := run System.step (System.initial cloud) labels
    ∃ issued, (s.step label).reconciler.observed = issued ++ s.reconciler.observed ∧
      ∀ x ∈ issued, ∀ c, x.action ≠ .call c (.deleteSecurityGroup ⟨name, vpc⟩ kind) := by
  intro s
  obtain ⟨before, announcement, after, rfl, announces, kept⟩ := wanted
  obtain ⟨allowedBefore, allowedNow, allowedAfter⟩ := allowed.append
  have regular : Regular (run System.step (System.initial cloud) before) :=
    run_invariant Regular (fun s label allowed regular => regular.step allowed) allowedBefore
      ⟨⟨base_setup, plainNames_setup⟩, noOrphans_setup⟩
  have split : s = run System.step
      ((run System.step (System.initial cloud) before).step announcement) after := by
    simp [s, run]
  cases running : (run System.step (System.initial cloud) before).reconciler.panicked with
  | true =>
    have stuck : s.reconciler.panicked = true := by
      rw [split, System.step_panicked _ _ running, run_panicked running]
      exact running
    rw [s.step_panicked label stuck]
    exact ⟨[], rfl, fun x member => absurd member List.not_mem_nil⟩
  | false =>
    obtain ⟨c, stands⟩ :=
      System.step_announced regular.1 regular.2 running allowedNow announces
    obtain ⟨regular, stands⟩ := run_stands allowedAfter kept (regular.step allowedNow) stands
    rw [← split] at regular stands
    exact System.step_sync_spares regular.1.base regular.2 syncs stands

namespace Sample

/-- The cloud reports an address group in the first VPC. -/
def reported : Env :=
  { env with syncContents := [⟨⟨"g", "v1"⟩, true, [], [], [], []⟩] }

/-- One entity does not exist yet. -/
def incomplete : Env :=
  { env with
    getExternalEntity := fun key =>
      if key.name = "late" then .error .notFound else env.getExternalEntity key }

/-- A group is announced before the first sync; one of the two bookmarks needed is missing. -/
def announcement (env : Env) : List Label :=
  ({ event := .addrGroup .added (.complete "g" [member "a", member "late"]), env } : Label) ::
    steps (bookmarks.take 2)

/-- The last bookmark starts the first sync. -/
def firstSync : Label :=
  { event := .networkPolicy .bookmark ⟨"", "", none, [], []⟩, env := reported }

theorem wanted_announcement {env : Env}
    (machine : env.resourcesIn [member "a", member "late"] "v1" ≠ []) :
    Wanted true "g" "v1" (announcement env) := by
  refine ⟨[], _, _, rfl, ⟨.added, _, rfl, rfl, machine⟩, ?_⟩
  intro later listed
  rcases List.mem_cons.mp listed with rfl | listed
  · rintro ⟨object, event, _⟩
    cases event
  · obtain rfl := List.mem_singleton.mp listed
    rintro ⟨object, event, _⟩
    cases event

end Sample

/-- A group whose entities can all be read survives the first sync. -/
theorem sample_group_is_not_torn_down :
    Wanted true "g" "v1" (Sample.announcement Sample.env) ∧
      let s := run System.step (System.initial fun _ => none) (Sample.announcement Sample.env)
      ∃ issued,
        (s.step Sample.firstSync).reconciler.observed = issued ++ s.reconciler.observed ∧
          ∀ x ∈ issued, ∀ c, x.action ≠ .call c (.deleteSecurityGroup ⟨"g", "v1"⟩ true) :=
  ⟨Sample.wanted_announcement (by decide), announced_group_is_not_torn_down _ true "g" "v1" _
    (by decide +kernel) (Sample.wanted_announcement (by decide)) Sample.firstSync rfl⟩

/-- A group that waits for one of its entities is deleted by the first sync. -/
theorem waiting_group_is_torn_down :
    Wanted true "g" "v1" (Sample.announcement Sample.incomplete) ∧
      let s := run System.step (System.initial fun _ => none)
        (Sample.announcement Sample.incomplete)
      ¬ ∃ issued,
        (s.step Sample.firstSync).reconciler.observed = issued ++ s.reconciler.observed ∧
          ∀ x ∈ issued, ∀ c, x.action ≠ .call c (.deleteSecurityGroup ⟨"g", "v1"⟩ true) := by
  refine ⟨Sample.wanted_announcement (by decide), ?_⟩
  rintro s ⟨issued, same, spared⟩
  obtain ⟨x, taken, action⟩ : ∃ x ∈ (s.step Sample.firstSync).reconciler.observed,
      x.action = .call 0 (.deleteSecurityGroup ⟨"g", "v1"⟩ true) := by decide +kernel
  have nothing : s.reconciler.observed = [] := by
    rw [← List.length_eq_zero_iff]
    decide +kernel
  rw [same, nothing, List.append_nil] at taken
  exact spared x taken 0 action

end Nephe
