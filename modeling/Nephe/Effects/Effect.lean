import Nephe.Controller.System
import Nephe.Library.Chain

/-!
# What the reconciler can do

Every handler of the reconciler is a sequence of small changes.  `Effect` lists
them, each with the facts that hold where the handlers make it and with the
origin that explains it.  The properties of the reconciler are proved about the
effects and carried to the handlers by `Chain`.
-/

namespace Nephe

open Library

/-! ## Where an object is known -/

namespace Core

/-- The object is the one its indexer holds under its key. -/
def Indexed (core : Core) (c : Ref) : Prop :=
  (core.indexer (core.objects c).membershipOnly).get? (core.objects c).id.string = some c

/-- No object of the kind is indexed under the id. -/
def KeyFree (core : Core) (membershipOnly : Bool) (id : CloudResourceID) : Prop :=
  (core.indexer membershipOnly).get? id.string = none

/-- The object waits in the retry queue under its name. -/
def Queued (core : Core) (c : Ref) : Prop :=
  ∃ count, core.retryQueue.items.get? (core.objects c).uName =
    some ⟨.securityGroup c, count⟩

/-- Some tracker of the map lists the object among its groups. -/
def TrackedIn (trackers : GoMap String CloudResourceNPTracker) (c : Ref) : Prop :=
  ∃ rsc tracker id, trackers.get? rsc = some tracker ∧ tracker.appliedToSGs.get? id = some c

/-- Some tracker lists the object among its groups. -/
def Tracked (core : Core) (c : Ref) : Prop :=
  TrackedIn core.cloudResourceNPTrackerIndexer c

/-- The tracker of a resource lists the group with an id. -/
def Lists (core : Core) (text id : String) : Prop :=
  ∃ tracker, core.cloudResourceNPTrackerIndexer.get? text = some tracker ∧
    (tracker.appliedToSGs.get? id).isSome

/-- Nothing but the heap knows the object. -/
structure Untouched (core : Core) (c : Ref) : Prop where
  messages : ∀ m ∈ core.inFlight, m.sg ≠ c
  queue : ∀ key count, core.retryQueue.items.get? key ≠ some ⟨.securityGroup c, count⟩
  trackers : ¬ core.Tracked c

/-- The cloud reports a group of the kind with the id. -/
def Reported (core : Core) (membershipOnly : Bool) (id : CloudResourceID) : Prop :=
  ∃ content ∈ core.env.syncContents,
    content.membershipOnly = membershipOnly ∧ content.resource = id

end Core

/-- The object stands for a group of the cloud, not for a list of addresses. -/
def SecurityGroup.Networked (group : SecurityGroup) : Prop :=
  group.membershipOnly = true → group.id.vpc ≠ ""

theorem SecurityGroup.networked_of_appliedTo {group : SecurityGroup}
    (kind : group.membershipOnly = false) : group.Networked :=
  fun address => absurd (kind.symm.trans address) (by simp)

/-- No operation has been started for the object. -/
structure SecurityGroup.Clean (group : SecurityGroup) : Prop where
  deletePending : group.deletePending = false
  status : group.status = none
  retryOp : group.retryOp = none
  retryInProgress : group.retryInProgress = false
  hasRules : group.hasRules = false
  hasMembers : group.hasMembers = false

/-- The object that a sync makes for a group that it does not know. -/
structure Core.Temporary (core : Core) (c : Ref) : Prop where
  allocated : c < core.nextRef
  created : (core.objects c).state = .created
  members : (core.objects c).members = []
  clean : (core.objects c).Clean
  free : core.KeyFree (core.objects c).membershipOnly (core.objects c).id
  untouched : core.Untouched c
  reported : core.Reported (core.objects c).membershipOnly (core.objects c).id

/-- The object that a group event makes for a VPC it has not seen. -/
structure Core.New (core : Core) (c : Ref) : Prop where
  allocated : c < core.nextRef
  init : (core.objects c).state = .init
  clean : (core.objects c).Clean
  free : core.KeyFree (core.objects c).membershipOnly (core.objects c).id
  untouched : ∀ m ∈ core.inFlight, m.sg ≠ c
  unqueued : ∀ key count, core.retryQueue.items.get? key ≠ some ⟨.securityGroup c, count⟩
  unparked : core.pendingDeleteGroups.has (core.objects c).guName = false

/-! ## Origins -/

/-- Which part of the reconciler makes a change. -/
inductive Origin where
  /-- An Added or Modified event of a group is applied. -/
  | event (name : String) (membershipOnly : Bool)
  /-- Members whose entities are gone are dropped from the groups with a name. -/
  | stale (name : String)
  /-- A Deleted event of a group is applied, to an object or to none yet. -/
  | deleted (name : String) (membershipOnly : Bool) (target : Option Ref)
  /-- A policy event changes a policy, or notifies an object. -/
  | policy (target : Option Ref)
  /-- A response of the plug-in is received. -/
  | arrival (c : Ref) (op : SecurityGroupOperation) (err : Option String)
  /-- A response of the plug-in is handled. -/
  | response (c : Ref) (op : SecurityGroupOperation) (err : Option String)
  /-- The entry of the group of a deleted object is updated. -/
  | release (c : Ref)
  /-- The queued object is run, with the operation it is to retry. -/
  | retry (c : Ref) (op : Option SecurityGroupOperation)
  /-- The queued object has no attempts left. -/
  | expired (c : Ref)
  /-- Book-keeping for what is queued under a name. -/
  | pending (id : String)
  /-- A bookmark is counted. -/
  | bookmark
  /-- A cloud sync, apart from its loops over the groups. -/
  | sync
  /-- A cloud sync looks at one group. -/
  | syncGroup (c : Ref)
  /-- The background pass. -/
  | background
  /-- A new event begins. -/
  | start
  /-- The plug-in executes a call in flight. -/
  | execution
  /-- A goroutine prepares the response of a call in flight. -/
  | answering

/-- The indexed object that the origin may delete. -/
def Origin.target : Origin → Option Ref
  | .deleted _ _ target => target
  | .policy target => target
  | _ => none

/-- A queued object is run. -/
def Origin.IsRetry (o : Origin) : Prop :=
  ∃ c op, o = .retry c op

/-- Who may delete an object. -/
def Deletes (origin : Origin) (core : Core) (c : Ref) : Prop :=
  match origin with
  | .deleted name membershipOnly target =>
    target = some c ∧ core.Indexed c ∧ (core.objects c).id.name = name ∧
      (core.objects c).membershipOnly = membershipOnly
  | .policy target =>
    target = some c ∧ core.Indexed c ∧ (core.objects c).deletePending = true
  | .sync => core.Temporary c
  | _ => False

/-- Who may update the members of a created group. -/
def Pushes (origin : Origin) (core : Core) (c : Ref) : Prop :=
  match origin with
  | .event name membershipOnly =>
    core.Indexed c ∧ (core.objects c).membershipOnly = membershipOnly ∧
      ∃ vpc, (core.objects c).id.string = (CloudResourceID.mk name vpc).string
  | .response d op err =>
    c = d ∧ err = none ∧
      (((core.objects c).membershipOnly = true ∧ op = .add) ∨
        ((core.objects c).membershipOnly = false ∧ op = .updateRules ∧
          (core.objects c).hasRules = true))
  | .retry d op =>
    c = d ∧ (op = some .updateMembers ∨
      (op = none ∧ (core.objects c).membershipOnly = true))
  | .syncGroup d => c = d ∧ core.Indexed c
  | .sync => core.Tracked c
  | _ => False

/-- Who may update the rules of a created group. -/
def UpdatesRules (origin : Origin) (core : Core) (c : Ref) : Prop :=
  match origin with
  | .event _ _ =>
    core.Indexed c ∧ core.policiesByAppliedToGrp (core.objects c).id.name ≠ []
  | .policy target => target = some c ∧ core.Indexed c
  | .response d op err =>
    err = none ∧ ((c = d ∧ (op = .add ∨ op = .clearMembers)) ∨
      (core.Indexed c ∧ core.policiesByAppliedToGrp (core.objects c).id.name ≠ []))
  | .retry d op =>
    c = d ∧ (op = some .clearMembers ∨ op = some .updateRules ∨ op = none)
  | .syncGroup d => c = d ∧ core.Indexed c
  | _ => False

/-- Who may note that a group has members, or has none. -/
def SetsHasMembers (origin : Origin) (core : Core) (c : Ref) (value : Bool) : Prop :=
  match origin with
  | .response d op err =>
    c = d ∧ err = none ∧
      ((op = .updateMembers ∧ value = true) ∨ (op = .clearMembers ∧ value = false))
  | .retry d op => c = d ∧ op = none ∧ value = false
  | .syncGroup d =>
    c = d ∧ core.Indexed c ∧ value = true ∧ (core.objects c).members ≠ []
  | _ => False

/-- Who may note that a group has rules. -/
def SetsHasRules (origin : Origin) (core : Core) (c : Ref) : Prop :=
  match origin with
  | .response d op err => c = d ∧ op = .updateRules ∧ err = none
  | .syncGroup d =>
    c = d ∧ core.Indexed c ∧ core.policiesByAppliedToGrp (core.objects c).id.name ≠ []
  | _ => False

/-- New members come from an event, or the group had members before. -/
def MembersFrom (origin : Origin) (core : Core) (c : Ref) : Prop :=
  (core.objects c).members ≠ [] ∨ ∃ name membershipOnly, origin = .event name membershipOnly

/-- The same members by name, perhaps without duplicates. -/
structure SameMembers (before after : List CloudResource) : Prop where
  known : ∀ resource ∈ after, resource ∈ before
  kept : ∀ resource ∈ before, ∃ same ∈ after, same.name.string = resource.name.string

/-- The trackers list what they listed before, except for groups in `lost`. -/
structure Shrunk (lost : String → Prop)
    (before after : GoMap String CloudResourceNPTracker) : Prop where
  known : ∀ text tracker, after.get? text = some tracker → ∃ old, before.get? text = some old ∧
    tracker.cloudResource = old.cloudResource ∧
      ∀ id, (tracker.appliedToSGs.get? id).isSome → (old.appliedToSGs.get? id).isSome
  kept : ∀ text old, before.get? text = some old → ∀ id, (old.appliedToSGs.get? id).isSome →
    lost id ∨ ∃ tracker, after.get? text = some tracker ∧ (tracker.appliedToSGs.get? id).isSome

/-- An event of an appliedTo group is applied. -/
def Origin.Enrols (origin : Origin) : Prop :=
  ∃ name, origin = .event name false

/-- The groups that the origin may take out of the trackers. -/
def Unlisted (origin : Origin) (core : Core) (id : String) : Prop :=
  ∃ c, Deletes origin core c ∧ (core.objects c).membershipOnly = false ∧
    (core.objects c).id.string = id

/-- The members of an appliedTo group that has members are not tracked any more. -/
def Core.Untracked (core : Core) (c : Ref) : Prop :=
  (core.objects c).membershipOnly = false → (core.objects c).hasMembers = true →
    ∀ resource ∈ (core.objects c).members,
      ¬ core.Lists resource.string (core.objects c).id.string

/--
The groups named by the rules are cached, ready, in a policy that applies to
the group with the given name.
-/
def RulesFrom (core : Core) (name : String) (rules : List Rule) : Prop :=
  ∀ rule ∈ rules, ∀ id ∈ rule.securityGroups,
    ∃ key policy, core.networkPolicyIndexer.get? key = some policy ∧
      name ∈ policy.appliedToGroups ∧ policy.rulesReady = true ∧
      ∃ cached ∈ policy.ingressRules ++ policy.egressRules, id ∈ cached.securityGroups

/-! ## Compound changes -/

/-- Change the reference count of an item of `pendingDeleteGroups`. -/
def PendingItem.reference (refCnt : Int) (runOnClear : Bool) : PendingItem → PendingItem
  | .pendingGroup group =>
    .pendingGroup
      { group with runOnClear := runOnClear, refCnt := group.refCnt.map (· + refCnt) }
  | .securityGroup ref => .securityGroup ref

/-- Change the reference count stored under a name. -/
def PendingItemQueue.reference (queue : PendingItemQueue PendingItem) (id : String)
    (refCnt : Int) (runOnClear : Bool) : PendingItemQueue PendingItem :=
  { queue with
    items := queue.items.adjust id fun counting =>
      { counting with item := counting.item.reference refCnt runOnClear } }

theorem PendingItemQueue.get?_reference (queue : PendingItemQueue PendingItem)
    (id key : String) (refCnt : Int) (runOnClear : Bool) :
    (queue.reference id refCnt runOnClear).items.get? key =
      if key = id then
        (queue.items.get? id).map fun counting =>
          { counting with item := counting.item.reference refCnt runOnClear }
      else queue.items.get? key :=
  GoMap.get?_adjust queue.items id key _

namespace Reconciler

/-- `deleteImpl` for a group that a policy still refers to. -/
def markDeletePending (c : Ref) (r : Reconciler) : Reconciler :=
  (r.deleteImplEntry c).assign c fun s => { s with deletePending := true }

/-- The part of `deleteImpl` that takes the object out of the indexer and the queue. -/
def unlist (c : Ref) (r : Reconciler) : Reconciler :=
  let s := r.objects c
  let r := (r.deleteImplEntry c).indexerDelete c
  { r with retryQueue := r.retryQueue.remove s.uName }

/-- `deleteImpl` for an object that has never been sent to the cloud. -/
def forget (c : Ref) (r : Reconciler) : Reconciler :=
  (r.unlist c).assign c fun s => { s with retryOp := none }

/-- Count one more delete of the group of an object. -/
def countDelete (c : Ref) (r : Reconciler) : Reconciler :=
  { r with
    pendingDeleteGroups := r.pendingDeleteGroups.reference (r.objects c).guName 1 false }

/-- Ask the cloud to delete the group. -/
def issueDelete (c : Ref) (r : Reconciler) : Reconciler :=
  let s := r.objects c
  r.issue c (.deleteSecurityGroup s.id s.membershipOnly) (some .delete)

/-- `deleteImpl` for an object that the cloud may know. -/
def beginDelete (c : Ref) (r : Reconciler) : Reconciler :=
  (((r.unlist c).countDelete c).assign c fun s =>
    { s with
      retryOp := none
      state := .garbageCollectState
      status := some .inProgress }).issueDelete c

/-- Ask the cloud to create the group. -/
def issueCreate (c : Ref) (r : Reconciler) : Reconciler :=
  let s := r.objects c
  (r.issue c (.createSecurityGroup s.id s.membershipOnly) (some .add)).assign c
    fun s => { s with status := some .inProgress }

/-- Store new members and send them to the cloud. -/
def pushMembers (c : Ref) (members : List CloudResource) (r : Reconciler) : Reconciler :=
  let s := r.objects c
  (r.assign c fun s => { s with members := members }).issue c
    (.updateSecurityGroupMembers s.id members s.membershipOnly) none

/-- Ask the cloud to release all members. -/
def pushNoMembers (c : Ref) (r : Reconciler) : Reconciler :=
  r.issue c (.updateSecurityGroupMembers (r.objects c).id [] false) (some .clearMembers)

/-- Send rules to the cloud. -/
def pushRules (c : Ref) (ingress : List IngressRule) (egress : List EgressRule)
    (r : Reconciler) : Reconciler :=
  r.issue c (.updateSecurityGroupRules (r.objects c).id ingress egress) (some .updateRules)

/-- Queue an operation of the object to be retried. -/
def enqueue (c : Ref) (op : SecurityGroupOperation) (r : Reconciler) : Reconciler :=
  { r.assign c fun s => { s with retryOp := some op } with
    retryQueue := r.retryQueue.add (r.objects c).uName (.securityGroup c) }

/-- `runPendingItemImpl` up to the retried operation. -/
def startRetry (c : Ref) (op : SecurityGroupOperation) (r : Reconciler) : Reconciler :=
  (r.observe (.runPendingItem c (some op))).assign c fun s => { s with retryOp := none }

/-- `runPendingItemImpl` after the retried operation. -/
def endRetry (c : Ref) (op : SecurityGroupOperation) (r : Reconciler) : Reconciler :=
  r.assign c fun s => { s with retryInProgress := true, retryOp := some op }

/-- A creation is retried. -/
def retryAdd (c : Ref) (r : Reconciler) : Reconciler :=
  (((r.startRetry c .add).indexerAdd c).issueCreate c).endRetry c .add

/-- A creation is retried before the first sync. -/
def retryAddEarly (c : Ref) (r : Reconciler) : Reconciler :=
  ((r.startRetry c .add).indexerAdd c).endRetry c .add

/-- A deletion is retried. -/
def retryDelete (c : Ref) (r : Reconciler) : Reconciler :=
  (((((r.startRetry c .delete).deleteImplEntry c).countDelete c).assign c fun s =>
    { s with status := some .inProgress }).issueDelete c).endRetry c .delete

end Reconciler

/-! ## Effects -/

open Reconciler in
/-- One small change of the state, with its origin. -/
inductive Effect : Origin → Reconciler → Reconciler → Prop where
  /-- Iteration orders are used up. -/
  | order {o r} (supply : Supply) : Effect o r { r with order := supply }
  /-- Trackers change; new groups in them are indexed or about to be. -/
  | trackers {o r} (trackers : GoMap String CloudResourceNPTracker)
      (known : ∀ c, Core.TrackedIn trackers c → r.Tracked c ∨
        (c < r.nextRef ∧ (r.objects c).membershipOnly = false ∧
          ((r.objects c).state = .init ∨ r.Indexed c)))
      (relisted : o.Enrols ∨
        Shrunk (Unlisted o r.toCore) r.cloudResourceNPTrackerIndexer trackers) :
      Effect o r { r with cloudResourceNPTrackerIndexer := trackers }
  | machines {o r} (policies : GoMap String (GoMap String String)) :
      Effect o r { r with virtualMachinePolicyIndexer := policies }
  | panic {o r} : Effect o r r.panic
  | bookmark {r} (early : r.syncedWithCloud = false) :
      Effect .bookmark r { r with bookmarkCnt := r.bookmarkCnt + 1 }
  | listen {r} (enough : npSyncReadyBookMarkCnt ≤ r.bookmarkCnt) :
      Effect .sync r (r.observe .getSecurityGroupSyncChan)
  | synced {r} (enough : npSyncReadyBookMarkCnt ≤ r.bookmarkCnt) :
      Effect .sync r { r with syncedWithCloud := true }
  -- Policies.
  | newPolicy {r} (key : String) (policy : NetworkPolicy)
      (absent : r.networkPolicyIndexer.get? key = none)
      (empty : policy.ingressRules = [] ∧ policy.egressRules = [])
      (unready : policy.rulesReady = false) :
      Effect (.policy none) r (r.setPolicy key policy)
  | touchPolicy {o r} (key : String) (policy : NetworkPolicy)
      (found : r.networkPolicyIndexer.get? key = some policy) :
      Effect o r (r.setPolicy key policy)
  | recompute {o r} (key : String) (policy : NetworkPolicy) (supply : Supply)
      (found : r.networkPolicyIndexer.get? key = some policy) :
      Effect o r (r.setPolicy key (policy.computeRules r.toCore supply))
  | ready {o r} (key : String) (policy : NetworkPolicy) (withStatus : Bool) (supply : Supply)
      (found : r.networkPolicyIndexer.get? key = some policy)
      (ready : policy.rulesNotReady r.toCore withStatus supply = none) :
      Effect o r (r.setPolicy key { policy with rulesReady := true })
  | changeRules {r} (key : String) (policy : NetworkPolicy)
      (rules : List NetworkPolicyRule) (supply : Supply)
      (found : r.networkPolicyIndexer.get? key = some policy) :
      Effect (.policy none) r
        (r.setPolicy key ({ policy with rules := rules }.computeRules r.toCore supply))
  | changeAppliedTo {r} (key : String) (policy : NetworkPolicy) (groups : List String)
      (found : r.networkPolicyIndexer.get? key = some policy) :
      Effect (.policy none) r (r.setPolicy key { policy with appliedToGroups := groups })
  | removePolicy {r} (key : String) :
      Effect (.policy none) r { r with networkPolicyIndexer := r.networkPolicyIndexer.remove key }
  -- Objects and the indexers.
  | allocate {o r} (group : SecurityGroup) (clean : group.Clean)
      (fresh : (group.state = .init ∧ o = .event group.id.name group.membershipOnly) ∨
        (o = .sync ∧ group.state = .created ∧ group.members = [] ∧
          r.KeyFree group.membershipOnly group.id ∧
          r.Reported group.membershipOnly group.id)) :
      Effect o r (r.allocate group)
  | index {name membershipOnly r} (c : Ref) (new : r.New c)
      (named : (r.objects c).id.name = name)
      (kind : (r.objects c).membershipOnly = membershipOnly) :
      Effect (.event name membershipOnly) r (r.indexerAdd c)
  | reindex {r} (c : Ref) (indexed : r.Indexed c) :
      Effect (.syncGroup c) r (r.indexerAdd c)
  | unindexAddresses {o r} (c : Ref) (allocated : c < r.nextRef)
      (kind : (r.objects c).membershipOnly = true) (addresses : (r.objects c).id.vpc = "")
      (deletes : Deletes o r.toCore c) :
      Effect o r (r.indexerDelete c)
  | create {o r} (c : Ref) (allocated : c < r.nextRef) (indexed : r.Indexed c)
      (networked : (r.objects c).Networked) (synced : r.syncedWithCloud = true)
      (init : (r.objects c).state = .init) (idle : (r.objects c).retryOp = none)
      (origin : (∃ name membershipOnly, o = .event name membershipOnly ∧
          ∀ m ∈ r.inFlight, m.sg ≠ c) ∨ o = .syncGroup c) :
      Effect o r (r.issueCreate c)
  | deletePending {o r} (c : Ref) (allocated : c < r.nextRef) (deletes : Deletes o r.toCore c)
      (networked : (r.objects c).Networked)
      (alive : (r.objects c).state ≠ .garbageCollectState)
      (referenced : r.policiesOf (r.objects c) ≠ []) (untracked : r.Untracked c) :
      Effect o r (r.markDeletePending c)
  | forget {o r} (c : Ref) (allocated : c < r.nextRef) (deletes : Deletes o r.toCore c)
      (networked : (r.objects c).Networked)
      (unreferenced : r.policiesOf (r.objects c) = [])
      (init : (r.objects c).state = .init)
      (idle : (r.objects c).status ≠ some .inProgress) (untracked : r.Untracked c) :
      Effect o r (r.forget c)
  | beginDelete {o r} (c : Ref) (allocated : c < r.nextRef) (deletes : Deletes o r.toCore c)
      (networked : (r.objects c).Networked)
      (alive : (r.objects c).state ≠ .garbageCollectState)
      (unreferenced : r.policiesOf (r.objects c) = [])
      (started : ¬ ((r.objects c).state = .init ∧
        (r.objects c).status ≠ some .inProgress))
      (untracked : r.Untracked c) :
      Effect o r (r.beginDelete c)
  -- Members and rules.
  | setMembers {o r} (c : Ref) (members : List CloudResource) (allocated : c < r.nextRef)
      (source : MembersFrom o r.toCore c)
      (waiting : (r.objects c).state ≠ .created ∨ (r.objects c).retryOp ≠ none)
      (kept : (r.objects c).membershipOnly = true ∨ o.Enrols ∨
        SameMembers (r.objects c).members members) :
      Effect o r (r.assign c fun s => { s with members := members })
  | dropStale {name r} (c : Ref) (members : List CloudResource)
      (indexed : r.Indexed c) (named : (r.objects c).id.name = name) :
      Effect (.stale name) r
        (r.assign c fun s => { s with members := members })
  | setAddresses {o r} (c : Ref) (ipBlocks : List IPNet) (indexed : r.Indexed c) :
      Effect o r (r.assign c fun s => { s with ipBlocks := ipBlocks })
  | pushMembers {o r} (c : Ref) (members : List CloudResource) (allocated : c < r.nextRef)
      (networked : (r.objects c).Networked) (source : MembersFrom o r.toCore c)
      (created : (r.objects c).state = .created) (idle : (r.objects c).retryOp = none)
      (origin : Pushes o r.toCore c)
      (kept : (r.objects c).membershipOnly = true ∨ o.Enrols ∨
        SameMembers (r.objects c).members members) :
      Effect o r (r.pushMembers c members)
  | pushNoMembers {o r} (c : Ref) (allocated : c < r.nextRef)
      (created : (r.objects c).state = .created) (idle : (r.objects c).retryOp = none)
      (kind : (r.objects c).membershipOnly = false)
      (unreferenced : r.policiesByAppliedToGrp (r.objects c).id.name = [])
      (hasMembers : (r.objects c).hasMembers = true)
      (origin : UpdatesRules o r.toCore c) :
      Effect o r (r.pushNoMembers c)
  | dropRules {o r} (c : Ref) (allocated : c < r.nextRef)
      (created : (r.objects c).state = .created)
      (kind : (r.objects c).membershipOnly = false)
      (unreferenced : r.policiesByAppliedToGrp (r.objects c).id.name = [])
      (hasMembers : (r.objects c).hasMembers = false)
      (origin : UpdatesRules o r.toCore c) :
      Effect o r (r.assign c fun s => { s with hasRules := false })
  | pushRules {o r} (c : Ref) (ingress : List IngressRule) (egress : List EgressRule)
      (allocated : c < r.nextRef)
      (created : (r.objects c).state = .created) (idle : (r.objects c).retryOp = none)
      (kind : (r.objects c).membershipOnly = false)
      (referenced : r.policiesByAppliedToGrp (r.objects c).id.name ≠ [])
      (cached : RulesFrom r.toCore (r.objects c).id.name (ingress ++ egress))
      (origin : UpdatesRules o r.toCore c) :
      Effect o r (r.pushRules c ingress egress)
  | setHasMembers {o r} (c : Ref) (value : Bool) (allocated : c < r.nextRef)
      (kind : (r.objects c).membershipOnly = false)
      (origin : SetsHasMembers o r.toCore c value) :
      Effect o r (r.assign c fun s => { s with hasMembers := value })
  | setHasRules {o r} (c : Ref) (allocated : c < r.nextRef)
      (kind : (r.objects c).membershipOnly = false)
      (origin : SetsHasRules o r.toCore c) :
      Effect o r (r.assign c fun s => { s with hasRules := true })
  | reported {r} (c : Ref) (indexed : r.Indexed c) (networked : (r.objects c).Networked)
      (reported : r.Reported (r.objects c).membershipOnly (r.objects c).id) :
      Effect (.syncGroup c) r (r.assign c fun s => { s with state := .created })
  -- Outside of the main loop.
  | enter {r} (env : Env) (supply : Supply) :
      Effect .start r { r with env := env, order := supply }
  | execute {r} (position : Nat) (m : Message) (err : Option String)
      (found : r.inFlight[position]? = some m) (issued : m.stage = .issued) :
      Effect .execution r (r.setStage position (.executed err))
  | answer {r} (position : Nat) (m : Message) (err : Option String)
      (found : r.inFlight[position]? = some m) (executed : m.stage = .executed err) :
      Effect .answering r (r.setStage position (.answered (r.responseOp m) err))
  -- Responses.
  | receive {r} (position : Nat) (m : Message) (op : SecurityGroupOperation)
      (err : Option String) (found : r.inFlight[position]? = some m)
      (answered : m.stage = .answered op err) :
      Effect (.arrival m.sg op err) r
        { r with inFlight := r.inFlight.eraseIdx position }
  | status {r} (c : Ref) (op : SecurityGroupOperation) (err : Option String)
      (allocated : c < r.nextRef)
      (current : ¬ ((r.objects c).state = .garbageCollectState ∧ op ≠ .delete)) :
      Effect (.response c op err) r (r.assign c fun s => { s with status := statusOf err })
  | created {r} (c : Ref) (allocated : c < r.nextRef) (networked : (r.objects c).Networked)
      (init : (r.objects c).state = .init) :
      Effect (.response c .add none) r (r.assign c fun s => { s with state := .created })
  | queueRetry {r} (c : Ref) (op : SecurityGroupOperation) (message : String)
      (allocated : c < r.nextRef) (networked : (r.objects c).Networked)
      (free : r.retryQueue.items.get? (r.objects c).uName = none)
      (current : (r.objects c).state ≠ .garbageCollectState ∨ op = .delete)
      (deleting : op = .delete → (r.objects c).state = .garbageCollectState) :
      Effect (.response c op (some message)) r (r.enqueue c op)
  | answerItem {r} (c : Ref) (op : SecurityGroupOperation) (err : Option String) (d : Ref)
      (count : Option Int)
      (found : r.retryQueue.items.get? (r.objects c).uName =
        some ⟨.securityGroup d, count⟩) :
      Effect (.response c op err) r
        (({ r with
            retryQueue := r.retryQueue.setItem (r.objects c).uName (.securityGroup d) } :
          Reconciler).assign d (SecurityGroup.updatePendingItem op))
  -- The retry queue.
  | touchItem {o r} (key : String) (counting : CountingPendingItem PendingItem)
      (found : r.retryQueue.items.get? key = some counting) :
      Effect o r { r with retryQueue := r.retryQueue.setItem key counting.item }
  | queueEvent {name membershipOnly r} (group : PendingGroup)
      (retry : group.refCnt = none) (kept : group.event ≠ some .deleted)
      (slot : ∀ counting,
        r.retryQueue.items.get? (getGroupUniqueName name membershipOnly) = some counting →
          ∃ queued, counting.item = .pendingGroup queued) :
      Effect (.event name membershipOnly) r
        { r with
          retryQueue :=
            (r.retryQueue.add (getGroupUniqueName name membershipOnly)
              (.pendingGroup {})).setItem
              (getGroupUniqueName name membershipOnly) (.pendingGroup group) }
  | dropEvent {name membershipOnly r} :
      Effect (.deleted name membershipOnly none) r
        { r with
          retryQueue := r.retryQueue.remove (getGroupUniqueName name membershipOnly) }
  | finished {r} (c : Ref) (allocated : c < r.nextRef)
      (idle : (r.objects c).retryOp = none) :
      Effect (.retry c none) r (r.observe (.runPendingItem c none))
  | startRetry {r} (c : Ref) (op : SecurityGroupOperation) (allocated : c < r.nextRef)
      (queued : r.Queued c) (retries : (r.objects c).retryOp = some op)
      (other : op ≠ .add ∧ op ≠ .delete) :
      Effect (.retry c (some op)) r (r.startRetry c op)
  | endRetry {r} (c : Ref) (op : SecurityGroupOperation) (allocated : c < r.nextRef)
      (queued : r.Queued c) (idle : (r.objects c).retryOp = none)
      (alive : (r.objects c).state ≠ .garbageCollectState)
      (other : op ≠ .add ∧ op ≠ .delete)
      (ran : ∃ x ∈ r.observed, x.action = .runPendingItem c (some op) ∧
        (x.before.objects c).membershipOnly = (r.objects c).membershipOnly) :
      Effect (.retry c (some op)) r (r.endRetry c op)
  | retryAdd {r} (c : Ref) (allocated : c < r.nextRef) (queued : r.Queued c)
      (retries : (r.objects c).retryOp = some .add)
      (alive : (r.objects c).state ≠ .garbageCollectState)
      (synced : r.syncedWithCloud = true) :
      Effect (.retry c (some .add)) r (r.retryAdd c)
  | retryAddEarly {r} (c : Ref) (allocated : c < r.nextRef) (queued : r.Queued c)
      (retries : (r.objects c).retryOp = some .add)
      (alive : (r.objects c).state ≠ .garbageCollectState)
      (early : r.syncedWithCloud = false) :
      Effect (.retry c (some .add)) r (r.retryAddEarly c)
  | retryDelete {r} (c : Ref) (allocated : c < r.nextRef) (queued : r.Queued c)
      (retries : (r.objects c).retryOp = some .delete)
      (garbage : (r.objects c).state = .garbageCollectState) :
      Effect (.retry c (some .delete)) r (r.retryDelete c)
  | spend {r} (key : String) (item : PendingItem) (count : Int)
      (found : r.retryQueue.items.get? key = some ⟨item, some count⟩)
      (issued : 0 < count → ∀ c, item = .securityGroup c →
        (r.objects c).retryOp = some .delete →
          ∃ m ∈ r.inFlight, m.sg = c ∧ m.op = some .delete) :
      Effect (.pending key) r { r with retryQueue := r.retryQueue.setCount key (some (count - 1)) }
  | retire {r} (key : String)
      (idle : ∀ c count, r.retryQueue.items.get? key = some ⟨.securityGroup c, count⟩ →
        (r.objects c).retryOp = none) :
      Effect (.pending key) r { r with retryQueue := r.retryQueue.remove key }
  | expire {r} (c : Ref) (op : SecurityGroupOperation) (count : Int)
      (found : r.retryQueue.items.get? (r.objects c).uName =
        some ⟨.securityGroup c, some count⟩)
      (retries : (r.objects c).retryOp = some op) (spent : count ≤ 0) :
      Effect (.expired c) r
        { r with retryQueue := r.retryQueue.remove (r.objects c).uName }
  -- The groups being deleted.
  | park {o r} (key : String) (group parked : PendingGroup) (count : Option Int)
      (found : r.pendingDeleteGroups.items.get? key = some ⟨.pendingGroup group, count⟩)
      (same : parked.refCnt = group.refCnt ∧ parked.runOnClear = group.runOnClear)
      (kept : parked.event ≠ some .deleted) :
      Effect o r
        { r with
          pendingDeleteGroups := r.pendingDeleteGroups.setItem key (.pendingGroup parked) }
  | release {r} (c : Ref) (runOnClear : Bool) :
      Effect (.release c) r
        { r with
          pendingDeleteGroups :=
            r.pendingDeleteGroups.reference (r.objects c).guName (-1) runOnClear }
  | removeEntry {r} (c : Ref) (group : PendingGroup) (refCnt : Int) (count : Option Int)
      (found : r.pendingDeleteGroups.items.get? (r.objects c).guName =
        some ⟨.pendingGroup group, count⟩)
      (cleared : group.refCnt = some refCnt) (none_ : refCnt ≤ 0)
      (runOnClear : group.runOnClear = true) :
      Effect (.release c) r
        { r with
          pendingDeleteGroups := r.pendingDeleteGroups.remove (r.objects c).guName }

/-- A sequence of effects whose origins are all allowed. -/
abbrev Effects (allowed : Origin → Prop) : Reconciler → Reconciler → Prop :=
  Chain Effect allowed

end Nephe
