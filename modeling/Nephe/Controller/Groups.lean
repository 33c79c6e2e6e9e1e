import Nephe.Controller.State

/-!
# Operations on security groups

`securityGroupImpl`, `addrSecurityGroup` and `appliedToSecurityGroup` of
`networkpolicy.go`, up to the handling of cloud responses.

The indexers are assumed to return exactly the objects whose index function
yields the key, so their error results never occur and are left out.
-/

namespace Nephe

open Library

/-- `strings.Contains`. -/
def stringsContains (text pattern : String) : Bool :=
  text.toList.tails.any pattern.toList.isPrefixOf

/-! ## The two queues -/

def retryQueueAt : QueueAt Reconciler PendingItem where
  get r := r.retryQueue
  change f r := { r with retryQueue := f r.retryQueue }

def pendingDeleteGroupsAt : QueueAt Reconciler PendingItem where
  get r := r.pendingDeleteGroups
  change f r := { r with pendingDeleteGroups := f r.pendingDeleteGroups }

/-! ## `UpdatePendingItem` -/

/-- One removed member; the flag says that the reference was nil. -/
def PendingGroup.recordRemoved (state : PendingGroup × Bool) (member : GroupMember) :
    PendingGroup × Bool :=
  match member.externalEntity with
  | none => (state.1, true)
  | some reference =>
    let group := state.1
    if (group.addedMembers.get? reference.string).isSome then
      ({ group with addedMembers := group.addedMembers.remove reference.string },
        state.2)
    else
      ({ group with
          removedMembers := group.removedMembers.set reference.string member },
        state.2)

/-- One added member; the flag says that the reference was nil. -/
def PendingGroup.recordAdded (state : PendingGroup × Bool) (member : GroupMember) :
    PendingGroup × Bool :=
  match member.externalEntity with
  | none => (state.1, true)
  | some reference =>
    let group := state.1
    ({ group with
        removedMembers := group.removedMembers.remove reference.string
        addedMembers := group.addedMembers.set reference.string member },
      state.2)

/--
`pendingGroup.UpdatePendingItem`.

The flag is set where the source panics: a type assertion on the updates, or a
member without an entity reference.
-/
def PendingGroup.updatePendingItem (group : PendingGroup) :
    Updates → PendingGroup × Bool
  | .operation _ => (group, true)
  | .reference refCnt runOnClear =>
    ({ group with
        runOnClear := runOnClear
        refCnt := group.refCnt.map (· + refCnt) },
      group.refCnt.isNone)
  | .event type added removed =>
    let group :=
      { group with event := if group.event.isNone then some type else group.event }
    if type = .deleted then
      ({ group with addedMembers := ∅, removedMembers := ∅, event := none }, false)
    else if type = .added ∨ type = .modified then
      added.foldl PendingGroup.recordAdded
        (removed.foldl PendingGroup.recordRemoved (group, false))
    else (group, false)

/-- `securityGroupImpl.UpdatePendingItem`. -/
def SecurityGroup.updatePendingItem (op : SecurityGroupOperation)
    (group : SecurityGroup) : SecurityGroup :=
  if group.retryOp = some op then
    { group with
      retryInProgress := false
      retryOp := if group.status.isNone then none else group.retryOp }
  else group

/-- `UpdatePendingItem` of every kind of item. -/
def PendingItem.updatePendingItem :
    PendingItem → Updates → Reconciler → PendingItem × Reconciler
  | .securityGroup ref, .operation op, r =>
    (.securityGroup ref, r.assign ref (SecurityGroup.updatePendingItem op))
  | .securityGroup ref, _, r => (.securityGroup ref, r.panic)
  | .pendingGroup group, updates, r =>
    let (group, panics) := group.updatePendingItem updates
    (.pendingGroup group, if panics then r.panic else r)

namespace Reconciler

/-- `retryQueue.Update(id, false, updates...)`. -/
def retryQueueUpdate (id : String) (updates : Updates) (r : Reconciler) : Reconciler :=
  retryQueueAt.update PendingItem.updatePendingItem id updates r

/-- `pendingDeleteGroups.Update(id, false, updates...)`. -/
def pendingDeleteGroupsUpdate (id : String) (updates : Updates) (r : Reconciler) :
    Reconciler :=
  pendingDeleteGroupsAt.update PendingItem.updatePendingItem id updates r

/-! ## Trackers -/

/-- `getCloudResourceNPTracker(rsc, create)` followed by `tracker.update`. -/
def updateTracker (rsc : CloudResource) (create : Bool) (sg : Ref) (isDelete : Bool)
    (r : Reconciler) : Reconciler :=
  let id := (r.objects sg).id.string
  let put (tracker : CloudResourceNPTracker) : Reconciler :=
    { r with
      cloudResourceNPTrackerIndexer :=
        r.cloudResourceNPTrackerIndexer.set rsc.string (tracker.update id sg isDelete) }
  match r.cloudResourceNPTrackerIndexer.get? rsc.string with
  | some tracker => put tracker
  | none => if create then put ⟨rsc, false, ∅, ∅⟩ else r

/-- `securityGroupImpl.markDirty`, which is only called with `create = false`. -/
def markGroupDirty (sg : Ref) (r : Reconciler) : Reconciler :=
  r.forEach (r.objects sg).members fun rsc r =>
    { r with
      cloudResourceNPTrackerIndexer :=
        r.cloudResourceNPTrackerIndexer.adjust rsc.string fun tracker =>
          { tracker with dirty := true } }

/-! ## Calls to the plug-in -/

/-- `addImpl`. -/
def addImpl (c : Ref) (r : Reconciler) : Reconciler :=
  let r := r.indexerAdd c
  let s := r.objects c
  if !r.syncedWithCloud then r
  else if s.retryOp.isSome then r
  else
    (r.issue c (.createSecurityGroup s.id s.membershipOnly) (some .add)).assign c
      fun s => { s with status := some .inProgress }

/-- The end of `deleteImpl`, reached with an object in the garbage state. -/
def deleteImplIssue (c : Ref) (r : Reconciler) : Reconciler :=
  let s := r.objects c
  if s.retryOp.isSome then r
  else
    let r := r.pendingDeleteGroupsUpdate s.guName (.reference 1 false)
    let r := r.assign c fun s => { s with status := some .inProgress }
    r.issue c (.deleteSecurityGroup s.id s.membershipOnly) (some .delete)

/-- The entry that `deleteImpl` makes in `pendingDeleteGroups`. -/
def deleteImplEntry (c : Ref) (r : Reconciler) : Reconciler :=
  { r with
    pendingDeleteGroups :=
      r.pendingDeleteGroups.add (r.objects c).guName
        (.pendingGroup { refCnt := some 0 }) }

/-- `deleteImpl`. -/
def deleteImpl (c : Ref) (r : Reconciler) : Reconciler :=
  let s := r.objects c
  let r := r.deleteImplEntry c
  if s.state ≠ .garbageCollectState then
    if r.policiesOf s ≠ [] then
      r.assign c fun s => { s with deletePending := true }
    else
      let r := r.indexerDelete c
      -- delete operation supersedes any prior retry operations.
      let r := { r with retryQueue := r.retryQueue.remove s.uName }
      let r := r.assign c fun s => { s with retryOp := none }
      if s.state = .init ∧ s.status ≠ some .inProgress then r
      else
        (r.assign c fun s => { s with state := .garbageCollectState }).deleteImplIssue c
  else r.deleteImplIssue c

/-- `updateImpl`. -/
def updateImpl (c : Ref) (added removed : List CloudResource) (r : Reconciler) :
    Reconciler :=
  let s := r.objects c
  if added.length + removed.length + s.members.length = 0 then r
  else
    let members := mergeCloudResources (r.order 0) s.members added removed
    let r := r.advance.assign c fun s => { s with members := members }
    if s.state ≠ .created then r
    else if s.retryOp.isSome then r
    else r.issue c (.updateSecurityGroupMembers s.id members s.membershipOnly) none

/-- `removeStaleMembers`. -/
def removeStaleMembers (c : Ref) (stales : List String) (r : Reconciler) : Reconciler :=
  let s := r.objects c
  if s.members.length = 0 then r
  else
    let srcMap : GoMap String CloudResource :=
      s.members.foldl (fun map m => map.set m.name.name m) ∅
    let srcMap :=
      stales.foldl
        (fun map stale =>
          map.bindings.foldl
            (fun map entry =>
              if stringsContains stale entry.1 then map.remove entry.1 else map)
            map)
        srcMap
    let members := arrange (r.order 0) srcMap.values
    r.advance.assign c fun s => { s with members := members }

/-! ## The two kinds of group -/

/-- `add` of both kinds of group. -/
def add (c : Ref) (r : Reconciler) : Reconciler :=
  let s := r.objects c
  if s.membershipOnly then
    if s.isIPBlocks then r.indexerAdd c else r.addImpl c
  else
    (r.forEach s.members fun rsc r => r.updateTracker rsc true c false).addImpl c

/-- `delete` of both kinds of group. -/
def delete (c : Ref) (r : Reconciler) : Reconciler :=
  let s := r.objects c
  if s.membershipOnly then
    if s.isIPBlocks then r.indexerDelete c else r.deleteImpl c
  else if s.hasMembers then
    (r.forEach s.members fun rsc r => r.updateTracker rsc false c true).deleteImpl c
  else r.deleteImpl c

/-- `update` of both kinds of group. -/
def update (c : Ref) (added removed : List CloudResource) (r : Reconciler) :
    Reconciler :=
  let s := r.objects c
  if s.membershipOnly then
    if s.isIPBlocks then r else r.updateImpl c added removed
  else
    let r := r.forEach removed fun rsc r => r.updateTracker rsc false c true
    let r := r.forEach added fun rsc r => r.updateTracker rsc true c false
    r.updateImpl c added removed

/-- `addrSecurityGroup.updateIPs`. -/
def updateIPs (c : Ref) (added removed : List IPNet) (r : Reconciler) : Reconciler :=
  let ipBlocks := mergeIPs (r.order 0) (r.objects c).ipBlocks added removed
  r.advance.assign c fun s => { s with ipBlocks := ipBlocks }

/-- `appliedToSecurityGroup.updateRules`. -/
def updateRules (a : Ref) (r : Reconciler) : Reconciler :=
  let s := r.objects a
  if !s.isReady then r
  -- Wait for ongoing retry operation.
  else if s.retryOp.isSome then r
  else
    let nps := arrange (r.order 0) (r.policiesByAppliedToGrp s.id.name)
    let r := r.advance
    if nps = [] then
      if s.hasMembers then
        r.issue a (.updateSecurityGroupMembers s.id [] false) (some .clearMembers)
      else r.assign a fun s => { s with hasRules := false }
    else if nps.all fun np => np.2.rulesReady then
      let irules := nps.flatMap fun np => np.2.ingressRules
      let erules := nps.flatMap fun np => np.2.egressRules
      let supply := r.order.left
      r.split.issue a
        (.updateSecurityGroupRules s.id
          (deduplicateIngressRules supply.left irules)
          (deduplicateEgressRules supply.right erules))
        (some .updateRules)
    else r

/-- `notifyNetworkPolicyChange` of both kinds of group. -/
def notifyNetworkPolicyChange (c : Ref) (r : Reconciler) : Reconciler :=
  let s := r.objects c
  if s.membershipOnly then
    if !s.deletePending then r
    else if r.policiesByAddrGrp s.id.name = [] then r.delete c
    else r
  else if r.policiesByAppliedToGrp s.id.name = [] ∧ s.deletePending then r.delete c
  else if !s.deletePending then r.updateRules c
  else r

end Reconciler

end Nephe
