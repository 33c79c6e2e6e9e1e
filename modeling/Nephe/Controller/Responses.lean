import Nephe.Controller.Members

/-!
# Retries and cloud responses

The rest of `networkpolicy_pendingitem.go`, `notifyImpl` and the two `notify`
methods.
-/

namespace Nephe

open Library

namespace PendingGroup

/-- `pendingGroup.RunOrDeletePendingItem`: whether to run and whether to delete. -/
def runOrDeletePendingItem (group : PendingGroup) : Bool × Bool :=
  match group.refCnt with
  | none => (true, false)
  | some refCnt => if 0 < refCnt ∨ !group.runOnClear then (false, false) else (true, true)

/-- `pendingGroup.RunPendingItem`: the result says whether to remove the item. -/
def runPendingItem (id : String) (group : PendingGroup) (r : Reconciler) :
    Bool × Reconciler :=
  if group.addedMembers.values.length = 0 then (true, r)
  else
    let members := arrange (r.order 0) group.addedMembers.values
    let (name, memberOnly) := getGroupIDFromUniqueName id
    match group.event with
    | none => (true, r.advance)
    | some event =>
      let (failed, r) := r.advance.processMemberGrp name event memberOnly members []
      (group.refCnt.isSome || !failed, r)

end PendingGroup

/-- `securityGroupImpl.RunOrDeletePendingItem`. -/
def SecurityGroup.runOrDeletePendingItem (group : SecurityGroup) : Bool × Bool :=
  if group.retryOp.isNone then (true, true)
  else if group.retryInProgress then (false, false)
  else (true, false)

namespace Reconciler

/-- The retried operation of `runPendingItemImpl`. -/
def retryOperation (c : Ref) (op : SecurityGroupOperation) (r : Reconciler) : Reconciler :=
  match op with
  | .add => r.addImpl c
  | .updateMembers => r.updateImpl c [] []
  | .delete => r.deleteImpl c
  | .clearMembers | .updateRules =>
    -- The type assertion `c.(*appliedToSecurityGroup)`.
    if (r.objects c).membershipOnly then r.panic else r.updateRules c

/-- `runPendingItemImpl`. -/
def runPendingItemImpl (c : Ref) (r : Reconciler) : Bool × Reconciler :=
  let s := r.objects c
  let r := r.observe (.runPendingItem c s.retryOp)
  match s.retryOp with
  | none =>
    if s.state ≠ .garbageCollectState then
      if s.membershipOnly then (true, r.updateImpl c [] [])
      else (true, (r.assign c fun s => { s with hasMembers := false }).updateRules c)
    else (true, r)
  | some op =>
    let r := (r.assign c fun s => { s with retryOp := none }).retryOperation c op
    (false, r.assign c fun s => { s with retryInProgress := true, retryOp := some op })

end Reconciler

/-- `RunOrDeletePendingItem` of every kind of item. -/
def PendingItem.runOrDeletePendingItem (item : PendingItem) (r : Reconciler) :
    Bool × Bool :=
  match item with
  | .securityGroup ref => (r.objects ref).runOrDeletePendingItem
  | .pendingGroup group => group.runOrDeletePendingItem

/-- `RunPendingItem` of every kind of item. -/
def PendingItem.runPendingItem (id : String) (item : PendingItem) (r : Reconciler) :
    Bool × Reconciler :=
  match item with
  | .securityGroup ref => r.runPendingItemImpl ref
  | .pendingGroup group => group.runPendingItem id r

namespace Reconciler

/-- What `retryQueue.Update(id, true, ...)` does after updating the item. -/
def retryQueueCheckRun (id : String) (r : Reconciler) : Reconciler :=
  retryQueueAt.checkRun PendingItem.runOrDeletePendingItem PendingItem.runPendingItem id r

/-- What `pendingDeleteGroups.Update(id, true, ...)` does after updating the item. -/
def pendingDeleteGroupsCheckRun (id : String) (r : Reconciler) : Reconciler :=
  pendingDeleteGroupsAt.checkRun PendingItem.runOrDeletePendingItem
    PendingItem.runPendingItem id r

/-- `retryQueue.CheckToRun`. -/
def retryQueueCheckToRun (r : Reconciler) : Reconciler :=
  retryQueueAt.checkToRun PendingItem.runOrDeletePendingItem PendingItem.runPendingItem
    (r.order 0) r.advance

/-! ## Responses -/

/-- The status that an error of a response stands for. -/
def statusOf (err : Option String) : Option Status :=
  err.map Status.failed

section Response

-- A response to the operation of a group, and the reconciler that gets it.
variable (c a : Ref) (op : SecurityGroupOperation) (err : Option String) (nps : List String)
  (r : Reconciler)

/-- `notifyImpl`: queue a failed operation, unless something is queued already. -/
def queueRetry : Reconciler :=
  let s := r.objects c
  if err.isSome && !r.retryQueue.has s.uName &&
      (s.state ≠ .garbageCollectState || op == .delete) then
    -- ignore prior non-delete failure during delete
    let r := r.assign c fun s => { s with retryOp := some op }
    { r with retryQueue := r.retryQueue.add s.uName (.securityGroup c) }
  else r

/-- `notifyImpl`: tell the queued item about the response. -/
def updateRetry : Reconciler :=
  let uName := (r.objects c).uName
  let r := r.retryQueueUpdate uName (.operation op)
  if err.isNone then r.retryQueueCheckRun uName else r

/-- `notifyImpl`: more attempts are to come. -/
def moreOps : Bool :=
  let uName := (r.objects c).uName
  r.retryQueue.has uName && 0 < r.retryQueue.getRetryCount uName

/-- `notifyImpl`: a delete has been answered. -/
def releaseDelete : Reconciler :=
  let guName := (r.objects c).guName
  (r.pendingDeleteGroupsUpdate guName
    (.reference (-1) (!r.moreOps c))).pendingDeleteGroupsCheckRun guName

/-- `notifyImpl`. -/
def notifyImpl : Reconciler :=
  let r := (r.queueRetry c op err).updateRetry c op err
  if op = .delete then r.releaseDelete c else r

/-- The part of `notify` before the response of an operation is processed. -/
def recordStatus : Reconciler :=
  if (r.objects c).state = .garbageCollectState ∧ op ≠ .delete then r
  else r.assign c fun s => { s with status := statusOf err }

/-- The response processing of `addrSecurityGroup.notify`. -/
def addrResponse : Reconciler :=
  if op = .add then
    let r :=
      r.assign a fun s =>
        { s with state := if s.state = .init then .created else s.state }
    (r.update a [] []).forRange nps notifyAddrGrpChanges
  else r

/-- The response processing of `appliedToSecurityGroup.notify`. -/
def appliedToResponse : Reconciler :=
  match op with
  | .add =>
    if (r.objects a).state = .init then
      (r.assign a fun s => { s with state := .created }).updateRules a
    else r
  | .updateMembers => r.assign a fun s => { s with hasMembers := true }
  | .updateRules =>
    let r := r.assign a fun s => { s with hasRules := true }
    if (r.objects a).hasMembers then r else r.update a [] []
  | .clearMembers =>
    let r := r.assign a fun s => { s with hasMembers := false }
    if (r.objects a).hasRules then r.updateRules a else r
  | .delete => r

/-- `addrSecurityGroup.notify` without its deferred function. -/
def addrProcess : Reconciler :=
  let r := r.recordStatus a op err
  if err.isSome then r
  else (r.retryQueueUpdate (r.objects a).uName (.operation op)).addrResponse a op nps

/-- `markDirty` of several policies. -/
def markPoliciesDirty : Reconciler :=
  r.forRange nps fun key r =>
    match r.networkPolicyIndexer.get? key with
    | some policy => r.markPolicyDirty policy.appliedToGroups
    | none => r

/-- `addrSecurityGroup.notify` up to `notifyImpl`. -/
def addrHandle : Reconciler :=
  let nps := (r.policiesByAddrGrp (r.objects a).id.name).map (·.1)
  let r := r.addrProcess a op err nps
  if (r.objects a).isReady then r.markPoliciesDirty nps else r

/-- `addrSecurityGroup.notify`. -/
def addrNotify : Reconciler :=
  (r.addrHandle a op err).notifyImpl a op err

/-- The trackers indexed under a group are marked dirty. -/
def markTrackersDirty (id : String) (r : Reconciler) : Reconciler :=
  r.forEach (r.cloudResourceNPTrackerIndexer.bindings.filter fun entry =>
      (entry.2.appliedToSGs.get? id).isSome || (entry.2.prevAppliedToSGs.get? id).isSome)
    fun entry r =>
      { r with
        cloudResourceNPTrackerIndexer :=
          r.cloudResourceNPTrackerIndexer.adjust entry.1 fun tracker =>
            { tracker with dirty := true } }

/-- `appliedToSecurityGroup.notify` without its deferred function. -/
def appliedToProcess : Reconciler :=
  let r := r.recordStatus a op err
  if err.isSome then r
  else (r.retryQueueUpdate (r.objects a).uName (.operation op)).appliedToResponse a op

/-- `appliedToSecurityGroup.notify` up to `notifyImpl`. -/
def appliedToHandle : Reconciler :=
  let r := r.appliedToProcess a op err
  r.markTrackersDirty (r.objects a).id.string

/-- `appliedToSecurityGroup.notify`. -/
def appliedToNotify : Reconciler :=
  (r.appliedToHandle a op err).notifyImpl a op err

/-- `processCloudResponse`. -/
def processCloudResponse : Reconciler :=
  if (r.objects c).membershipOnly then r.addrNotify c op err
  else r.appliedToNotify c op err

end Response

end Reconciler

end Nephe
