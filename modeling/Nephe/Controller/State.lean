import Nephe.SecurityGroup.Merge
import Nephe.Controller.PendingItemQueue

/-!
# The state of the network policy reconciler

The fields of `NetworkPolicyReconciler` and the objects they hold.  Security
groups are shared by pointer in the source (the indexers, the retry queue, the
trackers and the response goroutines all hold them), so they live in a heap
and everything else holds a reference.  Network policies and trackers are held
by their indexers only and are stored there by value.

The state also carries what the source keeps outside the struct: the cloud
calls that have not been answered yet, the environment and the iteration-order
supply of the event being processed, and a record of what was asked of the
cloud.
-/

namespace Nephe

open Library

/-! ## Security groups -/

/-- `securityGroupOperation`. -/
inductive SecurityGroupOperation where
  | add
  | updateMembers
  | clearMembers
  | updateRules
  | delete
deriving DecidableEq, Repr

/-- `securityGroupState`. -/
inductive SecurityGroupState where
  | init
  | created
  | garbageCollectState
deriving DecidableEq, Repr

/-- A non-nil `status error`: the `InProgress` marker or a cloud error. -/
inductive Status where
  | inProgress
  | failed (message : String)
deriving DecidableEq, Repr

/-- `Error()`. -/
def Status.error : Status → String
  | .inProgress => "in-progress"
  | .failed message => message

/--
A security group object.

`membershipOnly` tells the two implementations of `cloudSecurityGroup` apart:
it is true for an `addrSecurityGroup`, which alone uses `ipBlocks`, and false
for an `appliedToSecurityGroup`, which alone uses `hasRules` and `hasMembers`.
-/
structure SecurityGroup where
  membershipOnly : Bool
  id : CloudResourceID
  members : List CloudResource := []
  state : SecurityGroupState := .init
  deletePending : Bool := false
  status : Option Status := none
  retryOp : Option SecurityGroupOperation := none
  retryInProgress : Bool := false
  ipBlocks : List IPNet := []
  hasRules : Bool := false
  hasMembers : Bool := false

/-- The empty object fills the part of the heap that is not allocated. -/
instance : Inhabited SecurityGroup :=
  ⟨{ membershipOnly := false, id := ⟨"", ""⟩ }⟩

namespace SecurityGroup

/-- `addrSecurityGroup.isIPBlocks`. -/
def isIPBlocks (group : SecurityGroup) : Bool :=
  group.id.vpc == ""

/-- `isReady` of both kinds of group. -/
def isReady (group : SecurityGroup) : Bool :=
  if group.membershipOnly then
    group.isIPBlocks || group.state == .created
  else group.state == .created

/-- `getStatus` of both kinds of group. -/
def getStatus (group : SecurityGroup) : Option Status :=
  match group.status with
  | some status => some status
  | none =>
    if group.membershipOnly then
      if group.state = .created ∨ group.isIPBlocks then none else some .inProgress
    else
      if group.state = .created ∧ group.hasRules then none else some .inProgress

end SecurityGroup

/-- `uniqueGroupNameMemberPrefix`. -/
def uniqueGroupNameMemberPrefix : String := "mm_"

/-- `getGroupUniqueName`. -/
def getGroupUniqueName (name : String) (memberOnly : Bool) : String :=
  if memberOnly then uniqueGroupNameMemberPrefix ++ name else name

/-- `getGroupIDFromUniqueName`. -/
def getGroupIDFromUniqueName (name : String) : String × Bool :=
  if uniqueGroupNameMemberPrefix.toList.isPrefixOf name.toList then
    (String.ofList (name.toList.drop uniqueGroupNameMemberPrefix.toList.length), true)
  else (name, false)

namespace SecurityGroup

/-- The name of an object in the retry queue. -/
def uName (group : SecurityGroup) : String :=
  getGroupUniqueName group.id.string group.membershipOnly

/-- The name of the group of an object in `pendingDeleteGroups`. -/
def guName (group : SecurityGroup) : String :=
  getGroupUniqueName group.id.name group.membershipOnly

end SecurityGroup

/-- A pointer to a security group. -/
abbrev Ref := Nat

/-! ## Policies and trackers -/

/-- `networkPolicy`: the Antrea policy and the rules computed from it. -/
structure NetworkPolicy where
  name : String
  «namespace» : String
  rules : List NetworkPolicyRule
  appliedToGroups : List String
  ingressRules : List IngressRule := []
  egressRules : List EgressRule := []
  rulesReady : Bool := false

namespace NetworkPolicy

/-- The index function of `networkPolicyIndexerByAddrGrp`. -/
def addressGroups (policy : NetworkPolicy) : List String :=
  policy.rules.flatMap fun rule =>
    rule.toPeer.addressGroups ++ rule.fromPeer.addressGroups

end NetworkPolicy

/-- `cloudResourceNPTracker`; the two maps are keyed by group id. -/
structure CloudResourceNPTracker where
  cloudResource : CloudResource
  dirty : Bool
  appliedToSGs : GoMap String Ref
  prevAppliedToSGs : GoMap String Ref

/-- `cloudResourceNPTracker.update`. -/
def CloudResourceNPTracker.update
    (tracker : CloudResourceNPTracker) (id : String) (group : Ref)
    (isDelete : Bool) : CloudResourceNPTracker :=
  if (tracker.appliedToSGs.get? id).isSome ≠ isDelete then tracker
  else if isDelete then
    { tracker with
      dirty := true
      appliedToSGs := tracker.appliedToSGs.remove id
      prevAppliedToSGs := tracker.prevAppliedToSGs.set id group }
  else
    { tracker with
      dirty := true
      prevAppliedToSGs := tracker.prevAppliedToSGs.remove id
      appliedToSGs := tracker.appliedToSGs.set id group }

/-! ## Pending items -/

/--
`pendingGroup`.

`refCnt` is nil in the retry queue; `event` is none for the empty event type.
-/
structure PendingGroup where
  refCnt : Option Int := none
  runOnClear : Bool := false
  event : Option EventType := none
  addedMembers : GoMap String GroupMember := ∅
  removedMembers : GoMap String GroupMember := ∅

/-- The three implementations of `PendingItem`. -/
inductive PendingItem where
  | securityGroup (ref : Ref)
  | pendingGroup (group : PendingGroup)

/-- What is passed to `UpdatePendingItem`. -/
inductive Updates where
  | operation (op : SecurityGroupOperation)
  | reference (refCnt : Int) (runOnClear : Bool)
  | event (type : EventType) (added removed : List GroupMember)

/-! ## Cloud calls in flight -/

/--
How far a call has come.

The plug-in goroutine executes the call; the goroutine of the controller then
picks up the error and decides under which operation to report it; the main
loop last receives the report.
-/
inductive Stage where
  | issued
  | executed (err : Option String)
  | answered (op : SecurityGroupOperation) (err : Option String)
deriving DecidableEq, Repr

/--
A call that the main loop has not heard back from.

`op` is the operation the response is reported under; it is none for the
member updates of `updateImpl`, which decide it when the answer arrives.
-/
structure Message where
  sg : Ref
  call : CloudCall
  op : Option SecurityGroupOperation
  stage : Stage
deriving DecidableEq, Repr

/-! ## The reconciler -/

/-- The fields of the reconciler. -/
structure Core where
  objects : Ref → SecurityGroup
  nextRef : Ref
  addrSGIndexer : GoMap String Ref
  appliedToSGIndexer : GoMap String Ref
  networkPolicyIndexer : GoMap String NetworkPolicy
  cloudResourceNPTrackerIndexer : GoMap String CloudResourceNPTracker
  virtualMachinePolicyIndexer : GoMap String (GoMap String String)
  pendingDeleteGroups : PendingItemQueue PendingItem
  retryQueue : PendingItemQueue PendingItem
  inFlight : List Message
  syncedWithCloud : Bool
  bookmarkCnt : Nat
  /-- A type assertion or a nil dereference has failed. -/
  panicked : Bool
  /-- The environment of the event being processed. -/
  env : Env
  /-- The iteration orders still to be used by the event being processed. -/
  order : Supply

/-- What the controller does that can be seen from outside. -/
inductive Action where
  | call (sg : Ref) (call : CloudCall)
  | runPendingItem (sg : Ref) (retryOp : Option SecurityGroupOperation)
  | getSecurityGroupSyncChan
deriving DecidableEq

/-- An action and the state in which it was taken. -/
structure Observation where
  action : Action
  before : Core

/-- The reconciler with the record of its actions, the latest first. -/
structure Reconciler extends Core where
  observed : List Observation

/-- `operationCount`. -/
def operationCount : Int := 15

/-- `npSyncReadyBookMarkCnt`. -/
def npSyncReadyBookMarkCnt : Nat := 3

/-- An API server and a cloud that hold nothing. -/
def Env.empty : Env where
  getExternalEntity _ := .error .notFound
  getVirtualMachine _ := .error .notFound
  listByCloudID _ := .ok []
  listByCloudName _ := .ok []
  syncContents := []

/-- The state after `SetupWithManager`. -/
def Reconciler.setup : Reconciler where
  objects _ := default
  nextRef := 0
  addrSGIndexer := ∅
  appliedToSGIndexer := ∅
  networkPolicyIndexer := ∅
  cloudResourceNPTrackerIndexer := ∅
  virtualMachinePolicyIndexer := ∅
  pendingDeleteGroups := .new none
  retryQueue := .new (some operationCount)
  inFlight := []
  syncedWithCloud := false
  bookmarkCnt := 0
  panicked := false
  env := .empty
  order _ := 0
  observed := []

namespace Core

/-- The indexer of one kind of group. -/
def indexer (core : Core) (membershipOnly : Bool) : GoMap String Ref :=
  if membershipOnly then core.addrSGIndexer else core.appliedToSGIndexer

/-- `ByIndex(addrAppliedToIndexerByGroupID, name)`, in some order. -/
def groupsByName (core : Core) (membershipOnly : Bool) (name : String) : List Ref :=
  (core.indexer membershipOnly).values.filter fun ref =>
    (core.objects ref).id.name == name

/-- `networkPolicyIndexer.ByIndex(networkPolicyIndexerByAddrGrp, name)`. -/
def policiesByAddrGrp (core : Core) (name : String) : List (String × NetworkPolicy) :=
  core.networkPolicyIndexer.bindings.filter fun entry =>
    entry.2.addressGroups.contains name

/-- `networkPolicyIndexer.ByIndex(networkPolicyIndexerByAppliedToGrp, name)`. -/
def policiesByAppliedToGrp (core : Core) (name : String) :
    List (String × NetworkPolicy) :=
  core.networkPolicyIndexer.bindings.filter fun entry =>
    entry.2.appliedToGroups.contains name

/-- The policies that refer to the group of an object. -/
def policiesOf (core : Core) (group : SecurityGroup) : List (String × NetworkPolicy) :=
  if group.membershipOnly then core.policiesByAddrGrp group.id.name
  else core.policiesByAppliedToGrp group.id.name

end Core

namespace Reconciler

/-! ## Elementary updates -/

/-- Assign to fields of the object behind a reference. -/
def assign (ref : Ref) (change : SecurityGroup → SecurityGroup)
    (r : Reconciler) : Reconciler :=
  { r with objects := Function.update r.objects ref (change (r.objects ref)) }

/-- Allocate an object; its reference is the old `nextRef`. -/
def allocate (group : SecurityGroup) (r : Reconciler) : Reconciler :=
  { r with
    objects := Function.update r.objects r.nextRef group
    nextRef := r.nextRef + 1 }

/-- `indexer.Add`. -/
def indexerAdd (ref : Ref) (r : Reconciler) : Reconciler :=
  let group := r.objects ref
  { r with
    addrSGIndexer :=
      if group.membershipOnly then r.addrSGIndexer.set group.id.string ref
      else r.addrSGIndexer
    appliedToSGIndexer :=
      if group.membershipOnly then r.appliedToSGIndexer
      else r.appliedToSGIndexer.set group.id.string ref }

/-- `indexer.Delete`. -/
def indexerDelete (ref : Ref) (r : Reconciler) : Reconciler :=
  let group := r.objects ref
  { r with
    addrSGIndexer :=
      if group.membershipOnly then r.addrSGIndexer.remove group.id.string
      else r.addrSGIndexer
    appliedToSGIndexer :=
      if group.membershipOnly then r.appliedToSGIndexer
      else r.appliedToSGIndexer.remove group.id.string }

/-- `networkPolicyIndexer.Add` of a new or changed policy. -/
def setPolicy (key : String) (policy : NetworkPolicy) (r : Reconciler) : Reconciler :=
  { r with networkPolicyIndexer := r.networkPolicyIndexer.set key policy }

/-- Record an action of the controller. -/
def observe (action : Action) (r : Reconciler) : Reconciler :=
  { r with observed := ⟨action, r.toCore⟩ :: r.observed }

/-- Call the plug-in and start the goroutine that waits for the answer. -/
def issue (sg : Ref) (call : CloudCall) (op : Option SecurityGroupOperation)
    (r : Reconciler) : Reconciler :=
  { r.observe (.call sg call) with
    inFlight := r.inFlight ++ [⟨sg, call, op, .issued⟩] }

def panic (r : Reconciler) : Reconciler :=
  { r with panicked := true }

/-- Discard the iteration orders that have been used. -/
def advance (r : Reconciler) : Reconciler :=
  { r with order := r.order.tail }

/-- Hand half of the iteration orders to a pure function. -/
def split (r : Reconciler) : Reconciler :=
  { r with order := r.order.right }

/-- Range over a map, an index or the result of a map: the order is not fixed. -/
def forRange {α : Type} (list : List α) (body : α → Reconciler → Reconciler)
    (r : Reconciler) : Reconciler :=
  (arrange (r.order 0) list).foldl (fun r element => body element r) r.advance

/-- Range over a slice. -/
def forEach {α : Type} (list : List α) (body : α → Reconciler → Reconciler)
    (r : Reconciler) : Reconciler :=
  list.foldl (fun r element => body element r) r

end Reconciler

end Nephe
