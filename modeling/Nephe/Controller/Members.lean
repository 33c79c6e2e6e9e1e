import Nephe.Controller.Sync

/-!
# Address group and appliedTo group events

`vpcsFromGroupMembers` and `processMemberGrp`.
-/

namespace Nephe

open Library

/-! ## From group members to cloud resources -/

/-- The three results of `vpcsFromGroupMembers`. -/
structure GroupResources where
  vpcs : GoMap String (List CloudResource) := ∅
  ipBlocks : List IPNet := []
  notFoundMember : List String := []

/-- `getOwnerAnnotations`; none stands for an error. -/
def getOwnerAnnotations (env : Env) (e : ExternalEntity) : Option VirtualMachine :=
  match e.owner with
  | none => none
  | some (kind, name) =>
    if kind = "VirtualMachine" then
      match env.getVirtualMachine ⟨e.namespace, name⟩ with
      | .ok vm => some vm
      | .error _ => none
    else none

/-- `GetExternalEntityLabelKind(&cloud.VirtualMachine{})`. -/
def virtualMachineLabelKind : String := "virtualmachine"

/-- An entity that exists: a member of its VPC, or a list of addresses. -/
def GroupResources.addEntity (env : Env) (resources : GroupResources)
    (e : ExternalEntity) : GroupResources :=
  match e.kindLabel with
  | none => resources
  | some kind =>
    if kind = virtualMachineLabelKind then
      match getOwnerAnnotations env e with
      | none => resources
      | some annotations =>
        match annotations.cloudAssignedVPCID with
        | none => resources
        | some vpc =>
          -- Without the id annotation the resource keeps an empty name.
          let rsc : CloudResource :=
            ⟨.virtualMachine, ⟨annotations.cloudAssignedID.getD "", vpc⟩⟩
          { resources with
            vpcs := resources.vpcs.set vpc
              ((resources.vpcs.get? vpc).getD [] ++ [rsc]) }
    else { resources with ipBlocks := resources.ipBlocks ++ e.endpoints }

/--
`vpcsFromGroupMembers`.

`fedExternalEntityIPs` is never filled, so an entity that is not found is
always a missing member.
-/
def vpcsFromGroupMembers (env : Env) :
    List GroupMember → GroupResources → Except GetError GroupResources
  | [], resources => .ok resources
  | m :: rest, resources =>
    match m.externalEntity with
    | none => vpcsFromGroupMembers env rest resources
    | some key =>
      match env.getExternalEntity key with
      | .error .notFound =>
        vpcsFromGroupMembers env rest
          { resources with
            notFoundMember := resources.notFoundMember ++ [key.name] }
      | .error .other => .error .other
      | .ok e => vpcsFromGroupMembers env rest (resources.addEntity env e)

namespace Reconciler

/-! ## Applying a group event -/

/-- What the loops of `processMemberGrp` carry along. -/
structure MemberLoop where
  removedMembers : GoMap String (List CloudResource)
  sgChanges : Bool
  r : Reconciler

/-- The body of the loop over `addedMembers`. -/
def addMembersOfVpc (name : String) (isAddrGrp : Bool) (loop : MemberLoop)
    (entry : String × List CloudResource) : MemberLoop :=
  let (vpc, members) := entry
  let key : CloudResourceID := ⟨name, vpc⟩
  let r := loop.r
  match (r.indexer isAddrGrp).get? key.string with
  | some sg =>
    if compareCloudResources members (r.objects sg).members then loop
    else
      { loop with
        removedMembers := loop.removedMembers.remove vpc
        r := r.update sg members ((loop.removedMembers.get? vpc).getD []) }
  | none =>
    let sg := r.nextRef
    { loop with
      sgChanges := true
      r := (r.allocate { membershipOnly := isAddrGrp, id := key, members }).add sg }

/-- The body of the loop over `removedMembers`. -/
def removeMembersOfVpc (name : String) (isAddrGrp : Bool)
    (entry : String × List CloudResource) (r : Reconciler) : Reconciler :=
  let key : CloudResourceID := ⟨name, entry.1⟩
  match (r.indexer isAddrGrp).get? key.string with
  | some sg => r.update sg [] entry.2
  | none => r

/-- A new address group that holds addresses only. -/
def addIPBlocks (name : String) (ipBlocks : List IPNet) (r : Reconciler) : Reconciler :=
  let sg := r.nextRef
  (r.allocate { membershipOnly := true, id := ⟨name, ""⟩, ipBlocks }).add sg

/-- The addresses of an event: they go to the object without a VPC. -/
def updateMemberIPs (name : String) (eventType : EventType) (isAddrGrp : Bool)
    (addedIPs removedIPs : List IPNet) (loop : MemberLoop) : MemberLoop :=
  if isAddrGrp ∧ (addedIPs ≠ [] ∨ removedIPs ≠ []) then
    let r := loop.r
    { loop with
      sgChanges := true
      r :=
        match r.addrSGIndexer.get? (CloudResourceID.mk name "").string with
        | some sg => r.updateIPs sg addedIPs removedIPs
        | none => if eventType = .added then r.addIPBlocks name addedIPs else r }
  else loop

/-- An empty address group is represented by an object without addresses. -/
def addEmptyGroup (name : String) (eventType : EventType) (isAddrGrp : Bool)
    (added removed : List GroupMember) (addedIPs : List IPNet) (loop : MemberLoop) :
    MemberLoop :=
  if eventType = .added ∧ added = [] ∧ removed = [] ∧ isAddrGrp then
    match loop.r.addrSGIndexer.get? (CloudResourceID.mk name "").string with
    | some _ => { loop with sgChanges := false }
    | none => { loop with sgChanges := true, r := loop.r.addIPBlocks name addedIPs }
  else loop

/-- Let the policies that refer to a changed address group recompute their rules. -/
def recomputePolicies (name : String) (r : Reconciler) : Reconciler :=
  r.forRange ((r.policiesByAddrGrp name).map (·.1)) recomputePolicy

/-- `processMemberGrp` after the members have been resolved. -/
def applyMemberGrp (name : String) (eventType : EventType) (isAddrGrp : Bool)
    (added removed : List GroupMember) (addedResources removedResources : GroupResources)
    (r : Reconciler) : Reconciler :=
  let loop : MemberLoop :=
    { removedMembers := removedResources.vpcs, sgChanges := false, r := r.advance }
  let loop :=
    (arrange (r.order 0) addedResources.vpcs.bindings).foldl
      (addMembersOfVpc name isAddrGrp) loop
  let loop :=
    { loop with
      r := loop.r.forRange loop.removedMembers.bindings (removeMembersOfVpc name isAddrGrp) }
  let loop :=
    updateMemberIPs name eventType isAddrGrp addedResources.ipBlocks
      removedResources.ipBlocks loop
  let loop :=
    addEmptyGroup name eventType isAddrGrp added removed addedResources.ipBlocks loop
  if loop.sgChanges && isAddrGrp then loop.r.recomputePolicies name else loop.r

/-- Drop the members whose entities are gone, from the groups of both kinds. -/
def removeStale (name : String) (notFoundMember : List String) (r : Reconciler) :
    Reconciler :=
  if notFoundMember = [] then r
  else
    let r :=
      r.forRange (r.groupsByName true name) fun sg r =>
        r.removeStaleMembers sg notFoundMember
    r.forRange (r.groupsByName false name) fun sg r =>
      r.removeStaleMembers sg notFoundMember

/--
`processMemberGrp` between the check for a pending deletion and the deferred
function; the flag says whether it returns an error.
-/
def processMembers (name : String) (eventType : EventType) (isAddrGrp : Bool)
    (added removed : List GroupMember) (r : Reconciler) : Bool × Reconciler :=
  match eventType with
  | .added =>
    match vpcsFromGroupMembers r.env added {} with
    | .error _ => (true, r)
    | .ok addedResources =>
      if addedResources.notFoundMember ≠ [] then (true, r)
      else
        (false,
          r.applyMemberGrp name eventType isAddrGrp added removed addedResources {})
  | .modified =>
    match vpcsFromGroupMembers r.env added {} with
    | .error _ => (true, r)
    | .ok addedResources =>
      if addedResources.notFoundMember ≠ [] then (true, r)
      else
        match vpcsFromGroupMembers r.env removed {} with
        | .error _ => (true, r)
        | .ok removedResources =>
          let r := r.removeStale name removedResources.notFoundMember
          (false,
            r.applyMemberGrp name eventType isAddrGrp added removed
              addedResources removedResources)
  | .deleted =>
    (false, r.forRange (r.groupsByName isAddrGrp name) fun sg r => r.delete sg)
  | .bookmark => (false, r)
  | .error => (false, r)

/-- The deferred function of `processMemberGrp`. -/
def retryMemberGrp (name : String) (eventType : EventType) (isAddrGrp failed : Bool)
    (added removed : List GroupMember) (r : Reconciler) : Reconciler :=
  let uName := getGroupUniqueName name isAddrGrp
  let r :=
    if failed ∧ (eventType = .added ∨ eventType = .modified) then
      { r with retryQueue := r.retryQueue.add uName (.pendingGroup {}) }.retryQueueUpdate
        uName (.event eventType added removed)
    else r
  if eventType = .deleted then { r with retryQueue := r.retryQueue.remove uName } else r

/--
`processMemberGrp` for an event that is not a bookmark; the flag says whether
it returns an error.
-/
def processMemberGrp (name : String) (eventType : EventType) (isAddrGrp : Bool)
    (added removed : List GroupMember) (r : Reconciler) : Bool × Reconciler :=
  let uName := getGroupUniqueName name isAddrGrp
  let (failed, r) :=
    if r.pendingDeleteGroups.has uName then
      (false, r.pendingDeleteGroupsUpdate uName (.event eventType added removed))
    else r.processMembers name eventType isAddrGrp added removed
  (failed, r.retryMemberGrp name eventType isAddrGrp failed added removed)

/-- `processAddrGrp` and `processAppliedToGrp`; a bookmark starts the first sync. -/
def processGrpEvent (eventType : EventType) (object : GroupObject) (isAddrGrp : Bool)
    (r : Reconciler) : Reconciler :=
  match object with
  | .complete name groupMembers =>
    if eventType = .modified then r
    else if eventType = .bookmark then r.processBookMark
    else
      (r.processMemberGrp name eventType isAddrGrp
        (if eventType = .added then groupMembers else []) []).2
  | .patch name added removed =>
    if eventType = .modified then
      (r.processMemberGrp name eventType isAddrGrp added removed).2
    else r

/-- `processAddrGrp`. -/
def processAddrGrp (eventType : EventType) (object : GroupObject) (r : Reconciler) :
    Reconciler :=
  r.processGrpEvent eventType object true

/-- `processAppliedToGrp`. -/
def processAppliedToGrp (eventType : EventType) (object : GroupObject) (r : Reconciler) :
    Reconciler :=
  r.processGrpEvent eventType object false

/-- `processNetworkPolicy`. -/
def processNetworkPolicy (eventType : EventType) (anp : AntreaNetworkPolicy)
    (r : Reconciler) : Reconciler :=
  if eventType = .bookmark then r.processBookMark else r.processPolicyEvent eventType anp

end Reconciler

end Nephe
