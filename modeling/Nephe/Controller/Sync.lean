import Nephe.Controller.Policies
import Nephe.SecurityGroup.Cidr

/-!
# Synchronization with the cloud

`networkpolicy_sync.go`.
-/

namespace Nephe

open Library

/-- `getNICsOfCloudResources`; its only caller ignores the error. -/
def getNICsOfCloudResources (env : Env) (resources : List CloudResource) :
    List CloudResource :=
  match resources with
  | [] => []
  | first :: _ =>
    if first.type = .networkInterface then resources
    else
      let nicsOf (rsc : CloudResource) : Except GetError (List CloudResource) :=
        (env.listByCloudName rsc.name.name).map fun vms =>
          vms.flatten.map fun nic => ⟨.networkInterface, ⟨nic, rsc.name.vpc⟩⟩
      match resources.mapM nicsOf with
      | .ok nics => nics.flatten
      | .error _ => resources

/-! ## Comparing rules -/

/-- The text that stands for the port of a rule, if the rule has one. -/
def Rule.portItem (rule : Rule) : List String :=
  let proto := rule.protocol.getD 0
  let port := rule.port.getD 0
  if 0 < proto ∨ 0 < port then
    ["protocol=" ++ toString proto ++ ",port=" ++ toString port]
  else []

/-- The items by which one rule is counted. -/
def Rule.items (rule : Rule) : List String :=
  rule.portItem ++ rule.ips.map IPNet.string ++
    rule.securityGroups.map CloudResourceID.string

/-- What a policy adds to the counts. -/
def NetworkPolicy.items (policy : NetworkPolicy) : List String :=
  (policy.ingressRules ++ policy.egressRules).flatMap Rule.items

/-- What the cloud subtracts from the counts. -/
def SynchronizationContent.items (content : SynchronizationContent) : List String :=
  (content.ingressRules ++ content.egressRules).flatMap Rule.items

namespace Reconciler

/-! ## One group -/

/-- `syncImpl`: a group that the cloud reports exists. -/
def noteReported (csg : Ref) (c : Option SynchronizationContent) (r : Reconciler) :
    Reconciler :=
  if c.isSome then r.assign csg fun s => { s with state := .created } else r

/-- `syncImpl`: the memberships in the controller and in the cloud agree. -/
def sameMembership (env : Env) (c : Option SynchronizationContent)
    (members : List CloudResource) : Bool :=
  match c with
  | some c =>
    let nMembers :=
      match c.members with
      | ⟨.networkInterface, _⟩ :: _ => getNICsOfCloudResources env members
      | _ => members
    compareCloudResources nMembers c.members
  | none => members.length == 0

/-- `syncImpl`: the state afterwards and whether the memberships agree. -/
def syncImpl (csg : Ref) (c : Option SynchronizationContent) (r : Reconciler) :
    Bool × Reconciler :=
  let r := r.noteReported csg c
  let s := r.objects csg
  if sameMembership r.env c s.members then (true, r)
  else
    match s.state with
    | .created => (false, r.updateImpl csg [] [])
    | .init => (false, r.addImpl csg)
    | .garbageCollectState => (false, r)

/--
The loop over the policies of an appliedTo group: recompute the rules of each
policy and count them, or stop at the first policy that is not ready.
-/
def syncPolicies (keys : List String) (items : GoMap String Int) (r : Reconciler) :
    Option (GoMap String Int) × Reconciler :=
  match keys with
  | [] => (some items, r)
  | key :: rest =>
    match r.networkPolicyIndexer.get? key with
    | none => r.syncPolicies rest items
    | some policy =>
      let policy := policy.computeRules r.toCore r.order.left
      let r := r.split.setPolicy key policy
      if policy.rulesReady then r.syncPolicies rest (countUp items policy.items)
      else (none, r)

/-- The loop over the policies of an appliedTo group, in the order in which they are found. -/
def recount (a : Ref) (r : Reconciler) : Option (GoMap String Int) × Reconciler :=
  r.advance.syncPolicies
    (arrange (r.order 0) ((r.policiesByAppliedToGrp (r.objects a).id.name).map (·.1))) ∅

/-- The part of `appliedToSecurityGroup.sync` that compares members. -/
def syncMembers (a : Ref) (c : Option SynchronizationContent) (r : Reconciler) : Reconciler :=
  let (same, r) := r.syncImpl a c
  if same && (r.objects a).members.length > 0 then
    r.assign a fun s => { s with hasMembers := true }
  else r

/--
The part of `appliedToSecurityGroup.sync` that compares rules.

`update` stands for `updateRules`; whether it is called shows when it is exchanged.
-/
def syncRules (update : Ref → Reconciler → Reconciler) (a : Ref)
    (c : Option SynchronizationContent) (r : Reconciler) : Reconciler :=
  let nps := r.policiesByAppliedToGrp (r.objects a).id.name
  match r.recount a with
  | (none, r) => r
  | (some items, r) =>
    match c with
    | none => update a r
    | some c =>
      let items := countDown items c.items
      if items.values.any (· ≠ 0) then update a r
      else if nps ≠ [] then
        let r := if (r.objects a).hasRules then r else r.markGroupDirty a
        r.assign a fun s => { s with hasRules := true }
      else r

/-- `sync` of both kinds of group, with `update` for `updateRules`. -/
def syncWith (update : Ref → Reconciler → Reconciler) (sg : Ref)
    (c : Option SynchronizationContent) (r : Reconciler) : Reconciler :=
  let s := r.objects sg
  if s.deletePending then r
  else if s.membershipOnly then (r.syncImpl sg c).2
  else (r.syncMembers sg c).syncRules update sg c

/-- `sync` of both kinds of group. -/
def sync (sg : Ref) (c : Option SynchronizationContent) (r : Reconciler) : Reconciler :=
  r.syncWith updateRules sg c

/-! ## All groups -/

/-- A group that the cloud has and the controller does not know. -/
def deleteUnknown (content : SynchronizationContent) (r : Reconciler) : Reconciler :=
  let sg := r.nextRef
  (r.allocate
    { membershipOnly := content.membershipOnly
      id := content.resource
      state := .created }).delete sg

/-- The first loop of `syncWithCloud`: remove unknown groups, keep the others. -/
def receiveContents (contents : List SynchronizationContent) (r : Reconciler) :
    List SynchronizationContent × Reconciler :=
  contents.foldl
    (fun (state : List SynchronizationContent × Reconciler) content =>
      let (known, r) := state
      if ((r.indexer content.membershipOnly).get? content.resource.string).isSome then
        (known ++ [content], r)
      else (known, r.deleteUnknown content))
    ([], r)

/-- The content stored for an id: the last one received. -/
def contentFor (contents : List SynchronizationContent) (membershipOnly : Bool)
    (id : CloudResourceID) : Option SynchronizationContent :=
  contents.reverse.find? fun content =>
    content.membershipOnly == membershipOnly && content.resource == id

/-- The resources reported with a foreign security group. -/
def resourcesWithUnknownSGs (contents : List SynchronizationContent) :
    List CloudResource :=
  ((contents.filter fun content => !content.membershipOnly).flatMap
    fun content => content.membersWithOtherSGAttached).dedup

/-- Make the plug-in rewrite the groups of a resource by updating one of them. -/
def rewriteResource (rsc : CloudResource) (r : Reconciler) : Reconciler :=
  match r.cloudResourceNPTrackerIndexer.get? rsc.string with
  | none => r
  | some tracker =>
    match arrange (r.order 0) tracker.appliedToSGs.values with
    | [] => r.advance
    | sg :: _ => r.advance.update sg [] []

/-- The loop of `syncWithCloud` over `addrSGIndexer`. -/
def syncAddrSGs (contents : List SynchronizationContent) (r : Reconciler) : Reconciler :=
  r.forRange r.addrSGIndexer.values fun sg r =>
    if (r.objects sg).isIPBlocks then r
    else r.sync sg (contentFor contents true (r.objects sg).id)

/-- The loop of `syncWithCloud` over `appliedToSGIndexer`. -/
def syncAppliedToSGs (contents : List SynchronizationContent) (r : Reconciler) :
    Reconciler :=
  r.forRange r.appliedToSGIndexer.values fun sg r =>
    r.sync sg (contentFor contents false (r.objects sg).id)

/-- `syncWithCloud` behind its guard. -/
def syncGroups (r : Reconciler) : Reconciler :=
  let r := r.observe .getSecurityGroupSyncChan
  let (contents, r) := r.receiveContents r.env.syncContents
  let r := { r with syncedWithCloud := true }
  ((r.syncAddrSGs contents).syncAppliedToSGs contents).forRange
    (resourcesWithUnknownSGs contents) rewriteResource

/-- `syncWithCloud`. -/
def syncWithCloud (r : Reconciler) : Reconciler :=
  if r.bookmarkCnt < npSyncReadyBookMarkCnt then r else r.syncGroups

/-- `processBookMark` for a bookmark. -/
def processBookMark (r : Reconciler) : Reconciler :=
  if r.syncedWithCloud then r
  else { r with bookmarkCnt := r.bookmarkCnt + 1 }.syncWithCloud

end Reconciler

end Nephe
