import Nephe.Controller.Groups

/-!
# Network policies

`networkPolicyRule` and `networkPolicy` of `networkpolicy.go`.
-/

namespace Nephe

open Library

/-- `AntreaProtocolMap`. -/
def antreaProtocolMap : Protocol → Option Nat
  | .tcp => some 6
  | .udp => some 17
  | .sctp => some 132
  | .other _ => none

/-! ## Rules of one policy rule -/

/--
The loop over the address groups of a peer: the blocks and the group ids they
contribute, or none when a group is unknown.
-/
def addressGroupPeers (core : Core) (supply : Supply) :
    List String → Option (List IPNet × List CloudResourceID)
  | [] => some ([], [])
  | ag :: rest =>
    let sgs := arrange (supply 0) (core.groupsByName true ag)
    if sgs = [] then none
    else
      (addressGroupPeers core supply.tail rest).map fun peers =>
        (sgs.flatMap (fun sg => (core.objects sg).ipBlocks) ++ peers.1,
          ((sgs.map fun sg => (core.objects sg).id).filter fun id => id.vpc ≠ "") ++
            peers.2)

/-- The copy of a rule for one service. -/
def Rule.forService (rule : Rule) (service : Service) : Rule :=
  { rule with
    protocol :=
      match service.protocol.bind antreaProtocolMap with
      | some number => some number
      | none => rule.protocol
    port := (service.port.map IntOrString.intVal).orElse fun _ => rule.port }

/-- The rules of one peer, or none when they are not ready. -/
def peerRules (core : Core) (supply : Supply)
    (peer : NetworkPolicyPeer) (services : Option (List Service)) : Option (List Rule) :=
  (addressGroupPeers core supply peer.addressGroups).map fun peers =>
    let rule : Rule :=
      { port := none
        ips := peer.ipBlocks.map IPBlock.cidr ++ peers.1
        securityGroups := peers.2
        protocol := none }
    if rule.securityGroups = [] ∧ rule.ips = [] then []
    else
      match services with
      | none => [rule]
      | some services => services.map rule.forService

/-- `networkPolicyRule.rules`: ingress and egress rules, or none if not ready. -/
def NetworkPolicyRule.cloudRules (core : Core) (supply : Supply)
    (rule : NetworkPolicyRule) : Option (List IngressRule × List EgressRule) :=
  match rule.direction with
  | .in =>
    (peerRules core supply rule.fromPeer rule.services).map fun rules => (rules, [])
  | .out =>
    (peerRules core supply rule.toPeer rule.services).map fun rules => ([], rules)

/-! ## Computing the rules of a policy -/

namespace NetworkPolicy

/-- A policy as it arrives, with no rules computed yet. -/
def ofAntrea (anp : AntreaNetworkPolicy) : NetworkPolicy where
  name := anp.name
  «namespace» := anp.namespace
  rules := anp.rules
  appliedToGroups := anp.appliedToGroups

/-- The loop of `computeRules`. -/
def collectRules (core : Core) (supply : Supply) :
    List NetworkPolicyRule → Option (List IngressRule × List EgressRule)
  | [] => some ([], [])
  | rule :: rest =>
    match rule.cloudRules core supply.left,
      collectRules core supply.right rest with
    | some first, some others => some (first.1 ++ others.1, first.2 ++ others.2)
    | _, _ => none

/--
The loops of `computeRulesReady`: none when they run to the end, otherwise the
error (possibly nil) with which the function returns early.
-/
def rulesNotReady (policy : NetworkPolicy) (core : Core) (withStatus : Bool)
    (supply : Supply) : Option (Option String) :=
  (arrange (supply 0) policy.addressGroups.dedup).zipIdx.findSome? fun (name, position) =>
    let sgs := arrange (supply (position + 1)) (core.groupsByName true name)
    if sgs = [] then some (some "internal error")
    else
      sgs.findSome? fun ref =>
        let sg := core.objects ref
        match if withStatus then sg.getStatus else none with
        | some status => some (some (sg.id.string ++ "=" ++ status.error))
        | none => if sg.isReady then none else some none

/-- `computeRulesReady`: the policy afterwards and the returned error. -/
def computeRulesReady (policy : NetworkPolicy) (core : Core) (withStatus : Bool)
    (supply : Supply) : NetworkPolicy × Option String :=
  if withStatus || !policy.rulesReady then
    match policy.rulesNotReady core withStatus supply with
    | some err => (policy, err)
    | none => ({ policy with rulesReady := true }, none)
  else (policy, none)

/-- `computeRules`; the result is the `rulesReady` of the new policy. -/
def computeRules (policy : NetworkPolicy) (core : Core) (supply : Supply) :
    NetworkPolicy :=
  let policy := { policy with ingressRules := [], egressRules := [], rulesReady := false }
  match collectRules core supply.left policy.rules with
  | none => policy
  | some rules =>
    ({ policy with ingressRules := rules.1, egressRules := rules.2 }.computeRulesReady
      core false supply.right).1

/-- `getStatus`: the policy afterwards and the status. -/
def getStatus (policy : NetworkPolicy) (core : Core) (supply : Supply) :
    NetworkPolicy × Option String :=
  if policy.ingressRules = [] ∧ policy.egressRules = [] then
    (policy, some Status.inProgress.error)
  else policy.computeRulesReady core true supply

end NetworkPolicy

namespace Reconciler

/-! ## Events of a policy -/

/-- `networkPolicy.markDirty`. -/
def markPolicyDirty (appliedToGroups : List String) (r : Reconciler) : Reconciler :=
  r.forEach appliedToGroups fun name r =>
    r.forRange (r.groupsByName false name) fun sg r => r.markGroupDirty sg

/-- Notify the groups of one kind with the given names of a policy change. -/
def notifyGroups (membershipOnly : Bool) (names : List String) (r : Reconciler) :
    Reconciler :=
  r.forEach names fun name r =>
    r.forRange (r.groupsByName membershipOnly name) fun sg r =>
      r.notifyNetworkPolicyChange sg

/-- `computeRules` on the indexed policy. -/
def computePolicyRules (key : String) (policy : NetworkPolicy) (r : Reconciler) :
    Reconciler :=
  r.split.setPolicy key (policy.computeRules r.toCore r.order.left)

/-- `networkPolicy.update(nil, true, r)`. -/
def recomputePolicy (key : String) (r : Reconciler) : Reconciler :=
  match r.networkPolicyIndexer.get? key with
  | none => r
  | some policy =>
    let r := r.computePolicyRules key policy
    match r.networkPolicyIndexer.get? key with
    | none => r
    | some policy =>
      if policy.rulesReady then r.notifyGroups false policy.appliedToGroups else r

/--
The first half of `networkPolicy.update(anp, false, r)`: the rules.  The
results are the removed address groups and the modified appliedTo groups.
-/
def updatePolicyRules (key : String) (anp : AntreaNetworkPolicy)
    (policy : NetworkPolicy) (r : Reconciler) :
    List String × List String × NetworkPolicy × Reconciler :=
  if anp.rules = policy.rules then ([], [], policy, r)
  else
    let removedAddr := (diffAddressGrp (r.order 0) policy.rules anp.rules).2
    let r := r.advance
    let policy :=
      { policy with rules := anp.rules }.computeRules r.toCore r.order.left
    (removedAddr, if policy.rulesReady then policy.appliedToGroups else [], policy,
      r.split.setPolicy key policy)

/-- The second half of `networkPolicy.update(anp, false, r)`: the appliedTo groups. -/
def updatePolicyAppliedTo (key : String) (anp : AntreaNetworkPolicy)
    (policy : NetworkPolicy) (r : Reconciler) :
    List String × List String × NetworkPolicy × Reconciler :=
  if anp.appliedToGroups = policy.appliedToGroups then ([], [], policy, r)
  else
    let diff := diffAppliedToGrp (r.order 0) policy.appliedToGroups anp.appliedToGroups
    let policy := { policy with appliedToGroups := anp.appliedToGroups }
    (diff.1, diff.2, policy, r.advance.setPolicy key policy)

/-- `networkPolicy.update(anp, false, r)`. -/
def updatePolicy (key : String) (anp : AntreaNetworkPolicy) (policy : NetworkPolicy)
    (r : Reconciler) : Reconciler :=
  let r := r.markPolicyDirty policy.appliedToGroups
  let (removedAddr, modifiedAppliedTo, policy, r) := r.updatePolicyRules key anp policy
  let (addedAppliedTo, removedAppliedTo, policy, r) :=
    r.updatePolicyAppliedTo key anp policy
  let r := r.notifyGroups true removedAddr
  let r := r.notifyGroups false (modifiedAppliedTo ++ removedAppliedTo ++ addedAppliedTo)
  -- The deferred call marks the groups added.
  r.markPolicyDirty policy.appliedToGroups

/-- `networkPolicy.delete`. -/
def deletePolicy (key : String) (policy : NetworkPolicy) (r : Reconciler) : Reconciler :=
  let r := r.markPolicyDirty policy.appliedToGroups
  let r := { r with networkPolicyIndexer := r.networkPolicyIndexer.remove key }
  (r.notifyGroups false policy.appliedToGroups).notifyGroups true policy.addressGroups

/-- `networkPolicy.notifyAddrGrpChanges`. -/
def notifyAddrGrpChanges (key : String) (r : Reconciler) : Reconciler :=
  match r.networkPolicyIndexer.get? key with
  | none => r
  | some policy =>
    if policy.rulesReady then r
    else
      let policy := (policy.computeRulesReady r.toCore false r.order.left).1
      let r := r.split.setPolicy key policy
      if policy.rulesReady then
        r.forEach policy.appliedToGroups fun name r =>
          r.forRange (r.groupsByName false name) fun sg r => r.updateRules sg
      else r

/-- `isNetworkPolicySupported`. -/
def isNetworkPolicySupported (anp : AntreaNetworkPolicy) : Bool :=
  match anp.sourceRef with
  | none => false
  | some sourceRef =>
    sourceRef.type == .antreaNetworkPolicy &&
      anp.rules.all fun rule => rule.action.all (· == .allow)

/-- A policy without a namespace takes the name of its source. -/
def recoverName (anp : AntreaNetworkPolicy) : AntreaNetworkPolicy :=
  if anp.namespace = "" then
    match anp.sourceRef with
    | some sourceRef =>
      { anp with name := sourceRef.name, «namespace» := sourceRef.namespace }
    | none => anp
  else anp

/--
`processNetworkPolicy` for an event that is not a bookmark.  The plug-in is
always registered.
-/
def processPolicyEvent (type : EventType) (anp : AntreaNetworkPolicy) (r : Reconciler) :
    Reconciler :=
  if !isNetworkPolicySupported anp then r
  else
    let anp := recoverName anp
    let key := (NamespacedName.mk anp.namespace anp.name).string
    match r.networkPolicyIndexer.get? key with
    | none =>
      let policy := NetworkPolicy.ofAntrea anp
      let r := r.setPolicy key policy
      if type = .deleted then r.deletePolicy key policy else r.recomputePolicy key
    | some policy =>
      if type = .deleted then r.deletePolicy key policy
      else if anp.rules = policy.rules ∧ anp.appliedToGroups = policy.appliedToGroups then r
      else r.updatePolicy key anp policy

end Reconciler

end Nephe
