import Nephe.Aws.Converters

/-!
# Replacing the rules of an AWS security group

`UpdateSecurityGroupRules` (`aws_security.go`) looks up the group itself and
the address groups its rules name in the VPC of the group and all its peers,
revokes the permissions the group has and authorizes new ones.

The groups that are found are kept by their names only.  Groups of one name in
several VPCs shadow each other: the one that EC2 lists last is used.
-/

namespace Nephe.Aws

open Library

/-! ## Requests -/

inductive Direction where
  | ingress
  | egress
deriving DecidableEq, Repr

/-- The permissions of a group in one direction. -/
def SecurityGroup.permissions (group : SecurityGroup) : Direction → List IpPermission
  | .ingress => group.ipPermissions
  | .egress => group.ipPermissionsEgress

/-- The group with other permissions in one direction. -/
def SecurityGroup.withPermissions (group : SecurityGroup) (direction : Direction)
    (permissions : List IpPermission) : SecurityGroup :=
  match direction with
  | .ingress => { group with ipPermissions := permissions }
  | .egress => { group with ipPermissionsEgress := permissions }

/-- The four requests that change the permissions of a group. -/
structure PermissionRequest where
  direction : Direction
  /-- Authorize the permissions, or revoke them. -/
  authorize : Bool
  groupId : String
  ipPermissions : List IpPermission
deriving DecidableEq, Repr

/-- What a request makes of the group it names. -/
def PermissionRequest.apply (request : PermissionRequest) (group : SecurityGroup) :
    SecurityGroup :=
  group.withPermissions request.direction
    (if request.authorize then group.permissions request.direction ++ request.ipPermissions
    else (group.permissions request.direction).filter (· ∉ request.ipPermissions))

/-- Change the permissions of one group. -/
def Directory.modify (directory : Directory) (groupId : String)
    (change : SecurityGroup → SecurityGroup)
    (same : ∀ group, (change group).groupId = group.groupId ∧
      (change group).groupName = group.groupName ∧ (change group).vpcId = group.vpcId) :
    Directory where
  groups := directory.groups.map fun group =>
    if group.groupId = groupId then change group else group
  ids := by
    rw [List.map_map]
    refine (congrArg List.Nodup (List.map_congr_left fun group _ => ?_)).mpr directory.ids
    simp only [Function.comp_apply]
    split
    · exact (same group).1
    · rfl
  names := by
    intro group member other member' vpc name
    obtain ⟨before, known, rfl⟩ := List.mem_map.mp member
    obtain ⟨before', known', rfl⟩ := List.mem_map.mp member'
    have kept (group : SecurityGroup) :
        (if group.groupId = groupId then change group else group).groupName = group.groupName ∧
          (if group.groupId = groupId then change group else group).vpcId = group.vpcId := by
      split
      · exact (same group).2
      · exact ⟨rfl, rfl⟩
    rw [(kept before).1, (kept before').1] at name
    rw [(kept before).2, (kept before').2] at vpc
    rw [directory.names before known before' known' vpc name]

/-- The security groups, and the requests that EC2 has carried out. -/
structure RulesState where
  directory : Directory
  requests : List PermissionRequest

/-- How EC2 answers the requests of one call: with an error, or not. -/
structure RulesAnswers where
  describeSecurityGroups : Option String
  change : PermissionRequest → Option String

theorem PermissionRequest.apply_same (request : PermissionRequest) (group : SecurityGroup) :
    (request.apply group).groupId = group.groupId ∧
      (request.apply group).groupName = group.groupName ∧
      (request.apply group).vpcId = group.vpcId := by
  unfold PermissionRequest.apply SecurityGroup.withPermissions
  cases request.direction <;> exact ⟨rfl, rfl, rfl⟩

/-- Send a request; EC2 carries it out, or refuses it. -/
def RulesAnswers.send (answers : RulesAnswers) (request : PermissionRequest)
    (state : RulesState) : Option String × RulesState :=
  match answers.change request with
  | some error => (some error, state)
  | none =>
    (none, { directory := state.directory.modify request.groupId request.apply request.apply_same
             requests := state.requests ++ [request] })

/-! ## Realizing rules -/

/-- The first half of realizing rules: the permissions of the group are revoked. -/
def revokeOld (answers : RulesAnswers) (direction : Direction) (cloudSgObj : SecurityGroup)
    (state : RulesState) : Option String × RulesState :=
  if (cloudSgObj.permissions direction).isEmpty then (none, state)
  else answers.send ⟨direction, false, cloudSgObj.groupId, cloudSgObj.permissions direction⟩ state

/-- What `realizeIngressIPPermissions` and `realizeEgressIPPermissions` have in common. -/
def realizeIPPermissions (answers : RulesAnswers) (direction : Direction)
    (cloudSgObj : SecurityGroup) (rules : List Rule)
    (cloudSGNameToObj : GoMap String SecurityGroup) (state : RulesState) :
    Option String × RulesState :=
  match revokeOld answers direction cloudSgObj state with
  | (some error, state) => (some error, state)
  | (none, state) =>
    if rules.isEmpty then (none, state)
    else
      match rules.mapM (ipPermission cloudSGNameToObj) with
      | none => (some "invalid memory address or nil pointer dereference", state)
      | some ipPermissionsToAdd =>
        answers.send ⟨direction, true, cloudSgObj.groupId, ipPermissionsToAdd⟩ state

/-- `realizeIngressIPPermissions`. -/
def realizeIngressIPPermissions (answers : RulesAnswers) (cloudSgObj : SecurityGroup)
    (rules : List IngressRule) (cloudSGNameToObj : GoMap String SecurityGroup)
    (state : RulesState) : Option String × RulesState :=
  realizeIPPermissions answers .ingress cloudSgObj rules cloudSGNameToObj state

/-- `realizeEgressIPPermissions`. -/
def realizeEgressIPPermissions (answers : RulesAnswers) (group : SecurityGroup)
    (rules : List EgressRule) (cloudSGNameToObj : GoMap String SecurityGroup)
    (state : RulesState) : Option String × RulesState :=
  realizeIPPermissions answers .egress group rules cloudSGNameToObj state

/-- `buildEc2CloudSgNamesFromRules`. -/
def buildEc2CloudSgNamesFromRules (addressGroupIdentifier : CloudResourceID)
    (ingressRules : List IngressRule) (egressRules : List EgressRule) : GoSet String :=
  let named (rules : List Rule) :=
    rules.flatMap fun rule => rule.securityGroups.map (·.getCloudName true)
  GoSet.ofList (named ingressRules ++ named egressRules ++
    [addressGroupIdentifier.getCloudName false])

/-- `awsCloud.UpdateSecurityGroupRules`, for a VPC of the account and its peers. -/
def updateSecurityGroupRules (answers : RulesAnswers) (vpcPeerIDs : List String)
    (addressGroupIdentifier : CloudResourceID) (ingressRules : List IngressRule)
    (egressRules : List EgressRule) (directory : Directory) : Except String Unit × RulesState :=
  let state : RulesState := ⟨directory, []⟩
  let cloudSgNames := buildEc2CloudSgNamesFromRules addressGroupIdentifier ingressRules egressRules
  let vpcIDs := addressGroupIdentifier.vpc :: vpcPeerIDs
  match answers.describeSecurityGroups with
  | some error => (.error error, state)
  | none =>
    let cloudSGNameToCloudSGObj :=
      getCloudSecurityGroupsWithNameFromCloud vpcIDs cloudSgNames.keys directory
    if cloudSGNameToCloudSGObj.keys.length ≠ cloudSgNames.keys.length then
      (.error "failed to find security groups", state)
    else
      match cloudSGNameToCloudSGObj.get? (addressGroupIdentifier.getCloudName false) with
      | none => (.error "invalid memory address or nil pointer dereference", state)
      | some cloudSGObjToAddRules =>
        match realizeIngressIPPermissions answers cloudSGObjToAddRules ingressRules
            cloudSGNameToCloudSGObj state with
        | (some error, state) => (.error error, state)
        | (none, state) =>
          match realizeEgressIPPermissions answers cloudSGObjToAddRules egressRules
              cloudSGNameToCloudSGObj state with
          | (some error, state) => (.error error, state)
          | (none, state) => (.ok (), state)

/-! ## What a realized direction leaves -/

@[simp]
theorem SecurityGroup.permissions_withPermissions (group : SecurityGroup) (direction : Direction)
    (permissions : List IpPermission) :
    (group.withPermissions direction permissions).permissions direction = permissions := by
  cases direction <;> rfl

@[simp]
theorem SecurityGroup.groupId_withPermissions (group : SecurityGroup) (direction : Direction)
    (permissions : List IpPermission) :
    (group.withPermissions direction permissions).groupId = group.groupId := by
  cases direction <;> rfl

@[simp]
theorem SecurityGroup.withPermissions_twice (group : SecurityGroup) (direction : Direction)
    (permissions permissions' : List IpPermission) :
    (group.withPermissions direction permissions).withPermissions direction permissions' =
      group.withPermissions direction permissions' := by
  cases direction <;> rfl

variable {group cloudSgObj : SecurityGroup} {direction : Direction}
  {permissions : List IpPermission} {answers : RulesAnswers} {state state' : RulesState}
  {groupId name vpcID : String} {groups : List SecurityGroup}
  {rules ingressRules egressRules : List Rule} {directory : Directory} {vpcIDs : List String}
  {identifier : CloudResourceID} {rule : Rule} {α β : Type}

theorem SecurityGroup.withPermissions_self (same : group.permissions direction = permissions) :
    group.withPermissions direction permissions = group := by
  subst same
  cases direction <;> rfl

/-- The groups after one of them was given other permissions in one direction. -/
def rewritten (groups : List SecurityGroup) (groupId : String) (direction : Direction)
    (permissions : List IpPermission) : List SecurityGroup :=
  groups.map fun group =>
    if group.groupId = groupId then group.withPermissions direction permissions else group

theorem RulesAnswers.send_ok {request : PermissionRequest}
    (sent : answers.send request state = (none, state')) :
    state'.directory.groups = state.directory.groups.map (fun group =>
        if group.groupId = request.groupId then request.apply group else group) ∧
      state'.requests = state.requests ++ [request] := by
  unfold RulesAnswers.send at sent
  split at sent
  next => cases sent
  next =>
    cases sent
    exact ⟨rfl, rfl⟩

/-- The object at hand shows the permissions the group has in the cloud. -/
def Shows (directory : Directory) (cloudSgObj : SecurityGroup) (direction : Direction) : Prop :=
  ∀ group ∈ directory.groups, group.groupId = cloudSgObj.groupId →
    group.permissions direction = cloudSgObj.permissions direction

/-- Revoking everything that is shown leaves nothing. -/
theorem RulesAnswers.revoke_ok (shown : Shows state.directory cloudSgObj direction)
    (sent : answers.send
      ⟨direction, false, cloudSgObj.groupId, cloudSgObj.permissions direction⟩ state =
        (none, state')) :
    state'.directory.groups = rewritten state.directory.groups cloudSgObj.groupId direction [] := by
  rw [(send_ok sent).1, rewritten]
  refine List.map_congr_left fun group member => ?_
  split
  next same =>
    rw [PermissionRequest.apply, if_neg Bool.false_ne_true, shown group member same]
    congr 1
    simp
  next => rfl

/-- Authorizing on top of nothing leaves the new permissions. -/
theorem RulesAnswers.authorize_ok
    (bare : ∀ group ∈ state.directory.groups, group.groupId = groupId →
      group.permissions direction = [])
    (sent : answers.send ⟨direction, true, groupId, permissions⟩ state = (none, state')) :
    state'.directory.groups = rewritten state.directory.groups groupId direction permissions := by
  rw [(send_ok sent).1, rewritten]
  refine List.map_congr_left fun group member => ?_
  split
  next same =>
    rw [PermissionRequest.apply, if_pos rfl, bare group member same]
    rfl
  next => rfl

theorem rewritten_self (already : ∀ group ∈ groups, group.groupId = groupId →
      group.permissions direction = permissions) :
    rewritten groups groupId direction permissions = groups := by
  rw [rewritten, List.map_congr_left, List.map_id]
  intro group member
  split
  next same => exact SecurityGroup.withPermissions_self (already group member same)
  next => rfl

theorem rewritten_twice (groups : List SecurityGroup) (groupId : String) (direction : Direction)
    (permissions permissions' : List IpPermission) :
    rewritten (rewritten groups groupId direction permissions) groupId direction permissions' =
      rewritten groups groupId direction permissions' := by
  simp only [rewritten, List.map_map]
  refine List.map_congr_left fun group _ => ?_
  by_cases same : group.groupId = groupId
  · simp [same]
  · simp [same]

theorem permissions_of_mem_rewritten
    (member : group ∈ rewritten groups groupId direction permissions)
    (same : group.groupId = groupId) : group.permissions direction = permissions := by
  obtain ⟨before, -, rfl⟩ := List.mem_map.mp member
  split at same
  next here => rw [if_pos here, SecurityGroup.permissions_withPermissions]
  next other => exact absurd same other

theorem revokeOld_ok (shown : Shows state.directory cloudSgObj direction)
    (revoked : revokeOld answers direction cloudSgObj state = (none, state')) :
    state'.directory.groups =
        rewritten state.directory.groups cloudSgObj.groupId direction [] ∧
      ∃ sent, state'.requests = state.requests ++ sent ∧
        (∀ request ∈ sent, request.groupId = cloudSgObj.groupId) ∧
        (sent = [] ↔ cloudSgObj.permissions direction = []) := by
  unfold revokeOld at revoked
  split at revoked
  next empty =>
    rw [List.isEmpty_iff] at empty
    cases revoked
    refine ⟨(rewritten_self fun group member same => ?_).symm, [], by simp, by simp,
      by simp [empty]⟩
    rw [shown group member same, empty]
  next filled =>
    rw [List.isEmpty_iff] at filled
    refine ⟨RulesAnswers.revoke_ok shown revoked, _, (RulesAnswers.send_ok revoked).2, ?_, ?_⟩
    · intro request member
      rw [List.mem_singleton.mp member]
    · simp [filled]

/--
Realizing one direction replaces the permissions of the group.  Every request
names the group, and none is made only when there is nothing to do.
-/
theorem realizeIPPermissions_ok {cloudSGNameToObj : GoMap String SecurityGroup}
    (shown : Shows state.directory cloudSgObj direction)
    (realized : realizeIPPermissions answers direction cloudSgObj rules cloudSGNameToObj state =
      (none, state')) :
    ∃ permissions sent, rules.mapM (ipPermission cloudSGNameToObj) = some permissions ∧
      state'.directory.groups =
        rewritten state.directory.groups cloudSgObj.groupId direction permissions ∧
      state'.requests = state.requests ++ sent ∧
      (∀ request ∈ sent, request.groupId = cloudSgObj.groupId) ∧
      (sent = [] ↔ cloudSgObj.permissions direction = [] ∧ rules = []) := by
  unfold realizeIPPermissions at realized
  split at realized
  next => cases realized
  next middle revoked =>
    obtain ⟨groups, sent, requests, named, idle⟩ := revokeOld_ok shown revoked
    split at realized
    next empty =>
      rw [List.isEmpty_iff] at empty
      cases realized
      subst empty
      exact ⟨[], sent, rfl, groups, requests, named, by simp [idle]⟩
    next filled =>
      rw [List.isEmpty_iff] at filled
      split at realized
      next => cases realized
      next permissions built =>
        have groups' := RulesAnswers.authorize_ok (fun group member same => by
          rw [groups] at member
          exact permissions_of_mem_rewritten member same) realized
        rw [groups, rewritten_twice] at groups'
        have requests' := (RulesAnswers.send_ok realized).2
        rw [requests, List.append_assoc] at requests'
        refine ⟨permissions, _, built, groups', requests', fun request member => ?_, ?_⟩
        · rcases List.mem_append.mp member with there | here
          · exact named request there
          · rw [List.mem_singleton.mp here]
        · simp [filled]

/-! ## The groups that are found -/

/-- The group that EC2 lists last under a name, in some VPCs. -/
def Directory.lastListed (directory : Directory) (vpcIDs : List String) (name : String) :
    Option SecurityGroup :=
  directory.groups.reverse.find? fun group => group.vpcId ∈ vpcIDs ∧ group.groupName = name

/-- The group with a name in one VPC. -/
def Directory.named (directory : Directory) (name vpcID : String) : Option SecurityGroup :=
  directory.groups.find? fun group => group.groupName = name ∧ group.vpcId = vpcID

theorem Directory.named_eq_some :
    directory.named name vpcID = some group ↔
      group ∈ directory.groups ∧ group.groupName = name ∧ group.vpcId = vpcID := by
  constructor
  · intro found
    have holds := List.find?_some found
    exact ⟨List.mem_of_find?_eq_some found, by simpa using holds⟩
  · rintro ⟨member, name, vpc⟩
    cases found : directory.named _ _ with
    | none =>
      have absent := List.find?_eq_none.mp found group member
      simp [name, vpc] at absent
    | some other =>
      have holds := List.find?_some found
      simp only [decide_eq_true_eq] at holds
      rw [directory.names other (List.mem_of_find?_eq_some found) group member
        (by rw [holds.2, vpc]) (by rw [holds.1, name])]

theorem Directory.lastListed_mem (found : directory.lastListed vpcIDs name = some group) :
    group ∈ directory.groups ∧ group.vpcId ∈ vpcIDs ∧ group.groupName = name := by
  have holds := List.find?_some found
  exact ⟨List.mem_reverse.mp (List.mem_of_find?_eq_some found), by simpa using holds⟩

/-- A name in lower case leads to the group that is listed last under it. -/
theorem get?_eq_lastListed {cloudSgNames : List String}
    (lower : ∀ name ∈ cloudSgNames, toLower name = name) (wanted : name ∈ cloudSgNames) :
    (getCloudSecurityGroupsWithNameFromCloud vpcIDs cloudSgNames directory).get? name =
      directory.lastListed vpcIDs name := by
  rw [get?_getCloudSecurityGroups, describeSecurityGroups, ← List.filter_reverse,
    List.find?_filter, Directory.lastListed]
  congr 1
  funext group
  rw [decide_eq_decide, decide_eq_true_eq]
  have listed : matchesAll group.attributes
      (buildAwsEc2FilterForSecurityGroupNameMatches vpcIDs cloudSgNames) = true ↔
        group.vpcId ∈ vpcIDs ∧ group.groupName ∈ cloudSgNames := by
    simp [buildAwsEc2FilterForSecurityGroupNameMatches, matchesAll, SecurityGroup.attributes]
  rw [listed]
  constructor
  · rintro ⟨⟨vpc, known⟩, same⟩
    exact ⟨vpc, (lower _ known).symm.trans same⟩
  · rintro ⟨vpc, rfl⟩
    exact ⟨⟨vpc, wanted⟩, lower _ wanted⟩

theorem toLower_of_mem_names
    (member : name ∈ (buildEc2CloudSgNamesFromRules identifier ingressRules egressRules).keys) :
    toLower name = name := by
  rw [← AList.mem_keys, buildEc2CloudSgNamesFromRules, GoSet.mem_ofList] at member
  simp only [List.mem_append, List.mem_flatMap, List.mem_map, List.mem_singleton] at member
  rcases member with (⟨_, _, _, _, rfl⟩ | ⟨_, _, _, _, rfl⟩) | rfl <;>
    exact CloudResourceID.toLower_getCloudName _ _

theorem own_mem_names (identifier : CloudResourceID) (ingressRules egressRules : List Rule) :
    identifier.getCloudName false ∈
      (buildEc2CloudSgNamesFromRules identifier ingressRules egressRules).keys := by
  rw [← AList.mem_keys, buildEc2CloudSgNamesFromRules, GoSet.mem_ofList]
  simp

theorem peer_mem_names (member : rule ∈ ingressRules ++ egressRules) {peer : CloudResourceID}
    (named : peer ∈ rule.securityGroups) :
    peer.getCloudName true ∈
      (buildEc2CloudSgNamesFromRules identifier ingressRules egressRules).keys := by
  rw [← AList.mem_keys, buildEc2CloudSgNamesFromRules, GoSet.mem_ofList]
  simp only [List.mem_append, List.mem_flatMap, List.mem_map, List.mem_singleton]
  rcases List.mem_append.mp member with there | there
  · exact .inl (.inl ⟨rule, there, peer, named, rfl⟩)
  · exact .inl (.inr ⟨rule, there, peer, named, rfl⟩)

/-! ## Permissions under two readings of the names -/

/-- The permission of a rule whose groups are looked up in some way. -/
def permissionBy (resolve : CloudResourceID → Option SecurityGroup) (rule : Rule) :
    Option IpPermission :=
  (rule.securityGroups.mapM fun peer => (resolve peer).map (·.groupId)).map (ipPermissionOf rule)

theorem mapM_eq_some_iff {f g : α → Option β} {list : List α} {values : List β}
    (built : list.mapM f = some values) :
    list.mapM g = some values ↔ ∀ element ∈ list, g element = f element := by
  induction list generalizing values with
  | nil =>
    cases built
    exact ⟨fun _ => (by simp), fun _ => rfl⟩
  | cons head tail induction =>
    simp only [List.mapM_cons, Option.bind_eq_bind, Option.pure_def, Option.bind_eq_some_iff,
      Option.some.injEq] at built ⊢
    obtain ⟨value, first, rest, built, rfl⟩ := built
    rw [List.forall_mem_cons, ← induction built, first]
    constructor
    · rintro ⟨value', first', rest', built', same⟩
      cases same
      exact ⟨first', built'⟩
    · rintro ⟨first', built'⟩
      exact ⟨value, first', rest, built', rfl⟩

theorem exists_of_mapM_eq_some {f : α → Option β} {list : List α} {values : List β}
    (built : list.mapM f = some values) : ∀ element ∈ list, ∃ value, f element = some value := by
  induction list generalizing values with
  | nil => simp
  | cons head tail induction =>
    simp only [List.mapM_cons, Option.bind_eq_bind, Option.pure_def, Option.bind_eq_some_iff,
      Option.some.injEq] at built
    obtain ⟨value, first, rest, built, -⟩ := built
    exact List.forall_mem_cons.mpr ⟨⟨value, first⟩, induction built⟩

theorem ipPermissionOf_inj {pairs pairs' : List String}
    (same : ipPermissionOf rule pairs = ipPermissionOf rule pairs') : pairs = pairs' :=
  congrArg IpPermission.userIdGroupPairs same

/-- Two readings give the same permissions when they lead to the same groups. -/
theorem mapM_permissionBy_iff {resolve resolve' : CloudResourceID → Option SecurityGroup}
    (built : rules.mapM (permissionBy resolve) = some permissions) :
    rules.mapM (permissionBy resolve') = some permissions ↔
      ∀ rule ∈ rules, ∀ peer ∈ rule.securityGroups,
        (resolve' peer).map (·.groupId) = (resolve peer).map (·.groupId) := by
  rw [mapM_eq_some_iff built]
  refine forall₂_congr fun rule member => ?_
  obtain ⟨permission, one⟩ := exists_of_mapM_eq_some built rule member
  obtain ⟨pairs, paired, rfl⟩ := Option.map_eq_some_iff.mp one
  rw [one, ← mapM_eq_some_iff paired, permissionBy, Option.map_eq_some_iff]
  constructor
  · rintro ⟨pairs', paired', same⟩
    rw [paired', ipPermissionOf_inj same]
  · intro paired'
    exact ⟨pairs, paired', rfl⟩

/-! ## The whole call -/

/-- The groups after one of them was given other permissions in both directions. -/
def replaced (groups : List SecurityGroup) (groupId : String)
    (ingress egress : List IpPermission) : List SecurityGroup :=
  groups.map fun group =>
    if group.groupId = groupId then
      { group with ipPermissions := ingress, ipPermissionsEgress := egress }
    else group

theorem withPermissions_both (group : SecurityGroup) (ingress egress : List IpPermission) :
    (group.withPermissions .ingress ingress).withPermissions .egress egress =
      { group with ipPermissions := ingress, ipPermissionsEgress := egress } :=
  rfl

theorem rewritten_both (groups : List SecurityGroup) (groupId : String)
    (ingress egress : List IpPermission) :
    rewritten (rewritten groups groupId .ingress ingress) groupId .egress egress =
      replaced groups groupId ingress egress := by
  simp only [rewritten, replaced, List.map_map]
  refine List.map_congr_left fun group _ => ?_
  by_cases same : group.groupId = groupId
  · simp [same, withPermissions_both]
  · simp [same]

section

variable {answers : RulesAnswers} {vpcPeerIDs : List String} {identifier : CloudResourceID}
  {ingressRules egressRules : List Rule} {directory : Directory} {after : RulesState}

/-- How a name of a rule is looked up: the group listed last, in the VPC or a peer. -/
def listedPeer (directory : Directory) (vpcIDs : List String) (peer : CloudResourceID) :
    Option SecurityGroup :=
  directory.lastListed vpcIDs (peer.getCloudName true)

/-- How it is meant: the group of that name in the VPC of the peer. -/
def meantPeer (directory : Directory) (peer : CloudResourceID) : Option SecurityGroup :=
  directory.named (peer.getCloudName true) peer.vpc

variable {permissions : List IpPermission} {target : SecurityGroup}

/-- The map of the call leads to the groups that are listed last. -/
theorem mapM_listedPeer {vpcIDs : List String} {rules : List Rule}
    (some_rules : ∀ rule ∈ rules, rule ∈ ingressRules ++ egressRules)
    (built : rules.mapM (ipPermission (getCloudSecurityGroupsWithNameFromCloud vpcIDs
      (buildEc2CloudSgNamesFromRules identifier ingressRules egressRules).keys directory)) =
        some permissions) :
    rules.mapM (permissionBy (listedPeer directory vpcIDs)) = some permissions := by
  refine (mapM_permissionBy_iff built).mpr fun rule member peer named => ?_
  rw [listedPeer, get?_eq_lastListed (fun name member => toLower_of_mem_names member)
    (peer_mem_names (some_rules rule member) named)]

theorem shows_of_mem (member : target ∈ directory.groups) (direction : Direction) :
    Shows directory target direction := by
  intro group known same
  rw [Directory.eq_of_groupId known member same]

/-- Changing one direction leaves the other as it is shown. -/
theorem shows_after_ingress {state : RulesState} (member : target ∈ directory.groups)
    (groups : state.directory.groups =
      rewritten directory.groups target.groupId .ingress permissions) :
    Shows state.directory target .egress := by
  intro group known same
  rw [groups] at known
  obtain ⟨before, there, rfl⟩ := List.mem_map.mp known
  split at same
  next here =>
    rw [if_pos here, Directory.eq_of_groupId there member here]
    rfl
  next other => exact absurd same other

theorem updateSecurityGroupRules_ok
    (succeeded : updateSecurityGroupRules answers vpcPeerIDs identifier ingressRules egressRules
      directory = (.ok (), after)) :
    ∃ target ingress egress,
      directory.lastListed (identifier.vpc :: vpcPeerIDs) (identifier.getCloudName false) =
        some target ∧
      ingressRules.mapM (permissionBy (listedPeer directory (identifier.vpc :: vpcPeerIDs))) =
        some ingress ∧
      egressRules.mapM (permissionBy (listedPeer directory (identifier.vpc :: vpcPeerIDs))) =
        some egress ∧
      after.directory.groups = replaced directory.groups target.groupId ingress egress ∧
      (∀ request ∈ after.requests, request.groupId = target.groupId) ∧
      (after.requests = [] ↔ (target.ipPermissions = [] ∧ ingressRules = []) ∧
        target.ipPermissionsEgress = [] ∧ egressRules = []) := by
  simp only [updateSecurityGroupRules] at succeeded
  split at succeeded
  next => cases succeeded
  next =>
    split at succeeded
    next => cases succeeded
    next =>
      split at succeeded
      next => cases succeeded
      next target found =>
        rw [get?_eq_lastListed (fun name member => toLower_of_mem_names member)
          (own_mem_names identifier ingressRules egressRules)] at found
        have member := (Directory.lastListed_mem found).1
        split at succeeded
        next => cases succeeded
        next middle inward =>
          split at succeeded
          next => cases succeeded
          next last outward =>
            cases succeeded
            obtain ⟨ingress, sent, built, groups, requests, named, idle⟩ :=
              realizeIPPermissions_ok (shows_of_mem member .ingress) inward
            obtain ⟨egress, sent', built', groups', requests', named', idle'⟩ :=
              realizeIPPermissions_ok (shows_after_ingress member groups) outward
            rw [requests, List.nil_append] at requests'
            refine ⟨target, ingress, egress, found,
              mapM_listedPeer (fun rule => List.mem_append_left _) built,
              mapM_listedPeer (fun rule => List.mem_append_right _) built', ?_, ?_, ?_⟩
            · rw [groups', groups, rewritten_both]
            · intro request there
              rw [requests'] at there
              exact (List.mem_append.mp there).elim (named request) (named' request)
            · rw [requests', List.append_eq_nil_iff, idle, idle']
              rfl

end

/-! ## Where the rules land -/

/--
The rules are on the group that is meant, with the groups that are meant, and no
request has named another group.
-/
def Landed (directory : Directory) (identifier : CloudResourceID)
    (ingressRules egressRules : List Rule) (after : RulesState) : Prop :=
  ∃ group ingress egress,
    directory.named (identifier.getCloudName false) identifier.vpc = some group ∧
    ingressRules.mapM (permissionBy (meantPeer directory)) = some ingress ∧
    egressRules.mapM (permissionBy (meantPeer directory)) = some egress ∧
    (∀ request ∈ after.requests, request.groupId = group.groupId) ∧
    after.directory.groups = replaced directory.groups group.groupId ingress egress

/-- The group that is listed last under a name is that of a certain VPC. -/
def InFront (directory : Directory) (vpcIDs : List String) (name vpcID : String) : Prop :=
  ∃ group, directory.lastListed vpcIDs name = some group ∧ group.vpcId = vpcID

/-- No name that the call looks up is shadowed by a group of another VPC. -/
structure Unshadowed (directory : Directory) (vpcIDs : List String)
    (identifier : CloudResourceID) (ingressRules egressRules : List Rule) : Prop where
  own : InFront directory vpcIDs (identifier.getCloudName false) identifier.vpc
  peers : ∀ rule ∈ ingressRules ++ egressRules, ∀ peer ∈ rule.securityGroups,
    InFront directory vpcIDs (peer.getCloudName true) peer.vpc

/-- There is nothing to revoke and nothing to authorize, with either group. -/
structure NothingToDo (directory : Directory) (vpcIDs : List String)
    (identifier : CloudResourceID) (ingressRules egressRules : List Rule) : Prop where
  ingress : ingressRules = []
  egress : egressRules = []
  listed : ∃ group, directory.lastListed vpcIDs (identifier.getCloudName false) = some group ∧
    group.ipPermissions = [] ∧ group.ipPermissionsEgress = []
  meant : ∃ group, directory.named (identifier.getCloudName false) identifier.vpc = some group ∧
    group.ipPermissions = [] ∧ group.ipPermissionsEgress = []

/-- The name leads to the group that is meant. -/
theorem inFront_iff (found : directory.lastListed vpcIDs name = some group) :
    InFront directory vpcIDs name vpcID ↔
      (directory.named name vpcID).map (·.groupId) = some group.groupId := by
  obtain ⟨member, -, named⟩ := Directory.lastListed_mem found
  constructor
  · rintro ⟨other, found', vpc⟩
    cases found.symm.trans found'
    rw [Directory.named_eq_some.mpr ⟨member, named, vpc⟩]
    rfl
  · intro meant
    obtain ⟨other, meant, same⟩ := Option.map_eq_some_iff.mp meant
    obtain ⟨member', -, vpc⟩ := Directory.named_eq_some.mp meant
    exact ⟨group, found, Directory.eq_of_groupId member' member same ▸ vpc⟩

theorem replaced_inj (member : group ∈ directory.groups)
    {ingress egress ingress' egress' : List IpPermission}
    (same : replaced directory.groups group.groupId ingress egress =
      replaced directory.groups group.groupId ingress' egress') :
    ingress = ingress' ∧ egress = egress' := by
  have here := List.map_inj_left.mp same group member
  rw [if_pos rfl, if_pos rfl, SecurityGroup.mk.injEq] at here
  exact here.2.2.2

/-- A group without permissions is not changed when it is given none. -/
theorem replaced_nil (member : group ∈ directory.groups) (ingress : group.ipPermissions = [])
    (egress : group.ipPermissionsEgress = []) :
    replaced directory.groups group.groupId [] [] = directory.groups := by
  rw [replaced, List.map_congr_left, List.map_id]
  intro other known
  split
  next same =>
    rw [Directory.eq_of_groupId known member same]
    cases group
    simp_all
  next => rfl

section

variable {answers : RulesAnswers} {vpcPeerIDs : List String} {identifier : CloudResourceID}
  {ingressRules egressRules : List Rule} {directory : Directory} {after : RulesState}

/-- The readings of the names agree when none of them is shadowed. -/
theorem mapM_meantPeer_iff {vpcIDs : List String} {rules : List Rule}
    {permissions : List IpPermission}
    (built : rules.mapM (permissionBy (listedPeer directory vpcIDs)) = some permissions) :
    rules.mapM (permissionBy (meantPeer directory)) = some permissions ↔
      ∀ rule ∈ rules, ∀ peer ∈ rule.securityGroups,
        InFront directory vpcIDs (peer.getCloudName true) peer.vpc := by
  rw [mapM_permissionBy_iff built]
  refine forall₂_congr fun rule member => forall₂_congr fun peer named => ?_
  obtain ⟨permission, one⟩ := exists_of_mapM_eq_some built rule member
  obtain ⟨pairs, paired, -⟩ := Option.map_eq_some_iff.mp one
  obtain ⟨groupId, found⟩ := exists_of_mapM_eq_some paired peer named
  obtain ⟨group, listed, rfl⟩ := Option.map_eq_some_iff.mp found
  rw [found, inFront_iff listed, meantPeer]

/--
A call that succeeds puts the rules on the group that is meant, with the groups
that are meant and without touching another one, exactly when no name it looks up
is shadowed by a group of another VPC, or when there is nothing to do.
-/
theorem rules_land_where_meant
    (succeeded : updateSecurityGroupRules answers vpcPeerIDs identifier ingressRules egressRules
      directory = (.ok (), after)) :
    Landed directory identifier ingressRules egressRules after ↔
      Unshadowed directory (identifier.vpc :: vpcPeerIDs) identifier ingressRules egressRules ∨
      NothingToDo directory (identifier.vpc :: vpcPeerIDs) identifier ingressRules
        egressRules := by
  obtain ⟨target, ingress, egress, found, built, built', groups, named, idle⟩ :=
    updateSecurityGroupRules_ok succeeded
  have known := (Directory.lastListed_mem found).1
  constructor
  · rintro ⟨group, ingress', egress', meant, right, right', requests, groups'⟩
    have member := (Directory.named_eq_some.mp meant).1
    rw [groups] at groups'
    by_cases same : group = target
    · subst same
      obtain ⟨rfl, rfl⟩ := replaced_inj member groups'
      refine .inl ⟨(inFront_iff found).mpr (by rw [meant]; rfl), fun rule there => ?_⟩
      rcases List.mem_append.mp there with there | there
      · exact (mapM_meantPeer_iff built).mp right rule there
      · exact (mapM_meantPeer_iff built').mp right' rule there
    · -- Every request names the group that was found, so there was none.
      have quiet : after.requests = [] := by
        rw [List.eq_nil_iff_forall_not_mem]
        intro request there
        exact same (Directory.eq_of_groupId member known
          ((requests request there).symm.trans (named request there)))
      obtain ⟨⟨bare, rfl⟩, bare', rfl⟩ := idle.mp quiet
      cases right
      cases right'
      have other : group.groupId ≠ target.groupId := fun equal =>
        same (Directory.eq_of_groupId member known equal)
      have here := List.map_inj_left.mp groups' group member
      rw [if_neg other, if_pos rfl] at here
      refine .inr ⟨rfl, rfl, ⟨target, found, bare, bare'⟩, group, meant, ?_, ?_⟩
      · rw [here]; rfl
      · rw [here]; rfl
  · rintro (unshadowed | nothing)
    · obtain ⟨group, meant, same⟩ := Option.map_eq_some_iff.mp ((inFront_iff found).mp
        unshadowed.own)
      refine ⟨group, ingress, egress, meant, ?_, ?_, ?_, ?_⟩
      · exact (mapM_meantPeer_iff built).mpr fun rule there =>
          unshadowed.peers rule (List.mem_append_left _ there)
      · exact (mapM_meantPeer_iff built').mpr fun rule there =>
          unshadowed.peers rule (List.mem_append_right _ there)
      · rw [same]
        exact named
      · rw [same, groups]
    · obtain ⟨rfl, rfl, ⟨target', found', bare, bare'⟩, group, meant, none, none'⟩ := nothing
      cases found.symm.trans found'
      cases built
      cases built'
      refine ⟨group, [], [], meant, rfl, rfl, ?_, ?_⟩
      · rw [idle.mpr ⟨⟨bare, rfl⟩, bare', rfl⟩]
        simp
      · exact groups.trans ((replaced_nil known bare bare').trans
          (replaced_nil (Directory.named_eq_some.mp meant).1 none none').symm)

end

/-- Every request is carried out. -/
def RulesAnswers.all : RulesAnswers := ⟨none, fun _ => none⟩

/-- A rule for TCP traffic from one block. -/
def blockRule : Rule := ⟨none, [⟨0x0a000000#32, 8⟩], [], some 6⟩

/-- An appliedTo group of one name in two VPCs, that of `vpc-2` listed last. -/
def twoWebGroups : Directory where
  groups := [⟨"sg-1", "nephe-at-web", "vpc-1", [], []⟩, ⟨"sg-2", "nephe-at-web", "vpc-2", [], []⟩]
  ids := by decide
  names := by decide

/-- The rules of the group in `vpc-1` are put on the group in its peer `vpc-2`. -/
theorem rules_land_on_the_group_of_a_peer :
    ∃ after, updateSecurityGroupRules .all ["vpc-2"] ⟨"web", "vpc-1"⟩ [blockRule] []
        twoWebGroups = (.ok (), after) ∧
      after.directory.groups = [⟨"sg-1", "nephe-at-web", "vpc-1", [], []⟩,
        ⟨"sg-2", "nephe-at-web", "vpc-2",
          [⟨some 0, some 65535, "6", ["10.0.0.0/8"], []⟩], []⟩] ∧
      ¬ Landed twoWebGroups ⟨"web", "vpc-1"⟩ [blockRule] [] after := by
  refine ⟨_, rfl, by decide, ?_⟩
  rintro ⟨group, _, _, meant, _, _, requests, _⟩
  obtain rfl : group = ⟨"sg-1", "nephe-at-web", "vpc-1", [], []⟩ :=
    Option.some.inj (meant.symm.trans (by decide))
  have named := requests ⟨.ingress, true, "sg-2",
    [⟨some 0, some 65535, "6", ["10.0.0.0/8"], []⟩]⟩ (by decide)
  exact absurd named (by decide)

/-- Seen from `vpc-2` the same names lead to the right group. -/
theorem rules_land_on_the_group_listed_last :
    Landed twoWebGroups ⟨"web", "vpc-2"⟩ [blockRule] []
      (updateSecurityGroupRules .all ["vpc-1"] ⟨"web", "vpc-2"⟩ [blockRule] []
        twoWebGroups).2 := by
  have succeeded : updateSecurityGroupRules .all ["vpc-1"] ⟨"web", "vpc-2"⟩ [blockRule] []
      twoWebGroups = (.ok (), (updateSecurityGroupRules .all ["vpc-1"] ⟨"web", "vpc-2"⟩
        [blockRule] [] twoWebGroups).2) := rfl
  refine (rules_land_where_meant succeeded).mpr (.inl ⟨?_, fun rule member peer named => ?_⟩)
  · exact ⟨⟨"sg-2", "nephe-at-web", "vpc-2", [], []⟩, by decide, by decide⟩
  · rw [List.mem_singleton.mp member] at named
    cases named

end Nephe.Aws
