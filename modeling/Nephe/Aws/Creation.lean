import Nephe.Aws.Rules
import Nephe.Library.Runs

/-!
# Creating an AWS security group

EC2 gives a new security group a permission for all egress traffic.
`CreateSecurityGroup` (`aws_security.go`) takes it back: it creates the group,
waits until the group can be seen, and revokes what it sees.  When one of these
requests fails the call fails and is made again, and a group that is there by
then is taken as it is.
-/

namespace Nephe.Aws

open Library

/-! ## Requests that may fail -/

/-- How a request ends; the answer to one that was carried out may still be an error. -/
inductive Outcome where
  | done
  | refused (error : String)
  | lost (error : String)
deriving DecidableEq, Repr

/-- The request was carried out. -/
def Outcome.takesEffect : Outcome → Bool
  | .refused _ => false
  | _ => true

def Outcome.error? : Outcome → Option String
  | .done => none
  | .refused error => some error
  | .lost error => some error

/-- What one look for a new group gives: it may not be listed yet. -/
inductive Look where
  | seen
  | unseen
  | failed (error : String)
deriving DecidableEq, Repr

/-- How the requests of one call end, and the id of the group if one is created. -/
structure CreateAnswers where
  describe : Option String
  groupId : String
  create : Outcome
  /-- The looks for the group until the time is over. -/
  wait : List Look
  delete : Outcome
  revoke : Outcome
  describeAgain : Option String

/-! ## Creating -/

/-- The permission that EC2 gives to a new group. -/
def allowAllEgress : IpPermission := ⟨none, none, awsAnyProtocolValue, ["0.0.0.0/0"], []⟩

/-- A group as EC2 creates it. -/
def newGroup (groupId groupName vpcId : String) : SecurityGroup :=
  ⟨groupId, groupName, vpcId, [], [allowAllEgress]⟩

/-- The id is new, and so is the name in its VPC. -/
def Directory.Admits (directory : Directory) (group : SecurityGroup) : Prop :=
  (∀ other ∈ directory.groups, other.groupId ≠ group.groupId) ∧
    ∀ other ∈ directory.groups, other.vpcId = group.vpcId →
      toLower other.groupName ≠ toLower group.groupName

instance (directory : Directory) (group : SecurityGroup) : Decidable (directory.Admits group) :=
  inferInstanceAs (Decidable (_ ∧ _))

/-- `createSecurityGroup`, when EC2 carries it out. -/
def Directory.create (directory : Directory) (group : SecurityGroup)
    (admits : directory.Admits group) : Directory where
  groups := directory.groups ++ [group]
  ids := by
    rw [List.map_append, List.map_singleton, List.nodup_append]
    refine ⟨directory.ids, List.nodup_singleton _, fun id there other here => ?_⟩
    obtain ⟨before, member, rfl⟩ := List.mem_map.mp there
    rw [List.mem_singleton.mp here]
    exact admits.1 before member
  names := by
    intro first member second member' vpc name
    rcases List.mem_append.mp member with old | new <;>
      rcases List.mem_append.mp member' with old' | new'
    · exact directory.names first old second old' vpc name
    · rw [List.mem_singleton.mp new'] at vpc name
      exact absurd name (admits.2 first old vpc)
    · rw [List.mem_singleton.mp new] at vpc name
      exact absurd name.symm (admits.2 second old' vpc.symm)
    · rw [List.mem_singleton.mp new, List.mem_singleton.mp new']

/-- `deleteSecurityGroup`, when EC2 carries it out. -/
def Directory.delete (directory : Directory) (groupId : String) : Directory where
  groups := directory.groups.filter (·.groupId != groupId)
  ids := directory.ids.sublist (List.filter_sublist.map _)
  names := fun group member other member' =>
    directory.names group (List.mem_filter.mp member).1 other (List.mem_filter.mp member').1

/--
`waitForCloudSecurityGroupCreation`: the error of the last look, when the group
was not seen in time.
-/
def waitForCloudSecurityGroupCreation (cloudSGName : String) : List Look → Option String
  | [] => some ("failed to find created cloud-security-group name " ++ cloudSGName)
  | .seen :: _ => none
  | [.failed error] => some error
  | _ :: rest => waitForCloudSecurityGroupCreation cloudSGName rest

/--
The second half of `createCloudSecurityGroup`: once the group is created it is
waited for, and its egress permissions are revoked.
-/
def clearNewGroup (answers : CreateAnswers) (cloudSGName vpcID : String)
    (directory : Directory) : Option String × Directory :=
  match waitForCloudSecurityGroupCreation cloudSGName answers.wait with
  | some error =>
    (some error,
      if answers.delete.takesEffect then directory.delete answers.groupId else directory)
  | none =>
    match (getCloudSecurityGroupsWithNameFromCloud [vpcID] [cloudSGName] directory).get?
        cloudSGName with
    | none => (some "invalid memory address or nil pointer dereference", directory)
    | some cloudSGObj =>
      let request : PermissionRequest :=
        ⟨.egress, false, answers.groupId, cloudSGObj.ipPermissionsEgress⟩
      (answers.revoke.error?,
        if answers.revoke.takesEffect then
          directory.modify answers.groupId request.apply request.apply_same
        else directory)

/-- `createCloudSecurityGroup`. -/
def createCloudSecurityGroup (answers : CreateAnswers) (cloudSGName vpcID : String)
    (directory : Directory) : Option String × Directory :=
  if admits : answers.create.takesEffect = true ∧
      directory.Admits (newGroup answers.groupId cloudSGName vpcID) then
    match answers.create.error? with
    | some error => (some error, directory.create _ admits.2)
    | none => clearNewGroup answers cloudSGName vpcID (directory.create _ admits.2)
  else (some (answers.create.error?.getD "InvalidGroup.Duplicate"), directory)

/--
`awsCloud.CreateSecurityGroup`, for a VPC of the account, with
`createOrGetSecurityGroups` for its one name.
-/
def createSecurityGroup (answers : CreateAnswers) (addressGroupIdentifier : CloudResourceID)
    (membershipOnly : Bool) (directory : Directory) : Except String String × Directory :=
  let cloudSgName := addressGroupIdentifier.getCloudName membershipOnly
  let vpcID := addressGroupIdentifier.vpc
  match answers.describe with
  | some error => (.error error, directory)
  | none =>
    match (getCloudSecurityGroupsWithNameFromCloud [vpcID] [cloudSgName] directory).get?
        cloudSgName with
    | some group => (.ok group.groupId, directory)
    | none =>
      match createCloudSecurityGroup answers cloudSgName vpcID directory with
      | (some error, directory) => (.error error, directory)
      | (none, directory) =>
        match answers.describeAgain with
        | some error => (.error error, directory)
        | none =>
          match (getCloudSecurityGroupsWithNameFromCloud [vpcID] [cloudSgName]
              directory).get? cloudSgName with
          | none => (.error "invalid memory address or nil pointer dereference", directory)
          | some group => (.ok group.groupId, directory)

/-! ## What a call leaves behind -/

/-- The groups of a name in a VPC have no permissions. -/
def Bare (directory : Directory) (name vpcID : String) : Prop :=
  ∀ group ∈ directory.groups, group.groupName = name → group.vpcId = vpcID →
    group.ipPermissions = [] ∧ group.ipPermissionsEgress = []

/--
The call does not leave a new group with the permission of EC2: once the request
to create it was carried out, the answer is heard, and the permission is revoked or
the group deleted.
-/
def CreateAnswers.Clean (answers : CreateAnswers) (cloudSGName : String) : Prop :=
  answers.create.takesEffect = true → answers.create = .done ∧
    if (waitForCloudSecurityGroupCreation cloudSGName answers.wait).isSome then
      answers.delete.takesEffect = true
    else answers.revoke.takesEffect = true

instance (answers : CreateAnswers) (cloudSGName : String) : Decidable (answers.Clean cloudSGName) :=
  inferInstanceAs (Decidable (_ → _))

/-- No group has the name in the VPC. -/
def Absent (directory : Directory) (name vpcID : String) : Prop :=
  ∀ group ∈ directory.groups, group.groupName = name → group.vpcId ≠ vpcID

variable {directory : Directory} {name vpcID : String}

theorem Absent.bare (absent : Absent directory name vpcID) : Bare directory name vpcID :=
  fun group member named vpc => absurd vpc (absent group member named)

/-- A name that leads nowhere belongs to no group of the VPC. -/
theorem absent_of_get? (lower : toLower name = name)
    (unknown : (getCloudSecurityGroupsWithNameFromCloud [vpcID] [name] directory).get? name =
      none) : Absent directory name vpcID := by
  intro group member named vpc
  rw [get?_getCloudSecurityGroups] at unknown
  have skipped := List.find?_eq_none.mp unknown group (List.mem_reverse.mpr
    (mem_describe_names.mpr ⟨member, List.mem_singleton.mpr vpc, List.mem_singleton.mpr named⟩))
  rw [named, lower] at skipped
  simp at skipped

section

variable {answers : CreateAnswers} {directory : Directory} {name vpcID : String}

theorem Outcome.takesEffect_of_error {outcome : Outcome} (quiet : outcome.error? = none) :
    outcome.takesEffect = true := by
  cases outcome with
  | done => rfl
  | refused error => cases quiet
  | lost error => cases quiet

section New

variable (absent : Absent directory name vpcID)
  (admits : directory.Admits (newGroup answers.groupId name vpcID))

include absent

/-- Once it is created, the new group is the only one of its name. -/
theorem eq_newGroup {group : SecurityGroup} (member : group ∈ (directory.create _ admits).groups)
    (named : group.groupName = name) (vpc : group.vpcId = vpcID) :
    group = newGroup answers.groupId name vpcID := by
  rcases List.mem_append.mp member with old | new
  · exact absurd vpc (absent group old named)
  · exact List.mem_singleton.mp new

theorem bare_delete :
    Bare ((directory.create _ admits).delete answers.groupId) name vpcID := by
  intro group member named vpc
  obtain ⟨known, other⟩ := List.mem_filter.mp member
  rw [eq_newGroup absent admits known named vpc] at other
  simp [newGroup] at other

theorem bare_revoke {request : PermissionRequest}
    (whole : request = ⟨.egress, false, answers.groupId, [allowAllEgress]⟩) :
    Bare ((directory.create _ admits).modify answers.groupId request.apply request.apply_same)
      name vpcID := by
  intro group member named vpc
  obtain ⟨before, known, rfl⟩ := List.mem_map.mp member
  split at named
  next here =>
    rw [if_pos here] at vpc
    rw [if_pos here, eq_newGroup absent admits known
      ((request.apply_same before).2.1.symm.trans named)
      ((request.apply_same before).2.2.symm.trans vpc), whole]
    exact ⟨rfl, by simp [PermissionRequest.apply, SecurityGroup.withPermissions,
      SecurityGroup.permissions, newGroup]⟩
  next other =>
    rw [if_neg other] at vpc
    rw [eq_newGroup absent admits known named vpc] at other
    exact absurd rfl other

/-- The new group is deleted or loses its permission. -/
theorem clearNewGroup_bare (lower : toLower name = name)
    (careful : (if (waitForCloudSecurityGroupCreation name answers.wait).isSome then
        answers.delete.takesEffect = true else answers.revoke.takesEffect = true) ∨
      (clearNewGroup answers name vpcID (directory.create _ admits)).1 = none) :
    Bare (clearNewGroup answers name vpcID (directory.create _ admits)).2 name vpcID := by
  unfold clearNewGroup at careful ⊢
  cases waited : waitForCloudSecurityGroupCreation name answers.wait with
  | some error =>
    simp only [waited, Option.isSome_some, if_true, reduceCtorEq, or_false] at careful
    simp only [careful, if_true]
    exact bare_delete absent admits
  | none =>
    cases found : (getCloudSecurityGroupsWithNameFromCloud [vpcID] [name]
        (directory.create _ admits)).get? name with
    | none =>
      have new : newGroup answers.groupId name vpcID ∈ (directory.create _ admits).groups :=
        List.mem_append_right _ List.mem_cons_self
      exact absurd rfl (absent_of_get? lower found _ new rfl)
    | some cloudSGObj =>
      simp only [waited, found, Option.isSome_none, Bool.false_eq_true, if_false] at careful ⊢
      have effect : answers.revoke.takesEffect = true :=
        careful.elim id Outcome.takesEffect_of_error
      obtain ⟨member, vpc, named, -⟩ := mem_of_getCloudSecurityGroups found
      have same := eq_newGroup absent admits member (List.mem_singleton.mp named)
        (List.mem_singleton.mp vpc)
      rw [if_pos effect]
      exact bare_revoke absent admits (by rw [same]; rfl)

end New

/-- A call that is clean, or that succeeds, leaves no group with the permission of EC2. -/
theorem createCloudSecurityGroup_bare (lower : toLower name = name)
    (absent : Absent directory name vpcID)
    (careful : answers.Clean name ∨
      (createCloudSecurityGroup answers name vpcID directory).1 = none) :
    Bare (createCloudSecurityGroup answers name vpcID directory).2 name vpcID := by
  unfold createCloudSecurityGroup at careful ⊢
  by_cases admits : answers.create.takesEffect = true ∧
      directory.Admits (newGroup answers.groupId name vpcID)
  · simp only [dif_pos admits] at careful ⊢
    cases failed : answers.create.error? with
    | some error =>
      simp only [failed, reduceCtorEq, or_false] at careful
      rw [(careful admits.1).1] at failed
      cases failed
    | none =>
      simp only [failed] at careful ⊢
      exact clearNewGroup_bare absent admits.2 lower
        (careful.imp_left fun clean => (clean admits.1).2)
  · rw [dif_neg admits]
    exact absent.bare

variable {identifier : CloudResourceID} {membershipOnly : Bool}

/-- The same for a whole call, from a directory in which the group is bare if it is there. -/
theorem createSecurityGroup_bare
    (bare : Bare directory (identifier.getCloudName membershipOnly) identifier.vpc)
    (careful : answers.Clean (identifier.getCloudName membershipOnly) ∨
      ∃ groupId, (createSecurityGroup answers identifier membershipOnly directory).1 =
        .ok groupId) :
    Bare (createSecurityGroup answers identifier membershipOnly directory).2
      (identifier.getCloudName membershipOnly) identifier.vpc := by
  have lower := identifier.toLower_getCloudName membershipOnly
  simp only [createSecurityGroup] at careful ⊢
  split
  next => exact bare
  next described =>
    split
    next => exact bare
    next unknown =>
      have step := @createCloudSecurityGroup_bare answers directory _ _ lower
        (absent_of_get? lower unknown)
      cases made : createCloudSecurityGroup answers (identifier.getCloudName membershipOnly)
          identifier.vpc directory with
      | mk failed after =>
        rw [made] at step
        simp only [described, unknown, made] at careful
        cases failed with
        | some error =>
          simp only [reduceCtorEq, exists_false, or_false] at careful
          exact step (.inl careful)
        | none =>
          have bare := step (.inr rfl)
          dsimp only
          split
          next => exact bare
          next => split <;> exact bare

/-- The group a successful call returns is in the directory under its name. -/
theorem createSecurityGroup_named {groupId : String} {after : Directory}
    (succeeded : createSecurityGroup answers identifier membershipOnly directory =
      (.ok groupId, after)) :
    ∃ group ∈ after.groups, group.groupId = groupId ∧
      group.groupName = identifier.getCloudName membershipOnly ∧
      group.vpcId = identifier.vpc := by
  have found {directory : Directory} {group : SecurityGroup}
      (found : (getCloudSecurityGroupsWithNameFromCloud [identifier.vpc]
        [identifier.getCloudName membershipOnly] directory).get?
          (identifier.getCloudName membershipOnly) = some group) :
      ∃ other ∈ directory.groups, other.groupId = group.groupId ∧
        other.groupName = identifier.getCloudName membershipOnly ∧
        other.vpcId = identifier.vpc := by
    obtain ⟨member, vpc, named, -⟩ := mem_of_getCloudSecurityGroups found
    exact ⟨group, member, rfl, List.mem_singleton.mp named, List.mem_singleton.mp vpc⟩
  simp only [createSecurityGroup] at succeeded
  split at succeeded
  next => cases succeeded
  next =>
    split at succeeded
    next group looked =>
      cases succeeded
      exact found looked
    next =>
      split at succeeded
      next => cases succeeded
      next =>
        split at succeeded
        next => cases succeeded
        next =>
          split at succeeded
          next => cases succeeded
          next group looked =>
            cases succeeded
            exact found looked

/-! ## Runs -/

/-- The directory after a call, whatever it returns. -/
def createStep (identifier : CloudResourceID) (membershipOnly : Bool) (directory : Directory)
    (answers : CreateAnswers) : Directory :=
  (createSecurityGroup answers identifier membershipOnly directory).2

/--
Whenever a call for a group that was not there at first succeeds, after any number
of clean calls, the group has no permissions.
-/
theorem created_groups_are_bare
    (absent : Absent directory (identifier.getCloudName membershipOnly) identifier.vpc)
    {calls : List CreateAnswers}
    (clean : ∀ call ∈ calls, call.Clean (identifier.getCloudName membershipOnly))
    {groupId : String} {after : Directory}
    (succeeded : createSecurityGroup answers identifier membershipOnly
      (run (createStep identifier membershipOnly) directory calls) = (.ok groupId, after)) :
    ∃ group ∈ after.groups, group.groupId = groupId ∧
      group.groupName = identifier.getCloudName membershipOnly ∧
      group.vpcId = identifier.vpc ∧
      group.ipPermissions = [] ∧ group.ipPermissionsEgress = [] := by
  have bare : Bare (run (createStep identifier membershipOnly) directory calls)
      (identifier.getCloudName membershipOnly) identifier.vpc := by
    have initially := absent.bare
    clear absent succeeded
    induction calls generalizing directory with
    | nil => exact initially
    | cons call rest induction =>
      exact induction (fun other member => clean other (List.mem_cons_of_mem _ member))
        (createSecurityGroup_bare initially (.inl (clean call List.mem_cons_self)))
  have bare := createSecurityGroup_bare bare (.inr ⟨groupId, congrArg Prod.fst succeeded⟩)
  rw [succeeded] at bare
  obtain ⟨group, member, same, named, vpc⟩ := createSecurityGroup_named succeeded
  exact ⟨group, member, same, named, vpc, bare group member named vpc⟩

end

/-- A call all of whose requests are carried out. -/
def CreateAnswers.all (groupId : String) : CreateAnswers :=
  ⟨none, groupId, .done, [.seen], .done, .done, none⟩

/-- An account without groups. -/
def noGroups : Directory := ⟨[], by decide, by decide⟩

/--
The request to revoke the permission of a new address group fails; the next call
finds the group and succeeds, and the group lets all egress traffic of its members
pass.
-/
theorem retried_group_allows_all_egress :
    (createSecurityGroup { CreateAnswers.all "sg-1" with revoke := .refused "RequestLimitExceeded" }
        ⟨"db", "vpc-1"⟩ true noGroups).1 = .error "RequestLimitExceeded" ∧
      (createSecurityGroup (CreateAnswers.all "sg-2") ⟨"db", "vpc-1"⟩ true
        (run (createStep ⟨"db", "vpc-1"⟩ true) noGroups
          [{ CreateAnswers.all "sg-1" with revoke := .refused "RequestLimitExceeded" }])).1 =
            .ok "sg-1" ∧
      (createSecurityGroup (CreateAnswers.all "sg-2") ⟨"db", "vpc-1"⟩ true
        (run (createStep ⟨"db", "vpc-1"⟩ true) noGroups
          [{ CreateAnswers.all "sg-1" with revoke := .refused "RequestLimitExceeded" }])).2.groups =
            [⟨"sg-1", "nephe-ag-db", "vpc-1", [], [allowAllEgress]⟩] := by
  exact ⟨rfl, rfl, rfl⟩

/-- A group that is created again after it was cleaned up has no permissions. -/
theorem recreated_group_is_bare :
    ∃ group ∈ (createSecurityGroup (CreateAnswers.all "sg-2") ⟨"db", "vpc-1"⟩ true
        (run (createStep ⟨"db", "vpc-1"⟩ true) noGroups
          [{ CreateAnswers.all "sg-1" with wait := [.unseen] }])).2.groups,
      group.groupId = "sg-2" ∧ group.ipPermissions = [] ∧ group.ipPermissionsEgress = [] := by
  have succeeded : createSecurityGroup (CreateAnswers.all "sg-2") ⟨"db", "vpc-1"⟩ true
      (run (createStep ⟨"db", "vpc-1"⟩ true) noGroups
        [{ CreateAnswers.all "sg-1" with wait := [.unseen] }]) =
      (.ok "sg-2", (createSecurityGroup (CreateAnswers.all "sg-2") ⟨"db", "vpc-1"⟩ true
        (run (createStep ⟨"db", "vpc-1"⟩ true) noGroups
          [{ CreateAnswers.all "sg-1" with wait := [.unseen] }])).2) := rfl
  obtain ⟨group, member, same, -, -, bare⟩ := created_groups_are_bare
    (fun _ member => absurd member List.not_mem_nil) (by decide) succeeded
  exact ⟨group, member, same, bare⟩

end Nephe.Aws
