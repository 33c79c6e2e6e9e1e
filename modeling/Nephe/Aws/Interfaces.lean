import Nephe.Aws.Ec2
import Nephe.Library.Keyed

/-!
# Members of AWS security groups

A member of a security group is a network interface to which the group is
attached.  `UpdateSecurityGroupMembers` (`aws_security.go`) visits the
interfaces of a VPC and computes for each the set of groups it should carry
from then on.
-/

namespace Nephe

open Library

/-- `FindResourcesBasedOnKind`: the names of the machines and of the interfaces. -/
def findResourcesBasedOnKind (cloudResources : List CloudResource) :
    GoSet String × GoSet String :=
  let named (type : CloudResourceType) :=
    (cloudResources.filter (·.type == type)).map fun resource => toLower resource.name.name
  (GoSet.ofList (named .virtualMachine), GoSet.ofList (named .networkInterface))

variable {cloudResources : List CloudResource} {name : String}

theorem mem_findResources_fst :
    name ∈ (findResourcesBasedOnKind cloudResources).1 ↔
      ∃ resource ∈ cloudResources, resource.type = .virtualMachine ∧
        toLower resource.name.name = name := by
  simp [findResourcesBasedOnKind, and_assoc]

theorem mem_findResources_snd :
    name ∈ (findResourcesBasedOnKind cloudResources).2 ↔
      ∃ resource ∈ cloudResources, resource.type = .networkInterface ∧
        toLower resource.name.name = name := by
  simp [findResourcesBasedOnKind, and_assoc]

namespace Aws

/-! ## The groups of one interface -/

/-- What the loop over the groups attached to an interface collects. -/
structure AttachedSgs where
  isGroupSgAttached : Bool
  numAppliedToGroupSgsAttached : Nat
  nepheControllerCreatedCloudSgsSet : GoSet String
  otherCloudSgsSet : GoSet String

/-- Before the loop. -/
def AttachedSgs.none : AttachedSgs := ⟨false, 0, ∅, ∅⟩

/-- The loop body. -/
def AttachedSgs.visit (directory : Directory) (groupCloudSgName : String)
    (attached : AttachedSgs) (groupId : String) : AttachedSgs :=
  let cloudSgName := toLower (directory.nameOf groupId)
  if !isNepheName cloudSgName then
    { attached with otherCloudSgsSet := attached.otherCloudSgsSet.add groupId }
  else
    { attached with
      isGroupSgAttached := attached.isGroupSgAttached || cloudSgName == groupCloudSgName
      numAppliedToGroupSgsAttached :=
        if isAppliedToName cloudSgName then attached.numAppliedToGroupSgsAttached + 1
        else attached.numAppliedToGroupSgsAttached
      nepheControllerCreatedCloudSgsSet :=
        attached.nepheControllerCreatedCloudSgsSet.add groupId }

/-- The loop over the groups attached to an interface. -/
def AttachedSgs.collect (directory : Directory) (groupCloudSgName : String)
    (groups : List String) : AttachedSgs :=
  groups.foldl (AttachedSgs.visit directory groupCloudSgName) AttachedSgs.none

/-- `buildEc2SgsToAttachForCaseMemberOnlySgWithNoATSgAttached`. -/
def buildEc2SgsToAttachForCaseMemberOnlySgWithNoATSgAttached
    (nepheControllerCreatedCloudSgsSet otherCloudSgsSet : GoSet String)
    (vpcDefaultSgID : String) : GoSet String :=
  let cloudSgsSet := otherCloudSgsSet.keys.foldl GoSet.add nepheControllerCreatedCloudSgsSet
  if otherCloudSgsSet.keys.isEmpty then cloudSgsSet.add vpcDefaultSgID else cloudSgsSet

/-- One call of `updateSecurityGroupMembers`: its arguments and what it looks up first. -/
structure MembersCall where
  groupCloudSgID : String
  groupCloudSgName : String
  vpcID : String
  vpcDefaultSgID : String
  memberVirtualMachines : GoSet String
  memberNetworkInterfaces : GoSet String
  membershipOnly : Bool

/-- `isNicAttachedToMemberVM || isNicMemberNetworkInterface`. -/
def MembersCall.IsMember (call : MembersCall) (interfaceID instanceId : String) : Prop :=
  instanceId ∈ call.memberVirtualMachines ∨ interfaceID ∈ call.memberNetworkInterfaces

instance (call : MembersCall) (interfaceID instanceId : String) :
    Decidable (call.IsMember interfaceID instanceId) :=
  inferInstanceAs (Decidable (_ ∨ _))

/--
The body of the loop over the interfaces: the groups to attach from now on, when
the interface has to be modified.
-/
def MembersCall.sgsToAttach (call : MembersCall) (directory : Directory)
    (interfaceID : String) (interface : NetworkInterface) : Option (GoSet String) :=
  match interface.instance? with
  | none => none
  | some instanceId =>
    let attached := AttachedSgs.collect directory call.groupCloudSgName interface.groups
    if attached.isGroupSgAttached then
      if call.IsMember interfaceID instanceId then none
      else
        let kept := attached.nepheControllerCreatedCloudSgsSet.drop call.groupCloudSgID
        -- The last appliedTo group goes: the interface falls back to the default group.
        if !call.membershipOnly && attached.numAppliedToGroupSgsAttached == 1 then
          some (kept.add call.vpcDefaultSgID)
        else if call.membershipOnly && attached.numAppliedToGroupSgsAttached == 0 then
          some (buildEc2SgsToAttachForCaseMemberOnlySgWithNoATSgAttached kept
            attached.otherCloudSgsSet call.vpcDefaultSgID)
        else some kept
    else if call.IsMember interfaceID instanceId then
      let extended := attached.nepheControllerCreatedCloudSgsSet.add call.groupCloudSgID
      if call.membershipOnly && attached.numAppliedToGroupSgsAttached == 0 then
        some (buildEc2SgsToAttachForCaseMemberOnlySgWithNoATSgAttached extended
          attached.otherCloudSgsSet call.vpcDefaultSgID)
      else some extended
    else none

/-! ## The account -/

/-- The tables of an account and the default groups the plug-in has looked up. -/
structure Account where
  directory : Directory
  networkInterfaces : GoMap String NetworkInterface
  vpcIDToDefaultSecurityGroup : GoMap String String

/-- How EC2 answers the requests of one call: with an error, or not. -/
structure MembersAnswers where
  describeSecurityGroups : Option String
  describeNetworkInterfaces : Option String
  describeDefault : Option String
  modifyNetworkInterfaceAttribute : String → Option String

/-- `buildAwsEc2FilterForVpcIDOnlyMatches`; no filter at all when there is no VPC. -/
def buildAwsEc2FilterForVpcIDOnlyMatches (vpcIDs : List String) : List Filter :=
  if vpcIDs.isEmpty then [] else [⟨.vpcID, vpcIDs.insertionSort (· ≤ ·)⟩]

/-- The attributes of an interface that EC2 filters by. -/
def NetworkInterface.attributes (interface : NetworkInterface) : FilterKey → Option String
  | .vpcID => some interface.vpcId
  | _ => none

/-- `getNetworkInterfacesOfVpc`, when EC2 answers. -/
def getNetworkInterfacesOfVpc (vpcIDs : List String)
    (networkInterfaces : GoMap String NetworkInterface) : List (String × NetworkInterface) :=
  networkInterfaces.bindings.filter fun entry =>
    matchesAll entry.2.attributes (buildAwsEc2FilterForVpcIDOnlyMatches vpcIDs)

def awsVpcDefaultSecurityGroupName : String := "default"

/-- `getVpcDefaultSecurityGroupID`; a VPC without a default group ends the program. -/
def getVpcDefaultSecurityGroupID (describeDefault : Option String) (vpcID : String)
    (account : Account) : Except String (String × Account) :=
  match account.vpcIDToDefaultSecurityGroup.get? vpcID with
  | some sgID => .ok (sgID, account)
  | none =>
    match describeDefault with
    | some error => .error error
    | none =>
      match (getCloudSecurityGroupsWithNameFromCloud [vpcID]
          [awsVpcDefaultSecurityGroupName] account.directory).get?
          awsVpcDefaultSecurityGroupName with
      | none => .error "invalid memory address or nil pointer dereference"
      | some group =>
        .ok (group.groupId, { account with
          vpcIDToDefaultSecurityGroup :=
            account.vpcIDToDefaultSecurityGroup.set vpcID group.groupId })

/-- The interface with other groups attached. -/
def NetworkInterface.carrying (sgIDSet : GoSet String) (interface : NetworkInterface) :
    NetworkInterface :=
  { interface with groups := sgIDSet.keys, distinct := sgIDSet.keys_nodup }

/-- `modifyNetworkInterfaceAttribute`, when EC2 carries it out. -/
def Account.attach (account : Account) (interfaceID : String) (sgIDSet : GoSet String) :
    Account :=
  { account with
    networkInterfaces :=
      account.networkInterfaces.adjust interfaceID (NetworkInterface.carrying sgIDSet) }

/-- `updateNetworkInterfaceSecurityGroups`: an empty set is replaced by the default group. -/
def updateNetworkInterfaceSecurityGroups (answers : MembersAnswers) (vpcID interfaceID : String)
    (sgIDSet : GoSet String) (account : Account) : Option String × Account :=
  let resolved :=
    if sgIDSet.keys.isEmpty then
      (getVpcDefaultSecurityGroupID answers.describeDefault vpcID account).map
        fun found => (GoSet.ofList [found.1], found.2)
    else .ok (sgIDSet, account)
  match resolved with
  | .error error => (some error, account)
  | .ok (sgIDs, account) =>
    match answers.modifyNetworkInterfaceAttribute interfaceID with
    | some error => (some error, account)
    | none => (none, account.attach interfaceID sgIDs)

/-- One of the concurrent modifications; an error is added to those of the others. -/
def modifyInterface (answers : MembersAnswers) (vpcID : String)
    (state : List String × Account) (entry : String × GoSet String) : List String × Account :=
  let updated := updateNetworkInterfaceSecurityGroups answers vpcID entry.1 entry.2 state.2
  (state.1 ++ updated.1.toList, updated.2)

/--
`processNetworkInterfaceModifyConcurrently`: every interface is modified, and the
errors are put together.
-/
def processNetworkInterfaceModifyConcurrently (answers : MembersAnswers) (vpcID : String)
    (networkInterfacesToModify : List (String × GoSet String)) (account : Account) :
    List String × Account :=
  networkInterfacesToModify.foldl (modifyInterface answers vpcID) ([], account)

/-- The loop of `updateSecurityGroupMembers` over the interfaces of the VPC. -/
def MembersCall.networkInterfacesToModify (call : MembersCall) (account : Account) :
    List (String × GoSet String) :=
  (getNetworkInterfacesOfVpc [call.vpcID] account.networkInterfaces).filterMap fun entry =>
    (call.sgsToAttach account.directory entry.1 entry.2).map fun sgs => (entry.1, sgs)

/-- What `updateSecurityGroupMembers` looks up before its loop. -/
def membersCall (groupCloudSgID groupCloudSgName vpcID : String)
    (cloudResourceIdentifiers : List CloudResource) (membershipOnly : Bool)
    (vpcDefaultSgID : String) : MembersCall :=
  ⟨groupCloudSgID, groupCloudSgName, vpcID, vpcDefaultSgID,
    (findResourcesBasedOnKind cloudResourceIdentifiers).1,
    (findResourcesBasedOnKind cloudResourceIdentifiers).2, membershipOnly⟩

/-- `updateSecurityGroupMembers`. -/
def updateSecurityGroupMembers (answers : MembersAnswers)
    (groupCloudSgID groupCloudSgName vpcID : String)
    (cloudResourceIdentifiers : List CloudResource) (membershipOnly : Bool)
    (account : Account) : Except String Unit × Account :=
  match answers.describeNetworkInterfaces with
  | some error => (.error error, account)
  | none =>
    match getVpcDefaultSecurityGroupID answers.describeDefault vpcID account with
    | .error error => (.error error, account)
    | .ok (vpcDefaultSgID, account) =>
      let call := membersCall groupCloudSgID groupCloudSgName vpcID
        cloudResourceIdentifiers membershipOnly vpcDefaultSgID
      let done := processNetworkInterfaceModifyConcurrently answers vpcID
        (call.networkInterfacesToModify account) account
      (if done.1.isEmpty then .ok () else .error ("; ".intercalate done.1), done.2)

/-- `awsCloud.UpdateSecurityGroupMembers`, for a VPC of the account. -/
def awsUpdateSecurityGroupMembers (answers : MembersAnswers) (groupIdentifier : CloudResourceID)
    (cloudResourceIdentifiers : List CloudResource) (membershipOnly : Bool)
    (account : Account) : Except String Unit × Account :=
  let groupCloudSgName := groupIdentifier.getCloudName membershipOnly
  match answers.describeSecurityGroups with
  | some error => (.error error, account)
  | none =>
    match (getCloudSecurityGroupsWithNameFromCloud [groupIdentifier.vpc] [groupCloudSgName]
        account.directory).get? groupCloudSgName with
    | none =>
      (.error ("failed to find cloud sg (" ++ groupIdentifier.name ++
        ") corresponding to address group (" ++ groupCloudSgName ++ ")"), account)
    | some group =>
      updateSecurityGroupMembers answers group.groupId groupCloudSgName
        groupIdentifier.vpc cloudResourceIdentifiers membershipOnly account

/-! ## The loop over the attached groups -/

/-- The group was made by the controller. -/
def Directory.isNephe (directory : Directory) (groupId : String) : Bool :=
  isNepheName (toLower (directory.nameOf groupId))

/-- The group was made for an appliedTo group. -/
def Directory.isAppliedTo (directory : Directory) (groupId : String) : Bool :=
  isAppliedToName (toLower (directory.nameOf groupId))

variable {groupId vpcID sgID : String} {describeDefault : Option String}
  {account account' : Account} {answers : MembersAnswers} {call : MembersCall}

theorem Directory.isNephe_of_isAppliedTo {directory : Directory}
    (applied : directory.isAppliedTo groupId = true) : directory.isNephe groupId = true :=
  isNepheName_of_appliedTo applied

/-- The loop sorts the groups by who made them, and counts those for appliedTo groups. -/
theorem AttachedSgs.foldl_visit (directory : Directory) (groupCloudSgName : String)
    (groups : List String) (attached : AttachedSgs) :
    groups.foldl (visit directory groupCloudSgName) attached =
      ⟨attached.isGroupSgAttached || groups.any fun groupId =>
          directory.isNephe groupId && toLower (directory.nameOf groupId) == groupCloudSgName,
        attached.numAppliedToGroupSgsAttached + (groups.filter directory.isAppliedTo).length,
        (groups.filter directory.isNephe).foldl GoSet.add
          attached.nepheControllerCreatedCloudSgsSet,
        (groups.filter fun groupId => !directory.isNephe groupId).foldl GoSet.add
          attached.otherCloudSgsSet⟩ := by
  induction groups generalizing attached with
  | nil => simp
  | cons groupId rest induction =>
    rw [List.foldl_cons, induction, visit]
    cases made : directory.isNephe groupId with
    | false =>
      have other : directory.isAppliedTo groupId = false := by
        rw [← Bool.not_eq_true]
        intro applied
        rw [Directory.isNephe_of_isAppliedTo applied] at made
        cases made
      have made' : isNepheName (toLower (directory.nameOf groupId)) = false := made
      simp [made, made', other]
    | true =>
      have made' : isNepheName (toLower (directory.nameOf groupId)) = true := made
      cases applied : directory.isAppliedTo groupId with
      | false =>
        have applied' : isAppliedToName (toLower (directory.nameOf groupId)) = false :=
          applied
        simp [made, made', applied, applied', Bool.or_assoc]
      | true =>
        have applied' : isAppliedToName (toLower (directory.nameOf groupId)) = true :=
          applied
        simp [made, made', applied, applied', Bool.or_assoc, Nat.add_assoc,
          Nat.add_comm 1]

namespace AttachedSgs

variable {directory : Directory} {groupCloudSgName : String} {groups : List String}

theorem isGroupSgAttached_collect :
    (collect directory groupCloudSgName groups).isGroupSgAttached = true ↔
      ∃ groupId ∈ groups, directory.isNephe groupId = true ∧
        toLower (directory.nameOf groupId) = groupCloudSgName := by
  simp [collect, foldl_visit, none]

theorem numAppliedTo_collect :
    (collect directory groupCloudSgName groups).numAppliedToGroupSgsAttached =
      (groups.filter directory.isAppliedTo).length := by
  simp [collect, foldl_visit, none]

theorem mem_nephe_collect {groupId : String} :
    groupId ∈ (collect directory groupCloudSgName groups).nepheControllerCreatedCloudSgsSet ↔
      groupId ∈ groups ∧ directory.isNephe groupId = true := by
  simp [collect, foldl_visit, none]

theorem mem_other_collect {groupId : String} :
    groupId ∈ (collect directory groupCloudSgName groups).otherCloudSgsSet ↔
      groupId ∈ groups ∧ directory.isNephe groupId = false := by
  simp [collect, foldl_visit, none]

end AttachedSgs

theorem mem_buildEc2SgsToAttach {nephe other : GoSet String} {vpcDefaultSgID : String} :
    groupId ∈ buildEc2SgsToAttachForCaseMemberOnlySgWithNoATSgAttached nephe other
        vpcDefaultSgID ↔
      groupId ∈ nephe ∨ groupId ∈ other ∨ ((∀ key, key ∉ other) ∧ groupId = vpcDefaultSgID) := by
  unfold buildEc2SgsToAttachForCaseMemberOnlySgWithNoATSgAttached
  have mem : groupId ∈ other.keys ↔ groupId ∈ other := Iff.rfl
  split
  next empty =>
    have absent := GoSet.keys_eq_nil.mp (List.isEmpty_iff.mp empty)
    simp only [GoSet.mem_add, GoSet.mem_foldl_add, mem, absent, not_false_eq_true, implies_true,
      true_and, false_or]
    exact or_comm
  next filled =>
    have present : ¬ ∀ key, key ∉ other := fun absent =>
      filled (List.isEmpty_iff.mpr (GoSet.keys_eq_nil.mpr absent))
    simp only [GoSet.mem_foldl_add, mem, present, false_and, or_false]
    exact or_comm

/-! ## One interface -/

/-- The groups of an interface are groups of its VPC. -/
def Directory.Holds (directory : Directory) (interface : NetworkInterface) : Prop :=
  ∀ groupId ∈ interface.groups, ∃ group ∈ directory.groups,
    group.groupId = groupId ∧ group.vpcId = interface.vpcId

/-- A call for a group of the controller, with the default group of its VPC. -/
structure MembersCall.Proper (call : MembersCall) (directory : Directory) : Prop where
  group : ∃ group ∈ directory.groups, group.groupId = call.groupCloudSgID ∧
    group.vpcId = call.vpcID ∧ group.groupName = call.groupCloudSgName
  lower : toLower call.groupCloudSgName = call.groupCloudSgName
  nephe : isNepheName call.groupCloudSgName = true
  default : ∃ group ∈ directory.groups, group.groupId = call.vpcDefaultSgID ∧
    group.vpcId = call.vpcID ∧ toLower group.groupName = awsVpcDefaultSecurityGroupName

namespace MembersCall

variable {call : MembersCall} {directory : Directory} {interface : NetworkInterface}
  {interfaceID instanceId groupId : String}

/-- The foreign groups an interface carries after it was modified. -/
def Keeps (call : MembersCall) (directory : Directory) (interface : NetworkInterface)
    (groupId : String) : Prop :=
  (call.membershipOnly = true ∧ (∀ other ∈ interface.groups, directory.isAppliedTo other = false) ∧
    (groupId ∈ interface.groups ∨ ((∀ other ∈ interface.groups, directory.isNephe other = true) ∧
      groupId = call.vpcDefaultSgID))) ∨
  (call.membershipOnly = false ∧ call.groupCloudSgID ∈ interface.groups ∧
    (interface.groups.filter directory.isAppliedTo).length = 1 ∧ groupId = call.vpcDefaultSgID)

theorem length_filter_appliedTo_eq_zero {groups : List String} :
    (groups.filter directory.isAppliedTo).length = 0 ↔
      ∀ groupId ∈ groups, directory.isAppliedTo groupId = false := by
  rw [List.length_eq_zero_iff, List.filter_eq_nil_iff]
  simp

theorem sgsToAttach_of_unattached (unattached : interface.instance? = none) :
    call.sgsToAttach directory interfaceID interface = none := by
  rw [sgsToAttach, unattached]

section Proper

variable (proper : call.Proper directory)

include proper

theorem Proper.nameOf_group :
    toLower (directory.nameOf call.groupCloudSgID) = call.groupCloudSgName := by
  obtain ⟨group, member, same, -, named⟩ := proper.group
  rw [← same, Directory.nameOf_groupId member, named, proper.lower]

theorem Proper.isNephe_group : directory.isNephe call.groupCloudSgID = true := by
  rw [Directory.isNephe, proper.nameOf_group, proper.nephe]

theorem Proper.isAppliedTo_group :
    directory.isAppliedTo call.groupCloudSgID = isAppliedToName call.groupCloudSgName := by
  rw [Directory.isAppliedTo, proper.nameOf_group]

theorem Proper.isNephe_default : directory.isNephe call.vpcDefaultSgID = false := by
  obtain ⟨group, member, same, -, named⟩ := proper.default
  rw [Directory.isNephe, ← same, Directory.nameOf_groupId member, named]
  rfl

variable (holds : directory.Holds interface) (vpc : interface.vpcId = call.vpcID)

include holds vpc

/-- Within a VPC the name tells the group. -/
theorem Proper.named_iff (attached : groupId ∈ interface.groups) :
    toLower (directory.nameOf groupId) = call.groupCloudSgName ↔
      groupId = call.groupCloudSgID := by
  constructor
  · intro named
    obtain ⟨group, member, same, inVpc⟩ := holds groupId attached
    obtain ⟨other, member', same', inVpc', named'⟩ := proper.group
    rw [← same, Directory.nameOf_groupId member] at named
    have equal : group = other := directory.names group member other member'
      (by rw [inVpc, vpc, inVpc']) (by rw [named, named', proper.lower])
    rw [← same, equal, same']
  · rintro rfl
    exact proper.nameOf_group

/-- The group is found by its name exactly when it is attached. -/
theorem Proper.attached_iff :
    (AttachedSgs.collect directory call.groupCloudSgName
        interface.groups).isGroupSgAttached = true ↔
      call.groupCloudSgID ∈ interface.groups := by
  rw [AttachedSgs.isGroupSgAttached_collect]
  constructor
  · rintro ⟨groupId, attached, -, named⟩
    rw [← (proper.named_iff holds vpc attached).mp named]
    exact attached
  · intro attached
    exact ⟨_, attached, proper.isNephe_group, proper.nameOf_group⟩

/-- An interface is modified when it carries the group and should not, or the other way. -/
theorem Proper.sgsToAttach_eq_none (running : interface.instance? = some instanceId) :
    call.sgsToAttach directory interfaceID interface = none ↔
      (call.groupCloudSgID ∈ interface.groups ↔ call.IsMember interfaceID instanceId) := by
  have found := proper.attached_iff holds vpc
  rw [sgsToAttach, running]
  by_cases attached : call.groupCloudSgID ∈ interface.groups
  · simp only [if_pos (found.mpr attached), attached, true_iff]
    split
    next member => simp [member]
    next stranger =>
      simp only [stranger, iff_false]
      split
      · exact Option.some_ne_none _
      · split <;> exact Option.some_ne_none _
  · simp only [if_neg fun named => attached (found.mp named), attached, false_iff]
    split
    next member =>
      simp only [member, not_true_eq_false, iff_false]
      split <;> exact Option.some_ne_none _
    next stranger => simp [stranger]

/-- The groups an interface carries after it was modified. -/
theorem Proper.mem_sgsToAttach (running : interface.instance? = some instanceId)
    {sgs : GoSet String} (modified : call.sgsToAttach directory interfaceID interface = some sgs) :
    groupId ∈ sgs ↔
      (directory.isNephe groupId = true ∧
        ((groupId = call.groupCloudSgID ∧ call.IsMember interfaceID instanceId) ∨
          (groupId ≠ call.groupCloudSgID ∧ groupId ∈ interface.groups))) ∨
      (directory.isNephe groupId = false ∧ call.Keeps directory interface groupId) := by
  have found := proper.attached_iff holds vpc
  have changed : ¬ (call.groupCloudSgID ∈ interface.groups ↔
      call.IsMember interfaceID instanceId) := by
    rw [← proper.sgsToAttach_eq_none holds vpc running, modified]
    exact Option.some_ne_none _
  have default := proper.isNephe_default
  have own := proper.isNephe_group
  rw [sgsToAttach, running] at modified
  simp only [Bool.and_eq_true, Bool.not_eq_true', beq_iff_eq,
    AttachedSgs.numAppliedTo_collect, length_filter_appliedTo_eq_zero] at modified
  by_cases attached : call.groupCloudSgID ∈ interface.groups
  · have stranger : ¬ call.IsMember interfaceID instanceId := fun member =>
      changed ⟨fun _ => member, fun _ => attached⟩
    rw [if_pos (found.mpr attached), if_neg stranger] at modified
    split at modified
    next last =>
      cases modified
      simp only [GoSet.mem_add, GoSet.mem_drop, AttachedSgs.mem_nephe_collect, Keeps]
      grind
    next =>
      split at modified
      next bare =>
        cases modified
        simp only [mem_buildEc2SgsToAttach, GoSet.mem_drop, AttachedSgs.mem_nephe_collect,
          AttachedSgs.mem_other_collect, Keeps]
        grind
      next =>
        cases modified
        simp only [GoSet.mem_drop, AttachedSgs.mem_nephe_collect, Keeps]
        grind
  · have member : call.IsMember interfaceID instanceId := by
      by_contra stranger
      exact changed ⟨fun there => absurd there attached, fun member => absurd member stranger⟩
    rw [if_neg fun named => attached (found.mp named), if_pos member] at modified
    split at modified
    next bare =>
      cases modified
      simp only [mem_buildEc2SgsToAttach, GoSet.mem_add, AttachedSgs.mem_nephe_collect,
        AttachedSgs.mem_other_collect, Keeps]
      grind
    next =>
      cases modified
      simp only [GoSet.mem_add, AttachedSgs.mem_nephe_collect, Keeps]
      grind

end Proper

/-! ## One call -/

/-- The set that is attached: an empty one is replaced by the default group. -/
def orDefault (call : MembersCall) (sgs : GoSet String) : GoSet String :=
  if sgs.keys.isEmpty then GoSet.ofList [call.vpcDefaultSgID] else sgs

/-- What a call that succeeds makes of an interface. -/
def refreshed (call : MembersCall) (directory : Directory) (interfaceID : String)
    (interface : NetworkInterface) : NetworkInterface :=
  if interface.vpcId = call.vpcID then
    match call.sgsToAttach directory interfaceID interface with
    | none => interface
    | some sgs => interface.carrying (call.orDefault sgs)
  else interface

theorem mem_networkInterfacesToModify {account : Account} {sgs : GoSet String} :
    (interfaceID, sgs) ∈ call.networkInterfacesToModify account ↔
      ∃ interface, account.networkInterfaces.get? interfaceID = some interface ∧
        interface.vpcId = call.vpcID ∧
        call.sgsToAttach account.directory interfaceID interface = some sgs := by
  simp only [networkInterfacesToModify, getNetworkInterfacesOfVpc, List.mem_filterMap,
    List.mem_filter, Option.map_eq_some_iff, Prod.exists, Prod.mk.injEq, GoMap.mem_bindings]
  have inVpc (interface : NetworkInterface) : matchesAll interface.attributes
      (buildAwsEc2FilterForVpcIDOnlyMatches [call.vpcID]) = true ↔
        interface.vpcId = call.vpcID := by
    simp [matchesAll, buildAwsEc2FilterForVpcIDOnlyMatches, NetworkInterface.attributes]
  constructor
  · rintro ⟨key, interface, ⟨found, vpc⟩, _, modified, rfl, rfl⟩
    exact ⟨interface, found, (inVpc interface).mp vpc, modified⟩
  · rintro ⟨interface, found, vpc, modified⟩
    exact ⟨interfaceID, interface, ⟨found, (inVpc interface).mpr vpc⟩, sgs, modified, rfl, rfl⟩

theorem nodup_networkInterfacesToModify (account : Account) :
    ((call.networkInterfacesToModify account).map (·.1)).Nodup := by
  have kept (list : List (String × NetworkInterface)) :
      ((list.filterMap fun entry =>
          (call.sgsToAttach account.directory entry.1 entry.2).map fun sgs =>
            (entry.1, sgs)).map (·.1)).Sublist (list.map (·.1)) := by
    induction list with
    | nil => exact List.Sublist.refl _
    | cons entry rest induction =>
      rw [List.filterMap_cons]
      cases call.sgsToAttach account.directory entry.1 entry.2 with
      | none => exact induction.cons _
      | some sgs => exact induction.cons_cons _
  exact ((kept _).trans (List.filter_sublist.map _)).nodup
    account.networkInterfaces.nodup_bindings

end MembersCall

/-- The default group that was looked up is remembered. -/
theorem getVpcDefaultSecurityGroupID_ok
    (found : getVpcDefaultSecurityGroupID describeDefault vpcID account = .ok (sgID, account')) :
    account'.vpcIDToDefaultSecurityGroup.get? vpcID = some sgID ∧
      account'.directory = account.directory ∧
      account'.networkInterfaces = account.networkInterfaces := by
  unfold getVpcDefaultSecurityGroupID at found
  split at found
  next cached =>
    cases found
    exact ⟨cached, rfl, rfl⟩
  next =>
    split at found
    next => cases found
    next =>
      split at found
      next => cases found
      next =>
        cases found
        exact ⟨GoMap.get?_set_self _ _ _, rfl, rfl⟩

theorem updateNetworkInterfaceSecurityGroups_eq
    (cached : account.vpcIDToDefaultSecurityGroup.get? call.vpcID = some call.vpcDefaultSgID)
    (interfaceID : String) (sgs : GoSet String) :
    updateNetworkInterfaceSecurityGroups answers call.vpcID interfaceID sgs account =
      match answers.modifyNetworkInterfaceAttribute interfaceID with
      | some error => (some error, account)
      | none => (none, account.attach interfaceID (call.orDefault sgs)) := by
  have found : getVpcDefaultSecurityGroupID answers.describeDefault call.vpcID account =
      .ok (call.vpcDefaultSgID, account) := by
    simp only [getVpcDefaultSecurityGroupID, cached]
  unfold updateNetworkInterfaceSecurityGroups MembersCall.orDefault
  cases empty : sgs.keys.isEmpty with
  | true => simp only [if_true, found]; rfl
  | false => rfl

/--
When no error is reported, every interface of the list was modified.

Errors are only added, so a list that is empty at the end was empty all along.
-/
theorem foldl_modifyInterface {errors : List String}
    (cached : account.vpcIDToDefaultSecurityGroup.get? call.vpcID = some call.vpcDefaultSgID)
    (toModify : List (String × GoSet String))
    (quiet : (toModify.foldl (modifyInterface answers call.vpcID) (errors, account)).1 = []) :
    errors = [] ∧
      (toModify.foldl (modifyInterface answers call.vpcID) (errors, account)).2 =
        toModify.foldl (fun account entry => account.attach entry.1 (call.orDefault entry.2))
          account := by
  induction toModify generalizing errors account with
  | nil => exact ⟨quiet, rfl⟩
  | cons entry rest induction =>
    rw [List.foldl_cons, modifyInterface,
      updateNetworkInterfaceSecurityGroups_eq cached] at quiet ⊢
    cases answer : answers.modifyNetworkInterfaceAttribute entry.1 with
    | some error =>
      simp only [answer] at quiet
      have empty := (induction cached quiet).1
      simp at empty
    | none =>
      simp only [answer, Option.toList_none, List.append_nil] at quiet ⊢
      exact induction cached quiet

theorem Account.get?_attach (account : Account) (interfaceID other : String)
    (sgs : GoSet String) :
    (account.attach interfaceID sgs).networkInterfaces.get? other =
      if other = interfaceID then
        (account.networkInterfaces.get? interfaceID).map (NetworkInterface.carrying sgs)
      else account.networkInterfaces.get? other :=
  GoMap.get?_adjust _ _ _ _

theorem MembersCall.get?_foldl_attach (call : MembersCall) (account : Account)
    (interfaceID : String) :
    ((call.networkInterfacesToModify account).foldl (fun account entry =>
        account.attach entry.1 (call.orDefault entry.2)) account).networkInterfaces.get?
          interfaceID =
      (account.networkInterfaces.get? interfaceID).map
        (call.refreshed account.directory interfaceID) := by
  have visits (entry : String × GoSet String) :
      Visits (fun (account : Account) entry => account.attach entry.1 (call.orDefault entry.2))
        (fun account key => account.networkInterfaces.get? key) (fun _ => True)
        (fun _ sgs before after =>
          after = before.map (NetworkInterface.carrying (call.orDefault sgs))) entry := by
    intro account _
    simp only [Account.get?_attach, if_true, true_and]
    exact fun key other => if_neg other
  have treated := (@foldl_visits _ _ _ _ _ _ _ _ _ (call.nodup_networkInterfacesToModify account)
    (fun entry _ => visits entry) account trivial).2 interfaceID
  cases found : account.networkInterfaces.get? interfaceID with
  | none =>
    rw [treated.1, found]
    · rfl
    · intro there
      obtain ⟨⟨key, sgs⟩, member, rfl⟩ := List.mem_map.mp there
      obtain ⟨interface, found', -⟩ := mem_networkInterfacesToModify.mp member
      rw [found] at found'
      cases found'
  | some interface =>
    by_cases listed : ∃ sgs, (interfaceID, sgs) ∈ call.networkInterfacesToModify account
    · obtain ⟨sgs, listed⟩ := listed
      obtain ⟨_, found', vpc, modified⟩ := mem_networkInterfacesToModify.mp listed
      cases found.symm.trans found'
      rw [treated.2 sgs listed, found]
      simp [refreshed, vpc, modified]
    · have unlisted : interfaceID ∉ (call.networkInterfacesToModify account).map (·.1) := by
        intro there
        obtain ⟨⟨key, sgs⟩, member, rfl⟩ := List.mem_map.mp there
        exact listed ⟨sgs, member⟩
      rw [treated.1 unlisted, found]
      simp only [Option.map_some, Option.some.injEq, refreshed]
      split
      next vpc =>
        cases modified : call.sgsToAttach account.directory interfaceID interface with
        | none => rfl
        | some sgs =>
          exact absurd ⟨sgs, mem_networkInterfacesToModify.mpr
            ⟨interface, found, vpc, modified⟩⟩ listed
      next => rfl

theorem MembersCall.foldl_attach_directory (call : MembersCall)
    (toModify : List (String × GoSet String)) (account : Account) :
    (toModify.foldl (fun account entry => account.attach entry.1 (call.orDefault entry.2))
        account).directory = account.directory ∧
      (toModify.foldl (fun account entry => account.attach entry.1 (call.orDefault entry.2))
        account).vpcIDToDefaultSecurityGroup = account.vpcIDToDefaultSecurityGroup := by
  induction toModify generalizing account with
  | nil => exact ⟨rfl, rfl⟩
  | cons entry rest induction => exact induction _

section Call

variable {answers : MembersAnswers} {groupCloudSgID groupCloudSgName vpcID : String}
  {cloudResourceIdentifiers : List CloudResource} {membershipOnly : Bool} {account : Account}

/-- A call that succeeds refreshes every interface, with the default group it has found. -/
theorem updateSecurityGroupMembers_ok
    (succeeded : (updateSecurityGroupMembers answers groupCloudSgID groupCloudSgName vpcID
      cloudResourceIdentifiers membershipOnly account).1 = .ok ()) :
    ∃ vpcDefaultSgID account',
      getVpcDefaultSecurityGroupID answers.describeDefault vpcID account =
        .ok (vpcDefaultSgID, account') ∧
      (updateSecurityGroupMembers answers groupCloudSgID groupCloudSgName vpcID
        cloudResourceIdentifiers membershipOnly account).2.directory = account.directory ∧
      (updateSecurityGroupMembers answers groupCloudSgID groupCloudSgName vpcID
        cloudResourceIdentifiers membershipOnly account).2.vpcIDToDefaultSecurityGroup =
          account'.vpcIDToDefaultSecurityGroup ∧
      ∀ interfaceID, (updateSecurityGroupMembers answers groupCloudSgID groupCloudSgName vpcID
          cloudResourceIdentifiers membershipOnly account).2.networkInterfaces.get? interfaceID =
        (account.networkInterfaces.get? interfaceID).map
          ((membersCall groupCloudSgID groupCloudSgName vpcID cloudResourceIdentifiers
            membershipOnly vpcDefaultSgID).refreshed account.directory interfaceID) := by
  unfold updateSecurityGroupMembers at succeeded ⊢
  cases described : answers.describeNetworkInterfaces with
  | some error => simp [described] at succeeded
  | none =>
    simp only [described] at succeeded ⊢
    cases looked : getVpcDefaultSecurityGroupID answers.describeDefault vpcID account with
    | error error => simp [looked] at succeeded
    | ok found =>
      obtain ⟨vpcDefaultSgID, account'⟩ := found
      simp only [looked] at succeeded ⊢
      obtain ⟨cached, directory, interfaces⟩ := getVpcDefaultSecurityGroupID_ok looked
      generalize made : membersCall groupCloudSgID groupCloudSgName vpcID
        cloudResourceIdentifiers membershipOnly vpcDefaultSgID = call at succeeded ⊢
      have vpc : call.vpcID = vpcID := by rw [← made]; rfl
      have default : call.vpcDefaultSgID = vpcDefaultSgID := by rw [← made]; rfl
      rw [← vpc, ← default] at cached
      have quiet : (processNetworkInterfaceModifyConcurrently answers vpcID
          (call.networkInterfacesToModify account') account').1 = [] := by
        by_contra noisy
        rw [if_neg (by rwa [List.isEmpty_iff])] at succeeded
        cases succeeded
      rw [processNetworkInterfaceModifyConcurrently, ← vpc] at quiet
      have done := (foldl_modifyInterface cached _ quiet).2
      have kept := call.foldl_attach_directory (call.networkInterfacesToModify account') account'
      refine ⟨vpcDefaultSgID, account', rfl, ?_, ?_, fun interfaceID => ?_⟩
      · rw [processNetworkInterfaceModifyConcurrently, ← vpc, done, kept.1, directory]
      · rw [processNetworkInterfaceModifyConcurrently, ← vpc, done, kept.2]
      · rw [made, processNetworkInterfaceModifyConcurrently, ← vpc, done,
          call.get?_foldl_attach account', interfaces, directory]

end Call

/-! ## Valid accounts -/

/--
Interfaces carry groups of their VPC, and what is remembered as the default group
of a VPC is its group of that name.
-/
structure Account.Valid (account : Account) : Prop where
  holds : ∀ interfaceID interface,
    account.networkInterfaces.get? interfaceID = some interface →
      account.directory.Holds interface
  cached : ∀ vpcID sgID, account.vpcIDToDefaultSecurityGroup.get? vpcID = some sgID →
    ∃ group ∈ account.directory.groups, group.groupId = sgID ∧ group.vpcId = vpcID ∧
      toLower group.groupName = awsVpcDefaultSecurityGroupName

/-- Looking the default group up keeps an account valid, and finds a default group. -/
theorem Account.Valid.getVpcDefault (valid : account.Valid)
    (found : getVpcDefaultSecurityGroupID describeDefault vpcID account = .ok (sgID, account')) :
    ∀ vpcID' sgID', account'.vpcIDToDefaultSecurityGroup.get? vpcID' = some sgID' →
      ∃ group ∈ account.directory.groups, group.groupId = sgID' ∧ group.vpcId = vpcID' ∧
        toLower group.groupName = awsVpcDefaultSecurityGroupName := by
  unfold getVpcDefaultSecurityGroupID at found
  split at found
  next =>
    cases found
    exact valid.cached
  next =>
    split at found
    next => cases found
    next =>
      split at found
      next => cases found
      next group looked =>
        cases found
        intro vpcID' sgID' cached
        rw [GoMap.get?_set] at cached
        split at cached
        next same =>
          cases cached
          obtain ⟨member, vpc, -, named⟩ := mem_of_getCloudSecurityGroups looked
          exact ⟨group, member, rfl, by simpa [same] using vpc, named⟩
        next => exact valid.cached vpcID' sgID' cached

/-- A call for a group of the directory is proper once the default group is found. -/
theorem Account.Valid.proper (valid : account.Valid)
    (found : getVpcDefaultSecurityGroupID describeDefault vpcID account = .ok (sgID, account'))
    {group : SecurityGroup} (member : group ∈ account.directory.groups) (vpc : group.vpcId = vpcID)
    (lower : toLower group.groupName = group.groupName) (nephe : isNepheName group.groupName = true)
    (cloudResourceIdentifiers : List CloudResource) (membershipOnly : Bool) :
    (membersCall group.groupId group.groupName vpcID cloudResourceIdentifiers membershipOnly
      sgID).Proper account.directory where
  group := ⟨group, member, rfl, vpc, rfl⟩
  lower := lower
  nephe := nephe
  default := valid.getVpcDefault found vpcID sgID (getVpcDefaultSecurityGroupID_ok found).1

namespace MembersCall

variable {call : MembersCall} {directory : Directory} {interface : NetworkInterface}
  {interfaceID instanceId groupId : String}

theorem mem_orDefault {sgs : GoSet String} :
    groupId ∈ call.orDefault sgs ↔
      groupId ∈ sgs ∨ ((∀ key, key ∉ sgs) ∧ groupId = call.vpcDefaultSgID) := by
  unfold orDefault
  split
  next empty =>
    have absent := GoSet.keys_eq_nil.mp (List.isEmpty_iff.mp empty)
    simp [absent]
  next filled =>
    have present : ¬ ∀ key, key ∉ sgs := fun absent =>
      filled (List.isEmpty_iff.mpr (GoSet.keys_eq_nil.mpr absent))
    simp only [present, false_and, or_false]

theorem refreshed_vpcId : (call.refreshed directory interfaceID interface).vpcId =
    interface.vpcId := by
  unfold refreshed
  split
  · split <;> rfl
  · rfl

theorem refreshed_instance : (call.refreshed directory interfaceID interface).instance? =
    interface.instance? := by
  unfold refreshed
  split
  · split <;> rfl
  · rfl

theorem refreshed_of_unattached (unattached : interface.instance? = none) :
    call.refreshed directory interfaceID interface = interface := by
  rw [refreshed, sgsToAttach_of_unattached unattached]
  split <;> rfl

theorem refreshed_of_modified (vpc : interface.vpcId = call.vpcID) {sgs : GoSet String}
    (modified : call.sgsToAttach directory interfaceID interface = some sgs) :
    call.refreshed directory interfaceID interface =
      interface.carrying (call.orDefault sgs) := by
  rw [refreshed, if_pos vpc, modified]

theorem mem_carrying {sgs : GoSet String} :
    groupId ∈ (interface.carrying sgs).groups ↔ groupId ∈ sgs :=
  Iff.rfl

/-- Of the groups of the controller only the one of the call is attached or detached. -/
theorem Proper.mem_refreshed (proper : call.Proper directory)
    (holds : directory.Holds interface) (vpc : interface.vpcId = call.vpcID)
    (running : interface.instance? = some instanceId)
    (nephe : directory.isNephe groupId = true) :
    groupId ∈ (call.refreshed directory interfaceID interface).groups ↔
      (groupId = call.groupCloudSgID ∧ call.IsMember interfaceID instanceId) ∨
        (groupId ≠ call.groupCloudSgID ∧ groupId ∈ interface.groups) := by
  cases modified : call.sgsToAttach directory interfaceID interface with
  | none =>
    have settled := (proper.sgsToAttach_eq_none holds vpc running).mp modified
    rw [refreshed, if_pos vpc, modified]
    by_cases own : groupId = call.groupCloudSgID
    · simp [own, settled]
    · simp [own]
  | some sgs =>
    have other : groupId ≠ call.vpcDefaultSgID := by
      rintro rfl
      rw [proper.isNephe_default] at nephe
      cases nephe
    rw [refreshed_of_modified vpc modified, mem_carrying, mem_orDefault,
      proper.mem_sgsToAttach holds vpc running modified]
    simp [nephe, other]

theorem Proper.holds_refreshed (proper : call.Proper directory)
    (holds : directory.Holds interface) :
    directory.Holds (call.refreshed directory interfaceID interface) := by
  intro groupId attached
  rw [refreshed_vpcId]
  by_cases vpc : interface.vpcId = call.vpcID
  · cases running : interface.instance? with
    | none =>
      rw [refreshed_of_unattached running] at attached
      exact holds groupId attached
    | some instanceId =>
      cases modified : call.sgsToAttach directory interfaceID interface with
      | none =>
        rw [refreshed, if_pos vpc, modified] at attached
        exact holds groupId attached
      | some sgs =>
        have known : groupId ∈ interface.groups ∨ groupId = call.groupCloudSgID ∨
            groupId = call.vpcDefaultSgID := by
          rw [refreshed_of_modified vpc modified, mem_carrying, mem_orDefault,
            proper.mem_sgsToAttach holds vpc running modified, Keeps] at attached
          rcases attached with (⟨-, own | there⟩ | ⟨-, bare | last⟩) | fallback
          · exact .inr (.inl own.1)
          · exact .inl there.2
          · rcases bare.2.2 with there | default
            · exact .inl there
            · exact .inr (.inr default.2)
          · exact .inr (.inr last.2.2.2)
          · exact .inr (.inr fallback.2)
        rcases known with known | known | known
        · exact holds groupId known
        · obtain ⟨group, member, same, inVpc, -⟩ := proper.group
          exact ⟨group, member, same.trans known.symm, inVpc.trans vpc.symm⟩
        · obtain ⟨group, member, same, inVpc, -⟩ := proper.default
          exact ⟨group, member, same.trans known.symm, inVpc.trans vpc.symm⟩
  · rw [refreshed, if_neg vpc] at attached
    exact holds groupId attached

end MembersCall

end Aws

end Nephe
