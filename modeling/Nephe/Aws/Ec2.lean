import Nephe.SecurityGroup.Types
import Nephe.Library.GoSet
import Nephe.Library.Text

/-!
# Security groups and network interfaces in EC2

The names under which the controller keeps its groups in the cloud
(`pkg/cloud-provider/securitygroup`), and the part of an EC2 account that the
plug-in (`pkg/cloud-provider/cloudapi/aws`) reads and writes.

EC2 itself is not part of the source.  It is modelled by the tables it keeps:
the security groups, in the order in which they are listed, and the network
interfaces by their ids.  Filters are read as EC2 reads them: a resource has to
satisfy every filter, and satisfies one by carrying any of its values.
-/

namespace Nephe

open Library

/-! ## Names -/

def nepheControllerAddressGroupPrefix : String := "nephe-ag-"

def nepheControllerAppliedToPrefix : String := "nephe-at-"

/-- `CloudResourceID.GetCloudName`. -/
def CloudResourceID.getCloudName (id : CloudResourceID) (membershipOnly : Bool) : String :=
  if membershipOnly then nepheControllerAddressGroupPrefix ++ toLower id.name
  else nepheControllerAppliedToPrefix ++ toLower id.name

/--
`IsNepheControllerCreatedSG`: the name of the group, whether it was made for an
address group, and whether it was made for an appliedTo group.
-/
def isNepheControllerCreatedSG (cloudSgName : String) : String × Bool × Bool :=
  let suffix := trimPrefix cloudSgName nepheControllerAddressGroupPrefix
  if suffix.length < cloudSgName.length then (toLower suffix, true, false)
  else
    let suffix := trimPrefix cloudSgName nepheControllerAppliedToPrefix
    if suffix.length < cloudSgName.length then (toLower suffix, false, true)
    else ("", false, false)

/-- The group was made for an appliedTo group. -/
def isAppliedToName (cloudSgName : String) : Bool :=
  (isNepheControllerCreatedSG cloudSgName).2.2

/-- The group was made by the controller. -/
def isNepheName (cloudSgName : String) : Bool :=
  (isNepheControllerCreatedSG cloudSgName).2.1 || isAppliedToName cloudSgName

theorem CloudResourceID.toLower_getCloudName (id : CloudResourceID) (membershipOnly : Bool) :
    toLower (id.getCloudName membershipOnly) = id.getCloudName membershipOnly := by
  have start : toLower nepheControllerAddressGroupPrefix = nepheControllerAddressGroupPrefix := rfl
  have start' : toLower nepheControllerAppliedToPrefix = nepheControllerAppliedToPrefix := rfl
  cases membershipOnly <;>
    simp [getCloudName, toLower_append, toLower_toLower, start, start']

theorem CloudResourceID.isNephe_getCloudName_true (id : CloudResourceID) :
    isNepheControllerCreatedSG (id.getCloudName true) = (toLower id.name, true, false) := by
  simp only [getCloudName, if_true, isNepheControllerCreatedSG, trimPrefix_append,
    toLower_toLower]
  rw [if_pos]
  rw [String.length_append]
  have start : nepheControllerAddressGroupPrefix.length = 9 := rfl
  omega

theorem CloudResourceID.isNephe_getCloudName_false (id : CloudResourceID) :
    isNepheControllerCreatedSG (id.getCloudName false) = (toLower id.name, false, true) := by
  have other : trimPrefix (nepheControllerAppliedToPrefix ++ toLower id.name)
      nepheControllerAddressGroupPrefix = nepheControllerAppliedToPrefix ++ toLower id.name := by
    rw [trimPrefix, String.toList_append, if_neg]
    exact Bool.false_ne_true
  simp only [getCloudName, Bool.false_eq_true, if_false, isNepheControllerCreatedSG, other,
    trimPrefix_append, toLower_toLower, lt_irrefl]
  rw [if_pos]
  rw [String.length_append]
  have start : nepheControllerAppliedToPrefix.length = 9 := rfl
  omega

/-- A cloud name tells which kind of group it was made for. -/
theorem CloudResourceID.isAppliedTo_getCloudName (id : CloudResourceID) (membershipOnly : Bool) :
    isAppliedToName (id.getCloudName membershipOnly) = !membershipOnly := by
  cases membershipOnly with
  | false => rw [isAppliedToName, isNephe_getCloudName_false]; rfl
  | true => rw [isAppliedToName, isNephe_getCloudName_true]; rfl

theorem CloudResourceID.isNephe_getCloudName (id : CloudResourceID) (membershipOnly : Bool) :
    isNepheName (id.getCloudName membershipOnly) = true := by
  cases membershipOnly with
  | false => rw [isNepheName, isAppliedTo_getCloudName]; exact Bool.or_true _
  | true => rw [isNepheName, isNephe_getCloudName_true]; rfl

theorem isNepheName_of_appliedTo {name : String} (applied : isAppliedToName name = true) :
    isNepheName name = true := by
  rw [isNepheName, applied, Bool.or_true]

namespace Aws

/-! ## Filters -/

/-- The filter keys of `aws_filter_helpers.go`. -/
inductive FilterKey where
  | vpcID
  | vmID
  | vmName
  | groupName
  | instanceState
  /-- Not known to EC2: it is replaced by `vpcID` before a request is made. -/
  | vpcName
deriving DecidableEq, Repr

/-- `ec2.Filter`. -/
structure Filter where
  name : FilterKey
  values : List String
deriving DecidableEq, Repr

/-- A resource with these attributes satisfies every filter. -/
def matchesAll (attributes : FilterKey → Option String) (filters : List Filter) : Bool :=
  filters.all fun filter => (attributes filter.name).any filter.values.contains

/-! ## Tables -/

/-- `ec2.IpPermission`; a group pair is the id of the group, a range its text. -/
structure IpPermission where
  fromPort : Option Int
  toPort : Option Int
  ipProtocol : String
  ipRanges : List String
  userIdGroupPairs : List String
deriving DecidableEq, Repr

/-- `ec2.SecurityGroup`. -/
structure SecurityGroup where
  groupId : String
  groupName : String
  vpcId : String
  ipPermissions : List IpPermission
  ipPermissionsEgress : List IpPermission
deriving DecidableEq, Repr

/--
The security groups of an account, as EC2 lists them.

A group id is given out once, and EC2 compares the names of a VPC without
regard to case.
-/
structure Directory where
  groups : List SecurityGroup
  ids : (groups.map (·.groupId)).Nodup
  names : ∀ group ∈ groups, ∀ other ∈ groups, group.vpcId = other.vpcId →
    toLower group.groupName = toLower other.groupName → group = other

/--
`ec2.NetworkInterface`, without its id.  The attachment may name no instance; of
the attached groups the ids are kept, and none is attached twice.
-/
structure NetworkInterface where
  vpcId : String
  attachment : Option (Option String)
  groups : List String
  distinct : groups.Nodup
deriving DecidableEq

/-- The instance an interface is attached to. -/
def NetworkInterface.instance? (interface : NetworkInterface) : Option String :=
  interface.attachment.join

namespace Directory

variable (directory : Directory)

/-- The group with an id. -/
def find (groupId : String) : Option SecurityGroup :=
  directory.groups.find? (·.groupId == groupId)

/-- The name under which EC2 reports a group that is attached to an interface. -/
def nameOf (groupId : String) : String :=
  ((directory.find groupId).map (·.groupName)).getD ""

variable {directory}

theorem eq_of_groupId {group other : SecurityGroup} (member : group ∈ directory.groups)
    (member' : other ∈ directory.groups) (same : group.groupId = other.groupId) :
    group = other :=
  List.inj_on_of_nodup_map directory.ids member member' same

theorem find_groupId {group : SecurityGroup} (member : group ∈ directory.groups) :
    directory.find group.groupId = some group := by
  cases found : directory.find group.groupId with
  | none =>
    have absent := List.find?_eq_none.mp found group member
    simp at absent
  | some other =>
    have same : other.groupId = group.groupId := by
      simpa using List.find?_some found
    rw [eq_of_groupId (List.mem_of_find?_eq_some found) member same]

theorem nameOf_groupId {group : SecurityGroup} (member : group ∈ directory.groups) :
    directory.nameOf group.groupId = group.groupName := by
  rw [nameOf, find_groupId member]
  rfl

end Directory

/-- The attributes of a security group that EC2 filters by. -/
def SecurityGroup.attributes (group : SecurityGroup) : FilterKey → Option String
  | .vpcID => some group.vpcId
  | .groupName => some group.groupName
  | _ => none

/-- `describeSecurityGroups`. -/
def describeSecurityGroups (filters : List Filter) (directory : Directory) :
    List SecurityGroup :=
  directory.groups.filter fun group => matchesAll group.attributes filters

/-- `buildAwsEc2FilterForSecurityGroupNameMatches`. -/
def buildAwsEc2FilterForSecurityGroupNameMatches (vpcIDs cloudSGNames : List String) :
    List Filter :=
  [⟨.vpcID, vpcIDs⟩, ⟨.groupName, cloudSGNames⟩]

/--
`getCloudSecurityGroupsWithNameFromCloud`: the groups found, by their names in
lower case.  Of two groups with one name the one listed last is kept.
-/
def getCloudSecurityGroupsWithNameFromCloud (vpcIDs cloudSGNames : List String)
    (directory : Directory) : GoMap String SecurityGroup :=
  (describeSecurityGroups
    (buildAwsEc2FilterForSecurityGroupNameMatches vpcIDs cloudSGNames) directory).foldl
      (fun map group => map.set (toLower group.groupName) group) ∅

variable {vpcIDs cloudSGNames : List String} {directory : Directory} {group : SecurityGroup}

theorem mem_describe_names :
    group ∈ describeSecurityGroups
        (buildAwsEc2FilterForSecurityGroupNameMatches vpcIDs cloudSGNames) directory ↔
      group ∈ directory.groups ∧ group.vpcId ∈ vpcIDs ∧ group.groupName ∈ cloudSGNames := by
  simp [describeSecurityGroups, buildAwsEc2FilterForSecurityGroupNameMatches, matchesAll,
    SecurityGroup.attributes]

/-- A name leads to the group that is listed last under it. -/
theorem get?_getCloudSecurityGroups (vpcIDs cloudSGNames : List String) (directory : Directory)
    (name : String) :
    (getCloudSecurityGroupsWithNameFromCloud vpcIDs cloudSGNames directory).get? name =
      (describeSecurityGroups
        (buildAwsEc2FilterForSecurityGroupNameMatches vpcIDs cloudSGNames)
        directory).reverse.find? fun group => toLower group.groupName = name := by
  rw [getCloudSecurityGroupsWithNameFromCloud,
    GoMap.get?_foldl_set (fun group : SecurityGroup => toLower group.groupName) fun group => group]
  simp

theorem mem_of_getCloudSecurityGroups {name : String}
    (found : (getCloudSecurityGroupsWithNameFromCloud vpcIDs cloudSGNames directory).get? name =
      some group) :
    group ∈ directory.groups ∧ group.vpcId ∈ vpcIDs ∧ group.groupName ∈ cloudSGNames ∧
      toLower group.groupName = name := by
  rw [get?_getCloudSecurityGroups] at found
  have listed := mem_describe_names.mp (List.mem_reverse.mp (List.mem_of_find?_eq_some found))
  exact ⟨listed.1, listed.2.1, listed.2.2, by simpa using List.find?_some found⟩

end Aws

end Nephe
