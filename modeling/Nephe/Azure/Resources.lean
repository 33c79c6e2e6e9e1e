import Nephe.Aws.Ec2

/-!
# Security groups in Azure

The Azure resources that the plug-in (`pkg/cloud-provider/cloudapi/azure`) reads and
writes: application security groups (ASGs), of which every group has one, the rules
of network security groups (NSGs), of which every virtual network has one, and the
ids of resources, from which names and resource groups are taken
(`azure_utils.go`).
-/

namespace Nephe.Azure

open Library

/-! ## Ids of resources -/

/-- The characters of a text as `%q` writes them between its quotation marks. -/
def quoted (s : String) : List Char :=
  s.toList.flatMap fun c => if c = '"' ∨ c = '\\' then ['\\', c] else [c]

/-- `strings.Trim(token, "\"")`. -/
def trimQuotes (token : List Char) : List Char :=
  ((token.dropWhile (· == '"')).reverse.dropWhile (· == '"')).reverse

/-- The fields of an id: its parts between slashes that are not empty, in lower case. -/
def lowerCaseIDFields (resourceID : String) : List String :=
  ((('"' :: quoted resourceID ++ ['"']).splitOn '/').map trimQuotes).filterMap fun field =>
    if field.isEmpty then none else some (toLower (String.ofList field))

/--
`extractFieldsFromAzureResourceID`: the subscription, the resource group and the name of
a resource.
-/
def extractFieldsFromAzureResourceID (resourceID : String) :
    Except String (String × String × String) :=
  match lowerCaseIDFields resourceID with
  | _ :: subscriptionID :: _ :: resourceGroupName :: _ :: _ :: _ :: resourceName :: _ =>
    .ok (subscriptionID, resourceGroupName, resourceName)
  | _ => .error ("not a valid azure resource id format (" ++ resourceID ++ ")")

/-- The name in an id, when the id has one. -/
def nameInID (resourceID : String) : Option String :=
  (extractFieldsFromAzureResourceID resourceID).toOption.map (·.2.2)

/-- The last of the parts between slashes. -/
def lastToken (id : String) : String :=
  String.ofList ((id.toList.splitOn '/').getLast?.getD [])

/-! ## Names -/

def appliedToSecurityGroupNamePerVnet : String := "per-vnet-default"

/-- The name of the NSG of a virtual network. -/
def perVnetNsgName (vnetID : String) : String :=
  (CloudResourceID.mk appliedToSecurityGroupNamePerVnet vnetID).getCloudName false ++ "-" ++
    lastToken vnetID

/-- The name of the NSG is in lower case when the end of the id is. -/
theorem toLower_perVnetNsgName {vnetID : String} :
    toLower (perVnetNsgName vnetID) = perVnetNsgName vnetID ↔
      toLower (lastToken vnetID) = lastToken vnetID := by
  have dash : toLower "-" = "-" := rfl
  rw [perVnetNsgName, toLower_append, toLower_append, CloudResourceID.toLower_getCloudName, dash,
    ← String.toList_inj]
  simp only [String.toList_append, List.append_cancel_left_eq, String.toList_inj]

/-- In lower case, the name of the NSG is the cloud name of another group. -/
theorem toLower_perVnetNsgName_eq (vnetID : String) :
    toLower (perVnetNsgName vnetID) =
      (CloudResourceID.mk (appliedToSecurityGroupNamePerVnet ++ "-" ++ lastToken vnetID)
        vnetID).getCloudName false := by
  have fixed : toLower (appliedToSecurityGroupNamePerVnet ++ "-") =
      appliedToSecurityGroupNamePerVnet ++ "-" := rfl
  have dash : toLower "-" = "-" := rfl
  rw [perVnetNsgName, toLower_append, toLower_append, CloudResourceID.toLower_getCloudName, dash]
  simp only [CloudResourceID.getCloudName, Bool.false_eq_true, if_false,
    toLower_append _ (lastToken vnetID), fixed, ← String.append_assoc]
  rfl

theorem toLower_lastToken {id : String} (lower : toLower id = id) :
    toLower (lastToken id) = lastToken id := by
  rw [toLower_eq_self_iff] at lower ⊢
  intro c member
  rw [lastToken, String.toList_ofList] at member
  cases last : (id.toList.splitOn '/').getLast? with
  | none =>
    rw [last] at member
    cases member
  | some part =>
    rw [last] at member
    exact lower c (mem_of_mem_splitOn (List.mem_of_getLast? last) member)

/-- A cloud name tells the kind of the group and its name, up to case. -/
theorem getCloudName_inj {group other : CloudResourceID} {membershipOnly membershipOnly' : Bool}
    (same : group.getCloudName membershipOnly = other.getCloudName membershipOnly') :
    membershipOnly = membershipOnly' ∧ toLower group.name = toLower other.name := by
  have kinds := congrArg isAppliedToName same
  have names := congrArg (fun name => (isNepheControllerCreatedSG name).1) same
  rw [group.isAppliedTo_getCloudName, other.isAppliedTo_getCloudName, Bool.not_inj_iff] at kinds
  subst kinds
  refine ⟨rfl, ?_⟩
  cases membershipOnly with
  | false => simpa only [CloudResourceID.isNephe_getCloudName_false] using names
  | true => simpa only [CloudResourceID.isNephe_getCloudName_true] using names

/-! ## Groups and rules -/

/-- `network.ApplicationSecurityGroup`. -/
structure ApplicationSecurityGroup where
  id : String
  name : String
deriving DecidableEq, Repr

/-- `network.SecurityRuleProtocol`. -/
inductive SecurityRuleProtocol where
  | ah
  | asterisk
  | esp
  | icmp
  | tcp
  | udp
deriving DecidableEq, Repr

/-- `network.SecurityRuleDirection`. -/
inductive SecurityRuleDirection where
  | inbound
  | outbound
deriving DecidableEq, Repr

def SecurityRuleDirection.string : SecurityRuleDirection → String
  | .inbound => "Inbound"
  | .outbound => "Outbound"

/-- `network.SecurityRuleAccess`. -/
inductive SecurityRuleAccess where
  | allow
  | deny
deriving DecidableEq, Repr

/-- The three fields that say where a packet comes from, or where it goes. -/
structure Endpoint where
  addressPrefix : Option String := none
  addressPrefixes : Option (List String) := none
  applicationSecurityGroups : Option (List ApplicationSecurityGroup) := none
deriving DecidableEq, Repr

/-- `network.SecurityRule`. -/
structure SecurityRule where
  name : String
  protocol : SecurityRuleProtocol
  sourcePortRange : Option String
  source : Endpoint
  destinationPortRange : Option String
  destination : Endpoint
  access : SecurityRuleAccess
  priority : Nat
  direction : SecurityRuleDirection
  description : Option String
deriving DecidableEq, Repr

/-- The end of a rule that is not a member of the group the rule is for. -/
def SecurityRule.peer (rule : SecurityRule) : Endpoint :=
  match rule.direction with
  | .inbound => rule.source
  | .outbound => rule.destination

/-! ## The groups of a resource group -/

/--
`getNepheControllerCreatedAsgByNameForResourceGroup`, for the ASGs that Azure lists: those
made for address groups and those made for appliedTo groups, by the names of the groups.
-/
def getNepheControllerCreatedAsgByName (asgs : List ApplicationSecurityGroup) :
    GoMap String ApplicationSecurityGroup × GoMap String ApplicationSecurityGroup :=
  asgs.foldl (fun byName asg =>
    let (sgName, isAG, isAT) := isNepheControllerCreatedSG asg.name
    if isAT then (byName.1, byName.2.set (toLower sgName) asg)
    else if isAG then (byName.1.set (toLower sgName) asg, byName.2)
    else byName) (∅, ∅)

/-- A name that was made for an address group. -/
theorem exists_of_isAddressGroup {name sgName : String} {isAT : Bool}
    (made : isNepheControllerCreatedSG name = (sgName, true, isAT)) :
    ∃ group : CloudResourceID, toLower name = group.getCloudName true ∧
      sgName = toLower group.name := by
  unfold isNepheControllerCreatedSG at made
  simp only at made
  split at made
  next shorter =>
    obtain ⟨rfl, _⟩ := Prod.mk.inj made
    refine ⟨⟨trimPrefix name nepheControllerAddressGroupPrefix, ""⟩, ?_, rfl⟩
    have starts : nepheControllerAddressGroupPrefix.toList.isPrefixOf name.toList = true := by
      by_contra without
      rw [trimPrefix, if_neg without] at shorter
      exact absurd shorter (lt_irrefl _)
    have split : name = nepheControllerAddressGroupPrefix ++
        trimPrefix name nepheControllerAddressGroupPrefix := by
      rw [trimPrefix, if_pos starts]
      obtain ⟨rest, whole⟩ := List.isPrefixOf_iff_prefix.mp starts
      apply String.toList_injective
      rw [String.toList_append, String.toList_ofList, ← whole, List.drop_left]
    conv_lhs => rw [split]
    rw [toLower_append]
    rfl
  next =>
    split at made <;> cases made

/-- What the map of address groups holds. -/
theorem mem_of_get?_ag {asgs : List ApplicationSecurityGroup} {key : String}
    {asg : ApplicationSecurityGroup}
    (found : (getNepheControllerCreatedAsgByName asgs).1.get? key = some asg) :
    asg ∈ asgs ∧ ∃ sgName isAT, isNepheControllerCreatedSG asg.name = (sgName, true, isAT) ∧
      toLower sgName = key := by
  let Holds (byName : GoMap String ApplicationSecurityGroup ×
      GoMap String ApplicationSecurityGroup) : Prop :=
    ∀ key asg, byName.1.get? key = some asg → asg ∈ asgs ∧ ∃ sgName isAT,
      isNepheControllerCreatedSG asg.name = (sgName, true, isAT) ∧ toLower sgName = key
  have holds : Holds (getNepheControllerCreatedAsgByName asgs) := by
    refine List.foldlRecOn asgs _ (fun _ _ => (by simp)) ?_
    intro byName before asg listed key found
    rcases made : isNepheControllerCreatedSG asg.name with ⟨sgName, isAG, isAT⟩
    cases isAT with
    | true => simpa [made] using before key found
    | false =>
      cases isAG with
      | false => simpa [made] using before key found
      | true =>
        intro stored
        simp only [Bool.false_eq_true, if_false, if_true, GoMap.get?_set] at stored
        split at stored
        next same =>
          cases stored
          exact ⟨listed, sgName, false, made, same.symm⟩
        next => exact before key found stored
  exact holds key asg found

end Nephe.Azure
