import Nephe.Azure.SecurityRules
import Nephe.Aws.Interfaces
import Nephe.Library.Results

/-!
# Members of Azure security groups

A network interface is a member of a group when the ASG of the group is on the list of
its IP configurations.  The members of appliedTo groups also carry a tag with the name of
the group and the NSG of their virtual network (`azure_security.go`,
`azure_network_interfaces.go`, `azure_asg.go`).  Azure is a table of resources here;
what it answers to the requests of a call is part of the call.
-/

namespace Nephe.Azure

open Library

/-! ## Interfaces -/

/-- `network.InterfaceIPConfiguration`; an ASG is given by its id. -/
structure IPConfiguration where
  primary : Bool
  applicationSecurityGroups : Option (List String)
deriving DecidableEq

/-- `network.Interface`; the NSG is given by its id. -/
structure Interface where
  id : String
  /-- The virtual network of its subnet. -/
  vnetID : String
  virtualMachineID : Option String
  networkSecurityGroup : Option String
  ipConfigurations : List IPConfiguration
  tags : Option (GoMap String String)

/-- `networkInterfaceTable`, a row that the resource graph returns. -/
structure NetworkInterfaceTable where
  id : String
  vnetID : String
  virtualMachineID : Option String
  networkSecurityGroupID : Option String
  applicationSecurityGroupIDs : List String
  tags : List (GoMap String String)

namespace Interface

/-- The ASGs of the primary IP configuration. -/
def primaryAsgs (nic : Interface) : List String :=
  ((nic.ipConfigurations.find? (·.primary)).bind (·.applicationSecurityGroups)).getD []

/-- The row of an interface; absent ids are empty texts in it (`nwtIntfTableQueryTemplate`). -/
def row (nic : Interface) : NetworkInterfaceTable where
  id := nic.id
  vnetID := toLower nic.vnetID
  virtualMachineID := some (nic.virtualMachineID.getD "")
  networkSecurityGroupID := some (nic.networkSecurityGroup.getD "")
  applicationSecurityGroupIDs := nic.primaryAsgs
  tags := nic.tags.toList

/-- The value of a tag. -/
def tag (nic : Interface) (key : String) : Option String :=
  nic.tags.bind (·.get? key)

end Interface

/-! ## Changing one interface -/

/-- `getAsgUpdatedIPConfigurations`. -/
def getAsgUpdatedIPConfigurations (nic : Interface) (asgID : String) (isAttach : Bool) :
    List IPConfiguration :=
  let newNwIntfAsgs :=
    if isAttach then nic.primaryAsgs ++ [asgID]
    else nic.primaryAsgs.filter fun current => toLower current != toLower asgID
  nic.ipConfigurations.map fun ipConfiguration =>
    { ipConfiguration with applicationSecurityGroups := some newNwIntfAsgs }

/-- `hasAnyNepheControllerSecurityGroupTags`. -/
def hasAnyNepheControllerSecurityGroupTags (tags : Option (GoMap String String)) : Bool :=
  tags.any fun tags => tags.keys.any isAppliedToName

/-- `getUpdatedNetworkInterfaceNsgAndTags`. -/
def getUpdatedNetworkInterfaceNsgAndTags (nic : Interface) (nsgID : String) (isAttach : Bool)
    (tagKey : String) : Option String × Option (GoMap String String) :=
  if isAttach then (some nsgID, some ((nic.tags.getD ∅).set tagKey "true"))
  else
    let tags := nic.tags.map (·.remove tagKey)
    (if hasAnyNepheControllerSecurityGroupTags tags then nic.networkSecurityGroup else none, tags)

/-- `updateNetworkInterfaceAsg`: what is written. -/
def updateNetworkInterfaceAsg (asgID : String) (isAttach : Bool) (nic : Interface) : Interface :=
  { nic with ipConfigurations := getAsgUpdatedIPConfigurations nic asgID isAttach }

/-- `updateNetworkInterfaceNsg`: what is written. -/
def updateNetworkInterfaceNsg (nsgID asgID tagKey : String) (isAttach : Bool) (nic : Interface) :
    Interface :=
  let (nsg, tags) := getUpdatedNetworkInterfaceNsgAndTags nic nsgID isAttach tagKey
  { nic with
    ipConfigurations := getAsgUpdatedIPConfigurations nic asgID isAttach
    networkSecurityGroup := nsg
    tags := tags }

/-! ## The account -/

/-- `network.SecurityGroup`. -/
structure NetworkSecurityGroup where
  id : String
  securityRules : Option (List SecurityRule)

/-- The resources of an account; groups are found by their resource group and name. -/
structure Account where
  asgs : GoMap (String × String) ApplicationSecurityGroup
  nsgs : GoMap (String × String) NetworkSecurityGroup
  interfaces : List Interface

/-- The errors that Azure answers with. -/
structure Faults where
  query : Option String := none
  getNsg : Option String := none
  getAsg : Option String := none
  listInterfaces : Option String := none
  /-- By the id of the interface. -/
  writeInterface : String → Option String := fun _ => none
  /-- The second time that an NSG is read. -/
  getRules : Option String := none
  writeRules : Option String := none
  createNsg : Option String := none
  createAsg : Option String := none
  deleteAsg : Option String := none

/-- An answer of Azure: the error, or what was asked for. -/
def answer {α : Type} (fault : Option String) (found : Option α) : Except String α :=
  match fault with
  | some err => .error err
  | none =>
    match found with
    | none => .error "ResourceNotFound"
    | some resource => .ok resource

/-- `getNetworkInterfacesOfVnet`, when the query succeeds. -/
def Account.getNetworkInterfacesOfVnet (account : Account) (vnetID : String) :
    List NetworkInterfaceTable :=
  (account.interfaces.filter fun nic => nic.ipConfigurations.any (·.primary) &&
    toLower nic.vnetID == toLower vnetID).map Interface.row

/-! ## Finding what to change -/

/-- The ids, in lower case, of the interfaces to attach and of those to detach. -/
structure Changes where
  toAttach : List String := []
  toDetach : List String := []

/-- The loop over the interfaces of a virtual network, which skips those without a machine. -/
def findChanges (isAttached : NetworkInterfaceTable → Except String Bool)
    (memberVirtualMachines memberNetworkInterfaces : GoSet String) :
    List NetworkInterfaceTable → Except String Changes
  | [] => .ok {}
  | row :: rest =>
    let vmID := row.virtualMachineID.getD ""
    if vmID = "" then findChanges isAttached memberVirtualMachines memberNetworkInterfaces rest
    else do
      let attached ← isAttached row
      let changes ←
        findChanges isAttached memberVirtualMachines memberNetworkInterfaces rest
      let isMember : Bool := decide (toLower vmID ∈ memberVirtualMachines) ||
        decide (toLower row.id ∈ memberNetworkInterfaces)
      return match attached, isMember with
        | true, false => { changes with toDetach := toLower row.id :: changes.toDetach }
        | false, true => { changes with toAttach := toLower row.id :: changes.toAttach }
        | _, _ => changes

/-- `isNsgAttached` in `processAppliedToMembership`. -/
def isNsgAttached (perVnetNsgNameLowercase cloudSgNameLowercase : String)
    (row : NetworkInterfaceTable) : Except String Bool :=
  let nsgID := row.networkSecurityGroupID.getD ""
  if nsgID = "" then .ok false
  else do
    let (_, _, nsgNameLowercase) ← extractFieldsFromAzureResourceID (toLower nsgID)
    return nsgNameLowercase == perVnetNsgNameLowercase &&
      row.tags.head?.any fun tags => (tags.get? cloudSgNameLowercase).isSome

/-- `isAsgAttached` in `processAddressGroupMembership`. -/
def isAsgAttached (cloudAsgNameLowercase : String) (row : NetworkInterfaceTable) : Bool :=
  row.applicationSecurityGroupIDs.any fun asgID => (nameInID (toLower asgID)).any fun asgName =>
    (isNepheControllerCreatedSG asgName).2.1 && asgName == cloudAsgNameLowercase

/-- What to change, and how an interface is attached or detached. -/
structure Plan where
  changes : Changes
  update : Bool → Interface → Interface

/-! ## Members -/

/-- A call of `UpdateSecurityGroupMembers`. -/
structure MembersCall where
  group : CloudResourceID
  members : List CloudResource
  membershipOnly : Bool
  faults : Faults := {}

section Members

variable (account : Account) (call : MembersCall) (rgName : String)

/-- `processAppliedToMembership`, up to the changes. -/
def processAppliedToMembership (isPeer : Bool) : Except String Plan := do
  let perVnetNsgNameLowercase := perVnetNsgName call.group.vpc
  let cloudSgNameLowercase := call.group.getCloudName isPeer
  let members := findResourcesBasedOnKind call.members
  let nsgObj ← answer call.faults.getNsg (account.nsgs.get? (rgName, perVnetNsgNameLowercase))
  let asgObj ← answer call.faults.getAsg (account.asgs.get? (rgName, cloudSgNameLowercase))
  let changes ← findChanges (isNsgAttached perVnetNsgNameLowercase cloudSgNameLowercase)
    members.1 members.2 (account.getNetworkInterfacesOfVnet call.group.vpc)
  return ⟨changes,
    updateNetworkInterfaceNsg nsgObj.id asgObj.id (call.group.getCloudName false)⟩

/-- `processAddressGroupMembership`, up to the changes. -/
def processAddressGroupMembership : Except String Plan := do
  let cloudAsgNameLowercase := call.group.getCloudName true
  let members := findResourcesBasedOnKind call.members
  let asgObj ← answer call.faults.getAsg (account.asgs.get? (rgName, cloudAsgNameLowercase))
  let changes ← findChanges (fun row => .ok (isAsgAttached cloudAsgNameLowercase row))
    members.1 members.2 (account.getNetworkInterfacesOfVnet call.group.vpc)
  return ⟨changes, updateNetworkInterfaceAsg asgObj.id⟩

/-- The plan of `updateSecurityGroupMembers`; appliedTo groups with peers have none. -/
def planMembers (isPeer : Bool) : Except String (Option Plan) := do
  if let some err := call.faults.query then
    throw err
  let (_, rgName, _) ← extractFieldsFromAzureResourceID call.group.vpc
  match isPeer, call.membershipOnly with
  | true, true => some <$> processAppliedToMembership account call rgName true
  | true, false => return none
  | false, true => some <$> processAddressGroupMembership account call rgName
  | false, false => some <$> processAppliedToMembership account call rgName false

end Members

/--
`processNsgAttachDetachConcurrently` and `processAsgAttachDetachConcurrently`.  Every
interface is written by itself, so the order does not matter.  When the interfaces cannot be
listed, nothing is done and no error is returned.
-/
def Account.attachDetachConcurrently (account : Account) (faults : Faults) (plan : Plan) :
    Except String Unit × Account :=
  match faults.listInterfaces with
  | some _ => (.ok (), account)
  | none =>
    let isAttach (nic : Interface) : Bool := toLower nic.id ∈ plan.changes.toAttach
    let isConcerned (nic : Interface) : Bool :=
      isAttach nic || decide (toLower nic.id ∈ plan.changes.toDetach)
    let errs := (account.interfaces.filter isConcerned).filterMap fun nic =>
      faults.writeInterface nic.id
    let written := account.interfaces.map fun nic =>
      if isConcerned nic && (faults.writeInterface nic.id).isNone then
        plan.update (isAttach nic) nic
      else nic
    (if errs.isEmpty then .ok () else .error (String.intercalate "; " errs),
      { account with interfaces := written })

/-- `updateSecurityGroupMembers`. -/
def updateSecurityGroupMembers (isPeer : Bool) (account : Account) (call : MembersCall) :
    Except String Unit × Account :=
  match planMembers account call isPeer with
  | .error err => (.error err, account)
  | .ok none => (.ok (), account)
  | .ok (some plan) => account.attachDetachConcurrently call.faults plan

/-! ## One interface after a change -/

/-- Some IP configuration is the primary one. -/
def Interface.HasPrimary (nic : Interface) : Prop :=
  nic.ipConfigurations.any (·.primary) = true

/-- The list of ASGs that a change writes. -/
def newAsgs (asgID : String) (isAttach : Bool) (current : List String) : List String :=
  if isAttach then current ++ [asgID]
  else current.filter fun other => toLower other != toLower asgID

section Changed

variable {nic : Interface} {nsgID asgID tagKey : String} {isAttach : Bool}

variable {changed : Interface}

theorem asgs_of_changed
    (written : changed.ipConfigurations = getAsgUpdatedIPConfigurations nic asgID isAttach) :
    ∀ config ∈ changed.ipConfigurations,
      config.applicationSecurityGroups = some (newAsgs asgID isAttach nic.primaryAsgs) := by
  intro config member
  rw [written] at member
  obtain ⟨_, _, rfl⟩ := List.mem_map.mp member
  rfl

theorem hasPrimary_of_changed
    (written : changed.ipConfigurations = getAsgUpdatedIPConfigurations nic asgID isAttach) :
    changed.HasPrimary ↔ nic.HasPrimary := by
  rw [Interface.HasPrimary, Interface.HasPrimary, written, getAsgUpdatedIPConfigurations,
    List.any_map]
  rfl

theorem primaryAsgs_of_changed
    (written : changed.ipConfigurations = getAsgUpdatedIPConfigurations nic asgID isAttach)
    (primary : nic.HasPrimary) : changed.primaryAsgs = newAsgs asgID isAttach nic.primaryAsgs := by
  have remains := (hasPrimary_of_changed written).mpr primary
  obtain ⟨config, found⟩ := Option.isSome_iff_exists.mp (List.find?_isSome.mpr
    (List.any_eq_true.mp remains))
  rw [Interface.primaryAsgs, found, Option.bind_some,
    asgs_of_changed written config (List.mem_of_find?_eq_some found), Option.getD_some]

theorem primaryAsgs_of_not_hasPrimary (none_ : ¬nic.HasPrimary) : nic.primaryAsgs = [] := by
  have absent : nic.ipConfigurations.find? (·.primary) = none := by
    rw [List.find?_eq_none]
    intro config member primary
    exact none_ (List.any_eq_true.mpr ⟨config, member, primary⟩)
  rw [Interface.primaryAsgs, absent]
  rfl

/-- Whether an interface has another ASG does not change. -/
theorem mem_primaryAsgs_of_changed
    (written : changed.ipConfigurations = getAsgUpdatedIPConfigurations nic asgID isAttach)
    {id : String} (other : toLower id ≠ toLower asgID) :
    id ∈ changed.primaryAsgs ↔ id ∈ nic.primaryAsgs := by
  by_cases primary : nic.HasPrimary
  · have different : id ≠ asgID := by
      rintro rfl
      exact other rfl
    rw [primaryAsgs_of_changed written primary]
    cases isAttach <;> simp [newAsgs, other, different]
  · rw [primaryAsgs_of_not_hasPrimary primary,
      primaryAsgs_of_not_hasPrimary (mt (hasPrimary_of_changed written).mp primary)]

theorem tag_attach (other : String) :
    (updateNetworkInterfaceNsg nsgID asgID tagKey true nic).tag other =
      if other = tagKey then some "true" else nic.tag other := by
  cases tags : nic.tags with
  | none => simp [updateNetworkInterfaceNsg, getUpdatedNetworkInterfaceNsgAndTags, Interface.tag,
      tags, GoMap.get?_set]
  | some tags' => simp [updateNetworkInterfaceNsg, getUpdatedNetworkInterfaceNsgAndTags,
      Interface.tag, tags, GoMap.get?_set]

theorem tag_detach (other : String) :
    (updateNetworkInterfaceNsg nsgID asgID tagKey false nic).tag other =
      if other = tagKey then none else nic.tag other := by
  cases tags : nic.tags with
  | none => simp [updateNetworkInterfaceNsg, getUpdatedNetworkInterfaceNsgAndTags, Interface.tag,
      tags]
  | some tags' => simp [updateNetworkInterfaceNsg, getUpdatedNetworkInterfaceNsgAndTags,
      Interface.tag, tags, GoMap.get?_remove]

/-- Some tag is the name of an appliedTo group. -/
def Interface.AppliedTo (nic : Interface) : Prop :=
  ∃ key, (nic.tag key).isSome ∧ isAppliedToName key = true

theorem hasAnyTags_iff : hasAnyNepheControllerSecurityGroupTags nic.tags = true ↔
    nic.AppliedTo := by
  cases tags : nic.tags with
  | none => simp [hasAnyNepheControllerSecurityGroupTags, Interface.AppliedTo, Interface.tag, tags]
  | some tags' =>
    simp only [hasAnyNepheControllerSecurityGroupTags, Option.any_some, List.any_eq_true,
      Interface.AppliedTo, Interface.tag, tags, Option.bind_some]
    exact exists_congr fun key => and_congr_left fun _ => by
      rw [GoMap.get?, AList.lookup_isSome, AList.mem_keys]

theorem nsg_attach : (updateNetworkInterfaceNsg nsgID asgID tagKey true nic).networkSecurityGroup =
    some nsgID := rfl

theorem nsg_detach [Decidable
      (updateNetworkInterfaceNsg nsgID asgID tagKey false nic).AppliedTo] :
    (updateNetworkInterfaceNsg nsgID asgID tagKey false nic).networkSecurityGroup =
      if (updateNetworkInterfaceNsg nsgID asgID tagKey false nic).AppliedTo then
        nic.networkSecurityGroup else none := by
  simp only [← hasAnyTags_iff]
  rfl

end Changed

/-! ## Requests and plans -/

theorem answer_eq_ok {α : Type} {fault : Option String} {found : Option α} {resource : α} :
    answer fault found = .ok resource ↔ fault = none ∧ found = some resource := by
  cases fault with
  | some err => simp [answer]
  | none => cases found <;> simp [answer]

/-- The interface of the row belongs to a machine. -/
def NetworkInterfaceTable.Running (row : NetworkInterfaceTable) : Prop :=
  row.virtualMachineID.getD "" ≠ ""

/-- The interface of the row, or its machine, is among the members. -/
def NetworkInterfaceTable.IsMember (row : NetworkInterfaceTable)
    (members : GoSet String × GoSet String) : Prop :=
  toLower (row.virtualMachineID.getD "") ∈ members.1 ∨ toLower row.id ∈ members.2

variable {isAttached : NetworkInterfaceTable → Except String Bool}
  {rows : List NetworkInterfaceTable} {changes : Changes}

theorem mem_findChanges {members : GoSet String × GoSet String}
    (finished : findChanges isAttached members.1 members.2 rows = .ok changes) (id : String) :
    (id ∈ changes.toAttach ↔ ∃ row ∈ rows, row.Running ∧ isAttached row = .ok false ∧
      row.IsMember members ∧ toLower row.id = id) ∧
    (id ∈ changes.toDetach ↔ ∃ row ∈ rows, row.Running ∧ isAttached row = .ok true ∧
      ¬row.IsMember members ∧ toLower row.id = id) := by
  induction rows generalizing changes with
  | nil =>
    cases finished
    simp
  | cons row rest induction =>
    simp only [List.exists_mem_cons_iff]
    by_cases running : row.Running
    · simp only [findChanges, if_neg running, bind_eq_ok, pure_eq_ok] at finished
      obtain ⟨attached, tested, later, remaining, rfl⟩ := finished
      obtain ⟨attaching, detaching⟩ := induction remaining
      have member : row.IsMember members ↔
          (decide (toLower (row.virtualMachineID.getD "") ∈ members.1) ||
            decide (toLower row.id ∈ members.2)) = true := by
        simp [NetworkInterfaceTable.IsMember]
      rw [← attaching, ← detaching, tested, member]
      cases attached <;> cases decide (toLower (row.virtualMachineID.getD "") ∈ members.1) ||
        decide (toLower row.id ∈ members.2) <;> simp [running, eq_comm]
    · simp only [findChanges, if_pos (not_not.mp running)] at finished
      obtain ⟨attaching, detaching⟩ := induction finished
      rw [← attaching, ← detaching]
      simp [running]

/-- The loop ends well only if every test does. -/
theorem exists_tested {vms nics : GoSet String}
    (finished : findChanges isAttached vms nics rows = .ok changes) {row : NetworkInterfaceTable}
    (listed : row ∈ rows) (running : row.Running) : ∃ attached, isAttached row = .ok attached := by
  induction rows generalizing changes with
  | nil => cases listed
  | cons first rest induction =>
    by_cases skipped : first.Running
    · simp only [findChanges, if_neg skipped, bind_eq_ok] at finished
      obtain ⟨attached, tested, later, remaining, _⟩ := finished
      rcases List.mem_cons.mp listed with rfl | other
      · exact ⟨attached, tested⟩
      · exact induction remaining other
    · simp only [findChanges, if_pos (not_not.mp skipped)] at finished
      rcases List.mem_cons.mp listed with rfl | other
      · exact absurd running skipped
      · exact induction finished other

section Plans

variable {account : Account} {call : MembersCall} {rgName : String} {plan : Plan}

theorem processAppliedToMembership_eq_ok {isPeer : Bool} :
    processAppliedToMembership account call rgName isPeer = .ok plan ↔
      ∃ nsg asg, (call.faults.getNsg = none ∧
          account.nsgs.get? (rgName, perVnetNsgName call.group.vpc) = some nsg) ∧
        (call.faults.getAsg = none ∧
          account.asgs.get? (rgName, call.group.getCloudName isPeer) = some asg) ∧
        findChanges (isNsgAttached (perVnetNsgName call.group.vpc)
            (call.group.getCloudName isPeer)) (findResourcesBasedOnKind call.members).1
          (findResourcesBasedOnKind call.members).2
          (account.getNetworkInterfacesOfVnet call.group.vpc) = .ok plan.changes ∧
        plan.update = updateNetworkInterfaceNsg nsg.id asg.id (call.group.getCloudName false) := by
  obtain ⟨changes, update⟩ := plan
  simp only [processAppliedToMembership, bind_eq_ok, pure_eq_ok, answer_eq_ok, Plan.mk.injEq]
  constructor
  · rintro ⟨nsg, foundNsg, asg, foundAsg, _, finished, rfl, rfl⟩
    exact ⟨nsg, asg, foundNsg, foundAsg, finished, rfl⟩
  · rintro ⟨nsg, asg, foundNsg, foundAsg, finished, rfl⟩
    exact ⟨nsg, foundNsg, asg, foundAsg, _, finished, rfl, rfl⟩

theorem processAddressGroupMembership_eq_ok :
    processAddressGroupMembership account call rgName = .ok plan ↔
      ∃ asg, (call.faults.getAsg = none ∧
          account.asgs.get? (rgName, call.group.getCloudName true) = some asg) ∧
        findChanges (fun row => .ok (isAsgAttached (call.group.getCloudName true) row))
          (findResourcesBasedOnKind call.members).1 (findResourcesBasedOnKind call.members).2
          (account.getNetworkInterfacesOfVnet call.group.vpc) = .ok plan.changes ∧
        plan.update = updateNetworkInterfaceAsg asg.id := by
  obtain ⟨changes, update⟩ := plan
  simp only [processAddressGroupMembership, bind_eq_ok, pure_eq_ok, answer_eq_ok, Plan.mk.injEq]
  constructor
  · rintro ⟨asg, foundAsg, _, finished, rfl, rfl⟩
    exact ⟨asg, foundAsg, finished, rfl⟩
  · rintro ⟨asg, foundAsg, finished, rfl⟩
    exact ⟨asg, foundAsg, _, finished, rfl, rfl⟩

/-- The plan of a call, by the kind of the group and whether there are peers. -/
theorem planMembers_eq_ok {isPeer : Bool} {result : Option Plan} :
    planMembers account call isPeer = .ok result ↔ call.faults.query = none ∧
      ∃ fields, extractFieldsFromAzureResourceID call.group.vpc = .ok fields ∧
        match isPeer, call.membershipOnly with
        | true, true => ∃ plan, processAppliedToMembership account call fields.2.1 true =
            .ok plan ∧ some plan = result
        | true, false => none = result
        | false, true => ∃ plan, processAddressGroupMembership account call fields.2.1 =
            .ok plan ∧ some plan = result
        | false, false => ∃ plan, processAppliedToMembership account call fields.2.1 false =
            .ok plan ∧ some plan = result := by
  unfold planMembers
  cases query : call.faults.query with
  | some err => simp [throw, throwThe, MonadExceptOf.throw, bind, Except.bind]
  | none =>
    simp only [true_and, bind_eq_ok]
    refine exists_congr fun fields => and_congr_right fun _ => ?_
    split <;> simp only [map_eq_ok, pure_eq_ok]

/-- What becomes of an interface when all writes succeed. -/
def Plan.change (plan : Plan) (nic : Interface) : Interface :=
  if toLower nic.id ∈ plan.changes.toAttach then plan.update true nic
  else if toLower nic.id ∈ plan.changes.toDetach then plan.update false nic
  else nic

/-- Whatever fails, an interface is left alone or updated as the plan says. -/
theorem exists_attachDetach (account : Account) (faults : Faults) (plan : Plan) :
    ∃ change : Interface → Interface,
      (account.attachDetachConcurrently faults plan).2 =
        { account with interfaces := account.interfaces.map change } ∧
      ∀ nic, change nic = nic ∨ ∃ isAttach, change nic = plan.update isAttach nic := by
  cases listing : faults.listInterfaces with
  | some err =>
    refine ⟨id, ?_, fun nic => .inl rfl⟩
    simp [Account.attachDetachConcurrently, listing]
  | none =>
    simp only [Account.attachDetachConcurrently, listing]
    refine ⟨_, rfl, fun nic => ?_⟩
    split
    next => exact .inr ⟨_, rfl⟩
    next => exact .inl rfl

/-- When the interfaces are listed and no error is returned, all writes succeeded. -/
theorem attachDetach_eq {faults : Faults} (listed : faults.listInterfaces = none)
    (successful : (account.attachDetachConcurrently faults plan).1 = .ok ()) :
    (account.attachDetachConcurrently faults plan).2 =
      { account with interfaces := account.interfaces.map plan.change } := by
  simp only [Account.attachDetachConcurrently, listed] at successful ⊢
  congr 1
  refine List.map_congr_left fun nic member => ?_
  have noErrs := by_contra fun failed => by
    rw [if_neg failed] at successful
    cases successful
  rw [List.isEmpty_iff, List.filterMap_eq_nil_iff] at noErrs
  unfold Plan.change
  by_cases attach : toLower nic.id ∈ plan.changes.toAttach
  · have written := noErrs nic (List.mem_filter.mpr ⟨member, by simp [attach]⟩)
    simp [attach, written]
  · by_cases detach : toLower nic.id ∈ plan.changes.toDetach
    · have written := noErrs nic (List.mem_filter.mpr ⟨member, by simp [detach]⟩)
      simp [attach, detach, written]
    · simp [attach, detach]

end Plans

end Nephe.Azure
