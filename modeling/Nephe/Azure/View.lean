import Nephe.Azure.Membership
import Nephe.Converter.Names

/-!
# What the cloud reports about groups

The enforced security of an account is read from its interfaces, its NSGs and its ASGs
(`getNepheControllerManagedSecurityGroupsCloudView` in `azure_security.go`).  The members
of groups are collected by the names of the groups, their virtual networks by the ids of
NSGs and ASGs.
-/

namespace Nephe.Azure

open Library

/-! ## Members -/

/-- The interface of a row as a member of a group. -/
def NetworkInterfaceTable.cloudResource (row : NetworkInterfaceTable) : CloudResource where
  type := .networkInterface
  name := ⟨generateShortResourceIdentifier row.id "NetworkInterface", toLower row.vnetID⟩

/-! ## AppliedTo groups -/

/-- The group that a tag is for, when it is for an appliedTo group. -/
def appliedToName (key : String) : Option String :=
  let (sgName, _, isATSG) := isNepheControllerCreatedSG key
  if isATSG then some sgName else none

/-- What the loop of `processAndBuildATSgView` collects. -/
structure ATSgView where
  members : GoMap String (List CloudResource) := ∅
  /-- By the ids of NSGs. -/
  appliedToSGNames : GoMap String (GoSet String) := ∅
  nsgIDToVnetID : GoMap String String := ∅

/--
One turn of the loop; an interface of the shared NSG without tags ends the program.  The
order is that of the loop over the tags.
-/
def ATSgView.visit (order : String → Nat) (view : ATSgView) (row : NetworkInterfaceTable) :
    Option ATSgView :=
  match row.virtualMachineID, row.networkSecurityGroupID with
  | some _, some nsgID =>
    let nsgIDLowerCase := toLower nsgID
    match nameInID nsgIDLowerCase with
    | none => some view
    | some nsgName =>
      let (sgName, _, isAT) := isNepheControllerCreatedSG nsgName
      if isAT then
        let view := { view with
          nsgIDToVnetID := view.nsgIDToVnetID.set nsgIDLowerCase (toLower row.vnetID) }
        if sgName = toLower appliedToSecurityGroupNamePerVnet then
          row.tags.head?.map fun tags =>
            let names := (arrange (order row.id) tags.keys).filterMap appliedToName
            let view := { view with
              members := names.foldl (fun members name =>
                members.set name ((members.get? name).getD [] ++ [row.cloudResource]))
                view.members }
            if names.isEmpty then view
            else { view with
              appliedToSGNames := view.appliedToSGNames.set nsgIDLowerCase
                (names.foldl GoSet.add
                  ((view.appliedToSGNames.get? nsgIDLowerCase).getD ∅)) }
        else some view
      else some view
  | _, _ => some view

/-- What is reported about one NSG; an NSG without a list of rules ends the program. -/
def ATSgView.contents (order : String → Nat) (view : ATSgView) (nsg : NetworkSecurityGroup) :
    Option (List SynchronizationContent) :=
  let nsgIDLowercase := toLower nsg.id
  let vnetIDLowercase := (view.nsgIDToVnetID.get? nsgIDLowercase).getD ""
  match view.appliedToSGNames.get? nsgIDLowercase with
  | none => some []
  | some appliedToSgNameSet => do
      let rules ← nsg.securityRules
      let byGroup ← convertToNepheControllerRulesByAppliedToSGName rules vnetIDLowercase
      return (arrange (order nsg.id) appliedToSgNameSet.keys).map fun atSgName =>
        { resource := ⟨atSgName, vnetIDLowercase⟩
          membershipOnly := false
          members := (view.members.get? atSgName).getD []
          membersWithOtherSGAttached := []
          ingressRules := (byGroup.ingress.get? atSgName).getD []
          egressRules := (byGroup.egress.get? atSgName).getD [] }

/-- `getATGroupView`: what is reported, and the names of the groups. -/
def getATGroupView (order : String → Nat) (nsgs : Except String (List NetworkSecurityGroup))
    (view : ATSgView) : Option (Except String (List SynchronizationContent × GoSet String)) :=
  match nsgs with
  | .error err => some (.error err)
  | .ok nsgs => (nsgs.mapM (view.contents order)).map fun contents =>
    .ok (contents.flatten, GoSet.ofList (contents.flatten.map (·.resource.name)))

/-- `processAndBuildATSgView`; none is the end of the program. -/
def processAndBuildATSgView (order : String → Nat)
    (nsgs : Except String (List NetworkSecurityGroup)) (rows : List NetworkInterfaceTable) :
    Option (Except String (List SynchronizationContent × GoSet String)) :=
  (rows.foldlM (ATSgView.visit order) {}).bind (getATGroupView order nsgs)

/-! ## Address groups -/

/-- The group that an ASG is for, when it is for an address group. -/
def addressGroupName (asgID : String) : Option String :=
  (nameInID (toLower asgID)).bind fun cloudAsgName =>
    let (sgName, isAG, _) := isNepheControllerCreatedSG cloudAsgName
    if isAG then some sgName else none

/-- What the loop of `processAndBuildAGSgView` collects. -/
structure AGSgView where
  members : GoMap String (List CloudResource) := ∅
  asgIDToVnetID : GoMap String String := ∅

/-- One turn of the inner loop, over the ASGs of an interface. -/
def AGSgView.attach (row : NetworkInterfaceTable) (view : AGSgView) (asgID : String) : AGSgView :=
  match addressGroupName asgID with
  | none => view
  | some sgName =>
    { members := view.members.set sgName
        ((view.members.get? sgName).getD [] ++ [row.cloudResource])
      asgIDToVnetID := view.asgIDToVnetID.set (toLower asgID) (toLower row.vnetID) }

/-- One turn of the outer loop. -/
def AGSgView.visit (view : AGSgView) (row : NetworkInterfaceTable) : AGSgView :=
  if row.virtualMachineID.isSome then row.applicationSecurityGroupIDs.foldl (attach row) view
  else view

/-- What is reported about one ASG. -/
def AGSgView.content (view : AGSgView) (atNames : GoSet String) (asg : ApplicationSecurityGroup) :
    Option SynchronizationContent :=
  (addressGroupName asg.id).bind fun agSgName =>
    if agSgName ∈ atNames then none
    else some {
      resource := ⟨agSgName, (view.asgIDToVnetID.get? (toLower asg.id)).getD ""⟩
      membershipOnly := true
      members := (view.members.get? agSgName).getD []
      membersWithOtherSGAttached := []
      ingressRules := []
      egressRules := [] }

/-- `processAndBuildAGSgView` and `getAGGroupView`. -/
def processAndBuildAGSgView (asgs : Except String (List ApplicationSecurityGroup))
    (atNames : GoSet String) (rows : List NetworkInterfaceTable) :
    Except String (List SynchronizationContent) :=
  asgs.map fun asgs => asgs.filterMap ((rows.foldl AGSgView.visit {}).content atNames)

/-! ## Reading back appliedTo groups -/

/-- The interface of the row was attached for the group by `processAppliedToMembership`. -/
structure AttachedFor (group : CloudResourceID) (row : NetworkInterfaceTable) : Prop where
  running : row.Running
  vnet : toLower row.vnetID = toLower group.vpc
  nsg : ∃ nsgID ∈ row.networkSecurityGroupID,
    nameInID (toLower nsgID) = some (toLower (perVnetNsgName group.vpc))
  tag : ∃ tags ∈ row.tags.head?, (tags.get? (group.getCloudName false)).isSome

/-- The NSGs of the controller are named as `CreateSecurityGroup` names them. -/
def NsgsAsCreated (rows : List NetworkInterfaceTable) : Prop :=
  ∀ row ∈ rows, ∀ nsgID ∈ row.networkSecurityGroupID, ∀ nsgName ∈ nameInID (toLower nsgID),
    isAppliedToName nsgName = true → ∃ vnetID, nsgName = toLower (perVnetNsgName vnetID)

/-- Every group with an attached interface is reported once, with its interfaces as members. -/
def ReadsBack (order : String → Nat) (nsgs : Except String (List NetworkSecurityGroup))
    (rows : List NetworkInterfaceTable) : Prop :=
  ∀ group, ∀ row ∈ rows, AttachedFor group row → ∃ contents names,
    processAndBuildATSgView order nsgs rows = some (.ok (contents, names)) ∧ ∃ content,
      contents.filter (fun content =>
        content.resource = ⟨toLower group.name, toLower group.vpc⟩) = [content] ∧
      content.membershipOnly = false ∧
      ∀ resource, resource ∈ content.members ↔
        ∃ other ∈ rows, AttachedFor group other ∧ other.cloudResource = resource

/-- The name that is taken from the name of an NSG is longer than the one it is compared with. -/
theorem sgName_perVnetNsgName (vnetID : String) :
    (isNepheControllerCreatedSG (toLower (perVnetNsgName vnetID))).1 ≠
      toLower appliedToSecurityGroupNamePerVnet := by
  rw [toLower_perVnetNsgName_eq, CloudResourceID.isNephe_getCloudName_false]
  intro same
  have length := congrArg String.length same
  rw [length_toLower, length_toLower, String.length_append, String.length_append] at length
  have dash : "-".length = 1 := rfl
  omega

section AppliedTo

variable {order : String → Nat} {rows : List NetworkInterfaceTable}

/-- The loop finds no group for an NSG that is named as it was created. -/
theorem exists_visit (order : String → Nat) (view : ATSgView) {row : NetworkInterfaceTable}
    (created : NsgsAsCreated [row]) : ∃ after, view.visit order row = some after ∧
      after.appliedToSGNames = view.appliedToSGNames := by
  cases vm : row.virtualMachineID with
  | none => exact ⟨view, by simp [ATSgView.visit, vm], rfl⟩
  | some vmID =>
    cases nsg : row.networkSecurityGroupID with
    | none => exact ⟨view, by simp [ATSgView.visit, vm, nsg], rfl⟩
    | some nsgID =>
      cases named : nameInID (toLower nsgID) with
      | none => exact ⟨view, by simp [ATSgView.visit, vm, nsg, named], rfl⟩
      | some nsgName =>
        rcases made : isNepheControllerCreatedSG nsgName with ⟨sgName, isAG, isAT⟩
        cases isAT with
        | false => exact ⟨view, by simp [ATSgView.visit, vm, nsg, named, made], rfl⟩
        | true =>
          obtain ⟨vnetID, rfl⟩ := created row List.mem_cons_self nsgID nsg nsgName named
            (by rw [isAppliedToName, made])
          have other := sgName_perVnetNsgName vnetID
          rw [made] at other
          refine ⟨{ view with
            nsgIDToVnetID := view.nsgIDToVnetID.set (toLower nsgID) (toLower row.vnetID) },
            ?_, rfl⟩
          simp [ATSgView.visit, vm, nsg, named, made, other]

theorem exists_foldlM_visit (order : String → Nat) (view : ATSgView)
    (created : NsgsAsCreated rows) : ∃ after,
      rows.foldlM (ATSgView.visit order) view = some after ∧
        after.appliedToSGNames = view.appliedToSGNames := by
  induction rows generalizing view with
  | nil => exact ⟨view, rfl, rfl⟩
  | cons row rest induction =>
    have first : NsgsAsCreated [row] := by
      intro other member
      rw [List.mem_singleton.mp member]
      exact created row List.mem_cons_self
    obtain ⟨next, visited, same⟩ := exists_visit order view first
    obtain ⟨after, finished, same'⟩ := induction next
      fun row member => created row (List.mem_cons_of_mem _ member)
    refine ⟨after, ?_, same'.trans same⟩
    rw [List.foldlM_cons, visited]
    exact finished

theorem contents_eq_nil {nsgs : Except String (List NetworkSecurityGroup)}
    (created : NsgsAsCreated rows) {contents : List SynchronizationContent} {names : GoSet String}
    (reported : processAndBuildATSgView order nsgs rows = some (.ok (contents, names))) :
    contents = [] := by
  obtain ⟨view, finished, same⟩ := exists_foldlM_visit order {} created
  have nothing : view.contents order = fun _ => pure [] := by
    funext nsg
    unfold ATSgView.contents
    rw [same]
    rfl
  rw [processAndBuildATSgView, finished, Option.bind_some] at reported
  cases nsgs with
  | error err => cases reported
  | ok nsgs =>
    rw [getATGroupView, nothing, List.mapM_pure] at reported
    cases reported
    simp

end AppliedTo

/--
The groups are read back exactly when there is nothing to read: no group with an attached
interface is ever reported.
-/
theorem appliedTo_groups_are_read_back (order : String → Nat)
    (nsgs : Except String (List NetworkSecurityGroup)) (rows : List NetworkInterfaceTable)
    (created : NsgsAsCreated rows) :
    ReadsBack order nsgs rows ↔ ∀ group, ∀ row ∈ rows, ¬AttachedFor group row := by
  constructor
  · intro readsBack group row listed attached
    obtain ⟨contents, names, reported, content, found, _⟩ := readsBack group row listed attached
    rw [contents_eq_nil created reported] at found
    cases found
  · intro nobody group row listed attached
    exact absurd attached (nobody group row listed)

/-- The row of the interface after `web` has got its member. -/
def taggedRow : NetworkInterfaceTable :=
  { sampleInterface.row with
    networkSecurityGroupID := some (resourceID "nsgs" "nephe-at-per-vnet-default-v")
    applicationSecurityGroupIDs := [resourceID "asgs" "office", resourceID "asgs" "nephe-at-web"]
    tags := [(∅ : GoMap String String).set "nephe-at-web" "true"] }

/-- With the NSG of the virtual network but without a tag there is nothing to read. -/
theorem untagged_interface_is_read_back :
    ReadsBack (fun _ => 0) (.ok []) [{ taggedRow with tags := [∅] }] := by
  have asCreated : nameInID (toLower (resourceID "nsgs" "nephe-at-per-vnet-default-v")) =
      some (toLower (perVnetNsgName sampleVnetID)) := by decide +kernel
  refine (appliedTo_groups_are_read_back _ _ _ ?_).mpr ?_
  · intro row listed nsgID nsg nsgName named _
    cases List.mem_singleton.mp listed
    cases nsg
    exact ⟨sampleVnetID, Option.some.inj (named.symm.trans asCreated)⟩
  · rintro group row listed ⟨_, _, _, tags, first, tagged⟩
    cases List.mem_singleton.mp listed
    cases first
    cases tagged

/-- The interface of the member is attached for `web`, and nothing is reported. -/
theorem attached_group_is_not_reported :
    (updateMembers vnetAccount (sampleMembersCall true {})).getNetworkInterfacesOfVnet
        sampleVnetID = [taggedRow] ∧
      AttachedFor ⟨"web", sampleVnetID⟩ taggedRow ∧
      processAndBuildATSgView (fun _ => 0)
        (.ok [⟨resourceID "nsgs" "nephe-at-per-vnet-default-v", some []⟩]) [taggedRow] =
          some (.ok ([], ∅)) := by
  refine ⟨rfl, ⟨?_, rfl, ⟨_, rfl, rfl⟩, _, rfl, rfl⟩, rfl⟩
  unfold NetworkInterfaceTable.Running
  decide

/-! ## Reading back address groups -/

/-- The interface belongs to a machine and is attached to the ASG. -/
def NetworkInterfaceTable.isAttachedTo (asgID : String) (row : NetworkInterfaceTable) : Bool :=
  row.virtualMachineID.isSome &&
    row.applicationSecurityGroupIDs.any (toLower · == toLower asgID)

/-- The interface belongs to a machine and to an ASG of an address group of this name. -/
def NetworkInterfaceTable.InAddressGroup (name : String) (row : NetworkInterfaceTable) : Prop :=
  row.virtualMachineID.isSome ∧
    ∃ asgID ∈ row.applicationSecurityGroupIDs, addressGroupName asgID = some name

/-- The virtual network of the interfaces of an ASG, when it has any. -/
def vnetOf (rows : List NetworkInterfaceTable) (asgID : String) : String :=
  ((rows.reverse.find? (·.isAttachedTo asgID)).map (toLower ·.vnetID)).getD ""

/-- The ASGs that are made for an address group of this name in this virtual network. -/
def asgsOf (asgs : List ApplicationSecurityGroup) (rows : List NetworkInterfaceTable)
    (group : CloudResourceID) : List ApplicationSecurityGroup :=
  asgs.filter fun asg =>
    addressGroupName asg.id == some group.name && vnetOf rows asg.id == group.vpc

/-- The group is reported once, with the interfaces of the ASG as members. -/
def ReportedFor (asgID : String) (group : CloudResourceID) (rows : List NetworkInterfaceTable)
    (contents : List SynchronizationContent) : Prop :=
  ∃ content, contents.filter (fun content => content.resource = group) = [content] ∧
    content.membershipOnly = true ∧
    ∀ resource, resource ∈ content.members ↔
      ∃ row ∈ rows, row.isAttachedTo asgID ∧ row.cloudResource = resource

/-- The name tells the ASG from the others. -/
structure Distinguished (asgID : String) (group : CloudResourceID)
    (asgs : List ApplicationSecurityGroup) (atNames : GoSet String)
    (rows : List NetworkInterfaceTable) : Prop where
  notAppliedTo : group.name ∉ atNames
  one : (asgsOf asgs rows group).length = 1
  own : ∀ row ∈ rows, row.InAddressGroup group.name →
    ∃ other ∈ rows, other.isAttachedTo asgID ∧ other.cloudResource = row.cloudResource

section Address

variable {row : NetworkInterfaceTable} {rows : List NetworkInterfaceTable} {asgID name : String}
variable {resource : CloudResource}

theorem addressGroupName_congr {other : String} (same : toLower other = toLower asgID) :
    addressGroupName other = addressGroupName asgID := by
  rw [addressGroupName, addressGroupName, same]

/-- The members, after the loop over the ASGs of an interface. -/
theorem mem_foldl_attach (asgIDs : List String) (view : AGSgView) :
    resource ∈ ((asgIDs.foldl (AGSgView.attach row) view).members.get? name).getD [] ↔
      resource ∈ (view.members.get? name).getD [] ∨
        (∃ asgID ∈ asgIDs, addressGroupName asgID = some name) ∧ row.cloudResource = resource := by
  induction asgIDs generalizing view with
  | nil => simp
  | cons asgID rest induction =>
    have attached : resource ∈ ((view.attach row asgID).members.get? name).getD [] ↔
        resource ∈ (view.members.get? name).getD [] ∨
          addressGroupName asgID = some name ∧ row.cloudResource = resource := by
      unfold AGSgView.attach
      cases named : addressGroupName asgID with
      | none => simp
      | some sgName =>
        by_cases same : name = sgName
        · subst same
          simp [eq_comm]
        · have other : sgName ≠ name := fun eq => same eq.symm
          simp [same, other]
    rw [List.foldl_cons, induction, attached, List.exists_mem_cons_iff, or_and_right, or_assoc]

/-- The members are collected by the names of groups. -/
theorem mem_foldl_visit (rows : List NetworkInterfaceTable) (view : AGSgView) :
    resource ∈ ((rows.foldl AGSgView.visit view).members.get? name).getD [] ↔
      resource ∈ (view.members.get? name).getD [] ∨
        ∃ row ∈ rows, row.InAddressGroup name ∧ row.cloudResource = resource := by
  induction rows generalizing view with
  | nil => simp
  | cons row rest induction =>
    have visited : resource ∈ ((view.visit row).members.get? name).getD [] ↔
        resource ∈ (view.members.get? name).getD [] ∨
          row.InAddressGroup name ∧ row.cloudResource = resource := by
      unfold AGSgView.visit NetworkInterfaceTable.InAddressGroup
      by_cases machine : row.virtualMachineID.isSome = true
      · rw [if_pos machine, mem_foldl_attach]
        simp only [machine, true_and]
      · simp [machine]
    rw [List.foldl_cons, induction, visited, List.exists_mem_cons_iff, or_assoc]

/-- The virtual network of an ASG, after the loop over the ASGs of an interface. -/
theorem get?_foldl_attach (asgIDs : List String) (view : AGSgView)
    (named : (addressGroupName asgID).isSome) :
    (asgIDs.foldl (AGSgView.attach row) view).asgIDToVnetID.get? (toLower asgID) =
      if asgIDs.any (toLower · == toLower asgID) then some (toLower row.vnetID)
      else view.asgIDToVnetID.get? (toLower asgID) := by
  induction asgIDs generalizing view with
  | nil => rfl
  | cons first rest induction =>
    have attached : (view.attach row first).asgIDToVnetID.get? (toLower asgID) =
        if toLower first = toLower asgID then some (toLower row.vnetID)
        else view.asgIDToVnetID.get? (toLower asgID) := by
      unfold AGSgView.attach
      by_cases same : toLower first = toLower asgID
      · obtain ⟨sgName, found⟩ := Option.isSome_iff_exists.mp named
        rw [addressGroupName_congr same, found, if_pos same, ← same]
        simp
      · have other : toLower asgID ≠ toLower first := fun eq => same eq.symm
        rw [if_neg same]
        cases addressGroupName first with
        | none => rfl
        | some sgName => simp [other]
    rw [List.foldl_cons, induction, attached, List.any_cons]
    by_cases same : toLower first = toLower asgID <;> simp [same]

/-- The virtual networks are collected by the ids of ASGs. -/
theorem get?_foldl_visit (rows : List NetworkInterfaceTable) (view : AGSgView)
    (named : (addressGroupName asgID).isSome) :
    (rows.foldl AGSgView.visit view).asgIDToVnetID.get? (toLower asgID) =
      ((rows.reverse.find? (·.isAttachedTo asgID)).map (toLower ·.vnetID)).or
        (view.asgIDToVnetID.get? (toLower asgID)) := by
  induction rows generalizing view with
  | nil => rfl
  | cons row rest induction =>
    have visited : (view.visit row).asgIDToVnetID.get? (toLower asgID) =
        if row.isAttachedTo asgID then some (toLower row.vnetID)
        else view.asgIDToVnetID.get? (toLower asgID) := by
      unfold AGSgView.visit NetworkInterfaceTable.isAttachedTo
      by_cases machine : row.virtualMachineID.isSome = true
      · rw [if_pos machine, get?_foldl_attach _ _ named, machine, Bool.true_and]
      · simp [machine]
    rw [List.foldl_cons, induction, visited, List.reverse_cons, List.find?_append]
    cases rest.reverse.find? (·.isAttachedTo asgID) with
    | some last => rfl
    | none => by_cases attached : row.isAttachedTo asgID = true <;> simp [attached]

theorem getD_foldl_visit (named : (addressGroupName asgID).isSome) :
    ((rows.foldl AGSgView.visit {}).asgIDToVnetID.get? (toLower asgID)).getD "" =
      vnetOf rows asgID := by
  rw [get?_foldl_visit rows {} named, vnetOf]
  simp

/-- What is reported about a group. -/
def AGSgView.reported (view : AGSgView) (group : CloudResourceID) : SynchronizationContent where
  resource := group
  membershipOnly := true
  members := (view.members.get? group.name).getD []
  membersWithOtherSGAttached := []
  ingressRules := []
  egressRules := []

theorem content_eq (atNames : GoSet String) (asg : ApplicationSecurityGroup) :
    (rows.foldl AGSgView.visit {}).content atNames asg =
      (addressGroupName asg.id).bind fun name => if name ∈ atNames then none
        else some ((rows.foldl AGSgView.visit {}).reported ⟨name, vnetOf rows asg.id⟩) := by
  unfold AGSgView.content
  cases named : addressGroupName asg.id with
  | none => rfl
  | some name =>
    rw [getD_foldl_visit (Option.isSome_iff_exists.mpr ⟨name, named⟩)]
    rfl

/-- A group is reported as often as it has ASGs, unless an appliedTo group has its name. -/
theorem filter_contents (asgs : List ApplicationSecurityGroup) (atNames : GoSet String)
    (group : CloudResourceID) :
    (asgs.filterMap ((rows.foldl AGSgView.visit {}).content atNames)).filter
        (fun content => content.resource = group) =
      if group.name ∈ atNames then []
      else List.replicate (asgsOf asgs rows group).length
        ((rows.foldl AGSgView.visit {}).reported group) := by
  induction asgs with
  | nil => simp [asgsOf]
  | cons asg rest induction =>
    rw [List.filterMap_cons, content_eq]
    cases named : addressGroupName asg.id with
    | none =>
      have skipped : asgsOf (asg :: rest) rows group = asgsOf rest rows group := by
        simp [asgsOf, named]
      rw [skipped]
      exact induction
    | some name =>
      by_cases same : (⟨name, vnetOf rows asg.id⟩ : CloudResourceID) = group
      · subst same
        have counted : asgsOf (asg :: rest) rows ⟨name, vnetOf rows asg.id⟩ =
            asg :: asgsOf rest rows ⟨name, vnetOf rows asg.id⟩ := by
          simp [asgsOf, named]
        by_cases skipped : name ∈ atNames
        · simpa [skipped] using induction
        · simpa [skipped, counted, List.replicate_succ, AGSgView.reported] using induction
      · have skipped : asgsOf (asg :: rest) rows group = asgsOf rest rows group := by
          have other : ¬(name = group.name ∧ vnetOf rows asg.id = group.vpc) := by
            rintro ⟨rfl, vnet⟩
            exact same (by rw [vnet])
          exact List.filter_cons_of_neg (by simpa [named] using other)
        rw [skipped, ← induction]
        by_cases hidden : name ∈ atNames
        · simp [hidden]
        · simp [hidden, AGSgView.reported, same]

/-- What is reported is exact for a group when its name tells its ASG from the others. -/
theorem reportedFor_iff {asgs : List ApplicationSecurityGroup} {atNames : GoSet String}
    {group : CloudResourceID} (named : addressGroupName asgID = some group.name) :
    ReportedFor asgID group rows
        (asgs.filterMap ((rows.foldl AGSgView.visit {}).content atNames)) ↔
      Distinguished asgID group asgs atNames rows := by
  -- What is attached to the ASG is attached to an ASG of the name.
  have inGroup {row : NetworkInterfaceTable} (attached : row.isAttachedTo asgID) :
      row.InAddressGroup group.name := by
    rw [NetworkInterfaceTable.isAttachedTo, Bool.and_eq_true, List.any_eq_true] at attached
    obtain ⟨machine, otherID, listed, same⟩ := attached
    exact ⟨machine, otherID, listed, (addressGroupName_congr (beq_iff_eq.mp same)).trans named⟩
  have members (resource : CloudResource) :
      resource ∈ ((rows.foldl AGSgView.visit {}).reported group).members ↔
        ∃ row ∈ rows, row.InAddressGroup group.name ∧ row.cloudResource = resource := by
    rw [AGSgView.reported, mem_foldl_visit]
    simp
  rw [ReportedFor, filter_contents]
  constructor
  · rintro ⟨content, found, _, exact_⟩
    by_cases hidden : group.name ∈ atNames
    · rw [if_pos hidden] at found
      cases found
    · rw [if_neg hidden] at found
      have one := congrArg List.length found
      rw [List.length_replicate] at one
      rw [one] at found
      obtain ⟨rfl, _⟩ := List.cons.inj found
      exact ⟨hidden, one, fun row listed grouped =>
        (exact_ row.cloudResource).mp ((members _).mpr ⟨row, listed, grouped, rfl⟩)⟩
  · rintro ⟨visible, one, own⟩
    refine ⟨(rows.foldl AGSgView.visit {}).reported group, ?_, rfl, fun resource => ?_⟩
    · rw [if_neg visible, one]
      rfl
    · rw [members]
      constructor
      · rintro ⟨row, listed, grouped, rfl⟩
        exact own row listed grouped
      · rintro ⟨row, listed, attached, same⟩
        exact ⟨row, listed, inGroup attached, same⟩

end Address

/--
The view of address groups is exact for the same ASGs, appliedTo groups and interfaces for
which names tell the ASGs apart.
-/
theorem address_groups_are_read_back (asgs : List ApplicationSecurityGroup)
    (atNames : GoSet String) (rows : List NetworkInterfaceTable) :
    (∃ contents, processAndBuildAGSgView (.ok asgs) atNames rows = .ok contents ∧
        ∀ asg ∈ asgs, ∀ name, addressGroupName asg.id = some name →
          ∀ nic ∈ rows, nic.isAttachedTo asg.id →
            ReportedFor asg.id ⟨name, toLower nic.vnetID⟩ rows contents) ↔
      ∀ asg ∈ asgs, ∀ name, addressGroupName asg.id = some name →
        ∀ nic ∈ rows, nic.isAttachedTo asg.id →
          Distinguished asg.id ⟨name, toLower nic.vnetID⟩ asgs atNames rows := by
  constructor
  · rintro ⟨contents, read, exact_⟩ asg listed name named nic present attached
    cases read
    exact (reportedFor_iff named).mp (exact_ asg listed name named nic present attached)
  · intro apart
    refine ⟨_, rfl, fun asg listed name named nic present attached => ?_⟩
    exact (reportedFor_iff named).mpr (apart asg listed name named nic present attached)

/-- An ASG of the address group `db` in a resource group. -/
def dbAsg (rgName : String) : ApplicationSecurityGroup where
  id := "/s/s/g/" ++ rgName ++ "/p/p/a/nephe-ag-db"
  name := "nephe-ag-db"

/-- An interface of a machine in a virtual network of the resource group, attached to the ASG. -/
def dbRow (rgName : String) : NetworkInterfaceTable where
  id := "nic-" ++ rgName
  vnetID := "vnet-" ++ rgName
  virtualMachineID := some "m"
  networkSecurityGroupID := none
  applicationSecurityGroupIDs := [(dbAsg rgName).id]
  tags := []

/-- Two address groups of one name are reported with the members of both. -/
theorem members_of_namesakes_are_mixed :
    (processAndBuildAGSgView (.ok [dbAsg "r", dbAsg "q"]) ∅ [dbRow "r", dbRow "q"]).map
        (List.map fun content => (content.resource, content.members)) =
      .ok [(⟨"db", (dbRow "r").vnetID⟩, [(dbRow "r").cloudResource, (dbRow "q").cloudResource]),
        (⟨"db", (dbRow "q").vnetID⟩, [(dbRow "r").cloudResource, (dbRow "q").cloudResource])] ∧
      (dbRow "q").isAttachedTo (dbAsg "r").id = false ∧
      (dbRow "r").cloudResource ≠ (dbRow "q").cloudResource := by
  decide +kernel

end Nephe.Azure
