import Nephe.Azure.Interfaces
import Nephe.Library.Runs

/-!
# Tags, ASGs and the NSG of an interface

That an interface is a member of an appliedTo group is recorded three times: by a tag, by
the ASG of the group and by the NSG of the virtual network, which all appliedTo groups
share.  The code decides from the tag and the NSG, and writes all three.  In a virtual
network without peers they agree with the latest lists of members after any sequence of
successful updates, provided that the interfaces could be listed each time.
-/

namespace Nephe.Azure

open Library

/-! ## Members and groups -/

/-- The interface belongs to a machine. -/
def Interface.Running (nic : Interface) : Prop :=
  nic.virtualMachineID.getD "" ≠ ""

/-- The list contains the interface or its machine. -/
def Interface.ContainedIn (nic : Interface) (members : List CloudResource) : Prop :=
  ∃ resource ∈ members,
    (resource.type = .virtualMachine ∧
      toLower resource.name.name = toLower (nic.virtualMachineID.getD "")) ∨
    (resource.type = .networkInterface ∧ toLower resource.name.name = toLower nic.id)

/-- The members in the last of the calls for a group of a kind. -/
def latestMembers (calls : List MembersCall) (group : CloudResourceID) (membershipOnly : Bool) :
    List CloudResource :=
  ((calls.filter fun call =>
    call.group == group && call.membershipOnly == membershipOnly).getLast?.map (·.members)).getD []

/-- The ASG of a group. -/
def Account.asgOf (account : Account) (group : CloudResourceID) (membershipOnly : Bool) :
    Option ApplicationSecurityGroup :=
  (extractFieldsFromAzureResourceID group.vpc).toOption.bind fun fields =>
    account.asgs.get? (fields.2.1, group.getCloudName membershipOnly)

/-- The ids of groups have their names in them. -/
structure Account.Named (account : Account) : Prop where
  asg : ∀ rgName name asg, account.asgs.get? (rgName, name) = some asg →
    nameInID (toLower asg.id) = some (toLower name)
  nsg : ∀ rgName name nsg, account.nsgs.get? (rgName, name) = some nsg →
    nameInID (toLower nsg.id) = some (toLower name)

/-- An interface of which the controller knows nothing yet. -/
structure Interface.Fresh (nic : Interface) : Prop where
  onePrimary : (nic.ipConfigurations.filter (·.primary)).length = 1
  everywhere : ∀ config ∈ nic.ipConfigurations,
    config.applicationSecurityGroups.getD [] = nic.primaryAsgs
  distinct : nic.primaryAsgs.Nodup
  noTags : ∀ key, (nic.tag key).isSome → isNepheName key = false
  noAsgs : ∀ id ∈ nic.primaryAsgs, ∀ name ∈ nameInID (toLower id), isNepheName name = false
  noNsg : ∀ id ∈ nic.networkSecurityGroup, ∀ name ∈ nameInID (toLower id),
    isNepheName name = false

/-- What the three records of one interface say after some calls. -/
structure InStep (account : Account) (vnetID : String) (calls : List MembersCall)
    (original nic : Interface) : Prop where
  tags : ∀ key, isAppliedToName key = true → ((nic.tag key).isSome ↔
    ∃ group, key = group.getCloudName false ∧ nic.ContainedIn (latestMembers calls group false))
  asgs : ∀ id, id ∈ nic.primaryAsgs ↔ id ∈ original.primaryAsgs ∨
    ∃ group membershipOnly asg, account.asgOf group membershipOnly = some asg ∧ id = asg.id ∧
      nic.ContainedIn (latestMembers calls group membershipOnly)
  distinct : nic.primaryAsgs.Nodup
  everywhere : ∀ config ∈ nic.ipConfigurations,
    config.applicationSecurityGroups.getD [] = nic.primaryAsgs
  nsg : (∃ id ∈ nic.networkSecurityGroup, nameInID (toLower id) = some (perVnetNsgName vnetID)) ↔
    nic.AppliedTo

/-- The fields of an interface that no update changes. -/
structure SameInterface (original nic : Interface) : Prop where
  id : nic.id = original.id
  vnetID : nic.vnetID = original.vnetID
  virtualMachineID : nic.virtualMachineID = original.virtualMachineID
  primary : original.HasPrimary → nic.HasPrimary

/-- A call for a group of the virtual network. -/
structure MembersCall.For (call : MembersCall) (vnetID : String) : Prop where
  vpc : call.group.vpc = vnetID
  lower : toLower call.group.name = call.group.name

/-! ## The latest members -/

theorem latestMembers_append (calls : List MembersCall) (call : MembersCall)
    (group : CloudResourceID) (membershipOnly : Bool) :
    latestMembers (calls ++ [call]) group membershipOnly =
      if call.group = group ∧ call.membershipOnly = membershipOnly then call.members
      else latestMembers calls group membershipOnly := by
  unfold latestMembers
  rw [List.filter_append]
  by_cases same : call.group = group ∧ call.membershipOnly = membershipOnly
  · simp [same]
  · simp [same]

variable {group : CloudResourceID} {nic : Interface} {account : Account} {plan : Plan}

theorem exists_call {calls : List MembersCall} {membershipOnly : Bool}
    (contained : nic.ContainedIn (latestMembers calls group membershipOnly)) :
    ∃ call ∈ calls, call.group = group ∧ call.membershipOnly = membershipOnly := by
  unfold latestMembers at contained
  cases last : (calls.filter fun call =>
      call.group == group && call.membershipOnly == membershipOnly).getLast? with
  | none =>
    rw [last] at contained
    obtain ⟨_, member, _⟩ := contained
    cases member
  | some call =>
    have found := List.mem_of_getLast? last
    simp only [List.mem_filter, Bool.and_eq_true, beq_iff_eq] at found
    exact ⟨call, found⟩

section Names

variable {account : Account} {vnetID : String} {calls : List MembersCall}

/-- Groups of the virtual network are told apart by their cloud names. -/
theorem MembersCall.For.eq_of_cloudName {call call' : MembersCall} {vnetID : String}
    (given : call.For vnetID) (given' : call'.For vnetID) {membershipOnly membershipOnly' : Bool}
    (same : call.group.getCloudName membershipOnly = call'.group.getCloudName membershipOnly') :
    call.group = call'.group ∧ membershipOnly = membershipOnly' := by
  obtain ⟨sameKind, sameName⟩ := getCloudName_inj same
  rw [given.lower, given'.lower] at sameName
  refine ⟨?_, sameKind⟩
  cases first : call.group
  cases second : call'.group
  have network := given.vpc.trans given'.vpc.symm
  simp_all

theorem Account.Named.asgOf (named : account.Named) {group : CloudResourceID}
    {membershipOnly : Bool} {asg : ApplicationSecurityGroup}
    (found : account.asgOf group membershipOnly = some asg) :
    nameInID (toLower asg.id) = some (group.getCloudName membershipOnly) := by
  obtain ⟨fields, _, stored⟩ := Option.bind_eq_some_iff.mp found
  rw [named.asg _ _ _ stored, group.toLower_getCloudName]

theorem asgOf_eq {group : CloudResourceID} {fields : String × String × String}
    (parsed : extractFieldsFromAzureResourceID group.vpc = .ok fields) (account : Account)
    (membershipOnly : Bool) : account.asgOf group membershipOnly =
      account.asgs.get? (fields.2.1, group.getCloudName membershipOnly) := by
  simp [Account.asgOf, parsed, Except.toOption]

end Names

/-! ## Tests on an interface -/

theorem Interface.isMember_row (nic : Interface) (members : List CloudResource) :
    nic.row.IsMember (findResourcesBasedOnKind members) ↔ nic.ContainedIn members := by
  simp only [NetworkInterfaceTable.IsMember, mem_findResources_fst, mem_findResources_snd,
    Interface.ContainedIn, ← exists_or, ← and_or_left]
  rfl

theorem nameInID_eq_some {id name : String} :
    nameInID id = some name ↔
      ∃ fields, extractFieldsFromAzureResourceID id = .ok fields ∧ fields.2.2 = name := by
  unfold nameInID
  cases extractFieldsFromAzureResourceID id <;> simp [Except.toOption]

/-- The test for appliedTo groups: the NSG of the virtual network, and the tag. -/
theorem isNsgAttached_row {nsgName key : String} {attached : Bool}
    (tested : isNsgAttached nsgName key nic.row = .ok attached) :
    attached = true ↔ (∃ id ∈ nic.networkSecurityGroup, nameInID (toLower id) = some nsgName) ∧
      (nic.tag key).isSome := by
  have tags : (nic.row.tags.head?.any fun tags => (tags.get? key).isSome) =
      (nic.tag key).isSome := by
    cases present : nic.tags <;> simp [Interface.row, Interface.tag, present]
  unfold isNsgAttached at tested
  cases nsg : nic.networkSecurityGroup with
  | none =>
    simp only [Interface.row, nsg, Option.getD_none, Option.getD_some, if_true,
      Except.ok.injEq] at tested
    simp [← tested]
  | some id =>
    simp only [Interface.row, nsg, Option.getD_some] at tested
    by_cases empty : id = ""
    · simp only [empty, if_true, Except.ok.injEq] at tested
      have unnamed : nameInID (toLower "") = none := by decide
      simp [← tested, empty, unnamed]
    · simp only [if_neg empty, bind_eq_ok, pure_eq_ok] at tested
      obtain ⟨fields, parsed, rfl⟩ := tested
      have name : nameInID (toLower id) = some fields.2.2 :=
        nameInID_eq_some.mpr ⟨fields, parsed, rfl⟩
      rw [Bool.and_eq_true, beq_iff_eq]
      simp only [Option.mem_def, Option.some.injEq, exists_eq_left', name]
      exact and_congr_right fun _ => by rw [← tags]; rfl

/-- The test for address groups: an ASG of the name. -/
theorem isAsgAttached_row :
    isAsgAttached (group.getCloudName true) nic.row = true ↔
      ∃ id ∈ nic.primaryAsgs, nameInID (toLower id) = some (group.getCloudName true) := by
  unfold isAsgAttached
  rw [List.any_eq_true]
  refine exists_congr fun id => and_congr_right fun _ => ?_
  simp only [Option.any_eq_true, Bool.and_eq_true, beq_iff_eq]
  constructor
  · rintro ⟨name, found, _, rfl⟩
    exact found
  · intro found
    exact ⟨_, found, by rw [group.isNephe_getCloudName_true], rfl⟩

/-! ## The ASGs of an interface -/

namespace InStep

variable {account : Account} {vnetID : String} {calls : List MembersCall} {call : MembersCall}
  {original nic : Interface} {asg : ApplicationSecurityGroup}
  (inStep : InStep account vnetID calls original nic)
  (named : account.Named) (fresh : original.Fresh)
  (given : ∀ call ∈ calls, call.For vnetID) (given' : call.For vnetID)
  (found : account.asgOf call.group call.membershipOnly = some asg)

include inStep named fresh given given' found

/-- An ASG with the name of a group is there because of the group. -/
theorem eq_of_mem_asgs {id : String} (member : id ∈ nic.primaryAsgs)
    (name : nameInID (toLower id) = some (call.group.getCloudName call.membershipOnly)) :
    id = asg.id ∧ nic.ContainedIn (latestMembers calls call.group call.membershipOnly) := by
  rcases (inStep.asgs id).mp member with foreign |
    ⟨group, membershipOnly, asg', found', rfl, contained⟩
  · have other := fresh.noAsgs id foreign _ name
    rw [call.group.isNephe_getCloudName] at other
    cases other
  · obtain ⟨before, earlier, rfl, rfl⟩ := exists_call contained
    obtain ⟨same, kind⟩ := given'.eq_of_cloudName (given before earlier)
      (Option.some.inj (name.symm.trans (named.asgOf found')))
    rw [same, kind] at found ⊢
    exact ⟨congrArg _ (Option.some.inj (found'.symm.trans found)), contained⟩

theorem mem_asgs_iff :
    asg.id ∈ nic.primaryAsgs ↔
      nic.ContainedIn (latestMembers calls call.group call.membershipOnly) := by
  constructor
  · intro member
    exact (inStep.eq_of_mem_asgs named fresh given given' found member (named.asgOf found)).2
  · intro contained
    exact (inStep.asgs asg.id).mpr (.inr ⟨_, _, asg, found, rfl, contained⟩)

end InStep

/-! ## One call -/

/-- What a call does to an interface: it was a member or not, and it shall be one or not. -/
inductive Outcome (update : Bool → Interface → Interface) (present wanted : Prop)
    (nic : Interface) : Interface → Prop
  | attach (absent : ¬present) (isWanted : wanted) : Outcome update present wanted nic
      (update true nic)
  | detach (isPresent : present) (unwanted : ¬wanted) : Outcome update present wanted nic
      (update false nic)
  | keep (same : present ↔ wanted) : Outcome update present wanted nic nic

/-- The change of an interface is decided by the test on its own row. -/
theorem outcome_change {members : List CloudResource}
    {isAttached : NetworkInterfaceTable → Except String Bool} {vnetID : String}
    (finished : findChanges isAttached (findResourcesBasedOnKind members).1
      (findResourcesBasedOnKind members).2 (account.getNetworkInterfacesOfVnet vnetID) =
        .ok plan.changes) (distinct : (account.interfaces.map fun nic => toLower nic.id).Nodup)
    (listed : nic ∈ account.interfaces) (primary : nic.HasPrimary)
    (inVnet : toLower nic.vnetID = toLower vnetID) (running : nic.Running) (present : Prop)
    (test : ∀ attached, isAttached nic.row = .ok attached → (attached = true ↔ present)) :
    Outcome plan.update present (nic.ContainedIn members) nic (plan.change nic) := by
  have hasRow : nic.row ∈ account.getNetworkInterfacesOfVnet vnetID :=
    List.mem_map_of_mem (List.mem_filter.mpr ⟨listed, by
      rw [Bool.and_eq_true, beq_iff_eq]
      exact ⟨primary, inVnet⟩⟩)
  obtain ⟨attached, tested⟩ := exists_tested finished hasRow running
  -- Rows with the id of the interface are its own row.
  have own {row : NetworkInterfaceTable}
      (inRows : row ∈ account.getNetworkInterfacesOfVnet vnetID)
      (same : toLower row.id = toLower nic.id) : row = nic.row := by
    obtain ⟨other, kept, rfl⟩ := List.mem_map.mp inRows
    rw [List.inj_on_of_nodup_map distinct (List.mem_of_mem_filter kept) listed same]
  have tested_iff (expected : Bool) (membership : NetworkInterfaceTable → Prop) :
      (∃ row ∈ account.getNetworkInterfacesOfVnet vnetID, row.Running ∧
        isAttached row = .ok expected ∧ membership row ∧ toLower row.id = toLower nic.id) ↔
          attached = expected ∧ membership nic.row := by
    constructor
    · rintro ⟨row, inRows, _, outcome, member, same⟩
      rw [own inRows same, tested] at outcome
      rw [own inRows same] at member
      exact ⟨Except.ok.inj outcome, member⟩
    · rintro ⟨rfl, member⟩
      exact ⟨_, hasRow, running, tested, member, rfl⟩
  obtain ⟨attaching, detaching⟩ := mem_findChanges finished (toLower nic.id)
  rw [tested_iff false fun row => row.IsMember _, nic.isMember_row] at attaching
  rw [tested_iff true fun row => ¬row.IsMember _, nic.isMember_row] at detaching
  have decided := test attached tested
  unfold Plan.change
  by_cases attach : toLower nic.id ∈ plan.changes.toAttach
  · rw [if_pos attach]
    obtain ⟨rfl, wanted⟩ := attaching.mp attach
    exact .attach (fun there => Bool.false_ne_true (decided.mpr there)) wanted
  · rw [if_neg attach]
    rw [attaching] at attach
    by_cases detach : toLower nic.id ∈ plan.changes.toDetach
    · rw [if_pos detach]
      obtain ⟨rfl, unwanted⟩ := detaching.mp detach
      exact .detach (decided.mp rfl) unwanted
    · rw [if_neg detach]
      rw [detaching] at detach
      refine .keep (decided.symm.trans ?_)
      cases attached with
      | false => exact iff_of_false Bool.false_ne_true fun wanted => attach ⟨rfl, wanted⟩
      | true => exact iff_of_true rfl (by_contra fun unwanted => detach ⟨rfl, unwanted⟩)

/-- The parts of an update that both kinds of groups have in common. -/
structure Writes (asgID : String) (update : Bool → Interface → Interface) : Prop where
  same : ∀ isAttach nic, SameInterface nic (update isAttach nic)
  asgs : ∀ isAttach nic, (update isAttach nic).ipConfigurations =
    getAsgUpdatedIPConfigurations nic asgID isAttach

theorem writes_updateNetworkInterfaceAsg (asgID : String) :
    Writes asgID (updateNetworkInterfaceAsg asgID) where
  same _ _ := ⟨rfl, rfl, rfl, (hasPrimary_of_changed rfl).mpr⟩
  asgs _ _ := rfl

theorem writes_updateNetworkInterfaceNsg (nsgID asgID tagKey : String) :
    Writes asgID (updateNetworkInterfaceNsg nsgID asgID tagKey) where
  same _ _ := ⟨rfl, rfl, rfl, (hasPrimary_of_changed rfl).mpr⟩
  asgs _ _ := rfl

theorem SameInterface.refl (nic : Interface) : SameInterface nic nic :=
  ⟨rfl, rfl, rfl, fun primary => primary⟩

theorem SameInterface.trans {first second third : Interface} (before : SameInterface first second)
    (after : SameInterface second third) : SameInterface first third where
  id := after.id.trans before.id
  vnetID := after.vnetID.trans before.vnetID
  virtualMachineID := after.virtualMachineID.trans before.virtualMachineID
  primary := fun primary => after.primary (before.primary primary)

theorem SameInterface.containedIn {original : Interface} (same : SameInterface original nic)
    (members : List CloudResource) : nic.ContainedIn members ↔ original.ContainedIn members := by
  rw [Interface.ContainedIn, Interface.ContainedIn, same.id, same.virtualMachineID]

theorem Writes.change {asgID : String} (writes : Writes asgID plan.update) (nic : Interface) :
    SameInterface nic (plan.change nic) := by
  unfold Plan.change
  split
  next => exact writes.same _ _
  next =>
    split
    next => exact writes.same _ _
    next => exact .refl nic

section Asgs

variable {update : Bool → Interface → Interface} {present wanted : Prop} {nic changed : Interface}
  {asgID : String}

theorem Outcome.same (outcome : Outcome update present wanted nic changed)
    (writes : Writes asgID update) : SameInterface nic changed := by
  cases outcome with
  | attach => exact writes.same _ _
  | detach => exact writes.same _ _
  | keep => exact .refl nic

/-- The ASGs afterwards: the given one as wanted, the others as before. -/
theorem Outcome.mem_asgs (outcome : Outcome update present wanted nic changed)
    (writes : Writes asgID update) (primary : nic.HasPrimary)
    (there : asgID ∈ nic.primaryAsgs ↔ present)
    (unique : ∀ id ∈ nic.primaryAsgs, toLower id = toLower asgID → id = asgID) (id : String) :
    id ∈ changed.primaryAsgs ↔ (id ∈ nic.primaryAsgs ∧ id ≠ asgID) ∨ (id = asgID ∧ wanted) := by
  cases outcome with
  | attach absent isWanted =>
    rw [primaryAsgs_of_changed (writes.asgs true nic) primary]
    have other : id ∈ nic.primaryAsgs → id ≠ asgID := by
      rintro member rfl
      exact absent (there.mp member)
    simp only [newAsgs, if_true, List.mem_append, List.mem_singleton, isWanted, and_true]
    exact or_congr_left ⟨fun member => ⟨member, other member⟩, And.left⟩
  | detach isPresent unwanted =>
    rw [primaryAsgs_of_changed (writes.asgs false nic) primary]
    simp only [newAsgs, Bool.false_eq_true, if_false, List.mem_filter, bne_iff_ne, unwanted,
      and_false, or_false]
    exact and_congr_right fun member =>
      not_congr ⟨unique id member, fun same => by rw [same]⟩
  | keep same =>
    by_cases equal : id = asgID
    · rw [equal, there, same]
      simp
    · simp [equal]

theorem Outcome.nodup_asgs (outcome : Outcome update present wanted nic changed)
    (writes : Writes asgID update) (primary : nic.HasPrimary)
    (there : asgID ∈ nic.primaryAsgs ↔ present) (distinct : nic.primaryAsgs.Nodup) :
    changed.primaryAsgs.Nodup := by
  cases outcome with
  | attach absent isWanted =>
    rw [primaryAsgs_of_changed (writes.asgs true nic) primary]
    refine distinct.append (List.nodup_singleton _) ?_
    intro id member same
    rw [List.mem_singleton] at same
    subst same
    exact absent (there.mp member)
  | detach =>
    rw [primaryAsgs_of_changed (writes.asgs false nic) primary]
    exact distinct.filter _
  | keep => exact distinct

theorem Outcome.everywhere (outcome : Outcome update present wanted nic changed)
    (writes : Writes asgID update) (primary : nic.HasPrimary)
    (before : ∀ config ∈ nic.ipConfigurations,
      config.applicationSecurityGroups.getD [] = nic.primaryAsgs) :
    ∀ config ∈ changed.ipConfigurations,
      config.applicationSecurityGroups.getD [] = changed.primaryAsgs := by
  have written (isAttach : Bool) : ∀ config ∈ (update isAttach nic).ipConfigurations,
      config.applicationSecurityGroups.getD [] = (update isAttach nic).primaryAsgs := by
    intro config member
    rw [asgs_of_changed (writes.asgs isAttach nic) config member,
      primaryAsgs_of_changed (writes.asgs isAttach nic) primary]
    rfl
  cases outcome with
  | attach => exact written true
  | detach => exact written false
  | keep => exact before

end Asgs

namespace InStep

variable {account : Account} {vnetID : String} {calls : List MembersCall} {call : MembersCall}
  {original nic changed : Interface} {asg : ApplicationSecurityGroup}
  (inStep : InStep account vnetID calls original nic)
  (named : account.Named) (fresh : original.Fresh)
  (given : ∀ call ∈ calls, call.For vnetID) (given' : call.For vnetID)
  (found : account.asgOf call.group call.membershipOnly = some asg)

include inStep named fresh given given' found

/-- The ASGs follow the latest members when the ASG of the call follows its members. -/
theorem asgs_append (same : SameInterface nic changed)
    (written : ∀ id, id ∈ changed.primaryAsgs ↔
      (id ∈ nic.primaryAsgs ∧ id ≠ asg.id) ∨ (id = asg.id ∧ nic.ContainedIn call.members))
    (id : String) :
    id ∈ changed.primaryAsgs ↔ id ∈ original.primaryAsgs ∨
      ∃ group membershipOnly asg, account.asgOf group membershipOnly = some asg ∧ id = asg.id ∧
        changed.ContainedIn (latestMembers (calls ++ [call]) group membershipOnly) := by
  simp only [written, same.containedIn, latestMembers_append]
  constructor
  · rintro (⟨before, other⟩ | ⟨rfl, contained⟩)
    · rcases (inStep.asgs id).mp before with foreign | ⟨group, kind, asg', found', rfl, contained⟩
      · exact .inl foreign
      · refine .inr ⟨group, kind, asg', found', rfl, ?_⟩
        rw [if_neg]
        · exact contained
        · rintro ⟨rfl, rfl⟩
          exact other (congrArg _ (Option.some.inj (found'.symm.trans found)))
    · refine .inr ⟨_, _, asg, found, rfl, ?_⟩
      rw [if_pos ⟨rfl, rfl⟩]
      exact contained
  · rintro (foreign | ⟨group, kind, asg', found', rfl, contained⟩)
    · refine .inl ⟨(inStep.asgs id).mpr (.inl foreign), ?_⟩
      rintro rfl
      have other := fresh.noAsgs _ foreign _ (named.asgOf found)
      rw [call.group.isNephe_getCloudName] at other
      cases other
    · by_cases isCall : call.group = group ∧ call.membershipOnly = kind
      · rw [if_pos isCall] at contained
        obtain ⟨rfl, rfl⟩ := isCall
        exact .inr ⟨congrArg _ (Option.some.inj (found'.symm.trans found)), contained⟩
      · rw [if_neg isCall] at contained
        refine .inl ⟨(inStep.asgs _).mpr (.inr ⟨_, _, asg', found', rfl, contained⟩), ?_⟩
        intro equal
        -- The ASGs of two groups have different names.
        obtain ⟨before, earlier, rfl, rfl⟩ := exists_call contained
        have sameName := named.asgOf found'
        rw [equal, named.asgOf found] at sameName
        exact isCall (given'.eq_of_cloudName (given before earlier) (Option.some.inj sameName))

theorem asgs_of_outcome (primary : nic.HasPrimary)
    {update : Bool → Interface → Interface} (writes : Writes asg.id update)
    (outcome : Outcome update
      (nic.ContainedIn (latestMembers calls call.group call.membershipOnly))
      (nic.ContainedIn call.members) nic changed) :
    (∀ id, id ∈ changed.primaryAsgs ↔ id ∈ original.primaryAsgs ∨
      ∃ group membershipOnly asg, account.asgOf group membershipOnly = some asg ∧ id = asg.id ∧
        changed.ContainedIn (latestMembers (calls ++ [call]) group membershipOnly)) ∧
      changed.primaryAsgs.Nodup ∧ ∀ config ∈ changed.ipConfigurations,
        config.applicationSecurityGroups.getD [] = changed.primaryAsgs := by
  have there := inStep.mem_asgs_iff named fresh given given' found
  have unique : ∀ id ∈ nic.primaryAsgs, toLower id = toLower asg.id → id = asg.id := by
    intro id member equal
    exact (inStep.eq_of_mem_asgs named fresh given given' found member
      (by rw [equal]; exact named.asgOf found)).1
  exact ⟨inStep.asgs_append named fresh given given' found (outcome.same writes)
      (outcome.mem_asgs writes primary there unique),
    outcome.nodup_asgs writes primary there inStep.distinct,
    outcome.everywhere writes primary inStep.everywhere⟩

theorem addressGroup (isAddressGroup : call.membershipOnly = true) (primary : nic.HasPrimary)
    (outcome : Outcome (updateNetworkInterfaceAsg asg.id)
      (nic.ContainedIn (latestMembers calls call.group call.membershipOnly))
      (nic.ContainedIn call.members) nic changed) :
    InStep account vnetID (calls ++ [call]) original changed := by
  have writes := writes_updateNetworkInterfaceAsg asg.id
  have same := outcome.same writes
  obtain ⟨asgs, distinct, everywhere⟩ :=
    inStep.asgs_of_outcome named fresh given given' found primary writes outcome
  -- Neither the tags nor the NSG are written.
  have sameTags : changed.tags = nic.tags ∧
      changed.networkSecurityGroup = nic.networkSecurityGroup := by
    cases outcome <;> exact ⟨rfl, rfl⟩
  refine ⟨?_, asgs, distinct, everywhere, ?_⟩
  · intro key isAppliedTo
    rw [Interface.tag, sameTags.1]
    refine (inStep.tags key isAppliedTo).trans
      (exists_congr fun group => and_congr_right fun _ => ?_)
    rw [same.containedIn, latestMembers_append, isAddressGroup]
    simp
  · rw [sameTags.2, inStep.nsg]
    simp only [Interface.AppliedTo, Interface.tag, sameTags.1]

omit named fresh found in
/-- The tag of a group says whether the interface is one of its members. -/
theorem tag_iff :
    (nic.tag (call.group.getCloudName false)).isSome ↔
      nic.ContainedIn (latestMembers calls call.group false) := by
  rw [inStep.tags _ (by rw [call.group.isAppliedTo_getCloudName]; rfl)]
  constructor
  · rintro ⟨group, sameName, contained⟩
    obtain ⟨before, earlier, rfl, _⟩ := exists_call contained
    rw [(given'.eq_of_cloudName (given before earlier) sameName).1]
    exact contained
  · intro contained
    exact ⟨call.group, rfl, contained⟩

theorem appliedTo (isAppliedTo : call.membershipOnly = false) (primary : nic.HasPrimary)
    {nsgID : String} (nsgName : nameInID (toLower nsgID) = some (perVnetNsgName vnetID))
    (outcome : Outcome (updateNetworkInterfaceNsg nsgID asg.id (call.group.getCloudName false))
      (nic.ContainedIn (latestMembers calls call.group call.membershipOnly))
      (nic.ContainedIn call.members) nic changed) :
    InStep account vnetID (calls ++ [call]) original changed := by
  have writes := writes_updateNetworkInterfaceNsg nsgID asg.id (call.group.getCloudName false)
  have same := outcome.same writes
  obtain ⟨asgs, distinct, everywhere⟩ :=
    inStep.asgs_of_outcome named fresh given given' found primary writes outcome
  have own := inStep.tag_iff given given'
  -- The tag of the group follows the call, the others stay.
  have written (key : String) : (changed.tag key).isSome ↔
      if key = call.group.getCloudName false then nic.ContainedIn call.members
      else (nic.tag key).isSome := by
    cases outcome with
    | attach absent wanted =>
      rw [tag_attach]
      split <;> simp [wanted]
    | detach present unwanted =>
      rw [tag_detach]
      split <;> simp [unwanted]
    | keep unchanged =>
      split
      next equal => rw [equal, own, ← isAppliedTo, unchanged]
      next => rfl
  have ofGroup : isAppliedToName (call.group.getCloudName false) = true := by
    rw [call.group.isAppliedTo_getCloudName]
    rfl
  refine ⟨?_, asgs, distinct, everywhere, ?_⟩
  · intro key isAppliedToKey
    simp only [written, same.containedIn, latestMembers_append, isAppliedTo, and_true]
    split
    next equal =>
      subst equal
      constructor
      · intro contained
        exact ⟨call.group, rfl, by rw [if_pos rfl]; exact contained⟩
      · rintro ⟨group, sameName, contained⟩
        by_cases isCall : call.group = group
        · rwa [if_pos isCall] at contained
        · rw [if_neg isCall] at contained
          obtain ⟨before, earlier, rfl, _⟩ := exists_call contained
          exact absurd (given'.eq_of_cloudName (given before earlier) sameName).1 isCall
    next other =>
      rw [inStep.tags key isAppliedToKey]
      refine exists_congr fun group => and_congr_right fun isKey => ?_
      rw [if_neg]
      rintro rfl
      exact other isKey
  · cases outcome with
    | attach absent wanted =>
      refine iff_of_true ⟨nsgID, nsg_attach, nsgName⟩ ⟨_, ?_, ofGroup⟩
      rw [tag_attach, if_pos rfl]
      rfl
    | detach present unwanted =>
      classical
      have before : nic.AppliedTo := ⟨_, own.mpr (isAppliedTo ▸ present), ofGroup⟩
      rw [nsg_detach]
      split
      next remaining => exact iff_of_true (inStep.nsg.mpr before) remaining
      next last => exact iff_of_false (by simp) last
    | keep => exact inStep.nsg

end InStep

/-! ## Runs -/

/-- The account after a call in a virtual network without peers. -/
def updateMembers (account : Account) (call : MembersCall) : Account :=
  (updateSecurityGroupMembers false account call).2

/-- The call succeeds, and the interfaces can be listed in it. -/
def Completed (account : Account) (call : MembersCall) : Prop :=
  (updateSecurityGroupMembers false account call).1 = .ok () ∧ call.faults.listInterfaces = none

theorem Completed.exists_plan {call : MembersCall} (completed : Completed account call) :
    ∃ (plan : Plan) (asg : ApplicationSecurityGroup),
      account.asgOf call.group call.membershipOnly = some asg ∧ Writes asg.id plan.update ∧
      updateMembers account call =
        { account with interfaces := account.interfaces.map plan.change } ∧
      ((call.membershipOnly = true ∧ plan.update = updateNetworkInterfaceAsg asg.id ∧
        findChanges (fun row => .ok (isAsgAttached (call.group.getCloudName true) row))
          (findResourcesBasedOnKind call.members).1 (findResourcesBasedOnKind call.members).2
          (account.getNetworkInterfacesOfVnet call.group.vpc) = .ok plan.changes) ∨
      (call.membershipOnly = false ∧ ∃ rgName nsg,
        account.nsgs.get? (rgName, perVnetNsgName call.group.vpc) = some nsg ∧
        plan.update = updateNetworkInterfaceNsg nsg.id asg.id (call.group.getCloudName false) ∧
        findChanges (isNsgAttached (perVnetNsgName call.group.vpc) (call.group.getCloudName false))
          (findResourcesBasedOnKind call.members).1 (findResourcesBasedOnKind call.members).2
          (account.getNetworkInterfacesOfVnet call.group.vpc) = .ok plan.changes)) := by
  obtain ⟨successful, listed⟩ := completed
  unfold updateSecurityGroupMembers at successful
  cases planned : planMembers account call false with
  | error err =>
    rw [planned] at successful
    cases successful
  | ok result =>
    obtain ⟨_, fields, parsed, kind⟩ := planMembers_eq_ok.mp planned
    have updated {plan : Plan} (some_ : some plan = result) : updateMembers account call =
        { account with interfaces := account.interfaces.map plan.change } := by
      rw [planned, ← some_] at successful
      rw [← attachDetach_eq listed successful, updateMembers, updateSecurityGroupMembers, planned,
        ← some_]
    cases membershipOnly : call.membershipOnly with
    | true =>
      rw [membershipOnly] at kind
      obtain ⟨plan, made, some_⟩ := kind
      obtain ⟨asg, ⟨_, found⟩, finished, update⟩ := processAddressGroupMembership_eq_ok.mp made
      exact ⟨plan, asg, (asgOf_eq parsed account true).trans found,
        update ▸ writes_updateNetworkInterfaceAsg asg.id, updated some_,
        .inl ⟨rfl, update, finished⟩⟩
    | false =>
      rw [membershipOnly] at kind
      obtain ⟨plan, made, some_⟩ := kind
      obtain ⟨nsg, asg, ⟨_, foundNsg⟩, ⟨_, found⟩, finished, update⟩ :=
        processAppliedToMembership_eq_ok.mp made
      exact ⟨plan, asg, (asgOf_eq parsed account false).trans found,
        update ▸ writes_updateNetworkInterfaceNsg nsg.id asg.id _, updated some_,
        .inr ⟨rfl, _, nsg, foundNsg, update, finished⟩⟩

/-- What holds of the account after some calls. -/
structure Tracks (account : Account) (vnetID : String) (calls : List MembersCall)
    (current : Account) : Prop where
  asgs : current.asgs = account.asgs
  nsgs : current.nsgs = account.nsgs
  interfaces : List.Forall₂ (fun original nic => SameInterface original nic ∧
    (original.Running → toLower original.vnetID = vnetID →
      InStep account vnetID calls original nic)) account.interfaces current.interfaces

section Run

variable {account : Account} {vnetID : String}

theorem Interface.Fresh.hasPrimary {nic : Interface} (fresh : nic.Fresh) : nic.HasPrimary := by
  obtain ⟨config, only⟩ := List.length_eq_one_iff.mp fresh.onePrimary
  have member : config ∈ nic.ipConfigurations.filter (·.primary) := by
    rw [only]
    exact List.mem_singleton_self _
  exact List.any_eq_true.mpr ⟨config, List.mem_filter.mp member⟩

theorem InStep.initially {nic : Interface} (fresh : nic.Fresh)
    (lower : toLower vnetID = vnetID) : InStep account vnetID [] nic nic := by
  have nobody (group : CloudResourceID) (membershipOnly : Bool) :
      ¬nic.ContainedIn (latestMembers [] group membershipOnly) := by
    rintro ⟨_, member, _⟩
    cases member
  have untagged (key : String) (isAppliedTo : isAppliedToName key = true) :
      ¬(nic.tag key).isSome := by
    intro tagged
    have other := fresh.noTags key tagged
    rw [isNepheName_of_appliedTo isAppliedTo] at other
    cases other
  refine ⟨?_, ?_, fresh.distinct, fresh.everywhere, iff_of_false ?_ ?_⟩
  · intro key isAppliedTo
    exact iff_of_false (untagged key isAppliedTo) fun ⟨group, _, contained⟩ =>
      nobody group _ contained
  · intro id
    exact (or_iff_left fun ⟨group, kind, _, _, _, contained⟩ => nobody group kind contained).symm
  · rintro ⟨id, attached, name⟩
    have other := fresh.noNsg id attached _ name
    rw [← toLower_perVnetNsgName.mpr (toLower_lastToken lower), toLower_perVnetNsgName_eq,
      CloudResourceID.isNephe_getCloudName] at other
    cases other
  · rintro ⟨key, tagged, isAppliedTo⟩
    exact untagged key isAppliedTo tagged

theorem Tracks.step {calls : List MembersCall} {current : Account} {call : MembersCall}
    (tracks : Tracks account vnetID calls current) (lower : toLower vnetID = vnetID)
    (named : account.Named) (distinct : (account.interfaces.map fun nic => toLower nic.id).Nodup)
    (fresh : ∀ nic ∈ account.interfaces, toLower nic.vnetID = vnetID → nic.Fresh)
    (given : ∀ call ∈ calls, call.For vnetID) (given' : call.For vnetID)
    (completed : Completed current call) :
    Tracks account vnetID (calls ++ [call]) (updateMembers current call) := by
  obtain ⟨plan, asg, found, writes, updated, kind⟩ := completed.exists_plan
  have found : account.asgOf call.group call.membershipOnly = some asg := by
    rw [← found, Account.asgOf, Account.asgOf, tracks.asgs]
  have distinct' : (current.interfaces.map fun nic => toLower nic.id).Nodup := by
    have sameIDs : List.Forall₂ Eq (account.interfaces.map fun nic => toLower nic.id)
        (current.interfaces.map fun nic => toLower nic.id) := by
      rw [List.forall₂_map_left_iff, List.forall₂_map_right_iff]
      exact tracks.interfaces.imp fun original nic pair => by rw [pair.1.id]
    rw [List.forall₂_eq_eq_eq] at sameIDs
    rw [← sameIDs]
    exact distinct
  rw [updated]
  refine ⟨tracks.asgs, tracks.nsgs, ?_⟩
  obtain ⟨sameLength, pairs⟩ := List.forall₂_iff_zip.mp tracks.interfaces
  rw [List.forall₂_map_right_iff, List.forall₂_iff_zip]
  refine ⟨sameLength, fun {original nic} paired => ?_⟩
  obtain ⟨inAccount, listed⟩ := List.of_mem_zip paired
  obtain ⟨same, before⟩ := pairs paired
  refine ⟨same.trans (writes.change nic), fun running inVnet => ?_⟩
  have fresh := fresh original inAccount inVnet
  have inStep := before running inVnet
  have primary := same.primary fresh.hasPrimary
  have inVnet' : toLower nic.vnetID = toLower call.group.vpc := by
    rw [same.vnetID, inVnet, given'.vpc, lower]
  have running' : nic.Running := by
    rw [Interface.Running, same.virtualMachineID]
    exact running
  rcases kind with ⟨isAddressGroup, update, finished⟩ |
    ⟨isAppliedTo, rgName, nsg, foundNsg, update, finished⟩
  · -- The test for address groups finds the ASG exactly when it is there.
    have outcome := outcome_change finished distinct' listed primary inVnet' running'
      (nic.ContainedIn (latestMembers calls call.group call.membershipOnly)) (by
        rintro attached tested
        rw [← Except.ok.inj tested, isAsgAttached_row]
        constructor
        · rintro ⟨id, member, name⟩
          rw [← isAddressGroup] at name
          exact (inStep.eq_of_mem_asgs named fresh given given' found member name).2
        · intro contained
          refine ⟨asg.id, (inStep.mem_asgs_iff named fresh given given' found).mpr contained, ?_⟩
          rw [named.asgOf found, isAddressGroup])
    rw [update] at outcome
    exact inStep.addressGroup named fresh given given' found isAddressGroup primary outcome
  · -- The tag is there exactly when the test succeeds, since the NSG goes with it.
    have outcome := outcome_change finished distinct' listed primary inVnet' running'
      (nic.ContainedIn (latestMembers calls call.group call.membershipOnly)) (by
        intro attached tested
        rw [isNsgAttached_row tested, given'.vpc, inStep.nsg, isAppliedTo,
          inStep.tag_iff given given']
        refine and_iff_right_of_imp fun contained => ?_
        refine ⟨_, (inStep.tag_iff given given').mpr contained, ?_⟩
        rw [call.group.isAppliedTo_getCloudName]
        rfl)
    rw [update] at outcome
    refine inStep.appliedTo named fresh given given' found isAppliedTo primary ?_ outcome
    rw [tracks.nsgs] at foundNsg
    rw [named.nsg _ _ _ foundNsg, given'.vpc, toLower_perVnetNsgName.mpr (toLower_lastToken lower)]

/--
After any sequence of successful calls, in each of which the interfaces could be listed, the
tags, the ASGs and the NSG of every interface of a machine say what the latest members are.
-/
theorem interfaces_stay_in_step (account : Account) (vnetID : String)
    (lower : toLower vnetID = vnetID) (named : account.Named)
    (distinct : (account.interfaces.map fun nic => toLower nic.id).Nodup)
    (fresh : ∀ nic ∈ account.interfaces, toLower nic.vnetID = vnetID → nic.Fresh)
    (calls : List MembersCall) (given : ∀ call ∈ calls, call.For vnetID)
    (completed : Allowed updateMembers Completed account calls) :
    List.Forall₂ (fun original nic => SameInterface original nic ∧
      (original.Running → toLower original.vnetID = vnetID →
        InStep account vnetID calls original nic))
      account.interfaces (run updateMembers account calls).interfaces := by
  suffices tracks : Tracks account vnetID calls (run updateMembers account calls) from
    tracks.interfaces
  induction calls using List.reverseRecOn with
  | nil =>
    refine ⟨rfl, rfl, List.forall₂_same.mpr fun nic listed => ⟨.refl nic, fun _ inVnet => ?_⟩⟩
    exact .initially (fresh nic listed inVnet) lower
  | append_singleton calls call induction =>
    obtain ⟨before, after⟩ := completed.append
    have given' : ∀ call ∈ calls, call.For vnetID := fun call member =>
      given call (List.mem_append_left _ member)
    have tracks := (induction given' before).step lower named distinct fresh given'
      (given call (List.mem_append_right _ List.mem_cons_self)) after.1
    rw [run, List.foldl_append]
    exact tracks

end Run

/-! ## A sample account -/

/-- The id of a resource in the resource group `r`. -/
def resourceID (kind name : String) : String :=
  "/subscriptions/s/resourcegroups/r/providers/p/" ++ kind ++ "/" ++ name

def sampleVnetID : String := resourceID "vnets" "v"

/-- An interface of the machine `m` with one foreign ASG. -/
def sampleInterface : Interface where
  id := resourceID "nics" "n"
  vnetID := sampleVnetID
  virtualMachineID := some (resourceID "vms" "m")
  networkSecurityGroup := none
  ipConfigurations := [⟨true, some [resourceID "asgs" "office"]⟩]
  tags := none

def vnetAccount : Account where
  asgs := (((∅ : GoMap (String × String) ApplicationSecurityGroup).set ("r", "nephe-at-web")
      ⟨resourceID "asgs" "nephe-at-web", "nephe-at-web"⟩).set ("r", "nephe-ag-db")
      ⟨resourceID "asgs" "nephe-ag-db", "nephe-ag-db"⟩)
  nsgs := (∅ : GoMap (String × String) NetworkSecurityGroup).set
    ("r", "nephe-at-per-vnet-default-v")
    ⟨resourceID "nsgs" "nephe-at-per-vnet-default-v", none⟩
  interfaces := [sampleInterface]

/-- A call for the appliedTo group `web`, with the machine as its member or without members. -/
def sampleMembersCall (hasMember : Bool) (faults : Faults) : MembersCall where
  group := ⟨"web", sampleVnetID⟩
  members := if hasMember then [⟨.virtualMachine, ⟨resourceID "vms" "m", sampleVnetID⟩⟩] else []
  membershipOnly := false
  faults := faults

theorem named_vnetAccount : vnetAccount.Named where
  asg := by
    intro rgName name asg
    simp only [vnetAccount, GoMap.get?_set, GoMap.get?_empty]
    split
    next key =>
      rintro ⟨⟩
      cases key
      decide +kernel
    next =>
      split
      next key =>
        rintro ⟨⟩
        cases key
        decide +kernel
      next => simp
  nsg := by
    intro rgName name nsg
    simp only [vnetAccount, GoMap.get?_set, GoMap.get?_empty]
    split
    next key =>
      rintro ⟨⟩
      cases key
      decide +kernel
    next => simp

theorem fresh_sampleInterface : sampleInterface.Fresh where
  onePrimary := by decide +kernel
  everywhere := by decide +kernel
  distinct := by decide +kernel
  noTags := by rintro _ ⟨⟩
  noAsgs := by decide +kernel
  noNsg := by rintro _ ⟨⟩

theorem sample_interface_stays_in_step :
    List.Forall₂ (fun original nic => SameInterface original nic ∧
      (original.Running → toLower original.vnetID = sampleVnetID →
        InStep vnetAccount sampleVnetID [sampleMembersCall true {}, sampleMembersCall false {}]
          original nic))
      [sampleInterface] (run updateMembers vnetAccount
        [sampleMembersCall true {}, sampleMembersCall false {}]).interfaces :=
  interfaces_stay_in_step vnetAccount sampleVnetID (by decide +kernel) named_vnetAccount
    (by decide +kernel)
    (by
      intro nic listed _
      cases List.mem_singleton.mp listed
      exact fresh_sampleInterface)
    [sampleMembersCall true {}, sampleMembersCall false {}]
    (by
      intro call listed
      simp only [List.mem_cons, List.not_mem_nil, or_false] at listed
      rcases listed with rfl | rfl <;> exact ⟨rfl, by decide +kernel⟩)
    ⟨⟨by decide +kernel, rfl⟩, ⟨by decide +kernel, rfl⟩, trivial⟩

/-- When the interfaces cannot be listed, the call succeeds and its member gets no tag. -/
theorem member_stays_untagged :
    sampleInterface.Fresh ∧
      (updateSecurityGroupMembers false vnetAccount
        (sampleMembersCall true { listInterfaces := some "timeout" })).1 = .ok () ∧
      sampleInterface.ContainedIn (latestMembers
        [sampleMembersCall true { listInterfaces := some "timeout" }] ⟨"web", sampleVnetID⟩ false) ∧
      (updateMembers vnetAccount
        (sampleMembersCall true { listInterfaces := some "timeout" })).interfaces =
          [sampleInterface] ∧
      sampleInterface.tag "nephe-at-web" = none := by
  have run : updateSecurityGroupMembers false vnetAccount
      (sampleMembersCall true { listInterfaces := some "timeout" }) = (.ok (), vnetAccount) := rfl
  refine ⟨fresh_sampleInterface, ?_, ⟨_, List.mem_singleton_self _, .inl ⟨rfl, rfl⟩⟩, ?_, rfl⟩
  · rw [run]
  · rw [updateMembers, run]
    rfl

end Nephe.Azure
