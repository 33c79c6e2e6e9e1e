import Nephe.Converter.Names
import Nephe.Membership.Events

/-!
# Members whose entities are gone

A Modified event may remove entities that are no longer in the API server.  Their
members are then looked for by name: a member is dropped when the name of a
missing entity contains the name of the member.  The two names belong together
for AWS only, and there other members may be hit as well.
-/

namespace Nephe

open Library

/-! ## Names within names -/

theorem stringsContains_iff {text pattern : String} :
    stringsContains text pattern = true ↔ pattern.toList <:+: text.toList := by
  simp only [stringsContains, List.any_eq_true, List.mem_tails, List.isPrefixOf_iff_prefix,
    List.infix_iff_prefix_suffix]
  exact exists_congr fun _ => and_comm

theorem stringsContains_append (front back : String) :
    stringsContains (front ++ back) back = true := by
  rw [stringsContains_iff, String.toList_append]
  exact (List.suffix_append _ _).isInfix

/-! ## The members that are kept -/

section

variable (stales : List String) (members : List CloudResource)
  (machineOf : String → CloudMachine)

/-- The entity of the member is among the missing ones. -/
def EntityGone (resource : CloudResource) : Prop :=
  (machineOf resource.name.name).getExternalEntityName ∈ stales

instance : DecidablePred (EntityGone stales machineOf) :=
  fun _ => inferInstanceAs (Decidable (_ ∈ stales))

/--
The names tell whether the member has to go.

A member in AWS is dropped with every missing entity whose name contains its id,
so that this has to be its own.  A member in Azure is never dropped.
-/
def FoundByName (resource : CloudResource) : Prop :=
  match machineOf resource.name.name with
  | .aws _ => Stale stales resource → EntityGone stales machineOf resource
  | .azure _ => ¬ EntityGone stales machineOf resource

/-- A member that stays is the only one with its name. -/
def NamedAlone (resource : CloudResource) : Prop :=
  ∀ other ∈ members, other.name.name = resource.name.name →
    ¬ EntityGone stales machineOf resource → other = resource

end

section

variable {stales : List String} {machineOf : String → CloudMachine} {resource : CloudResource}

/-- The test by names is right for a member if and only if its names tell. -/
theorem foundByName_iff (plain : ∀ stale ∈ stales, '/' ∉ stale.toList)
    (known : (machineOf resource.name.name).cloudID = resource.name.name) :
    FoundByName stales machineOf resource ↔
      (Stale stales resource ↔ EntityGone stales machineOf resource) := by
  unfold FoundByName
  cases machine : machineOf resource.name.name with
  | aws instanceID =>
    have own : resource.name.name = instanceID := by rw [← known, machine, CloudMachine.cloudID]
    refine ⟨fun told => ⟨told, fun gone => ?_⟩, Iff.mp⟩
    refine ⟨_, gone, ?_⟩
    rw [machine, own]
    exact stringsContains_append _ _
  | azure found =>
    -- A path does not occur in the name of an entity.
    have kept : ¬ Stale stales resource := by
      rintro ⟨stale, listed, contains⟩
      have path : '/' ∈ resource.name.name.toList := by
        rw [← known, machine]
        exact found.slash_mem_cloudID
      exact plain stale listed ((stringsContains_iff.mp contains).subset path)
    exact (iff_false_left kept).symm

end

namespace Reconciler

variable (r : Reconciler) (c : Ref)

/-- `removeStaleMembers` is exact when the test by names is right and merges no members. -/
theorem mem_removeStaleMembers_iff (stales : List String) (machineOf : String → CloudMachine) :
    (∀ resource, resource ∈ ((r.removeStaleMembers c stales).objects c).members ↔
        resource ∈ (r.objects c).members ∧ ¬ EntityGone stales machineOf resource) ↔
      ∀ resource ∈ (r.objects c).members,
        (Stale stales resource ↔ EntityGone stales machineOf resource) ∧
          NamedAlone stales (r.objects c).members machineOf resource := by
  obtain ⟨members, changes, kept⟩ := removeStaleMembers_spec r c stales
  have left : ((r.removeStaleMembers c stales).objects c).members = members := by
    rw [changes.objects, Function.update_self]
  rw [left]
  have sameGone {first second : CloudResource} (same : first.name.name = second.name.name) :
      EntityGone stales machineOf first ↔ EntityGone stales machineOf second := by
    rw [EntityGone, EntityGone, same]
  have sameStale {first second : CloudResource} (same : first.name.name = second.name.name) :
      Stale stales first ↔ Stale stales second := by
    rw [Stale, Stale, same]
  constructor
  · intro exact resource member
    -- The last member of the name decides: it is kept if and only if the name does not match.
    obtain ⟨last, there, same, found⟩ := exists_membersByName member
    have lastKept : last ∈ members ↔ ¬ Stale stales last := by
      rw [kept, same]
      exact and_iff_left found
    have told : Stale stales resource ↔ EntityGone stales machineOf resource := by
      rw [← sameStale same, ← sameGone same, ← not_iff_not, ← lastKept, exact last]
      exact and_iff_right there
    refine ⟨told, fun other inList sameName stays => ?_⟩
    have inMembers (element : CloudResource) (listed : element ∈ (r.objects c).members)
        (name : element.name.name = resource.name.name) :
        (membersByName (r.objects c).members).get? resource.name.name = some element := by
      have remains : element ∈ members :=
        (exact element).mpr ⟨listed, fun gone => stays ((sameGone name).mp gone)⟩
      rw [← name]
      exact ((kept element).mp remains).2
    exact Option.some.inj
      ((inMembers other inList sameName).symm.trans (inMembers resource member rfl))
  · intro told resource
    rw [kept]
    constructor
    · rintro ⟨fresh, found⟩
      have member := (mem_of_membersByName found).1
      exact ⟨member, fun gone => fresh ((told resource member).1.mpr gone)⟩
    · rintro ⟨member, stays⟩
      obtain ⟨last, there, same, found⟩ := exists_membersByName member
      obtain ⟨tells, alone⟩ := told resource member
      obtain rfl := alone last there same stays
      exact ⟨fun stale => stays (tells.mp stale), found⟩

/--
`removeStaleMembers` drops exactly the members whose entities are missing, if and
only if their names tell which these are and members that stay have different
names.

The names of entities contain no slash.
-/
theorem removeStaleMembers_drops_missing (stales : List String)
    (plain : ∀ stale ∈ stales, '/' ∉ stale.toList) (machineOf : String → CloudMachine)
    (known : ∀ resource ∈ (r.objects c).members,
      (machineOf resource.name.name).cloudID = resource.name.name) :
    (∀ resource, resource ∈ ((r.removeStaleMembers c stales).objects c).members ↔
        resource ∈ (r.objects c).members ∧
          (machineOf resource.name.name).getExternalEntityName ∉ stales) ↔
      ∀ resource ∈ (r.objects c).members, FoundByName stales machineOf resource ∧
        NamedAlone stales (r.objects c).members machineOf resource := by
  refine (mem_removeStaleMembers_iff r c stales machineOf).trans ?_
  refine forall₂_congr fun resource member => ?_
  rw [foundByName_iff plain (known resource member)]

/-- An appliedTo group with given virtual machines as members. -/
def groupWith (members : List CloudResource) : Reconciler :=
  setup.allocate { membershipOnly := false, id := ⟨"g", "v"⟩, members }

/-- A virtual machine in the VPC of the group. -/
def machineMember (name : String) : CloudResource := ⟨.virtualMachine, ⟨name, "v"⟩⟩

/-- Of the machines `i-1` and `i-2` the entity of `i-1` is missing. -/
theorem removeStaleMembers_of_two_machines :
    (∀ stale ∈ ["virtualmachine-i-1"], '/' ∉ stale.toList) ∧
      ∀ resource,
        resource ∈ (((groupWith [machineMember "i-1", machineMember "i-2"]).removeStaleMembers 0
            ["virtualmachine-i-1"]).objects 0).members ↔
          resource ∈ ((groupWith [machineMember "i-1", machineMember "i-2"]).objects 0).members ∧
            (CloudMachine.aws resource.name.name).getExternalEntityName ∉
              ["virtualmachine-i-1"] := by
  refine ⟨by decide +kernel, (removeStaleMembers_drops_missing
    (groupWith [machineMember "i-1", machineMember "i-2"]) 0 ["virtualmachine-i-1"]
    (by decide +kernel) .aws (fun _ _ => rfl)).mpr ?_⟩
  intro resource member
  rcases List.mem_pair.mp member with rfl | rfl
  · exact ⟨fun _ => by decide +kernel, fun _ _ _ stays => absurd (by decide +kernel) stays⟩
  · refine ⟨fun stale => absurd stale (by decide +kernel), fun other listed same _ => ?_⟩
    rcases List.mem_pair.mp listed with rfl | rfl
    · exact absurd same (by decide)
    · rfl

/-- A virtual machine of Azure as it is discovered. -/
def azureMachine : AzureMachine := ⟨"/vm", "vm", by decide⟩

/--
The machine `i-1` is dropped when the entity of `i-12` is missing, and a machine
of Azure is kept when its own entity is missing.
-/
theorem names_mislead :
    ((((groupWith [machineMember "i-1", machineMember "i-2"]).removeStaleMembers 0
        [(CloudMachine.aws "i-12").getExternalEntityName]).objects 0).members =
          [machineMember "i-2"]) ∧
      (CloudMachine.aws "i-1").getExternalEntityName ≠
        (CloudMachine.aws "i-12").getExternalEntityName ∧
      machineMember (CloudMachine.azure azureMachine).cloudID ∈
        (((groupWith [machineMember (CloudMachine.azure azureMachine).cloudID]).removeStaleMembers 0
          [(CloudMachine.azure azureMachine).getExternalEntityName]).objects 0).members := by
  decide +kernel

end Reconciler

end Nephe
