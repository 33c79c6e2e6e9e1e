import Nephe.Controller.Members

/-!
# What the members of a group stand for

A member of a group refers to an `ExternalEntity`.  The entity of a virtual
machine stands for a cloud resource in a VPC, any other entity for the
addresses of its endpoints.  `vpcsFromGroupMembers` sorts the members of an
event accordingly.
-/

namespace Nephe

open Library

/-! ## One member -/

/-- The cloud resource of an entity that belongs to a virtual machine. -/
def ExternalEntity.resource (env : Env) (e : ExternalEntity) : Option CloudResource :=
  if e.kindLabel = some virtualMachineLabelKind then do
    let annotations ← getOwnerAnnotations env e
    let vpc ← annotations.cloudAssignedVPCID
    some ⟨.virtualMachine, ⟨annotations.cloudAssignedID.getD "", vpc⟩⟩
  else none

/-- The addresses of an entity that belongs to no virtual machine. -/
def ExternalEntity.addresses (e : ExternalEntity) : List IPNet :=
  if e.kindLabel = none ∨ e.kindLabel = some virtualMachineLabelKind then []
  else e.endpoints

namespace Env

/-- Why the entity of a member cannot be read; a Pod has no entity to read. -/
def readError (env : Env) (member : GroupMember) : Option GetError :=
  match member.externalEntity with
  | none => none
  | some key =>
    match env.getExternalEntity key with
    | .ok _ => none
    | .error error => some error

/-- The cloud resource a member stands for. -/
def resource (env : Env) (member : GroupMember) : Option CloudResource :=
  match member.externalEntity with
  | none => none
  | some key =>
    match env.getExternalEntity key with
    | .ok e => e.resource env
    | .error _ => none

/-- The addresses a member stands for. -/
def memberAddresses (env : Env) (member : GroupMember) : List IPNet :=
  match member.externalEntity with
  | none => []
  | some key =>
    match env.getExternalEntity key with
    | .ok e => e.addresses
    | .error _ => []

/-- The name of the entity of a member, if there is no such entity. -/
def missingName (env : Env) (member : GroupMember) : Option String :=
  match member.externalEntity with
  | none => none
  | some key => if env.readError member = some .notFound then some key.name else none

/-! ## The members of an event -/

/-- The cloud resources in one VPC. -/
def resourcesIn (env : Env) (members : List GroupMember) (vpc : String) :
    List CloudResource :=
  (members.filterMap env.resource).filter fun resource => resource.name.vpc == vpc

def addresses (env : Env) (members : List GroupMember) : List IPNet :=
  members.flatMap env.memberAddresses

def missing (env : Env) (members : List GroupMember) : List String :=
  members.filterMap env.missingName

/-- Every entity can be read. -/
def Reads (env : Env) (members : List GroupMember) : Prop :=
  ∀ member ∈ members, env.readError member = none

instance (env : Env) (members : List GroupMember) : Decidable (env.Reads members) :=
  inferInstanceAs (Decidable (∀ member ∈ members, _))

/-- No virtual machine is without a VPC. -/
def Networked (env : Env) (members : List GroupMember) : Prop :=
  ∀ resource ∈ members.filterMap env.resource, resource.name.vpc ≠ ""

/-- No cloud resource is added and removed. -/
def Apart (env : Env) (added removed : List GroupMember) : Prop :=
  ∀ resource ∈ added.filterMap env.resource, resource ∉ removed.filterMap env.resource

instance (env : Env) (members : List GroupMember) : Decidable (env.Networked members) :=
  inferInstanceAs (Decidable (∀ resource ∈ members.filterMap env.resource, _))

instance (env : Env) (added removed : List GroupMember) : Decidable (env.Apart added removed) :=
  inferInstanceAs (Decidable (∀ resource ∈ added.filterMap env.resource, _))

theorem mem_resourcesIn {env : Env} {members : List GroupMember} {vpc : String}
    {resource : CloudResource} :
    resource ∈ env.resourcesIn members vpc ↔
      resource ∈ members.filterMap env.resource ∧ resource.name.vpc = vpc := by
  simp [resourcesIn]

/-- The resources of an event are virtual machines. -/
theorem type_of_resource {env : Env} {member : GroupMember} {resource : CloudResource}
    (found : env.resource member = some resource) : resource.type = .virtualMachine := by
  unfold Env.resource at found
  split at found
  next => cases found
  next =>
    split at found
    next e _ =>
      simp only [ExternalEntity.resource, Option.bind_eq_bind] at found
      split at found
      · simp only [Option.bind_eq_some_iff, Option.some.injEq] at found
        obtain ⟨_, _, _, _, rfl⟩ := found
        rfl
      · cases found
    next => cases found

end Env

/-! ## `vpcsFromGroupMembers` -/

namespace GroupResources

/-- What a member adds to the results. -/
def collect (env : Env) (resources : GroupResources) (member : GroupMember) :
    GroupResources where
  vpcs :=
    match env.resource member with
    | none => resources.vpcs
    | some rsc =>
      resources.vpcs.set rsc.name.vpc ((resources.vpcs.get? rsc.name.vpc).getD [] ++ [rsc])
  ipBlocks := resources.ipBlocks ++ env.memberAddresses member
  notFoundMember := resources.notFoundMember ++ (env.missingName member).toList

theorem addEntity_eq (env : Env) (resources : GroupResources) (e : ExternalEntity) :
    resources.addEntity env e =
      { resources with
        vpcs :=
          match e.resource env with
          | none => resources.vpcs
          | some rsc =>
            resources.vpcs.set rsc.name.vpc
              ((resources.vpcs.get? rsc.name.vpc).getD [] ++ [rsc])
        ipBlocks := resources.ipBlocks ++ e.addresses } := by
  unfold addEntity ExternalEntity.resource ExternalEntity.addresses
  cases label : e.kindLabel with
  | none => simp
  | some kind =>
    by_cases machine : kind = virtualMachineLabelKind
    · simp only [machine, if_true]
      cases getOwnerAnnotations env e with
      | none => simp
      | some annotations =>
        cases vpc : annotations.cloudAssignedVPCID with
        | none => simp [vpc]
        | some id => simp [vpc]
    · simp [machine]

end GroupResources

theorem Env.missing_eq_nil_of_reads {env : Env} {members : List GroupMember}
    (reads : env.Reads members) : env.missing members = [] := by
  refine List.filterMap_eq_nil_iff.mpr fun member listed => ?_
  cases reference : member.externalEntity with
  | none => simp [missingName, reference]
  | some key => simp [missingName, reference, reads member listed]

/-- Some read fails for another reason than that there is no such entity. -/
def Env.breaks (env : Env) (members : List GroupMember) : Bool :=
  members.any fun member => env.readError member == some .other

theorem Env.reads_iff {env : Env} {members : List GroupMember} :
    env.Reads members ↔ env.breaks members = false ∧ env.missing members = [] := by
  constructor
  · intro reads
    refine ⟨List.any_eq_false.mpr fun member listed => ?_, missing_eq_nil_of_reads reads⟩
    simp [reads member listed]
  · rintro ⟨unbroken, noneMissing⟩ member listed
    cases error : env.readError member with
    | none => rfl
    | some error' =>
      cases error' with
      | other => exact absurd error (by simpa using List.any_eq_false.mp unbroken member listed)
      | notFound =>
        have nameless := List.filterMap_eq_nil_iff.mp noneMissing member listed
        unfold missingName at nameless
        split at nameless
        next reference => simp [readError, reference] at error
        next => simp [error] at nameless

theorem vpcsFromGroupMembers_eq (env : Env) (members : List GroupMember)
    (start : GroupResources) :
    vpcsFromGroupMembers env members start =
      if env.breaks members then .error .other
      else .ok (members.foldl (GroupResources.collect env) start) := by
  induction members generalizing start with
  | nil => rfl
  | cons member rest induction =>
    unfold vpcsFromGroupMembers
    cases reference : member.externalEntity with
    | none =>
      have readable : env.readError member = none := by simp [Env.readError, reference]
      have same : start.collect env member = start := by
        simp [GroupResources.collect, Env.resource, Env.memberAddresses, Env.missingName,
          reference]
      simp [induction, Env.breaks, readable, same]
    | some key =>
      cases read : env.getExternalEntity key with
      | ok e =>
        have readable : env.readError member = none := by
          simp [Env.readError, reference, read]
        have same : start.collect env member = start.addEntity env e := by
          simp [GroupResources.addEntity_eq, GroupResources.collect, Env.resource,
            Env.memberAddresses, Env.missingName, readable, reference, read]
        simp [induction, Env.breaks, readable, same, read]
      | error error =>
        have unreadable : env.readError member = some error := by
          simp [Env.readError, reference, read]
        cases error with
        | other => simp [Env.breaks, unreadable, read]
        | notFound =>
          have same : start.collect env member =
              { start with notFoundMember := start.notFoundMember ++ [key.name] } := by
            simp [GroupResources.collect, Env.resource, Env.memberAddresses,
              Env.missingName, unreadable, reference, read]
          simp [induction, Env.breaks, unreadable, same, read]

namespace GroupResources

variable (env : Env) (members : List GroupMember) (start : GroupResources)

theorem getD_foldl_collect (vpc : String) :
    ((members.foldl (collect env) start).vpcs.get? vpc).getD [] =
      (start.vpcs.get? vpc).getD [] ++ env.resourcesIn members vpc := by
  induction members generalizing start with
  | nil => simp [Env.resourcesIn]
  | cons member rest induction =>
    rw [List.foldl_cons, induction]
    cases found : env.resource member with
    | none => simp [collect, Env.resourcesIn, found]
    | some rsc =>
      by_cases here : vpc = rsc.name.vpc
      · subst here
        simp [collect, Env.resourcesIn, found]
      · simp [collect, Env.resourcesIn, found, here, Ne.symm here]

/-- A VPC is listed with at least one resource. -/
theorem get?_foldl_collect_ne {start : GroupResources} (vpc : String)
    (listed : start.vpcs.get? vpc ≠ some []) :
    (members.foldl (collect env) start).vpcs.get? vpc ≠ some [] := by
  induction members generalizing start with
  | nil => exact listed
  | cons member rest induction =>
    apply induction
    unfold collect
    cases env.resource member with
    | none => exact listed
    | some rsc =>
      simp only [GoMap.get?_set]
      split <;> simp [listed]

/-- The resources of the members, sorted by VPC. -/
theorem get?_foldl_collect (vpc : String) :
    (members.foldl (collect env) {}).vpcs.get? vpc =
      if env.resourcesIn members vpc = [] then none else some (env.resourcesIn members vpc) := by
  have empty : ({} : GroupResources).vpcs.get? vpc ≠ some [] := by simp
  have listed := get?_foldl_collect_ne env members vpc empty
  have sorted := getD_foldl_collect env members {} vpc
  simp only [GoMap.get?_empty, Option.getD_none, List.nil_append] at sorted
  rw [← sorted]
  cases found : (members.foldl (collect env) {}).vpcs.get? vpc with
  | none => simp
  | some list =>
    have filled : list ≠ [] := fun empty => listed (by rw [found, empty])
    simp [filled]

theorem ipBlocks_foldl_collect :
    (members.foldl (collect env) start).ipBlocks = start.ipBlocks ++ env.addresses members := by
  induction members generalizing start with
  | nil => simp [Env.addresses]
  | cons member rest induction =>
    rw [List.foldl_cons, induction]
    simp [collect, Env.addresses]

theorem notFoundMember_foldl_collect :
    (members.foldl (collect env) start).notFoundMember =
      start.notFoundMember ++ env.missing members := by
  induction members generalizing start with
  | nil => simp [Env.missing]
  | cons member rest induction =>
    rw [List.foldl_cons, induction]
    cases found : env.missingName member <;> simp [collect, Env.missing, found]

end GroupResources

end Nephe
