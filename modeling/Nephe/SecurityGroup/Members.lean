import Nephe.SecurityGroup.Merge
import Nephe.SecurityGroup.Names
import Nephe.Library.Subperm

/-!
# Lists of members

Members are merged and compared by the texts of their names.
-/

namespace Nephe

open Library

/-- The texts of the names of resources. -/
def namesOf (resources : List CloudResource) : List String :=
  resources.map fun resource => resource.name.string

section

variable {code : Nat} {src added removed : List CloudResource}

/-- A merged list holds the added members, and the others that have not been removed. -/
theorem mem_of_mem_mergeCloudResources {resource : CloudResource}
    (member : resource ∈ mergeCloudResources code src added removed) :
    resource ∈ added ∨
      (resource ∈ src ∧ resource.name.string ∉ namesOf removed ∧
        resource.name.string ∉ namesOf added) := by
  simp only [mergeCloudResources, mem_arrange, GoMap.mem_values] at member
  obtain ⟨name, found⟩ := member
  by_cases inAdded : name ∈ namesOf added
  · obtain ⟨element, there, _, stored⟩ := GoMap.get?_foldl_set_of_mem
      (fun s : CloudResource => s.name.string) (fun s => s) inAdded
    rw [stored] at found
    cases found
    exact .inl there
  · rw [GoMap.get?_foldl_set_of_not_mem (fun s : CloudResource => s.name.string) (fun s => s)
      inAdded, GoMap.get?_foldl_remove (fun s : CloudResource => s.name.string)] at found
    split at found
    next => cases found
    next kept =>
      by_cases inSrc : name ∈ namesOf src
      · obtain ⟨element, there, same, stored⟩ := GoMap.get?_foldl_set_of_mem
          (fun s : CloudResource => s.name.string) (fun s => s) inSrc
        rw [stored] at found
        cases found
        subst same
        exact .inr ⟨there, kept, inAdded⟩
      · rw [GoMap.get?_foldl_set_of_not_mem (fun s : CloudResource => s.name.string)
          (fun s => s) inSrc] at found
        cases found

/-- The resources are virtual machines in one VPC. -/
def AllIn (vpc : String) (resources : List CloudResource) : Prop :=
  ∀ resource ∈ resources, resource.type = .virtualMachine ∧ resource.name.vpc = vpc

section

variable {vpc : String}

theorem allIn_nil : AllIn vpc [] :=
  fun _ member => absurd member List.not_mem_nil

/-- In one VPC the virtual machines are told apart by the texts of their names. -/
theorem AllIn.eq_of_name {list list' : List CloudResource} (all : AllIn vpc list)
    (all' : AllIn vpc list') {first second : CloudResource} (member : first ∈ list)
    (member' : second ∈ list') (same : first.name.string = second.name.string) :
    first = second := by
  obtain ⟨machine, here⟩ := all first member
  obtain ⟨machine', here'⟩ := all' second member'
  have sameName : first.name.name = second.name.name := by
    have lists := congrArg String.toList same
    rw [toList_string, toList_string, here, here'] at lists
    exact String.toList_inj.mp (List.append_cancel_right lists)
  obtain ⟨_, _, _⟩ := first
  obtain ⟨_, _, _⟩ := second
  simp_all

theorem AllIn.mem_namesOf {list list' : List CloudResource} (all : AllIn vpc list)
    (all' : AllIn vpc list') {resource : CloudResource} (member : resource ∈ list) :
    resource.name.string ∈ namesOf list' ↔ resource ∈ list' := by
  constructor
  · intro named
    obtain ⟨other, there, same⟩ := List.mem_map.mp named
    exact AllIn.eq_of_name all' all there member same ▸ there
  · exact List.mem_map_of_mem

end

/-- Every name that is added, or kept, is among the names of a merged list. -/
theorem mem_namesOf_mergeCloudResources {name : String}
    (listed : name ∈ namesOf added ∨ (name ∈ namesOf src ∧ name ∉ namesOf removed)) :
    name ∈ namesOf (mergeCloudResources code src added removed) := by
  have stored (list : List CloudResource) (map : GoMap String CloudResource)
      (member : name ∈ namesOf list) : ∃ resource ∈ list, resource.name.string = name ∧
        (list.foldl (fun map s => map.set s.name.string s) map).get? name = some resource :=
    GoMap.get?_foldl_set_of_mem (fun s : CloudResource => s.name.string) (fun s => s) member
  suffices kept : ∃ resource : CloudResource, resource.name.string = name ∧
      (added.foldl (fun map s => map.set s.name.string s)
        (removed.foldl (fun map s => map.remove s.name.string)
          (src.foldl (fun map s => map.set s.name.string s)
            (∅ : GoMap String CloudResource)))).get? name = some resource by
    obtain ⟨resource, same, found⟩ := kept
    refine List.mem_map.mpr ⟨resource, ?_, same⟩
    simp only [mergeCloudResources, mem_arrange, GoMap.mem_values]
    exact ⟨name, found⟩
  by_cases inAdded : name ∈ namesOf added
  · obtain ⟨resource, _, same, found⟩ := stored added _ inAdded
    exact ⟨resource, same, found⟩
  · obtain ⟨inSrc, kept⟩ := listed.resolve_left inAdded
    obtain ⟨resource, _, same, found⟩ := stored src ∅ inSrc
    refine ⟨resource, same, ?_⟩
    rw [GoMap.get?_foldl_set_of_not_mem (fun s : CloudResource => s.name.string) (fun s => s)
      inAdded, GoMap.get?_foldl_remove (fun s : CloudResource => s.name.string)]
    exact (if_neg kept).trans found

variable {vpc : String} {s1 s2 : List CloudResource}

/-- Merging members of one VPC drops the removed ones and then puts the added ones. -/
theorem mem_mergeCloudResources (inSrc : AllIn vpc src) (inAdded : AllIn vpc added)
    (inRemoved : AllIn vpc removed) (resource : CloudResource) :
    resource ∈ mergeCloudResources code src added removed ↔
      resource ∈ added ∨ (resource ∈ src ∧ resource ∉ removed) := by
  constructor
  · intro member
    rcases mem_of_mem_mergeCloudResources member with put | ⟨old, notRemoved, _⟩
    · exact .inl put
    · exact .inr ⟨old, fun there => notRemoved (List.mem_map_of_mem there)⟩
  · intro kept
    have merged : AllIn vpc (mergeCloudResources code src added removed) := fun other member => by
      rcases mem_of_mem_mergeCloudResources member with put | ⟨old, _⟩
      · exact inAdded other put
      · exact inSrc other old
    have named : resource.name.string ∈ namesOf (mergeCloudResources code src added removed) := by
      refine mem_namesOf_mergeCloudResources ?_
      rcases kept with put | ⟨old, notRemoved⟩
      · exact .inl (List.mem_map_of_mem put)
      · exact .inr ⟨List.mem_map_of_mem old,
          fun named => notRemoved ((inSrc.mem_namesOf inRemoved old).mp named)⟩
    rcases kept with put | ⟨old, _⟩
    · exact (inAdded.mem_namesOf merged put).mp named
    · exact (inSrc.mem_namesOf merged old).mp named

/-- Lists compare as equal when they are equally long and the second has the names of the first. -/
theorem compareCloudResources_iff :
    compareCloudResources s1 s2 = true ↔
      s1.length = s2.length ∧ namesOf s1 ⊆ namesOf s2 := by
  have empty : mergeCloudResources 0 s1 [] s2 = [] ↔ namesOf s1 ⊆ namesOf s2 := by
    constructor
    · intro empty name named
      by_contra absent
      have kept : name ∈ namesOf (mergeCloudResources 0 s1 [] s2) :=
        mem_namesOf_mergeCloudResources (.inr ⟨named, absent⟩)
      rw [empty] at kept
      cases kept
    · intro among
      refine List.eq_nil_iff_forall_not_mem.mpr fun resource member => ?_
      rcases mem_of_mem_mergeCloudResources member with inAdded | ⟨inFirst, notRemoved, _⟩
      · cases inAdded
      · exact notRemoved (among (List.mem_map_of_mem inFirst))
  unfold compareCloudResources
  split
  next different => simp [different]
  next equal => simp [not_not.mp equal, empty]

/-- Members that compare as equal to the members of an object are among them. -/
theorem subset_of_compareCloudResources (in1 : AllIn vpc s1) (in2 : AllIn vpc s2)
    (equal : compareCloudResources s1 s2 = true) :
    s1 ⊆ s2 := fun _ member =>
  (in1.mem_namesOf in2 member).mp
    ((compareCloudResources_iff.mp equal).2 (List.mem_map_of_mem member))

/-- Members that are rearranged compare as equal. -/
theorem compareCloudResources_of_perm (perm : s1.Perm s2) : compareCloudResources s1 s2 = true :=
  compareCloudResources_iff.mpr ⟨perm.length_eq, List.map_subset _ perm.subset⟩

end

/-! ## What comparing decides -/

/-- The lists denote the same set of resources. -/
def SameResources (s1 s2 : List CloudResource) : Prop :=
  ∀ resource, resource ∈ s1 ↔ resource ∈ s2

/-- A name that is used in the list stands for one resource; the comparison looks at names only. -/
def OneResourcePerName (resources : List CloudResource) : Prop :=
  ∀ first ∈ resources, ∀ second ∈ resources,
    first.name.string = second.name.string → first = second

instance (resources : List CloudResource) : Decidable (OneResourcePerName resources) :=
  inferInstanceAs (Decidable (∀ first ∈ resources, ∀ second ∈ resources,
    first.name.string = second.name.string → first = second))

theorem OneResourcePerName.compareCloudResources_iff {s1 s2 : List CloudResource}
    (single : OneResourcePerName (s1 ++ s2)) :
    compareCloudResources s1 s2 = true ↔ s1.length = s2.length ∧ s1 ⊆ s2 := by
  rw [Nephe.compareCloudResources_iff]
  refine and_congr_right fun _ => ⟨fun named resource member => ?_, List.map_subset _⟩
  obtain ⟨other, there, same⟩ := List.mem_map.mp (named (List.mem_map_of_mem member))
  exact single other (List.mem_append_right _ there) resource (List.mem_append_left _ member)
    same ▸ there

/-- Lists with equally many repetitions compare as equal when they denote the same set. -/
theorem OneResourcePerName.compare_iff_sameResources {s1 s2 : List CloudResource}
    (single : OneResourcePerName (s1 ++ s2)) (repeated : repetitions s1 = repetitions s2) :
    compareCloudResources s1 s2 = true ↔ SameResources s1 s2 := by
  rw [single.compareCloudResources_iff]
  constructor
  · rintro ⟨equal, subset⟩
    exact mem_iff_of_subset subset equal repeated
  · intro same
    exact ⟨(length_eq_iff_repetitions_eq same).mpr repeated, fun resource => (same resource).mp⟩

/--
Where a name stands for one resource, `compareCloudResources` tells whether two lists with
equally many repetitions denote the same set, in either order.  Lists that denote the same
set are recognised only then.
-/
theorem compareCloudResources_decides_sameness (s1 s2 : List CloudResource)
    (single : OneResourcePerName (s1 ++ s2)) :
    (repetitions s1 = repetitions s2 →
      (compareCloudResources s1 s2 = true ↔ SameResources s1 s2) ∧
        compareCloudResources s2 s1 = compareCloudResources s1 s2) ∧
      (SameResources s1 s2 →
        (compareCloudResources s1 s2 = true ↔ repetitions s1 = repetitions s2)) := by
  have turned : OneResourcePerName (s2 ++ s1) := fun first here second there =>
    single first (List.perm_append_comm.mem_iff.mp here) second
      (List.perm_append_comm.mem_iff.mp there)
  constructor
  · intro repeated
    have decides := single.compare_iff_sameResources repeated
    refine ⟨decides, Bool.eq_iff_iff.mpr ?_⟩
    rw [decides, turned.compare_iff_sameResources repeated.symm]
    exact forall_congr' fun _ => Iff.comm
  · intro same
    rw [single.compareCloudResources_iff, ← length_eq_iff_repetitions_eq same]
    exact and_iff_left fun resource => (same resource).mp

/-- Two machines of which one is listed twice, another one on either side. -/
theorem doubled_machines_are_recognised :
    let first : CloudResource := ⟨.virtualMachine, ⟨"a", "v"⟩⟩
    let second : CloudResource := ⟨.virtualMachine, ⟨"b", "v"⟩⟩
    compareCloudResources [first, first, second] [second, first, second] = true ∧
      SameResources [first, first, second] [second, first, second] := by
  intro first second
  have single : OneResourcePerName ([first, first, second] ++ [second, first, second]) := by
    decide +kernel
  have decides := (compareCloudResources_decides_sameness _ _ single).1 (by decide)
  have equal : compareCloudResources [first, first, second] [second, first, second] = true := by
    decide +kernel
  exact ⟨equal, decides.1.mp equal⟩

/-- A resource that is there twice hides another one. -/
theorem repeated_resource_hides_another :
    let first : CloudResource := ⟨.virtualMachine, ⟨"a", "v"⟩⟩
    let second : CloudResource := ⟨.virtualMachine, ⟨"b", "v"⟩⟩
    compareCloudResources [first, first] [first, second] = true ∧
      compareCloudResources [first, second] [first, first] = false ∧
      ¬ SameResources [first, first] [first, second] := by
  refine ⟨by decide +kernel, by decide +kernel, fun same => ?_⟩
  have absent := (same ⟨.virtualMachine, ⟨"b", "v"⟩⟩).mpr (by decide)
  exact absurd absent (by decide)

/-! ## Addresses -/

theorem get?_foldl_set_id {κ : Type} [DecidableEq κ] (list : List κ) (map : GoMap κ κ) (key : κ) :
    (list.foldl (fun map s => map.set s s) map).get? key =
      if key ∈ list then some key else map.get? key := by
  have listed : list.map (fun s => s) = list := List.map_id' list
  split
  next member =>
    have put : ∃ element ∈ list, element = key ∧
        (list.foldl (fun map s => map.set s s) map).get? key = some element :=
      GoMap.get?_foldl_set_of_mem (fun s => s) (fun s => s) (listed.symm ▸ member)
    obtain ⟨element, _, same, found⟩ := put
    rw [found, same]
  next absent =>
    exact GoMap.get?_foldl_set_of_not_mem (fun s : κ => s) (fun s => s) (listed.symm ▸ absent)

/-- Merging addresses drops the removed ones and then puts the added ones. -/
theorem mem_mergeIPs (code : Nat) (src added removed : List IPNet) (block : IPNet) :
    block ∈ mergeIPs code src added removed ↔
      block ∈ added ∨ (block ∈ src ∧ block ∉ removed) := by
  have final (key : IPNet) :
      (added.foldl (fun map s => map.set s s)
        (removed.foldl (fun map s => map.remove s)
          (src.foldl (fun map s => map.set s s) (∅ : GoMap IPNet IPNet)))).get? key =
        if key ∈ added then some key
        else if key ∈ removed then none
        else if key ∈ src then some key
        else none := by
    rw [get?_foldl_set_id, GoMap.get?_foldl_remove (fun s : IPNet => s), List.map_id',
      get?_foldl_set_id, GoMap.get?_empty]
  simp only [mergeIPs, mem_arrange, GoMap.mem_values, final]
  constructor
  · rintro ⟨key, found⟩
    split at found
    next put => exact .inl (Option.some.inj found ▸ put)
    next =>
      split at found
      next => cases found
      next kept =>
        split at found
        next old =>
          obtain rfl := Option.some.inj found
          exact .inr ⟨old, kept⟩
        next => cases found
  · intro kept
    refine ⟨block, ?_⟩
    rcases kept with put | ⟨old, notRemoved⟩
    · rw [if_pos put]
    · rw [if_neg notRemoved, if_pos old, ite_self]

end Nephe
