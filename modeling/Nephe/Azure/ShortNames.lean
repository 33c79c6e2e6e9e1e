import Mathlib.Data.List.Forall2
import Nephe.Azure.View
import Nephe.Crd.VirtualMachine

/-!
# Names of Azure resources

`computeInstanceToVirtualMachineCRD` (`azure_crd_helpers.go`) makes a `VirtualMachine`
resource of a row that the resource graph returns.  The name of the resource, like the
name of an interface in the view of the cloud, is a short identifier: a name and the sum
of the characters of an id.  It tells apart ids of which one has more or greater
characters in the same order, and never ids with the same characters in another order.
-/

namespace Nephe.Azure

open Library

/-! ## Virtual machines -/

/-- `networkInterface`, of a row of a virtual machine. -/
structure NetworkInterface where
  id : String
  macAddress : Option String
  privateIps : List String
  publicIps : List String

/-- `virtualMachineTable`, with the ids and the name that every row has. -/
structure VirtualMachineTable where
  id : String
  name : String
  networkInterfaces : List NetworkInterface
  tags : GoMap String String
  status : Option String
  vnetID : String

/-- `azureStateMap`; a status that it does not have gives the empty state. -/
def azureStateMap : String → String
  | "PowerState/running" => "running"
  | "PowerState/deallocated" => "stopped"
  | "PowerState/deallocating" => "shutting down"
  | "PowerState/stopping" => "stopping"
  | "PowerState/stopped" => "stopped"
  | "PowerState/starting" => "starting"
  | "PowerState/unknown" => "unknown"
  | _ => ""

/-- A `VirtualMachine` resource with the annotations of `GenerateVirtualMachineCRD`. -/
structure AnnotatedMachine where
  resource : Crd.VirtualMachine
  cloudAssignedID : String
  cloudAssignedName : String
  cloudAssignedVPCID : String

/-- `GenerateVirtualMachineCRD`. -/
def generateVirtualMachineCRD (crdName cloudName cloudID «namespace» cloudNetwork
    shortNetworkID state : String) (tags : GoMap String String)
    (networkInterfaces : List Crd.NetworkInterface) (provider : String) : AnnotatedMachine where
  resource :=
    { «namespace»
      name := crdName
      generation := 0
      ownerReferences := []
      status := ⟨provider, shortNetworkID, tags, networkInterfaces, state⟩ }
  cloudAssignedID := cloudID
  cloudAssignedName := cloudName
  cloudAssignedVPCID := cloudNetwork

/-- The interface of a machine; the public addresses come as internal ones, too. -/
def NetworkInterface.crd (nwInf : NetworkInterface) : Crd.NetworkInterface where
  name := nwInf.id
  mac := nwInf.macAddress.getD ""
  ips := (nwInf.privateIps ++ nwInf.publicIps).map fun address => ⟨"InternalIP", address⟩

/-- `computeInstanceToVirtualMachineCRD`; without the name of its network there is no resource. -/
def computeInstanceToVirtualMachineCRD (instance' : VirtualMachineTable) («namespace» : String) :
    Option AnnotatedMachine :=
  let tags := instance'.tags.bindings.foldl (fun tags (key, value) =>
    let (_, hasAGPrefix, hasATPrefix) := isNepheControllerCreatedSG key
    if hasAGPrefix || hasATPrefix then tags else tags.set key value) (∅ : GoMap String String)
  let cloudNetworkID := toLower instance'.vnetID
  let cloudID := toLower instance'.id
  let cloudName := toLower instance'.name
  let crdName := generateShortResourceIdentifier cloudID cloudName
  match extractFieldsFromAzureResourceID cloudNetworkID with
  | .error _ => none
  | .ok (_, _, nwResName) =>
    let cloudNetworkShortID := generateShortResourceIdentifier cloudNetworkID nwResName
    let state := (instance'.status.map azureStateMap).getD "unknown"
    some (generateVirtualMachineCRD crdName (toLower cloudName) (toLower cloudID) «namespace»
      (toLower cloudNetworkID) cloudNetworkShortID state tags
      (instance'.networkInterfaces.map NetworkInterface.crd) "Azure")

/-! ## What a short identifier tells -/

/--
The id of a resource: it neither is blank nor begins or ends in a space, it has no null
character, and it is short enough for the sum of its characters.
-/
structure IsResourceID (id : String) : Prop where
  trimmed : trimSpaces id.toList = id.toList
  given : id.toList ≠ []
  nonzero : '\x00' ∉ id.toList
  short : id.toList.length ≤ 3855

/-- The characters of an id in lower case, as numbers. -/
def codes (id : String) : List Nat :=
  (toLower id).toList.map Char.toNat

/-- The one id becomes the other by putting characters in and making characters greater. -/
def Grows (id other : String) : Prop :=
  List.SublistForall₂ (· ≤ ·) (codes id) (codes other)

/-- The ids differ in lower case, and one of them grows into the other. -/
def ToldApart (id other : String) : Prop :=
  toLower id ≠ toLower other ∧ (Grows id other ∨ Grows other id)

/-- A list of positive numbers that has grown has a greater sum. -/
theorem sum_lt_of_sublistForall₂ {list other : List Nat}
    (grows : List.SublistForall₂ (· ≤ ·) list other) (positive : ∀ n ∈ other, 0 < n)
    (differ : list ≠ other) : list.sum < other.sum := by
  induction grows with
  | @nil other =>
    obtain ⟨n, member⟩ := List.exists_mem_of_ne_nil other (Ne.symm differ)
    exact (positive n member).trans_le (List.le_sum_of_mem member)
  | @cons n m list other le _ induction =>
    rw [List.sum_cons, List.sum_cons]
    have later := induction fun k member => positive k (List.mem_cons_of_mem _ member)
    by_cases same : list = other
    · have less : n ≠ m := fun equal => differ (by rw [equal, same])
      rw [same]
      omega
    · have less := later same
      omega
  | @cons_right m list other _ induction =>
    rw [List.sum_cons]
    have large := positive m List.mem_cons_self
    have later := induction fun k member => positive k (List.mem_cons_of_mem _ member)
    by_cases same : list = other
    · rw [same]
      omega
    · have less := later same
      omega

theorem trimSpaces_map_lowerChar (characters : List Char) :
    trimSpaces (characters.map lowerChar) = (trimSpaces characters).map lowerChar := by
  have same : ((· == ' ') ∘ lowerChar) = (· == ' ') := by
    funext c
    exact Bool.eq_iff_iff.mpr (by simp [lowerChar_eq_iff (c := c) (d := ' ') (by decide)])
  simp only [trimSpaces, List.dropWhile_map, ← List.map_reverse, same]

namespace IsResourceID

variable {id other : String}

theorem toLower (isID : IsResourceID id) : IsResourceID (toLower id) where
  trimmed := by
    rw [Library.toLower, String.toList_ofList, trimSpaces_map_lowerChar, isID.trimmed]
  given := by
    rw [Library.toLower, String.toList_ofList, ne_eq, List.map_eq_nil_iff]
    exact isID.given
  nonzero := by
    rw [Library.toLower, String.toList_ofList, List.mem_map]
    rintro ⟨c, member, zero⟩
    exact isID.nonzero ((lowerChar_eq_iff (by decide)).mp zero ▸ member)
  short := by
    rw [Library.toLower, String.toList_ofList, List.length_map]
    exact isID.short

theorem codes_pos (isID : IsResourceID id) : ∀ n ∈ codes id, 0 < n := by
  intro n member
  obtain ⟨c, inID, rfl⟩ := List.mem_map.mp member
  refine Nat.pos_of_ne_zero fun zero => isID.toLower.nonzero ?_
  rwa [← Char.ofNat_toNat c, zero] at inID

/-- The sum of the characters of an id fits into 32 bits. -/
theorem sum_codes_lt (isID : IsResourceID id) : (codes id).sum < 2 ^ 32 := by
  have bounded : ∀ n ∈ codes id, n ≤ 0x10ffff := by
    intro n member
    obtain ⟨c, _, rfl⟩ := List.mem_map.mp member
    have valid := c.valid
    simp only [UInt32.isValidChar, Nat.isValidChar] at valid
    simp only [Char.toNat]
    omega
  have bound : (codes id).sum ≤ (codes id).length * 0x10ffff := List.sum_le_card_nsmul _ _ bounded
  have short : (codes id).length ≤ 3855 := by simpa [codes] using isID.toLower.short
  omega

theorem generateShortResourceIdentifier_eq (isID : IsResourceID id) (prefixToAdd : String) :
    generateShortResourceIdentifier id prefixToAdd =
      Library.toLower prefixToAdd ++ "-" ++ toString (codes id).sum := by
  have sums : (id.toList.map fun c => (lowerChar c).toNat) = codes id := by
    rw [codes, Library.toLower, String.toList_ofList, List.map_map]
    rfl
  have some_ : id.toList.isEmpty = false := by simpa using isID.given
  simp only [generateShortResourceIdentifier, isID.trimmed, some_, Bool.false_eq_true, if_false,
    sums, Nat.mod_eq_of_lt isID.sum_codes_lt]

theorem sum_codes_ne (isID : IsResourceID id) (isID' : IsResourceID other)
    (apart : ToldApart id other) : (codes id).sum ≠ (codes other).sum := by
  have differ : codes id ≠ codes other := fun same => apart.1 (String.toList_inj.mp
    (List.map_injective_iff.mpr (fun c d equal => by
      rw [← Char.ofNat_toNat c, equal, Char.ofNat_toNat]) same))
  rcases apart.2 with grows | grows
  · exact (sum_lt_of_sublistForall₂ grows isID'.codes_pos differ).ne
  · exact (sum_lt_of_sublistForall₂ grows isID.codes_pos differ.symm).ne'

end IsResourceID

theorem name_of_computeInstanceToVirtualMachineCRD {row : VirtualMachineTable}
    {«namespace» : String} {crd : AnnotatedMachine}
    (made : computeInstanceToVirtualMachineCRD row «namespace» = some crd) :
    crd.resource.name = generateShortResourceIdentifier (toLower row.id) (toLower row.name) := by
  simp only [computeInstanceToVirtualMachineCRD] at made
  split at made
  next => cases made
  next =>
    rw [← Option.some.inj made]
    simp only [generateVirtualMachineCRD]

/--
The resources of two machines have different names if the machines have, or if their ids are
told apart; the interfaces of a view, if their ids are told apart.  Ids with the same
characters in another order are not told apart.
-/
theorem short_names_differ (first second : VirtualMachineTable)
    (nic otherNic : NetworkInterfaceTable) («namespace» : String) {crd other : AnnotatedMachine}
    (made : computeInstanceToVirtualMachineCRD first «namespace» = some crd)
    (otherMade : computeInstanceToVirtualMachineCRD second «namespace» = some other)
    (ids : ∀ id ∈ [first.id, second.id, nic.id, otherNic.id], IsResourceID id) :
    (toLower first.name ≠ toLower second.name ∨ ToldApart first.id second.id →
      crd.resource.name ≠ other.resource.name) ∧
    (ToldApart nic.id otherNic.id →
      nic.cloudResource.name.name ≠ otherNic.cloudResource.name.name) ∧
    (toLower first.name = toLower second.name → (codes first.id).Perm (codes second.id) →
      crd.resource.name = other.resource.name) ∧
    ((codes nic.id).Perm (codes otherNic.id) →
      nic.cloudResource.name.name = otherNic.cloudResource.name.name) := by
  simp only [List.forall_mem_cons, List.not_mem_nil, false_imp_iff, implies_true, and_true] at ids
  obtain ⟨id, id', nicID, nicID'⟩ := ids
  have lowered (id : String) : codes (toLower id) = codes id := by
    rw [codes, codes, toLower_toLower]
  have machines : crd.resource.name = other.resource.name ↔
      toLower first.name = toLower second.name ∧ (codes first.id).sum = (codes second.id).sum := by
    rw [name_of_computeInstanceToVirtualMachineCRD made,
      name_of_computeInstanceToVirtualMachineCRD otherMade,
      id.toLower.generateShortResourceIdentifier_eq, id'.toLower.generateShortResourceIdentifier_eq,
      append_hyphen_inj, toLower_toLower, toLower_toLower, lowered, lowered]
  have interfaces : nic.cloudResource.name.name = otherNic.cloudResource.name.name ↔
      (codes nic.id).sum = (codes otherNic.id).sum := by
    change generateShortResourceIdentifier nic.id "NetworkInterface" =
      generateShortResourceIdentifier otherNic.id "NetworkInterface" ↔ _
    rw [nicID.generateShortResourceIdentifier_eq, nicID'.generateShortResourceIdentifier_eq,
      append_hyphen_inj, and_iff_right rfl]
  refine ⟨fun differ same => ?_, fun apart same => ?_, fun named perm => ?_, fun perm => ?_⟩
  · obtain ⟨named, sums⟩ := machines.mp same
    rcases differ with unnamed | apart
    · exact unnamed named
    · exact id.sum_codes_ne id' apart sums
  · exact nicID.sum_codes_ne nicID' apart (interfaces.mp same)
  · exact machines.mpr ⟨named, perm.sum_eq⟩
  · exact interfaces.mpr perm.sum_eq

/-- A machine in the one network. -/
def machineOf (id name : String) : VirtualMachineTable where
  id := id
  name := name
  networkInterfaces := []
  tags := ∅
  status := none
  vnetID := "/subscriptions/s/resourceGroups/net/providers/Microsoft.Network/virtualNetworks/v"

/-- An interface in this network. -/
def nicOf (id : String) : NetworkInterfaceTable where
  id := id
  vnetID := (machineOf "" "").vnetID
  virtualMachineID := none
  networkSecurityGroupID := none
  applicationSecurityGroupIDs := []
  tags := []

/-- The id of a resource of a resource group. -/
def inGroup (resourceGroup resource : String) : String :=
  "/subscriptions/s/resourceGroups/" ++ resourceGroup ++ "/providers/" ++ resource

/-- A machine and an interface, and others with longer ids. -/
theorem longer_ids_are_told_apart :
    ∃ crd other,
      computeInstanceToVirtualMachineCRD (machineOf "/a/vm" "vm") "ns" = some crd ∧
      computeInstanceToVirtualMachineCRD (machineOf "/ab/vm" "vm") "ns" = some other ∧
      crd.resource.name ≠ other.resource.name ∧
      (nicOf "/a/nic").cloudResource.name.name ≠ (nicOf "/ab/nic").cloudResource.name.name := by
  have apart {id other : String} (differ : toLower id ≠ toLower other)
      (longer : (codes id).Sublist (codes other)) : ToldApart id other :=
    ⟨differ, .inl (List.sublistForall₂_iff.mpr ⟨_, List.forall₂_refl _, longer⟩)⟩
  obtain ⟨crd, made⟩ := Option.isSome_iff_exists.mp (show (computeInstanceToVirtualMachineCRD
    (machineOf "/a/vm" "vm") "ns").isSome = true by decide +kernel)
  obtain ⟨other, otherMade⟩ := Option.isSome_iff_exists.mp (show
    (computeInstanceToVirtualMachineCRD (machineOf "/ab/vm" "vm") "ns").isSome = true by
      decide +kernel)
  have ids : ∀ id ∈ ["/a/vm", "/ab/vm", "/a/nic", "/ab/nic"], IsResourceID id := by
    have checked : ∀ id ∈ ["/a/vm", "/ab/vm", "/a/nic", "/ab/nic"],
        trimSpaces id.toList = id.toList ∧ id.toList ≠ [] ∧ '\x00' ∉ id.toList ∧
          id.toList.length ≤ 3855 := by decide +kernel
    intro id member
    obtain ⟨trimmed, given, nonzero, short⟩ := checked id member
    exact ⟨trimmed, given, nonzero, short⟩
  obtain ⟨machines, interfaces, _⟩ := short_names_differ _ _ (nicOf "/a/nic") (nicOf "/ab/nic")
    "ns" made otherMade ids
  exact ⟨crd, other, made, otherMade,
    machines (.inr (apart (by decide +kernel) (by decide +kernel))),
    interfaces (apart (by decide +kernel) (by decide +kernel))⟩

/-- The same letters in another order give the same names. -/
theorem anagrams_share_names :
    let id (resourceGroup : String) := inGroup resourceGroup "Microsoft.Compute/virtualMachines/vm"
    let nicID (resourceGroup : String) :=
      inGroup resourceGroup "Microsoft.Network/networkInterfaces/nic"
    toLower (id "ab") ≠ toLower (id "ba") ∧ toLower (nicID "ab") ≠ toLower (nicID "ba") ∧
    (computeInstanceToVirtualMachineCRD (machineOf (id "ab") "vm") "ns").map (·.resource.name) =
      some "vm-8287" ∧
    (computeInstanceToVirtualMachineCRD (machineOf (id "ba") "vm") "ns").map (·.resource.name) =
      some "vm-8287" ∧
    (nicOf (nicID "ab")).cloudResource.name = (nicOf (nicID "ba")).cloudResource.name := by
  decide +kernel

end Nephe.Azure
