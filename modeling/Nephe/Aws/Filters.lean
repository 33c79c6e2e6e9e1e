import Nephe.Aws.Interfaces
import Nephe.Selectors.Buckets

/-!
# Filters for a selector

`buildEc2Filters` turns a selector into lists of EC2 filters
(`aws_filter_helpers.go`): an instance is fetched when it satisfies every filter of
one list, and no list at all stands for every instance.  A VPC that is asked for by
its name is looked up among the names of the account before the request is made
(`getInstances`).

The instances that are fetched are those the selector asks for, as long as no entry
of it is lost on the way.
-/

namespace Nephe.Aws

open Library

/-! ## Instances and VPCs -/

/-- `ec2.Vpc`: its id and its tags. -/
structure Vpc where
  vpcId : String
  tags : List (String × String)
deriving DecidableEq

/-- The value of the first tag `Name`. -/
def Vpc.name (vpc : Vpc) : String :=
  ((vpc.tags.find? (·.1 == "Name")).map (·.2)).getD ""

/-- `buildMapVpcNameToID`, when EC2 answers. -/
def buildMapVpcNameToID (vpcs : List Vpc) : GoMap String String :=
  (vpcs.filter fun vpc => !vpc.tags.isEmpty).foldl
    (fun vpcNameToID vpc => vpcNameToID.set vpc.name vpc.vpcId) ∅

/-- The VPCs of an account.  No two of them have one id, or one name. -/
structure Network where
  vpcs : List Vpc
  ids : ∀ vpc ∈ vpcs, ∀ other ∈ vpcs, vpc.vpcId = other.vpcId → vpc = other
  names : ∀ vpc ∈ vpcs, ∀ other ∈ vpcs, vpc.name = other.name → vpc.name ≠ "" → vpc = other
  real : ∀ vpc ∈ vpcs, vpc.vpcId ≠ ""

/-- `ec2.Instance`: the machine and the code of its state. -/
structure Instance where
  machine : Machine
  state : String
deriving DecidableEq

/-- The attributes of an instance that EC2 filters by. -/
def Instance.attributes (vm : Instance) : FilterKey → Option String
  | .vpcID => some vm.machine.vpcID
  | .vmID => some vm.machine.id
  | .vmName => some vm.machine.name
  | .instanceState => some vm.state
  | .groupName => none
  | .vpcName => none

/-- The VPC of an instance is one of the account. -/
def Network.Holds (network : Network) (vm : Instance) : Prop :=
  ∃ vpc ∈ network.vpcs, vpc.vpcId = vm.machine.vpcID ∧ vpc.name = vm.machine.vpcName

/-! ## Building the filters -/

/-- Running, shutting down, stopped and stopping. -/
def validInstanceStates : List String := ["16", "32", "80", "64"]

/-- `buildEc2FilterForValidInstanceStates`. -/
def buildEc2FilterForValidInstanceStates : Filter :=
  ⟨.instanceState, validInstanceStates⟩

/-- `buildAwsEc2FilterForVpcIDWithOtherMatches`. -/
def buildAwsEc2FilterForVpcIDWithOtherMatches
    (vpcIDWithOtherMatches : List VirtualMachineSelector)
    (vpcIDsWithVpcIDOnlyMatches : GoSet String) : List (List Filter) :=
  vpcIDWithOtherMatches.flatMap fun entry =>
    if entry.vpcID ∈ vpcIDsWithVpcIDOnlyMatches then []
    else entry.vmMatch.map fun vmMatch =>
      [⟨.vpcID, [entry.vpcID]⟩] ++
        (if vmMatch.isVMIDPresent then [⟨.vmID, [vmMatch.matchID]⟩] else []) ++
        (if vmMatch.isVMNamePresent then [⟨.vmName, [vmMatch.matchName]⟩] else []) ++
        [buildEc2FilterForValidInstanceStates]

/-- One filter for several values, and the states; nil when there is no value. -/
def buildFilterForValues (key : FilterKey) (values : List String) : List Filter :=
  if values.isEmpty then []
  else [⟨key, values.insertionSort (· ≤ ·)⟩, buildEc2FilterForValidInstanceStates]

def buildAwsEc2FilterForVMIDOnlyMatches (vmIDOnlyMatches : List EntityMatch) : List Filter :=
  buildFilterForValues .vmID (vmIDOnlyMatches.map (·.matchID))

def buildAwsEc2FilterForVMNameOnlyMatches (vmNameOnlyMatches : List EntityMatch) :
    List Filter :=
  buildFilterForValues .vmName (vmNameOnlyMatches.map (·.matchName))

def buildAwsEc2FilterForVPCNameOnlyMatches
    (vpcNameOnlyMatches : List VirtualMachineSelector) : List Filter :=
  buildFilterForValues .vpcName (vpcNameOnlyMatches.map (·.vpcName))

/-- `buildFilterForVPCIDFromFilterForVPCName`; a name that is not known becomes "". -/
def buildFilterForVPCIDFromFilterForVPCName (filtersForVPCName : List Filter)
    (vpcNameToID : GoMap String String) : List Filter :=
  if filtersForVPCName.isEmpty then []
  else
    [⟨.vpcID, ((filtersForVPCName.filter fun filter => filter.name ≠ .instanceState).flatMap
        fun filter => filter.values.map fun vpcName =>
          (vpcNameToID.get? vpcName).getD "").insertionSort (· ≤ ·)⟩,
      buildEc2FilterForValidInstanceStates]

/-- A list of filters that is nil is not appended. -/
def orNil (filters : List Filter) : List (List Filter) :=
  if filters.isEmpty then [] else [filters]

/-- What `buildEc2Filters` makes of the buckets. -/
def filtersOfBuckets (buckets : Buckets) : List (List Filter) :=
  (orNil (buildAwsEc2FilterForVpcIDOnlyMatches buckets.vpcIDsWithVpcIDOnlyMatches.keys)).map
      (· ++ [buildEc2FilterForValidInstanceStates]) ++
    buildAwsEc2FilterForVpcIDWithOtherMatches buckets.vpcIDWithOtherMatches
      buckets.vpcIDsWithVpcIDOnlyMatches ++
    orNil (buildAwsEc2FilterForVMIDOnlyMatches buckets.vmIDOnlyMatches) ++
    orNil (buildAwsEc2FilterForVMNameOnlyMatches buckets.vmNameOnlyMatches) ++
    orNil (buildAwsEc2FilterForVPCNameOnlyMatches buckets.vpcNameOnlyMatches)

/-- `buildEc2Filters`. -/
def buildEc2Filters (vmSelector : List VirtualMachineSelector) : List (List Filter) :=
  match Buckets.collect true vmSelector .empty with
  | none => []
  | some buckets => filtersOfBuckets buckets

/-! ## Fetching the instances -/

/-- `pagedDescribeInstancesWrapper`, when EC2 answers. -/
def describeInstances (filters : List Filter) (instances : List Instance) : List Instance :=
  instances.filter fun vm => matchesAll vm.attributes filters

/-- What `getInstances` asks EC2 for: the names of VPCs are replaced by their ids. -/
def resolveVpcNames (vpcNameToID : GoMap String String) (filter : List Filter) : List Filter :=
  match filter with
  | [] => []
  | first :: rest =>
    if first.name = .vpcName then
      buildFilterForVPCIDFromFilterForVPCName (first :: rest) vpcNameToID
    else first :: rest

/-- `getInstances`, when EC2 answers; no filter at all stands for every instance. -/
def getInstances (vpcNameToID : GoMap String String) (filters : List (List Filter))
    (instances : List Instance) : List Instance :=
  if filters.isEmpty then describeInstances [buildEc2FilterForValidInstanceStates] instances
  else filters.flatMap fun filter =>
    describeInstances (resolveVpcNames vpcNameToID filter) instances

/-! ## What the filters select -/

section Selection

variable {network : Network} {vm : Instance}

theorem matchesAll_cons {attributes : FilterKey → Option String} {filter : Filter}
    {rest : List Filter} :
    matchesAll attributes (filter :: rest) = true ↔
      (∃ text ∈ attributes filter.name, text ∈ filter.values) ∧
        matchesAll attributes rest = true := by
  cases read : attributes filter.name <;> simp [matchesAll, read]

theorem matchesAll_states (valid : vm.state ∈ validInstanceStates) :
    matchesAll vm.attributes [buildEc2FilterForValidInstanceStates] = true := by
  simpa [matchesAll, buildEc2FilterForValidInstanceStates, Instance.attributes] using valid

variable {instances : List Instance} {name : String} {buckets : Buckets}

theorem mem_getInstances {vpcNameToID : GoMap String String} {filters : List (List Filter)}
    (listed : vm ∈ instances) (valid : vm.state ∈ validInstanceStates) :
    vm ∈ getInstances vpcNameToID filters instances ↔ filters = [] ∨
      ∃ filter ∈ filters,
        matchesAll vm.attributes (resolveVpcNames vpcNameToID filter) = true := by
  unfold getInstances
  split
  next none =>
    refine iff_of_true ?_ (.inl (List.isEmpty_iff.mp none))
    exact List.mem_filter.mpr ⟨listed, matchesAll_states valid⟩
  next some =>
    rw [List.isEmpty_iff] at some
    simp [describeInstances, listed, some]

/-- The map leads from the name of a VPC to its id. -/
theorem get?_buildMapVpcNameToID {vpc : Vpc} (member : vpc ∈ network.vpcs) (given : name ≠ "") :
    (buildMapVpcNameToID network.vpcs).get? name = some vpc.vpcId ↔ vpc.name = name := by
  rw [buildMapVpcNameToID, GoMap.get?_foldl_set (fun vpc : Vpc => vpc.name) fun vpc => vpc.vpcId]
  simp only [GoMap.get?_empty, Option.or_none, Option.map_eq_some_iff]
  constructor
  · rintro ⟨other, found, sameID⟩
    have listed := List.mem_filter.mp (List.mem_reverse.mp (List.mem_of_find?_eq_some found))
    rw [← network.ids other listed.1 vpc member sameID]
    simpa using List.find?_some found
  · intro named
    have tagged : vpc.tags.isEmpty = false := by
      by_contra untagged
      rw [Bool.not_eq_false, List.isEmpty_iff] at untagged
      rw [Vpc.name, untagged] at named
      exact given named.symm
    have listed : vpc ∈ (network.vpcs.filter fun vpc => !vpc.tags.isEmpty).reverse := by
      simp [member, tagged]
    cases found : (network.vpcs.filter fun vpc => !vpc.tags.isEmpty).reverse.find?
        fun vpc => vpc.name = name with
    | none =>
      have absent := List.find?_eq_none.mp found vpc listed
      simp [named] at absent
    | some other =>
      have listed' := List.mem_filter.mp (List.mem_reverse.mp (List.mem_of_find?_eq_some found))
      have named' : other.name = name := by simpa using List.find?_some found
      refine ⟨other, rfl, congrArg Vpc.vpcId ?_⟩
      exact network.names other listed'.1 vpc member (named'.trans named.symm)
        (named'.trans_ne given)

/-- The name of the VPC of an instance is replaced by the id of its VPC, and no other one is. -/
theorem resolved_iff (holds : network.Holds vm) (given : name ≠ "") :
    ((buildMapVpcNameToID network.vpcs).get? name).getD "" = vm.machine.vpcID ↔
      name = vm.machine.vpcName := by
  obtain ⟨vpc, member, sameID, sameName⟩ := holds
  rw [← sameID, ← sameName, eq_comm (a := name), ← get?_buildMapVpcNameToID member given]
  cases found : (buildMapVpcNameToID network.vpcs).get? name with
  | none => simpa using (network.real vpc member).symm
  | some vpcID => simp

variable {vpcNameToID : GoMap String String}

/-- The lists of filters that an instance satisfies, one of them being enough. -/
def satisfied (vpcNameToID : GoMap String String) (filters : List (List Filter)) (vm : Instance) :
    Prop :=
  ∃ filter ∈ filters, matchesAll vm.attributes (resolveVpcNames vpcNameToID filter) = true

theorem satisfied_append {first second : List (List Filter)} :
    satisfied vpcNameToID (first ++ second) vm ↔
      satisfied vpcNameToID first vm ∨ satisfied vpcNameToID second vm := by
  simp only [satisfied, List.mem_append, or_and_right, exists_or]

theorem satisfied_values (valid : vm.state ∈ validInstanceStates) {key : FilterKey}
    {text : String} (read : vm.attributes key = some text) (values : List String) :
    satisfied vpcNameToID (orNil (buildFilterForValues key values)) vm ↔
      text ∈ values := by
  have known : key ≠ .vpcName := by
    rintro rfl
    cases read
  cases values with
  | nil => simp [satisfied, orNil, buildFilterForValues]
  | cons value rest =>
    simp [satisfied, orNil, buildFilterForValues, resolveVpcNames, known, matchesAll_cons, read,
      matchesAll_states valid]

theorem satisfied_vpcNames (holds : network.Holds vm) (valid : vm.state ∈ validInstanceStates)
    {names : List String} (given : ∀ name ∈ names, name ≠ "") :
    satisfied (buildMapVpcNameToID network.vpcs) (orNil (buildFilterForValues .vpcName names)) vm ↔
      vm.machine.vpcName ∈ names := by
  cases names with
  | nil => simp [satisfied, orNil, buildFilterForValues]
  | cons name rest =>
    have resolved : vm.machine.vpcID ∈ (name :: rest).map
        (fun name => ((buildMapVpcNameToID network.vpcs).get? name).getD "") ↔
        vm.machine.vpcName ∈ name :: rest := by
      rw [List.mem_map]
      constructor
      · rintro ⟨other, member, same⟩
        rwa [← (resolved_iff holds (given other member)).mp same]
      · intro member
        exact ⟨_, member, (resolved_iff holds (given _ member)).mpr rfl⟩
    rw [← resolved]
    have states : buildEc2FilterForValidInstanceStates.name = .instanceState := rfl
    simp [satisfied, orNil, buildFilterForValues, resolveVpcNames,
      buildFilterForVPCIDFromFilterForVPCName, matchesAll_cons, matchesAll_states valid, states,
      Instance.attributes, @eq_comm _ vm.machine.vpcID]

theorem satisfied_vpcIDs (valid : vm.state ∈ validInstanceStates) (vpcIDs : List String) :
    satisfied vpcNameToID ((orNil (buildAwsEc2FilterForVpcIDOnlyMatches vpcIDs)).map
      (· ++ [buildEc2FilterForValidInstanceStates])) vm ↔ vm.machine.vpcID ∈ vpcIDs := by
  cases vpcIDs with
  | nil => simp [satisfied, orNil, buildAwsEc2FilterForVpcIDOnlyMatches]
  | cons vpcID rest =>
    simp [satisfied, orNil, buildAwsEc2FilterForVpcIDOnlyMatches, resolveVpcNames,
      matchesAll_cons, matchesAll_states valid, Instance.attributes]

theorem satisfied_other (valid : vm.state ∈ validInstanceStates)
    (others : List VirtualMachineSelector) (whole : GoSet String) :
    satisfied vpcNameToID (buildAwsEc2FilterForVpcIDWithOtherMatches others whole) vm ↔
      ∃ entry ∈ others, entry.vpcID ∉ whole ∧ entry.vpcID = vm.machine.vpcID ∧
        ∃ item ∈ entry.vmMatch,
          item.holds (· == ·) vm.machine.id vm.machine.name = true := by
  have each (entry : VirtualMachineSelector) (item : EntityMatch) :
      matchesAll vm.attributes (resolveVpcNames vpcNameToID ([⟨.vpcID, [entry.vpcID]⟩] ++
        (if item.isVMIDPresent then [⟨.vmID, [item.matchID]⟩] else []) ++
        (if item.isVMNamePresent then [⟨.vmName, [item.matchName]⟩] else []) ++
        [buildEc2FilterForValidInstanceStates])) = true ↔
      entry.vpcID = vm.machine.vpcID ∧
        item.holds (· == ·) vm.machine.id vm.machine.name = true := by
    cases byID : blank item.matchID <;> cases byName : blank item.matchName <;>
      simp [EntityMatch.isVMIDPresent, EntityMatch.isVMNamePresent, EntityMatch.holds, byID,
        byName, resolveVpcNames, matchesAll_cons, matchesAll_states valid, Instance.attributes,
        @eq_comm _ vm.machine.vpcID, @eq_comm _ vm.machine.id, @eq_comm _ vm.machine.name]
  simp only [satisfied, buildAwsEc2FilterForVpcIDWithOtherMatches, List.mem_flatMap]
  constructor
  · rintro ⟨filter, ⟨entry, listed, made⟩, matched⟩
    split at made
    next => cases made
    next free =>
      obtain ⟨item, member, rfl⟩ := List.mem_map.mp made
      obtain ⟨sameVpc, holds⟩ := (each entry item).mp matched
      exact ⟨entry, listed, free, sameVpc, item, member, holds⟩
  · rintro ⟨entry, listed, free, sameVpc, item, member, holds⟩
    refine ⟨_, ⟨entry, listed, ?_⟩, (each entry item).mpr ⟨sameVpc, holds⟩⟩
    rw [if_neg free]
    exact List.mem_map.mpr ⟨item, member, rfl⟩

/-- The filters select what the buckets stand for. -/
theorem satisfied_iff_selects (holds : network.Holds vm) (valid : vm.state ∈ validInstanceStates)
    (named : ∀ entry ∈ buckets.vpcNameOnlyMatches, entry.vpcName ≠ "") :
    satisfied (buildMapVpcNameToID network.vpcs) (filtersOfBuckets buckets) vm ↔
      buckets.selects (· == ·) vm.machine := by
  have names : ∀ name ∈ buckets.vpcNameOnlyMatches.map (·.vpcName), name ≠ "" := by
    intro name member
    obtain ⟨entry, listed, rfl⟩ := List.mem_map.mp member
    exact named entry listed
  have ids : vm.attributes .vmID = some vm.machine.id := rfl
  have vmNames : vm.attributes .vmName = some vm.machine.name := rfl
  simp only [filtersOfBuckets, satisfied_append, satisfied_vpcIDs valid, satisfied_other valid,
    buildAwsEc2FilterForVMIDOnlyMatches, satisfied_values valid ids,
    buildAwsEc2FilterForVMNameOnlyMatches, satisfied_values valid vmNames,
    buildAwsEc2FilterForVPCNameOnlyMatches, satisfied_vpcNames holds valid names,
    Buckets.selects, beq_iff_eq, List.mem_map, or_assoc]
  refine or_congr_left ?_
  exact ⟨fun whole => ⟨_, whole, rfl⟩, fun ⟨vpcID, whole, same⟩ => same ▸ whole⟩

/-- No filter is built when the buckets are empty. -/
theorem filtersOfBuckets_eq_nil
    (items : ∀ entry ∈ buckets.vpcIDWithOtherMatches, entry.vmMatch ≠ []) :
    filtersOfBuckets buckets = [] ↔ buckets.IsEmpty := by
  have values (key : FilterKey) (list : List String) :
      orNil (buildFilterForValues key list) = [] ↔ list = [] := by
    cases list <;> simp [orNil, buildFilterForValues]
  have whole (vpcIDs : List String) :
      orNil (buildAwsEc2FilterForVpcIDOnlyMatches vpcIDs) = [] ↔ vpcIDs = [] := by
    cases vpcIDs <;> simp [orNil, buildAwsEc2FilterForVpcIDOnlyMatches]
  simp only [filtersOfBuckets, List.append_eq_nil_iff, List.map_eq_nil_iff, whole,
    GoSet.keys_eq_nil, buildAwsEc2FilterForVMIDOnlyMatches, buildAwsEc2FilterForVMNameOnlyMatches,
    buildAwsEc2FilterForVPCNameOnlyMatches, values]
  constructor
  · rintro ⟨⟨⟨⟨vpcIDOnly, other⟩, vmIDOnly⟩, vmNameOnly⟩, vpcNameOnly⟩
    refine ⟨vpcIDOnly, ?_, vmIDOnly, vmNameOnly, vpcNameOnly⟩
    refine List.eq_nil_iff_forall_not_mem.mpr fun entry listed => items entry listed ?_
    have made := List.flatMap_eq_nil_iff.mp other entry listed
    rw [if_neg (vpcIDOnly entry.vpcID)] at made
    exact List.map_eq_nil_iff.mp made
  · rintro ⟨vpcIDOnly, other, vmIDOnly, vmNameOnly, vpcNameOnly⟩
    refine ⟨⟨⟨⟨vpcIDOnly, ?_⟩, vmIDOnly⟩, vmNameOnly⟩, vpcNameOnly⟩
    rw [other]
    rfl

/-- What is fetched for a selector that the webhook accepts. -/
theorem mem_getInstances_iff_translated {vmSelector : List VirtualMachineSelector}
    (accepted : validateMatchSections (.ok .aws) vmSelector = .ok ()) (listed : vm ∈ instances)
    (holds : network.Holds vm) (valid : vm.state ∈ validInstanceStates) :
    vm ∈ getInstances (buildMapVpcNameToID network.vpcs) (buildEc2Filters vmSelector) instances ↔
      Translated (· == ·) vmSelector vm.machine := by
  have accepts := accepted_of_aws accepted
  rw [mem_getInstances listed valid, Translated, ← collect_eq_none_iff_selectsAll accepts]
  cases finished : Buckets.collect true vmSelector .empty with
  | none =>
    refine iff_of_true (.inl ?_) (.inl rfl)
    rw [buildEc2Filters, finished]
  | some buckets =>
    have collected := Buckets.collected_of_collect finished
    have items : ∀ entry ∈ buckets.vpcIDWithOtherMatches, entry.vmMatch ≠ [] := by
      intro entry other empty
      obtain absurd | ⟨-, -, reaches⟩ := collected.otherSound entry other
      · cases absurd
      · rw [VirtualMachineSelector.hasItem, empty] at reaches
        cases reaches
    have named : ∀ entry ∈ buckets.vpcNameOnlyMatches, entry.vpcName ≠ "" := by
      intro entry listed empty
      obtain absurd | ⟨-, -, given, -⟩ := (collected.vpcNameOnly entry).mp listed
      · cases absurd
      · have filled := blank_vpcName given
        rw [empty] at filled
        cases filled
    have filters : buildEc2Filters vmSelector = filtersOfBuckets buckets := by
      rw [buildEc2Filters, finished]
    rw [filters, filtersOfBuckets_eq_nil items, isEmpty_iff accepts finished,
      ← selects_iff_exists_kept accepts finished, ← satisfied_iff_selects holds valid named]
    simp [satisfied]

end Selection

/-! ## The meaning of a selector -/

theorem ne_fresh {used : List String} {s : String} (member : s ∈ used) :
    (s == fresh used) = false := by
  rw [beq_eq_false_iff_ne]
  intro same
  have longer := length_lt_fresh member
  rw [← same] at longer
  exact lt_irrefl _ longer

/-- The machines of EC2: fields are compared as they are, and a VPC has an id. -/
def ec2Cloudscape : Cloudscape where
  same := (· == ·)
  Valid machine := machine.vpcID ≠ ""
  elsewhere used := by
    refine ⟨⟨fresh used, fresh used, fresh used, fresh used⟩, ?_, fun s member _ => ?_⟩
    · intro empty
      have length := congrArg String.length empty
      simp [fresh] at length
    · exact ⟨ne_fresh member, ne_fresh member, ne_fresh member, ne_fresh member⟩
  beside machine valid used := by
    refine ⟨{ machine with id := fresh used, name := fresh used }, valid, rfl, rfl,
      fun s member _ => ?_⟩
    exact ⟨ne_fresh member, ne_fresh member⟩

/--
Exactly the instances that a selector asks for are fetched, in every network and for
every instance in one of the states, if and only if no entry of the selector is lost.
-/
theorem instances_are_fetched_as_documented (vmSelector : List VirtualMachineSelector)
    (accepted : validateMatchSections (.ok .aws) vmSelector = .ok ()) :
    (∀ (network : Network) (instances : List Instance), ∀ vm ∈ instances, network.Holds vm →
      vm.state ∈ validInstanceStates →
      (vm ∈ getInstances (buildMapVpcNameToID network.vpcs) (buildEc2Filters vmSelector)
          instances ↔ Documented (· == ·) vmSelector vm.machine)) ↔
      Faithful ec2Cloudscape vmSelector := by
  rw [← translated_iff_faithful]
  constructor
  · intro agree machine valid
    -- an account with one VPC and one instance is enough
    let vpc : Vpc := ⟨machine.vpcID, [("Name", machine.vpcName)]⟩
    have real : ∀ other ∈ [vpc], other.vpcId ≠ "" := by
      intro other member
      rw [List.mem_singleton.mp member]
      exact valid
    let network : Network := ⟨[vpc], by simp, by simp, real⟩
    let vm : Instance := ⟨machine, "16"⟩
    have listed : vm ∈ [vm] := List.mem_singleton_self vm
    have holds : network.Holds vm := ⟨vpc, List.mem_singleton_self vpc, rfl, rfl⟩
    have running : vm.state ∈ validInstanceStates := List.mem_cons_self
    exact (mem_getInstances_iff_translated accepted listed holds running).symm.trans
      (agree network [vm] vm listed holds running)
  · intro agree network instances vm listed holds valid
    rw [mem_getInstances_iff_translated accepted listed holds valid]
    obtain ⟨vpc, member, sameID, -⟩ := holds
    exact agree vm.machine fun empty => network.real vpc member (sameID.trans empty)

/-- Two VPCs, one of them without a name. -/
def sampleNetwork : Network where
  vpcs := [⟨"vpc-1", [("Name", "red")]⟩, ⟨"vpc-2", []⟩]
  ids := by decide
  names := by decide
  real := by decide

/-- A VPC by its id with two machines, one of them blank, and a VPC by its name. -/
def sampleSelector : List VirtualMachineSelector :=
  [⟨some ⟨"", "vpc-2"⟩, [⟨"web", ""⟩, ⟨"", ""⟩]⟩, ⟨some ⟨"red", ""⟩, []⟩]

def sampleInstances : List Instance :=
  [⟨⟨"vpc-2", "", "i-1", "db"⟩, "80"⟩, ⟨⟨"vpc-1", "red", "i-2", "db"⟩, "16"⟩]

theorem sample_instances_are_fetched :
    validateMatchSections (.ok .aws) sampleSelector = .ok () ∧ ∀ vm ∈ sampleInstances,
      (vm ∈ getInstances (buildMapVpcNameToID sampleNetwork.vpcs)
          (buildEc2Filters sampleSelector) sampleInstances ↔
        Documented (· == ·) sampleSelector vm.machine) := by
  have accepted : validateMatchSections (.ok .aws) sampleSelector = .ok () := by decide
  have faithful : Faithful ec2Cloudscape sampleSelector := by
    refine .inr (.inl ⟨by decide, by decide, fun entry listed loses => ?_⟩)
    have none : ∀ entry ∈ sampleSelector, entry.losesVpc = false := by decide
    rw [none entry listed] at loses
    cases loses
  refine ⟨accepted, fun vm listed => ?_⟩
  refine (instances_are_fetched_as_documented sampleSelector accepted).mpr faithful
    sampleNetwork _ vm listed ?_ ?_
  · have placed : ∀ vm ∈ sampleInstances, ∃ vpc ∈ sampleNetwork.vpcs,
        vpc.vpcId = vm.machine.vpcID ∧ vpc.name = vm.machine.vpcName := by decide
    exact placed vm listed
  · revert vm
    decide

/--
A selector that asks for the machines of one VPC by a blank item gets into no bucket,
and the instances of every VPC are fetched.
-/
theorem instance_of_another_vpc_is_fetched :
    let vmSelector : List VirtualMachineSelector := [⟨some ⟨"", "vpc-2"⟩, [⟨"", ""⟩]⟩]
    let vm : Instance := ⟨⟨"vpc-1", "red", "i-2", "db"⟩, "16"⟩
    validateMatchSections (.ok .aws) vmSelector = .ok () ∧ sampleNetwork.Holds vm ∧
      vm.state ∈ validInstanceStates ∧
      vm ∈ getInstances (buildMapVpcNameToID sampleNetwork.vpcs) (buildEc2Filters vmSelector)
        [vm] ∧
      ¬ Documented (· == ·) vmSelector vm.machine := by
  refine ⟨by decide, ⟨_, List.mem_cons_self, rfl, rfl⟩, by decide, by decide, ?_⟩
  unfold Documented
  decide

end Nephe.Aws
