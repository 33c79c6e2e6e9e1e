import Mathlib.Data.List.Sort
import Nephe.Selectors.Buckets

/-!
# Queries for a selector

`buildQueries` turns a selector into queries for the Azure resource graph
(`azure_query_helpers.go`, `azure_resourcegraph_vmTable.go`), and
`SetResourceFilters` stores them under the name of the selector.  A query is a
template with parameters, so it is modelled by its parameters; no query at all
stands for every machine of the account.

The machines that are selected are those the selector asks for, as long as no
entry of it is lost on the way and building the queries does not fail.
-/

namespace Nephe.Azure

open Library

/-! ## Queries -/

/-- Each space becomes a comma and a space. -/
def spaced (s : String) : String :=
  String.ofList (s.toList.flatMap fun c => if c = ' ' then [',', ' '] else [c])

/--
`convertStrSliceToLowercaseCommaSeparatedStr`, as the list of the quoted texts that
its result consists of.  The quoted slice is split at the spaces and joined by commas,
which also changes the spaces inside a text.
-/
def convertStrSliceToLowercaseCommaSeparatedStr (strSlice : List String) : List String :=
  (strSlice.filter fun str => 0 < str.length).map fun str => spaced (toLower str)

/-- `vmTableQueryParameters`. -/
structure VmTableQueryParameters where
  subscriptionIDs : Option (List String)
  tenantIDs : Option (List String)
  locations : Option (List String)
  vnetIDs : Option (List String)
  vmNames : Option (List String)
  vmIDs : Option (List String)
deriving DecidableEq, Repr

def subscriptionIDsNotFoundErrorMsg : String := "subscription ID(s) required for the query"
def tenantIDsNotFoundErrorMsg : String := "tenant ID(s) required for the query"
def locationsNotFoundErrorMsg : String := "location/region(s) required for the query"
def vnetIDsNotFoundErrorMsg : String := "vnet ID(s) required for the query"
def vmIDsNotFoundErrorMsg : String := "vm ID(s) required for the query"
def vmNamesNotFoundErrorMsg : String := "vm name(s) required for the query"
def vmIDorNameNotFoundErrorMsg : String := "vm ID(s) or name(s) required for the query"

/-- `azureAccountConfig`, where a query is restricted to it. -/
structure AzureAccountConfig where
  subscriptionID : String
  tenantID : String
  region : String

/-- The texts of a parameter, which has to have one. -/
def require (strSlice : List String) (errorMsg : String) : Except String (List String) :=
  if (convertStrSliceToLowercaseCommaSeparatedStr strSlice).isEmpty then .error errorMsg
  else .ok (convertStrSliceToLowercaseCommaSeparatedStr strSlice)

/-- `getVMsBySubscriptionIDsAndTenantIDsAndLocationsMatchQuery`. -/
def getVMsBySubscriptionIDsAndTenantIDsAndLocationsMatchQuery
    (subscriptionIDs tenantIDs locations : List String) :
    Except String VmTableQueryParameters := do
  let subscriptionIDs ← require subscriptionIDs subscriptionIDsNotFoundErrorMsg
  let tenantIDs ← require tenantIDs tenantIDsNotFoundErrorMsg
  let locations ← require locations locationsNotFoundErrorMsg
  return ⟨some subscriptionIDs, some tenantIDs, some locations, none, none, none⟩

/-- `getVMsByVnetIDsMatchQuery`. -/
def getVMsByVnetIDsMatchQuery (vnetIDs subscriptionIDs tenantIDs locations : List String) :
    Except String VmTableQueryParameters := do
  let vnetIDs ← require vnetIDs vnetIDsNotFoundErrorMsg
  let query ← getVMsBySubscriptionIDsAndTenantIDsAndLocationsMatchQuery
    subscriptionIDs tenantIDs locations
  return { query with vnetIDs := some vnetIDs }

/-- `getVMsByVMNamesMatchQuery`. -/
def getVMsByVMNamesMatchQuery (vmNames subscriptionIDs tenantIDs locations : List String) :
    Except String VmTableQueryParameters := do
  let vmNames ← require vmNames vmNamesNotFoundErrorMsg
  let query ← getVMsBySubscriptionIDsAndTenantIDsAndLocationsMatchQuery
    subscriptionIDs tenantIDs locations
  return { query with vmNames := some vmNames }

/-- `getVMsByVMIDsMatchQuery`. -/
def getVMsByVMIDsMatchQuery (vmIDs subscriptionIDs tenantIDs locations : List String) :
    Except String VmTableQueryParameters := do
  let vmIDs ← require vmIDs vmIDsNotFoundErrorMsg
  let query ← getVMsBySubscriptionIDsAndTenantIDsAndLocationsMatchQuery
    subscriptionIDs tenantIDs locations
  return { query with vmIDs := some vmIDs }

/-- `getVMsByVnetAndOtherMatchesQuery`; the ids are not used when there are names. -/
def getVMsByVnetAndOtherMatchesQuery
    (vnetIDs vmNames vmIDs subscriptionIDs tenantIDs locations : List String) :
    Except String VmTableQueryParameters := do
  let query ← getVMsBySubscriptionIDsAndTenantIDsAndLocationsMatchQuery
    subscriptionIDs tenantIDs locations
  let vnetIDs ← require vnetIDs vnetIDsNotFoundErrorMsg
  let vmIDs := convertStrSliceToLowercaseCommaSeparatedStr vmIDs
  let vmNames := convertStrSliceToLowercaseCommaSeparatedStr vmNames
  if vmIDs.isEmpty && vmNames.isEmpty then
    throw vmIDorNameNotFoundErrorMsg
  else if vmNames.isEmpty then
    return { query with vnetIDs := some vnetIDs, vmIDs := some vmIDs }
  else
    return { query with vnetIDs := some vnetIDs, vmNames := some vmNames }

/-! ## Building the queries -/

section Build

variable (subscriptionIDs tenantIDs locations : List String)

/-- No query for no value, and otherwise one for all of them in order. -/
def buildQueryForValues
    (query : List String → List String → List String → List String →
      Except String VmTableQueryParameters)
    (values : List String) : Except String (List VmTableQueryParameters) :=
  if values.isEmpty then .ok []
  else
    (query (values.insertionSort (· ≤ ·)) subscriptionIDs tenantIDs locations).map ([·])

def buildQueryForVpcIDOnlyMatches (vpcIDsWithVpcIDOnlyMatches : GoSet String) :
    Except String (List VmTableQueryParameters) :=
  buildQueryForValues subscriptionIDs tenantIDs locations getVMsByVnetIDsMatchQuery
    vpcIDsWithVpcIDOnlyMatches.keys

def buildQueryForVMNameOnlyMatches (vmNameOnlyMatches : List EntityMatch) :
    Except String (List VmTableQueryParameters) :=
  buildQueryForValues subscriptionIDs tenantIDs locations getVMsByVMNamesMatchQuery
    (vmNameOnlyMatches.map (·.matchName))

def buildQueryForVMIDOnlyMatches (vmIDOnlyMatches : List EntityMatch) :
    Except String (List VmTableQueryParameters) :=
  buildQueryForValues subscriptionIDs tenantIDs locations getVMsByVMIDsMatchQuery
    (vmIDOnlyMatches.map (·.matchID))

/-- The pairs of a VPC and an item that a query is built for, one after the other. -/
def pairs (vpcIDWithOtherMatches : List VirtualMachineSelector)
    (vpcIDsWithVpcIDOnlyMatches : GoSet String) : List (String × EntityMatch) :=
  vpcIDWithOtherMatches.flatMap fun entry =>
    if entry.vpcID ∈ vpcIDsWithVpcIDOnlyMatches then []
    else entry.vmMatch.map fun vmMatch => (entry.vpcID, vmMatch)

/-- The query for a VPC and an item. -/
def buildQueryForPair (pair : String × EntityMatch) : Except String VmTableQueryParameters :=
  getVMsByVnetAndOtherMatchesQuery [pair.1]
    (if pair.2.isVMNamePresent then [pair.2.matchName] else [])
    (if pair.2.isVMIDPresent then [pair.2.matchID] else [])
    subscriptionIDs tenantIDs locations

/-- `buildFilterForVpcIDWithOtherMatches`: the first error ends both loops. -/
def buildFilterForVpcIDWithOtherMatches (vpcIDWithOtherMatches : List VirtualMachineSelector)
    (vpcIDsWithVpcIDOnlyMatches : GoSet String) :
    Except String (List VmTableQueryParameters) :=
  (pairs vpcIDWithOtherMatches vpcIDsWithVpcIDOnlyMatches).mapM
    (buildQueryForPair subscriptionIDs tenantIDs locations)

/-- What `buildQueries` makes of the buckets. -/
def queriesOfBuckets (buckets : Buckets) : Except String (List VmTableQueryParameters) := do
  let vpcIDOnlyQuery ← buildQueryForVpcIDOnlyMatches subscriptionIDs tenantIDs locations
    buckets.vpcIDsWithVpcIDOnlyMatches
  let vpcIDWithOtherQuery ← buildFilterForVpcIDWithOtherMatches subscriptionIDs tenantIDs
    locations buckets.vpcIDWithOtherMatches buckets.vpcIDsWithVpcIDOnlyMatches
  let vmNameOnlyQuery ← buildQueryForVMNameOnlyMatches subscriptionIDs tenantIDs locations
    buckets.vmNameOnlyMatches
  let vmIDOnlyQuery ← buildQueryForVMIDOnlyMatches subscriptionIDs tenantIDs locations
    buckets.vmIDOnlyMatches
  return vpcIDOnlyQuery ++ vpcIDWithOtherQuery ++ vmNameOnlyQuery ++ vmIDOnlyQuery

/-- `buildQueries`; the name of a VPC is not looked at. -/
def buildQueries (vmSelector : List VirtualMachineSelector) :
    Except String (List VmTableQueryParameters) :=
  match Buckets.collect false vmSelector .empty with
  | none => .ok []
  | some buckets => queriesOfBuckets subscriptionIDs tenantIDs locations buckets

end Build

/-- `CloudEntitySelector`: its name and its `VMSelector`. -/
structure CloudEntitySelector where
  name : String
  vmSelector : List VirtualMachineSelector

/-- `convertSelectorToComputeQuery` for a selector that is there; an error is only logged. -/
def convertSelectorToComputeQuery (selector : CloudEntitySelector)
    (subscriptionIDs tenantIDs locations : List String) :
    Option (List VmTableQueryParameters) :=
  match buildQueries subscriptionIDs tenantIDs locations selector.vmSelector with
  | .error _ => none
  | .ok queries => some queries

/-- `SetResourceFilters`, with the queries of the service by the names of the selectors. -/
def setResourceFilters (account : AzureAccountConfig) (selector : CloudEntitySelector)
    (computeFilters : GoMap String (List VmTableQueryParameters)) :
    GoMap String (List VmTableQueryParameters) :=
  match convertSelectorToComputeQuery selector [account.subscriptionID] [account.tenantID]
      [account.region] with
  | some filters => computeFilters.set selector.name filters
  | none => computeFilters.remove selector.name

/-! ## What a query selects -/

/-- The parameter is not given, or the attribute is in it. -/
def among (parameter : Option (List String)) (text : String) : Bool :=
  parameter.all fun texts => texts.contains (toLower text)

/-- The machines of the account that a query finds. -/
def VmTableQueryParameters.selects (query : VmTableQueryParameters) (machine : Machine) : Bool :=
  among query.vnetIDs machine.vpcID && among query.vmNames machine.name &&
    among query.vmIDs machine.id

/-- The machines of the account that some queries find; no query finds all of them. -/
def selected (queries : List VmTableQueryParameters) (machine : Machine) : Prop :=
  queries = [] ∨ ∃ query ∈ queries, query.selects machine = true

/-! ## Texts as they are queried -/

/-- Texts are compared in lower case. -/
def sameLower (s t : String) : Bool :=
  toLower s == toLower t

/-- The ids and names of Azure resources have no space in them. -/
def Unspaced (s : String) : Prop :=
  ' ' ∉ s.toList

theorem Unspaced.toLower {s : String} (unspaced : Unspaced s) : Unspaced (toLower s) := by
  unfold Unspaced
  rw [Library.toLower, String.toList_ofList]
  intro member
  obtain ⟨c, member, lower⟩ := List.mem_map.mp member
  rw [(lowerChar_eq_iff (by decide)).mp lower] at member
  exact unspaced member

theorem spaced_of_unspaced {s : String} (unspaced : Unspaced s) : spaced s = s := by
  have same : (s.toList.flatMap fun c => if c = ' ' then [',', ' '] else [c]) = s.toList := by
    unfold Unspaced at unspaced
    generalize s.toList = characters at unspaced
    induction characters with
    | nil => rfl
    | cons c rest induction =>
      rw [List.mem_cons, not_or] at unspaced
      rw [List.flatMap_cons, induction unspaced.2, if_neg (Ne.symm unspaced.1)]
      rfl
  rw [spaced, same, String.ofList_toList]

/-- A text with a space is queried as another one with a space. -/
theorem not_unspaced_spaced {s : String} (space : ¬ Unspaced s) : ¬ Unspaced (spaced s) := by
  simp only [Unspaced, not_not] at space ⊢
  rw [spaced, String.toList_ofList]
  exact List.mem_flatMap.mpr ⟨' ', space, by simp⟩

/-- On texts without spaces the query compares as it should. -/
theorem spaced_eq_iff {s t : String} (unspaced : Unspaced t) :
    spaced (toLower s) = toLower t ↔ sameLower s t = true := by
  rw [sameLower, beq_iff_eq]
  by_cases space : Unspaced (toLower s)
  · rw [spaced_of_unspaced space]
  · refine iff_of_false (fun same => ?_) (fun same => ?_)
    · exact not_unspaced_spaced space (same ▸ unspaced.toLower)
    · exact space (same ▸ unspaced.toLower)

theorem among_none (t : String) : among none t = true := rfl

theorem among_iff {values : List String} {t : String} (unspaced : Unspaced t) :
    among (some (values.map fun value => spaced (toLower value))) t = true ↔
      ∃ value ∈ values, sameLower value t = true := by
  simp only [among, Option.all_some, List.contains_iff_mem, List.mem_map, spaced_eq_iff unspaced]

/-! ## Queries that can be built -/

/-- The account has what every query is restricted to. -/
structure AzureAccountConfig.Filled (account : AzureAccountConfig) : Prop where
  subscriptionID : account.subscriptionID ≠ ""
  tenantID : account.tenantID ≠ ""
  region : account.region ≠ ""

theorem require_eq_ok {values : List String} (filled : ∀ value ∈ values, value ≠ "")
    (some : values ≠ []) (errorMsg : String) :
    require values errorMsg = .ok (values.map fun value => spaced (toLower value)) := by
  have all : (values.filter fun value => 0 < value.length) = values := by
    refine List.filter_eq_self.mpr fun value member => ?_
    have length : value.length ≠ 0 := fun empty =>
      filled value member (String.length_eq_zero_iff.mp empty)
    simpa using Nat.pos_of_ne_zero length
  unfold require convertStrSliceToLowercaseCommaSeparatedStr
  rw [all, if_neg]
  simpa using some

/-- The machines of Azure. -/
structure Valid (machine : Machine) : Prop where
  vnetID : Unspaced machine.vpcID
  id : Unspaced machine.id
  name : Unspaced machine.name

/-- Building succeeds; when there is something to ask for, the queries find what is wanted. -/
def Finds (result : Except String (List VmTableQueryParameters)) (nothing : Prop)
    (wanted : Machine → Prop) : Prop :=
  ∃ queries, result = .ok queries ∧ (queries = [] ↔ nothing) ∧
    ∀ machine, Valid machine →
      ((∃ query ∈ queries, query.selects machine = true) ↔ wanted machine)

section Account

variable {account : AzureAccountConfig} {subscriptionIDs tenantIDs locations : List String}

/-- The query for every machine of an account. -/
def everyMachine (account : AzureAccountConfig) : VmTableQueryParameters :=
  ⟨some [spaced (toLower account.subscriptionID)], some [spaced (toLower account.tenantID)],
    some [spaced (toLower account.region)], none, none, none⟩

theorem everyMachine_eq (filled : account.Filled) :
    getVMsBySubscriptionIDsAndTenantIDsAndLocationsMatchQuery [account.subscriptionID]
      [account.tenantID] [account.region] = .ok (everyMachine account) := by
  unfold getVMsBySubscriptionIDsAndTenantIDsAndLocationsMatchQuery
  rw [require_eq_ok (by simpa using filled.subscriptionID) (List.cons_ne_nil _ _),
    require_eq_ok (by simpa using filled.tenantID) (List.cons_ne_nil _ _),
    require_eq_ok (by simpa using filled.region) (List.cons_ne_nil _ _)]
  rfl

/-- One query for some values that are read from one attribute. -/
theorem finds_values {ι : Type} {items : List ι} {key : ι → String} {values : List String}
    {query : List String → List String → List String → List String →
      Except String VmTableQueryParameters}
    (put : List String → VmTableQueryParameters) {read : Machine → String}
    (asked : values = items.map key) (given : ∀ item ∈ items, key item ≠ "")
    (build : ∀ list, (∀ value ∈ list, value ≠ "") → list ≠ [] →
      query list subscriptionIDs tenantIDs locations =
        .ok (put (list.map fun value => spaced (toLower value))))
    (selects : ∀ texts machine, (put texts).selects machine = among (some texts) (read machine))
    (unspaced : ∀ machine, Valid machine → Unspaced (read machine)) :
    Finds (buildQueryForValues subscriptionIDs tenantIDs locations query values) (items = [])
      fun machine => ∃ item ∈ items, sameLower (key item) (read machine) = true := by
  subst asked
  unfold buildQueryForValues
  cases items with
  | nil => exact ⟨[], rfl, by simp, by simp⟩
  | cons item rest =>
    have sorted : ((item :: rest).map key).insertionSort (· ≤ ·) ≠ [] := by
      refine List.ne_nil_of_mem (a := key item) ?_
      rw [List.mem_insertionSort]
      exact List.mem_cons_self
    rw [if_neg (by simp), build _ (by simpa using given) sorted]
    refine ⟨_, rfl, by simp, fun machine valid => ?_⟩
    rw [List.exists_mem_cons_iff]
    simp [selects, among_iff (unspaced machine valid)]

variable (every : getVMsBySubscriptionIDsAndTenantIDsAndLocationsMatchQuery subscriptionIDs
  tenantIDs locations = .ok (everyMachine account))

include every

theorem finds_vnetIDs {vpcIDs : GoSet String} (given : ∀ vpcID ∈ vpcIDs, vpcID ≠ "") :
    Finds (buildQueryForVpcIDOnlyMatches subscriptionIDs tenantIDs locations vpcIDs)
      (∀ vpcID, vpcID ∉ vpcIDs) fun machine =>
        ∃ vpcID ∈ vpcIDs, sameLower vpcID machine.vpcID = true := by
  rw [← GoSet.keys_eq_nil]
  refine finds_values (fun texts => { everyMachine account with vnetIDs := some texts })
    (List.map_id _).symm given (fun list filled some => ?_) (fun texts machine => ?_)
    fun machine valid => valid.vnetID
  · rw [getVMsByVnetIDsMatchQuery, require_eq_ok filled some, every]
    rfl
  · simp [VmTableQueryParameters.selects, everyMachine, among_none]

theorem finds_vmNames {items : List EntityMatch} (given : ∀ item ∈ items, item.matchName ≠ "") :
    Finds (buildQueryForVMNameOnlyMatches subscriptionIDs tenantIDs locations items) (items = [])
      fun machine => ∃ item ∈ items, sameLower item.matchName machine.name = true := by
  refine finds_values (fun texts => { everyMachine account with vmNames := some texts })
    rfl given (fun list filled some => ?_) (fun texts machine => ?_)
    fun machine valid => valid.name
  · rw [getVMsByVMNamesMatchQuery, require_eq_ok filled some, every]
    rfl
  · simp [VmTableQueryParameters.selects, everyMachine, among_none]

theorem finds_vmIDs {items : List EntityMatch} (given : ∀ item ∈ items, item.matchID ≠ "") :
    Finds (buildQueryForVMIDOnlyMatches subscriptionIDs tenantIDs locations items) (items = [])
      fun machine => ∃ item ∈ items, sameLower item.matchID machine.id = true := by
  refine finds_values (fun texts => { everyMachine account with vmIDs := some texts })
    rfl given (fun list filled some => ?_) (fun texts machine => ?_)
    fun machine valid => valid.id
  · rw [getVMsByVMIDsMatchQuery, require_eq_ok filled some, every]
    rfl
  · simp [VmTableQueryParameters.selects, everyMachine, among_none]

omit every in
theorem convert_singleton {value : String} (present : blank value = false) :
    convertStrSliceToLowercaseCommaSeparatedStr [value] = [spaced (toLower value)] := by
  have filled : value.length ≠ 0 := fun empty => by
    rw [String.length_eq_zero_iff.mp empty] at present
    cases present
  simp [convertStrSliceToLowercaseCommaSeparatedStr, Nat.pos_of_ne_zero filled]

/-- The query for a VPC, with the first conditions met. -/
theorem getVMsByVnetAndOtherMatchesQuery_eq {vpcID : String} (given : blank vpcID = false)
    (vmNames vmIDs : List String) :
    getVMsByVnetAndOtherMatchesQuery [vpcID] vmNames vmIDs subscriptionIDs tenantIDs locations =
      if (convertStrSliceToLowercaseCommaSeparatedStr vmIDs).isEmpty &&
          (convertStrSliceToLowercaseCommaSeparatedStr vmNames).isEmpty then
        .error vmIDorNameNotFoundErrorMsg
      else if (convertStrSliceToLowercaseCommaSeparatedStr vmNames).isEmpty then
        .ok { everyMachine account with
          vnetIDs := some [spaced (toLower vpcID)]
          vmIDs := some (convertStrSliceToLowercaseCommaSeparatedStr vmIDs) }
      else
        .ok { everyMachine account with
          vnetIDs := some [spaced (toLower vpcID)]
          vmNames := some (convertStrSliceToLowercaseCommaSeparatedStr vmNames) } := by
  unfold getVMsByVnetAndOtherMatchesQuery require
  rw [every, convert_singleton given]
  rfl

omit every in
theorem among_singleton {s t : String} (unspaced : Unspaced t) :
    among (some [spaced (toLower s)]) t = sameLower s t := by
  rw [Bool.eq_iff_iff]
  exact (@among_iff [s] t unspaced).trans (by simp)

/-- The query for a VPC and an item; there is none for a blank item. -/
theorem buildQueryForPair_cases {vpcID : String} (given : blank vpcID = false)
    {item : EntityMatch} (single : item.isDouble = false) :
    (item.isBlank = true ∧ buildQueryForPair subscriptionIDs tenantIDs locations (vpcID, item) =
      .error vmIDorNameNotFoundErrorMsg) ∨
    (item.isBlank = false ∧ ∃ query,
      buildQueryForPair subscriptionIDs tenantIDs locations (vpcID, item) = .ok query ∧
      ∀ machine, Valid machine → query.selects machine =
        (sameLower vpcID machine.vpcID && item.holds sameLower machine.id machine.name)) := by
  have none : convertStrSliceToLowercaseCommaSeparatedStr [] = [] := rfl
  cases byID : blank item.matchID <;> cases byName : blank item.matchName
  · simp [EntityMatch.isDouble, byID, byName] at single
  · refine .inr ⟨by simp [EntityMatch.isBlank, byID], { everyMachine account with
      vnetIDs := some [spaced (toLower vpcID)]
      vmIDs := some [spaced (toLower item.matchID)] }, ?_, fun machine valid => ?_⟩
    · rw [buildQueryForPair, getVMsByVnetAndOtherMatchesQuery_eq every given]
      simp [EntityMatch.isVMIDPresent, EntityMatch.isVMNamePresent, byID, byName,
        convert_singleton byID, none]
    · simp [VmTableQueryParameters.selects, EntityMatch.holds, byID, byName,
        among_singleton valid.vnetID, among_singleton valid.id, everyMachine, among_none]
  · refine .inr ⟨by simp [EntityMatch.isBlank, byName], { everyMachine account with
      vnetIDs := some [spaced (toLower vpcID)]
      vmNames := some [spaced (toLower item.matchName)] }, ?_, fun machine valid => ?_⟩
    · rw [buildQueryForPair, getVMsByVnetAndOtherMatchesQuery_eq every given]
      simp [EntityMatch.isVMIDPresent, EntityMatch.isVMNamePresent, byID, byName,
        convert_singleton byName, none]
    · simp [VmTableQueryParameters.selects, EntityMatch.holds, byID, byName,
        among_singleton valid.vnetID, among_singleton valid.name, everyMachine, among_none]
  · refine .inl ⟨by simp [EntityMatch.isBlank, byID, byName], ?_⟩
    rw [buildQueryForPair, getVMsByVnetAndOtherMatchesQuery_eq every given]
    simp [EntityMatch.isVMIDPresent, EntityMatch.isVMNamePresent, byID, byName, none]

/-- The queries for some pairs without a blank item. -/
theorem finds_pairs {list : List (String × EntityMatch)}
    (given : ∀ pair ∈ list, blank pair.1 = false ∧ pair.2.isDouble = false)
    (whole : ∀ pair ∈ list, pair.2.isBlank = false) :
    Finds (list.mapM (buildQueryForPair subscriptionIDs tenantIDs locations)) (list = [])
      fun machine => ∃ pair ∈ list,
        sameLower pair.1 machine.vpcID = true ∧
          pair.2.holds sameLower machine.id machine.name = true := by
  induction list with
  | nil => exact ⟨[], rfl, by simp, by simp⟩
  | cons pair rest induction =>
    obtain ⟨⟨present, single⟩, givenRest⟩ := List.forall_mem_cons.mp given
    obtain ⟨notBlank, wholeRest⟩ := List.forall_mem_cons.mp whole
    obtain ⟨queries, built, -, found⟩ := induction givenRest wholeRest
    obtain ⟨isBlank, -⟩ | ⟨-, query, one, selects⟩ :=
      buildQueryForPair_cases every present single
    · rw [notBlank] at isBlank
      cases isBlank
    · refine ⟨query :: queries, ?_, by simp, fun machine valid => ?_⟩
      · rw [List.mapM_cons, one, built]
        rfl
      · beta_reduce
        rw [List.exists_mem_cons_iff, List.exists_mem_cons_iff, found machine valid,
          selects machine valid, Bool.and_eq_true]

/-- One blank item is enough for an error. -/
theorem fails_pairs {list : List (String × EntityMatch)}
    (given : ∀ pair ∈ list, blank pair.1 = false ∧ pair.2.isDouble = false)
    (broken : ∃ pair ∈ list, pair.2.isBlank = true) :
    ∃ error, list.mapM (buildQueryForPair subscriptionIDs tenantIDs locations) = .error error := by
  induction list with
  | nil => simp at broken
  | cons pair rest induction =>
    obtain ⟨⟨present, single⟩, givenRest⟩ := List.forall_mem_cons.mp given
    rw [List.mapM_cons]
    obtain ⟨-, failed⟩ | ⟨notBlank, query, one, -⟩ :=
      buildQueryForPair_cases every present single
    · exact ⟨_, by rw [failed]; rfl⟩
    · rw [List.exists_mem_cons_iff, notBlank] at broken
      obtain ⟨error, failed⟩ := induction givenRest (broken.resolve_left Bool.false_ne_true)
      exact ⟨error, by rw [one, failed]; rfl⟩

end Account

/-! ## What is stored for a selector -/

section Stored

open VirtualMachineSelector

variable {account : AzureAccountConfig} {vmSelector : List VirtualMachineSelector}
  {buckets : Buckets}

/-- An entry that asks for a VPC by its id, for some machine, and has a blank item as well. -/
def IsMixed (entry : VirtualMachineSelector) : Prop :=
  entry.isVpcIDPresent = true ∧ entry.hasItem = true ∧ entry.hasBlankItem = true

/-- Another entry asks for the whole VPC, by the same text. -/
def Superseded (vmSelector : List VirtualMachineSelector) (entry : VirtualMachineSelector) : Prop :=
  ∃ other ∈ vmSelector, other.isVpcIDPresent = true ∧ other.vmMatch = [] ∧
    other.vpcID = entry.vpcID

/--
The queries cannot be built: some entry is mixed and not superseded, and the loop
gets to its end.
-/
def Unbuildable (vmSelector : List VirtualMachineSelector) : Prop :=
  (∀ entry ∈ vmSelector, entry.selectsAll = false) ∧
    ∃ entry ∈ vmSelector, IsMixed entry ∧ ¬ Superseded vmSelector entry

theorem mem_vpcIDOnly_iff (finished : Buckets.collect false vmSelector .empty = some buckets)
    {entry : VirtualMachineSelector} :
    entry.vpcID ∈ buckets.vpcIDsWithVpcIDOnlyMatches ↔ Superseded vmSelector entry := by
  rw [(Buckets.collected_of_collect finished).vpcIDOnly]
  exact or_iff_right (AList.notMem_empty _)

/-- The pairs come from the entries that are not superseded. -/
theorem mem_pairs {pair : String × EntityMatch} :
    pair ∈ pairs buckets.vpcIDWithOtherMatches buckets.vpcIDsWithVpcIDOnlyMatches ↔
      ∃ entry ∈ buckets.vpcIDWithOtherMatches,
        entry.vpcID ∉ buckets.vpcIDsWithVpcIDOnlyMatches ∧
          ∃ item ∈ entry.vmMatch, (entry.vpcID, item) = pair := by
  rw [pairs, List.mem_flatMap]
  refine exists_congr fun entry => and_congr_right fun _ => ?_
  split
  next superseded => simp [superseded]
  next free => simp [free]

theorem exists_pair_iff (machine : Machine) :
    (∃ pair ∈ pairs buckets.vpcIDWithOtherMatches buckets.vpcIDsWithVpcIDOnlyMatches,
      sameLower pair.1 machine.vpcID = true ∧
        pair.2.holds sameLower machine.id machine.name = true) ↔
      ∃ entry ∈ buckets.vpcIDWithOtherMatches,
        entry.vpcID ∉ buckets.vpcIDsWithVpcIDOnlyMatches ∧
        sameLower entry.vpcID machine.vpcID = true ∧
          ∃ item ∈ entry.vmMatch, item.holds sameLower machine.id machine.name = true := by
  constructor
  · rintro ⟨pair, member, sameVpc, holds⟩
    obtain ⟨entry, other, free, item, inside, rfl⟩ := mem_pairs.mp member
    exact ⟨entry, other, free, sameVpc, item, inside, holds⟩
  · rintro ⟨entry, other, free, sameVpc, item, inside, holds⟩
    exact ⟨_, mem_pairs.mpr ⟨entry, other, free, item, inside, rfl⟩, sameVpc, holds⟩

/-- Each pair belongs to an entry that asks for a VPC by its id. -/
theorem of_mem_pairs (finished : Buckets.collect false vmSelector .empty = some buckets)
    {pair : String × EntityMatch}
    (member : pair ∈ pairs buckets.vpcIDWithOtherMatches buckets.vpcIDsWithVpcIDOnlyMatches) :
    ∃ entry ∈ vmSelector, entry.isVpcIDPresent = true ∧ entry.hasItem = true ∧
      ¬ Superseded vmSelector entry ∧ entry.vpcID = pair.1 ∧ pair.2 ∈ entry.vmMatch := by
  obtain ⟨entry, other, free, item, inside, rfl⟩ := mem_pairs.mp member
  rcases (Buckets.collected_of_collect finished).otherSound entry other with
    none | ⟨listed, present, reaches⟩
  · cases none
  · exact ⟨entry, listed, present, reaches, mt (mem_vpcIDOnly_iff finished).mpr free, rfl, inside⟩

theorem pairs_given (accepted : Accepted false vmSelector)
    (finished : Buckets.collect false vmSelector .empty = some buckets) :
    ∀ pair ∈ pairs buckets.vpcIDWithOtherMatches buckets.vpcIDsWithVpcIDOnlyMatches,
      blank pair.1 = false ∧ pair.2.isDouble = false := by
  intro pair member
  obtain ⟨entry, listed, present, -, -, sameVpc, inside⟩ := of_mem_pairs finished member
  exact ⟨sameVpc ▸ blank_vpcID present, accepted.vms entry listed _ inside⟩

/-- A pair has a blank item when some entry is mixed and not superseded. -/
theorem exists_blank_pair_iff
    (finished : Buckets.collect false vmSelector .empty = some buckets) :
    (∃ pair ∈ pairs buckets.vpcIDWithOtherMatches buckets.vpcIDsWithVpcIDOnlyMatches,
      pair.2.isBlank = true) ↔
      ∃ entry ∈ vmSelector, IsMixed entry ∧ ¬ Superseded vmSelector entry := by
  constructor
  · rintro ⟨pair, member, isBlank⟩
    obtain ⟨entry, listed, present, reaches, free, -, inside⟩ := of_mem_pairs finished member
    exact ⟨entry, listed, ⟨present, reaches, List.any_eq_true.mpr ⟨_, inside, isBlank⟩⟩, free⟩
  · rintro ⟨entry, listed, ⟨present, reaches, blanks⟩, free⟩
    obtain ⟨item, inside, isBlank⟩ := List.any_eq_true.mp blanks
    have alone : entry.vpcID ∉ buckets.vpcIDsWithVpcIDOnlyMatches :=
      mt (mem_vpcIDOnly_iff finished).mp free
    have other := (Buckets.collected_of_collect finished).otherComplete entry alone
      (.inr ⟨listed, present, reaches⟩)
    exact ⟨(entry.vpcID, item), mem_pairs.mpr ⟨entry, other, alone, item, inside, rfl⟩, isBlank⟩

theorem ne_empty_of_blank {text : String} (present : blank text = false) : text ≠ "" := by
  rintro rfl
  cases present

theorem vpcIDs_given (finished : Buckets.collect false vmSelector .empty = some buckets) :
    ∀ vpcID ∈ buckets.vpcIDsWithVpcIDOnlyMatches, vpcID ≠ "" := by
  intro vpcID member
  rcases ((Buckets.collected_of_collect finished).vpcIDOnly vpcID).mp member with
    none | ⟨entry, -, present, -, rfl⟩
  · cases none
  · exact ne_empty_of_blank (blank_vpcID present)

/-- The queries find what the buckets stand for. -/
theorem finds_buckets (filled : account.Filled) (accepted : Accepted false vmSelector)
    (finished : Buckets.collect false vmSelector .empty = some buckets)
    (whole : ∀ pair ∈ pairs buckets.vpcIDWithOtherMatches buckets.vpcIDsWithVpcIDOnlyMatches,
      pair.2.isBlank = false) :
    Finds (queriesOfBuckets [account.subscriptionID] [account.tenantID] [account.region] buckets)
      buckets.IsEmpty (buckets.selects sameLower) := by
  have collected := Buckets.collected_of_collect finished
  have unnamed : buckets.vpcNameOnlyMatches = [] := by
    refine List.eq_nil_iff_forall_not_mem.mpr fun entry listed => ?_
    obtain none | ⟨-, never, -⟩ := (collected.vpcNameOnly entry).mp listed
    · cases none
    · cases never
  have names : ∀ item ∈ buckets.vmNameOnlyMatches, item.matchName ≠ "" := by
    intro item member
    obtain none | ⟨entry, -, -, -, present, -⟩ := (collected.vmNameOnly item).mp member
    · cases none
    · exact ne_empty_of_blank (by simpa [EntityMatch.isVMNamePresent] using present)
  have ids : ∀ item ∈ buckets.vmIDOnlyMatches, item.matchID ≠ "" := by
    intro item member
    obtain none | ⟨entry, -, -, -, present, -⟩ := (collected.vmIDOnly item).mp member
    · cases none
    · exact ne_empty_of_blank (by simpa [EntityMatch.isVMIDPresent] using present)
  obtain ⟨first, built₁, empty₁, found₁⟩ :=
    finds_vnetIDs (everyMachine_eq filled) (vpcIDs_given finished)
  obtain ⟨second, built₂, empty₂, found₂⟩ :=
    finds_pairs (everyMachine_eq filled) (pairs_given accepted finished) whole
  obtain ⟨third, built₃, empty₃, found₃⟩ := finds_vmNames (everyMachine_eq filled) names
  obtain ⟨fourth, built₄, empty₄, found₄⟩ := finds_vmIDs (everyMachine_eq filled) ids
  refine ⟨first ++ second ++ third ++ fourth, ?_, ?_, fun machine valid => ?_⟩
  · rw [queriesOfBuckets, built₁, buildFilterForVpcIDWithOtherMatches, built₂, built₃, built₄]
    rfl
  · rw [List.append_eq_nil_iff, List.append_eq_nil_iff, List.append_eq_nil_iff, empty₁, empty₂,
      empty₃, empty₄]
    constructor
    · rintro ⟨⟨⟨vpcIDOnly, noPair⟩, vmNameOnly⟩, vmIDOnly⟩
      refine ⟨vpcIDOnly, ?_, vmIDOnly, vmNameOnly, unnamed⟩
      refine List.eq_nil_iff_forall_not_mem.mpr fun entry other => ?_
      obtain none | ⟨-, -, reaches⟩ := collected.otherSound entry other
      · cases none
      · obtain ⟨item, inside, -⟩ := List.any_eq_true.mp reaches
        exact List.eq_nil_iff_forall_not_mem.mp noPair (entry.vpcID, item)
          (mem_pairs.mpr ⟨entry, other, vpcIDOnly _, item, inside, rfl⟩)
    · rintro ⟨vpcIDOnly, other, vmIDOnly, vmNameOnly, -⟩
      refine ⟨⟨⟨vpcIDOnly, ?_⟩, vmNameOnly⟩, vmIDOnly⟩
      rw [other]
      rfl
  · simp only [List.mem_append, or_and_right, exists_or, found₁ machine valid,
      found₂ machine valid, found₃ machine valid, found₄ machine valid, exists_pair_iff,
      Buckets.selects, unnamed, List.not_mem_nil, false_and, exists_false, or_false, or_assoc]
    exact or_congr_right (or_congr_right or_comm)

/-- The queries of a selector, if they can be built. -/
theorem buildQueries_cases (filled : account.Filled)
    (accepted : validateMatchSections (.ok .azure) vmSelector = .ok ()) :
    (Unbuildable vmSelector ∧ ∃ error, buildQueries [account.subscriptionID] [account.tenantID]
      [account.region] vmSelector = .error error) ∨
    (¬ Unbuildable vmSelector ∧ ∃ queries, buildQueries [account.subscriptionID]
      [account.tenantID] [account.region] vmSelector = .ok queries ∧
      ∀ machine, Valid machine →
        (selected queries machine ↔ Translated sameLower vmSelector machine)) := by
  have accepts := accepted_of_azure accepted
  have early := collect_eq_none_iff_selectsAll accepts
  unfold buildQueries
  cases finished : Buckets.collect false vmSelector .empty with
  | none =>
    obtain ⟨entry, listed, all⟩ := early.mp finished
    refine .inr ⟨?_, [], rfl, fun machine valid => ?_⟩
    · rintro ⟨asks, -⟩
      rw [asks entry listed] at all
      cases all
    · exact iff_of_true (.inl rfl) (.inl ⟨entry, listed, all⟩)
  | some buckets =>
    have asks : ∀ entry ∈ vmSelector, entry.selectsAll = false := fun entry listed => by
      by_contra all
      rw [early.mpr ⟨entry, listed, by simpa using all⟩] at finished
      cases finished
    by_cases mixed : ∃ entry ∈ vmSelector, IsMixed entry ∧ ¬ Superseded vmSelector entry
    · obtain ⟨error, failed⟩ := fails_pairs (everyMachine_eq filled) (pairs_given accepts finished)
        ((exists_blank_pair_iff finished).mpr mixed)
      obtain ⟨first, built, -⟩ := finds_vnetIDs (everyMachine_eq filled) (vpcIDs_given finished)
      have ends : queriesOfBuckets [account.subscriptionID] [account.tenantID]
          [account.region] buckets = .error error := by
        rw [queriesOfBuckets, built, buildFilterForVpcIDWithOtherMatches, failed]
        rfl
      exact .inl ⟨⟨asks, mixed⟩, error, ends⟩
    · refine .inr ⟨fun broken => mixed broken.2, ?_⟩
      have whole : ∀ pair ∈ pairs buckets.vpcIDWithOtherMatches
          buckets.vpcIDsWithVpcIDOnlyMatches, pair.2.isBlank = false := by
        intro pair member
        by_contra isBlank
        exact mixed ((exists_blank_pair_iff finished).mp ⟨pair, member, by simpa using isBlank⟩)
      obtain ⟨queries, built, empty, found⟩ := finds_buckets filled accepts finished whole
      refine ⟨queries, built, fun machine valid => ?_⟩
      have none : ¬ ∃ entry ∈ vmSelector, entry.selectsAll = true := by
        rintro ⟨entry, listed, all⟩
        rw [asks entry listed] at all
        cases all
      rw [selected, empty, found machine valid, isEmpty_iff accepts finished,
        selects_iff_exists_kept accepts finished, Translated, or_iff_right none]

theorem unspaced_fresh (used : List String) : Unspaced (fresh used) := by
  rw [Unspaced, fresh, String.toList_ofList]
  intro space
  cases List.eq_of_mem_replicate space

theorem sameLower_fresh {used : List String} {s : String} (member : s ∈ used) :
    sameLower s (fresh used) = false := by
  rw [sameLower, beq_eq_false_iff_ne]
  intro same
  have longer := length_lt_fresh member
  rw [← length_toLower s, same, length_toLower] at longer
  exact lt_irrefl _ longer

/-- The machines of Azure: fields are compared in lower case. -/
def azureCloudscape : Cloudscape where
  same := sameLower
  Valid := Valid
  elsewhere used := by
    have unspaced := unspaced_fresh used
    refine ⟨⟨fresh used, fresh used, fresh used, fresh used⟩, ⟨unspaced, unspaced, unspaced⟩,
      fun s member _ => ?_⟩
    have differs := sameLower_fresh member
    exact ⟨differs, differs, differs, differs⟩
  beside machine valid used := by
    refine ⟨{ machine with id := fresh used, name := fresh used },
      ⟨valid.vnetID, unspaced_fresh used, unspaced_fresh used⟩, rfl, rfl, fun s member _ => ?_⟩
    exact ⟨sameLower_fresh member, sameLower_fresh member⟩

/--
A selector is stored with queries that select exactly the machines it asks for, if and
only if the queries can be built and no entry of the selector is lost.
-/
theorem selector_is_stored_as_documented (account : AzureAccountConfig) (filled : account.Filled)
    (selector : CloudEntitySelector)
    (accepted : validateMatchSections (.ok .azure) selector.vmSelector = .ok ())
    (computeFilters : GoMap String (List VmTableQueryParameters)) :
    (∃ queries, (setResourceFilters account selector computeFilters).get? selector.name =
        some queries ∧ ∀ machine, Valid machine →
          (selected queries machine ↔ Documented sameLower selector.vmSelector machine)) ↔
      ¬ Unbuildable selector.vmSelector ∧ Faithful azureCloudscape selector.vmSelector := by
  rw [← translated_iff_faithful]
  unfold setResourceFilters convertSelectorToComputeQuery
  obtain ⟨broken, error, failed⟩ | ⟨buildable, queries, built, found⟩ :=
    buildQueries_cases filled accepted
  · rw [failed]
    refine iff_of_false ?_ fun right => right.1 broken
    rintro ⟨queries, stored, -⟩
    rw [GoMap.get?_remove_self] at stored
    cases stored
  · rw [built]
    simp only [GoMap.get?_set_self, Option.some.injEq, exists_eq_left', buildable,
      not_false_eq_true, true_and]
    exact forall₂_congr fun machine valid => by rw [found machine valid]; rfl

def sampleAccount : AzureAccountConfig := ⟨"Sub", "Tenant", "westus2"⟩

/-- Two machines in a VPC, and one by its id. -/
def sampleSelector : CloudEntitySelector :=
  ⟨"selector", [⟨some ⟨"", "/vnets/Red"⟩, [⟨"web", ""⟩, ⟨"", "/vms/DB"⟩]⟩,
    ⟨none, [⟨"", "/vms/x"⟩]⟩]⟩

theorem sample_selector_is_stored :
    validateMatchSections (.ok .azure) sampleSelector.vmSelector = .ok () ∧
      ∃ queries, (setResourceFilters sampleAccount sampleSelector ∅).get? "selector" =
        some queries ∧ ∀ machine, Valid machine →
          (selected queries machine ↔
            Documented sameLower sampleSelector.vmSelector machine) := by
  have filled : sampleAccount.Filled := ⟨by decide, by decide, by decide⟩
  have accepted : validateMatchSections (.ok .azure) sampleSelector.vmSelector = .ok () := by
    decide
  have unmixed : ∀ entry ∈ sampleSelector.vmSelector, entry.hasBlankItem = false := by decide
  have buildable : ¬ Unbuildable sampleSelector.vmSelector := by
    rintro ⟨-, entry, listed, ⟨-, -, blanks⟩, -⟩
    rw [unmixed entry listed] at blanks
    cases blanks
  have faithful : Faithful azureCloudscape sampleSelector.vmSelector := by
    refine .inr (.inl ⟨by decide, by decide, fun entry listed loses => ?_⟩)
    have none : ∀ entry ∈ sampleSelector.vmSelector, entry.losesVpc = false := by decide
    rw [none entry listed] at loses
    cases loses
  exact ⟨accepted, (selector_is_stored_as_documented sampleAccount filled sampleSelector accepted
    ∅).mpr ⟨buildable, faithful⟩⟩

/--
A selector that asks for one machine of a VPC and, by a blank item, for all of them
cannot be translated: what was stored for it before is deleted.
-/
theorem mixed_selector_is_dropped :
    let selector : CloudEntitySelector :=
      ⟨"selector", [⟨some ⟨"", "/vnets/Red"⟩, [⟨"web", ""⟩, ⟨"", ""⟩]⟩]⟩
    sampleAccount.Filled ∧
      validateMatchSections (.ok .azure) selector.vmSelector = .ok () ∧
      (setResourceFilters sampleAccount selector (GoMap.set ∅ "selector" [])).get? "selector" =
        none :=
  ⟨⟨by decide, by decide, by decide⟩, by decide, by decide⟩

end Stored

end Nephe.Azure
