import Nephe.Aws.Filters
import Nephe.Azure.Queries
import Nephe.Crd.VirtualMachine
import Nephe.Library.Runs

/-!
# Accounts and their selectors

`cloudCommon` (`cloudapi/internal/cloud_common.go`) holds the accounts of a
provider.  An AWS account has one service, EC2 (`aws_ec2.go`), which keeps the
filters of the selectors of the account by the names of the selectors and the
result of the last inventory.

What the accounts are meant to hold is a roster of selectors.  The filters of
an account are those of its roster, except that a selector which is removed
leaves its filters behind.
-/

namespace Nephe.Accounts

open Library Aws Crd
open Azure (CloudEntitySelector)

/-! ## The EC2 service of an account -/

/-- `awsAccountConfig`. -/
structure AwsAccountConfig where
  accessKeyID : String
  accessKeySecret : String
  roleArn : String
  externalID : String
  region : String
deriving DecidableEq, Repr

/-- `compareAccountCredentials`: whether credentials have changed; a role is not looked at. -/
def compareAccountCredentials (existing new : AwsAccountConfig) : Bool :=
  existing.accessKeyID != new.accessKeyID || existing.accessKeySecret != new.accessKeySecret ||
    existing.region != new.region

/-- `ec2ResourcesCacheSnapshot`. -/
structure Ec2ResourcesCacheSnapshot where
  instances : GoMap String Instance
  vpcIDs : GoSet String
  vpcNameToID : GoMap String String
  vpcPeers : GoMap String (List String)

/-- `CloudServiceStats`. -/
structure CloudServiceStats where
  totalPollCnt : Nat := 0
  successPollCnt : Nat := 0
  lastPollErr : Option String := none
deriving DecidableEq, Repr

/-- `UpdateInventoryPollStats`. -/
def CloudServiceStats.update (err : Option String) (stats : CloudServiceStats) :
    CloudServiceStats :=
  match err with
  | none => { stats with
      totalPollCnt := stats.totalPollCnt + 1, successPollCnt := stats.successPollCnt + 1 }
  | some _ => { stats with totalPollCnt := stats.totalPollCnt + 1, lastPollErr := err }

/-- `ec2ServiceConfig`; a client of EC2 is determined by its credentials. -/
structure Ec2ServiceConfig where
  apiClient : AwsAccountConfig
  snapshot : Option Ec2ResourcesCacheSnapshot := none
  inventoryStats : CloudServiceStats := {}
  instanceFilters : GoMap String (List (List Filter)) := ∅

/-- What EC2 answers to a client during one inventory. -/
structure Ec2Api where
  describeInstances : AwsAccountConfig → List Filter → Except String (List Instance)
  describeVpcs : AwsAccountConfig → Except String (List Vpc)
  describeVpcPeeringConnections : AwsAccountConfig → Except String (List (String × String))
  /-- The order of the loop over the filters. -/
  code : Nat

/-- `convertSelectorToEC2InstanceFilters`; an absent `VMSelector` is an empty one. -/
def convertSelectorToEC2InstanceFilters (selector : Option CloudEntitySelector) :
    Option (List (List Filter)) :=
  selector.map fun selector => buildEc2Filters selector.vmSelector

namespace Ec2ServiceConfig

/-- `SetResourceFilters`. -/
def setResourceFilters (selector : Option CloudEntitySelector) (service : Ec2ServiceConfig) :
    Ec2ServiceConfig :=
  match selector with
  | none => { service with snapshot := none }
  | some selector =>
    match convertSelectorToEC2InstanceFilters (some selector) with
    | some filters =>
      { service with instanceFilters := service.instanceFilters.set selector.name filters }
    | none =>
      { service with
        instanceFilters := service.instanceFilters.remove selector.name
        snapshot := none }

/-- `ResetCachedState`. -/
def resetCachedState (service : Ec2ServiceConfig) : Ec2ServiceConfig :=
  { service.setResourceFilters none with inventoryStats := {} }

/--
`getInstanceResourceFilters`: none when no selector is there, and no filter at all when
one of the selectors has none.
-/
def getInstanceResourceFilters (code : Nat) (service : Ec2ServiceConfig) :
    Option (List (List Filter)) :=
  let instanceFilters := arrange code service.instanceFilters.bindings
  if instanceFilters.isEmpty then none
  else if instanceFilters.any (·.2.isEmpty) then some []
  else some (instanceFilters.flatMap (·.2))

/-- `getCachedVpcNameToID`. -/
def getCachedVpcNameToID (service : Ec2ServiceConfig) : GoMap String String :=
  match service.snapshot with
  | none => ∅
  | some snapshot => snapshot.vpcNameToID

/-- `getInstances`, with the errors of EC2. -/
def getInstances (api : Ec2Api) (service : Ec2ServiceConfig) : Except String (List Instance) :=
  match service.getInstanceResourceFilters api.code with
  | none | some [] =>
    api.describeInstances service.apiClient [buildEc2FilterForValidInstanceStates]
  | some filters => do
      let instances ← filters.mapM fun filter =>
        api.describeInstances service.apiClient
          (resolveVpcNames service.getCachedVpcNameToID filter)
      return instances.flatten

/-- `buildMapVpcPeers`: nil when EC2 fails. -/
def buildMapVpcPeers (connections : Except String (List (String × String))) :
    GoMap String (List String) :=
  match connections with
  | .error _ => ∅
  | .ok connections => connections.foldl (fun peers connection =>
    let peers := peers.set connection.1 ((peers.get? connection.1).getD [] ++ [connection.2])
    peers.set connection.2 ((peers.get? connection.2).getD [] ++ [connection.1])) ∅

/-- `DoResourceInventory`: the error, and the service afterwards. -/
def doResourceInventory (api : Ec2Api) (service : Ec2ServiceConfig) :
    Option String × Ec2ServiceConfig :=
  match service.getInstances api with
  | .error err =>
    (some err, { service with inventoryStats := service.inventoryStats.update (some err) })
  | .ok instances =>
    let vpcs := (api.describeVpcs service.apiClient).toOption.getD []
    let snapshot : Ec2ResourcesCacheSnapshot :=
      { instances := instances.foldl
          (fun known vm => known.set (toLower vm.machine.id) vm) ∅
        vpcIDs := GoSet.ofList (instances.map fun vm => toLower vm.machine.vpcID)
        vpcNameToID := buildMapVpcNameToID vpcs
        vpcPeers := buildMapVpcPeers (api.describeVpcPeeringConnections service.apiClient) }
    (none, { service with
      snapshot := some snapshot
      inventoryStats := service.inventoryStats.update none })

/-- `getCachedInstances`; the code orders the loop over the instances. -/
def getCachedInstances (code : Nat) (service : Ec2ServiceConfig) : List Instance :=
  match service.snapshot with
  | none => []
  | some snapshot => arrange code snapshot.instances.values

end Ec2ServiceConfig

/-! ## Accounts -/

/-- `cloudAccountConfig`, with its only service. -/
structure CloudAccountConfig where
  namespacedName : NamespacedName
  credentials : AwsAccountConfig
  service : Ec2ServiceConfig
  /-- Whether the inventory is run periodically. -/
  inventoryChannel : Bool := false
  statusError : String := ""

namespace CloudAccountConfig

/-- `update`: new credentials reach the client of the service. -/
def update (newCredentials : AwsAccountConfig) (config : CloudAccountConfig) :
    CloudAccountConfig :=
  if compareAccountCredentials newCredentials config.credentials then
    { config with
      credentials := newCredentials
      service := { config.service with apiClient := newCredentials } }
  else config

/--
`performInventorySync`.  An error is kept in the status of the account; the channel
from which the function would return it is closed without one.
-/
def performInventorySync (api : Ec2Api) (config : CloudAccountConfig) : CloudAccountConfig :=
  match config.service.getInstanceResourceFilters api.code with
  | none => config
  | some _ =>
    let (err, service) := config.service.doResourceInventory api
    { config with
      service := { service with inventoryStats := service.inventoryStats.update err }
      statusError := err.getD config.statusError }

/-- `startPeriodicInventorySync`. -/
def startPeriodicInventorySync (api : Ec2Api) (config : CloudAccountConfig) :
    CloudAccountConfig :=
  { config.performInventorySync api with inventoryChannel := true }

/-- `stopPeriodicInventorySync`. -/
def stopPeriodicInventorySync (config : CloudAccountConfig) : CloudAccountConfig :=
  { config with inventoryChannel := false, service := config.service.resetCachedState }

end CloudAccountConfig

/-- `cloudCommon`. -/
structure CloudCommon where
  accountConfigs : GoMap NamespacedName CloudAccountConfig

namespace CloudCommon

/-- `NewCloudCommon`. -/
def new : CloudCommon := ⟨∅⟩

/--
`AddCloudAccount`, with the answer of the function that reads the credentials and the
error, if any, of the one that makes the services.
-/
def addCloudAccount (account : NamespacedName) (credentials : Except String AwsAccountConfig)
    (creation : Option String) (c : CloudCommon) : Except String CloudCommon := do
  let credentials ← credentials
  match creation with
  | some err => throw err
  | none =>
    match c.accountConfigs.get? account with
    | some config => return ⟨c.accountConfigs.set account (config.update credentials)⟩
    | none => return ⟨c.accountConfigs.set account
        { namespacedName := account
          credentials := credentials
          service := { apiClient := credentials } }⟩

/-- `RemoveCloudAccount`. -/
def removeCloudAccount (account : NamespacedName) (c : CloudCommon) : CloudCommon :=
  ⟨c.accountConfigs.remove account⟩

/-- `AddSelector`. -/
def addSelector (account : NamespacedName) (selector : CloudEntitySelector) (api : Ec2Api)
    (c : CloudCommon) : Except String CloudCommon :=
  match c.accountConfigs.get? account with
  | none => .error ("account not found " ++ account.string)
  | some config =>
    let service := config.service.setResourceFilters (some selector)
    let config := { config with service := service }
    .ok ⟨c.accountConfigs.set account (config.startPeriodicInventorySync api)⟩

/-- `RemoveSelector`; the name of the selector is only logged. -/
def removeSelector (account : NamespacedName) (_selectorName : String) (c : CloudCommon) :
    CloudCommon :=
  match c.accountConfigs.get? account with
  | none => c
  | some config => ⟨c.accountConfigs.set account config.stopPeriodicInventorySync⟩

/-- A tick of the periodic inventory of an account. -/
def inventory (account : NamespacedName) (api : Ec2Api) (c : CloudCommon) : CloudCommon :=
  match c.accountConfigs.get? account with
  | none => c
  | some config =>
    if config.inventoryChannel then
      ⟨c.accountConfigs.set account (config.performInventorySync api)⟩
    else c

/--
`GetCloudAccountComputeResourceCRDs`; how an instance becomes a virtual machine
(`ec2InstanceToVirtualMachineCRD`) is a parameter.
-/
def getCloudAccountComputeResourceCRDs
    (toVirtualMachineCRD : Instance → String → Crd.VirtualMachine) (code : Nat)
    (account : NamespacedName) (c : CloudCommon) :
    Except String (List Crd.VirtualMachine) :=
  match c.accountConfigs.get? account with
  | none => .error ("unable to find cloud account:" ++ account.string)
  | some config => .ok ((config.service.getCachedInstances code).map
      (toVirtualMachineCRD · config.namespacedName.namespace))

/-- `GetStatus`. -/
def getStatus (account : NamespacedName) (c : CloudCommon) : Except String String :=
  match c.accountConfigs.get? account with
  | none => .error ("account not found " ++ account.string)
  | some config => .ok config.statusError

end CloudCommon

/-! ## Runs -/

/-- A call of `cloudCommon`, or a tick of an inventory, with the answers to its requests. -/
inductive Call where
  | addCloudAccount (account : NamespacedName) (credentials : Except String AwsAccountConfig)
      (creation : Option String)
  | removeCloudAccount (account : NamespacedName)
  | addSelector (account : NamespacedName) (selector : CloudEntitySelector) (api : Ec2Api)
  | removeSelector (account : NamespacedName) (selectorName : String)
  | inventory (account : NamespacedName) (api : Ec2Api)

/-- One call; a call that returns an error has changed nothing. -/
def CloudCommon.step (c : CloudCommon) : Call → CloudCommon
  | .addCloudAccount account credentials creation =>
    ((c.addCloudAccount account credentials creation).toOption).getD c
  | .removeCloudAccount account => c.removeCloudAccount account
  | .addSelector account selector api => ((c.addSelector account selector api).toOption).getD c
  | .removeSelector account selectorName => c.removeSelector account selectorName
  | .inventory account api => c.inventory account api

/-! ## The selectors that the accounts are meant to have -/

/-- The accounts, and for each its selectors by name. -/
abbrev Roster := GoMap NamespacedName (GoMap String CloudEntitySelector)

/--
The selectors of an account are those added to it and not removed since.  An account
that is removed takes its selectors with it.
-/
def Roster.step (roster : Roster) : Call → Roster
  | .addCloudAccount account (.ok _) none =>
    match roster.get? account with
    | some _ => roster
    | none => roster.set account ∅
  | .addCloudAccount _ _ _ => roster
  | .removeCloudAccount account => roster.remove account
  | .addSelector account selector _ => roster.adjust account (·.set selector.name selector)
  | .removeSelector account selectorName => roster.adjust account (·.remove selectorName)
  | .inventory _ _ => roster

/-- The filters of an account, while it is configured, are those of its selectors. -/
def Follows (c : CloudCommon) (roster : Roster) (account : NamespacedName) : Prop :=
  ∀ config, c.accountConfigs.get? account = some config →
    ∃ selectors, roster.get? account = some selectors ∧
      ∀ name, config.service.instanceFilters.get? name =
        (selectors.get? name).bind fun selector =>
          convertSelectorToEC2InstanceFilters (some selector)

/-- Whether a call gives a selector of this name to an account, or drops all of its selectors. -/
def Call.Renews (account : NamespacedName) (name : String) : Call → Prop
  | .addSelector target selector _ => target = account ∧ selector.name = name
  | .removeCloudAccount target => target = account
  | _ => False

/-- An account has a selector of this name. -/
def Roster.Has (roster : Roster) (account : NamespacedName) (name : String) : Prop :=
  ∃ selectors, roster.get? account = some selectors ∧ (selectors.get? name).isSome

/-- A selector of this name was removed, and nothing has renewed the name since. -/
def Lingers (account : NamespacedName) (calls : List Call) (name : String) : Prop :=
  ∃ before after, calls = before ++ .removeSelector account name :: after ∧
    (run Roster.step ∅ before).Has account name ∧ ∀ call ∈ after, ¬ call.Renews account name

/-! ## What one call does to the filters -/

section Step

variable {c : CloudCommon} {roster : Roster} {account : NamespacedName}

/-- The filters of an account, when it is configured. -/
def CloudCommon.filtersAt (c : CloudCommon) (account : NamespacedName) :
    Option (GoMap String (List (List Filter))) :=
  (c.accountConfigs.get? account).map (·.service.instanceFilters)

@[simp]
theorem instanceFilters_update (config : CloudAccountConfig) (credentials : AwsAccountConfig) :
    (config.update credentials).service.instanceFilters = config.service.instanceFilters := by
  unfold CloudAccountConfig.update
  split <;> rfl

@[simp]
theorem instanceFilters_performInventorySync (config : CloudAccountConfig) (api : Ec2Api) :
    (config.performInventorySync api).service.instanceFilters =
      config.service.instanceFilters := by
  unfold CloudAccountConfig.performInventorySync Ec2ServiceConfig.doResourceInventory
  split
  next => rfl
  next =>
    cases config.service.getInstances api <;> rfl

/-- An account is either configured already or starts without filters. -/
theorem filtersAt_addCloudAccount (c : CloudCommon) (target : NamespacedName)
    (credentials : AwsAccountConfig) :
    (c.step (.addCloudAccount target (.ok credentials) none)).filtersAt account =
      if account = target then some ((c.filtersAt account).getD ∅) else c.filtersAt account := by
  have added : c.step (.addCloudAccount target (.ok credentials) none) =
      match c.accountConfigs.get? target with
      | some config => ⟨c.accountConfigs.set target (config.update credentials)⟩
      | none => ⟨c.accountConfigs.set target ⟨target, credentials, ⟨credentials, none, {}, ∅⟩,
          false, ""⟩⟩ := by
    simp only [CloudCommon.step, CloudCommon.addCloudAccount, bind, Except.bind]
    cases c.accountConfigs.get? target <;> rfl
  rw [added]
  cases found : c.accountConfigs.get? target
  all_goals
    simp only [CloudCommon.filtersAt, GoMap.get?_set]
    split
    next same => simp [same, found]
    next => rfl

/-- The filters of a selector are stored under its name. -/
theorem filtersAt_addSelector (c : CloudCommon) (target : NamespacedName)
    (selector : CloudEntitySelector) (api : Ec2Api) :
    (c.step (.addSelector target selector api)).filtersAt account =
      if account = target then (c.filtersAt account).map
        (·.set selector.name (buildEc2Filters selector.vmSelector))
      else c.filtersAt account := by
  simp only [CloudCommon.step, CloudCommon.addSelector]
  cases found : c.accountConfigs.get? target with
  | none =>
    by_cases same : account = target
    · simp [CloudCommon.filtersAt, same, found, Except.toOption]
    · rw [if_neg same]
      rfl
  | some config =>
    simp only [CloudCommon.filtersAt, Except.toOption, Option.getD_some, GoMap.get?_set]
    split
    next same =>
      simp [same, found, CloudAccountConfig.startPeriodicInventorySync,
        Ec2ServiceConfig.setResourceFilters, convertSelectorToEC2InstanceFilters]
    next => rfl

/-- Removing a selector leaves all filters where they are. -/
theorem filtersAt_removeSelector (c : CloudCommon) (target : NamespacedName) (name : String) :
    (c.step (.removeSelector target name)).filtersAt account = c.filtersAt account := by
  simp only [CloudCommon.step, CloudCommon.removeSelector]
  cases found : c.accountConfigs.get? target with
  | none => rfl
  | some config =>
    simp only [CloudCommon.filtersAt, GoMap.get?_set]
    split
    next same =>
      rw [same, found]
      rfl
    next => rfl

theorem filtersAt_removeCloudAccount (c : CloudCommon) (target : NamespacedName) :
    (c.step (.removeCloudAccount target)).filtersAt account =
      if account = target then none else c.filtersAt account := by
  simp only [CloudCommon.step, CloudCommon.removeCloudAccount, CloudCommon.filtersAt,
    GoMap.get?_remove]
  split <;> rfl

theorem filtersAt_inventory (c : CloudCommon) (target : NamespacedName) (api : Ec2Api) :
    (c.step (.inventory target api)).filtersAt account = c.filtersAt account := by
  simp only [CloudCommon.step, CloudCommon.inventory]
  cases found : c.accountConfigs.get? target with
  | none => rfl
  | some config =>
    cases running : config.inventoryChannel with
    | false => simp [running]
    | true =>
      simp only [running, if_true, CloudCommon.filtersAt, GoMap.get?_set]
      split
      next same => simp [same, found]
      next => rfl

theorem Roster.get?_addCloudAccount (roster : Roster) (target : NamespacedName)
    (credentials : AwsAccountConfig) :
    (roster.step (.addCloudAccount target (.ok credentials) none)).get? account =
      if account = target then some ((roster.get? account).getD ∅) else roster.get? account := by
  simp only [Roster.step]
  cases found : roster.get? target with
  | none =>
    simp only [GoMap.get?_set]
    split
    next same => simp [same, found]
    next => rfl
  | some selectors =>
    by_cases same : account = target
    · simp [same, found]
    · rw [if_neg same]

end Step

/-! ## Filters, selectors and what lingers -/

/--
Under one name: the filters of the selector when there is one, and filters without a
selector exactly when the name lingers.
-/
def Agrees (filters : Option (List (List Filter))) (selector : Option CloudEntitySelector)
    (lingers : Prop) : Prop :=
  match selector with
  | some selector => filters = some (buildEc2Filters selector.vmSelector) ∧ ¬ lingers
  | none => filters.isSome ↔ lingers

/-- The filters of an account agree with its selectors under every name. -/
inductive Tracks (lingers : String → Prop) :
    Option (GoMap String (List (List Filter))) → Option (GoMap String CloudEntitySelector) → Prop
  | absent (never : ∀ name, ¬ lingers name) : Tracks lingers none none
  | configured {filters : GoMap String (List (List Filter))}
      {selectors : GoMap String CloudEntitySelector}
      (agrees : ∀ name, Agrees (filters.get? name) (selectors.get? name) (lingers name)) :
      Tracks lingers (some filters) (some selectors)

/-- The names that linger after one more call. -/
def LingersAfter (account : NamespacedName) (roster : Roster) (call : Call)
    (lingers : String → Prop) (name : String) : Prop :=
  lingers name ∧ ¬ call.Renews account name ∨
    call = .removeSelector account name ∧ roster.Has account name

namespace Tracks

variable {c : CloudCommon} {roster : Roster} {account : NamespacedName}
  {lingers other : String → Prop}

variable {filters : Option (GoMap String (List (List Filter)))}
  {selectors : Option (GoMap String CloudEntitySelector)}

theorem congr (tracks : Tracks lingers filters selectors)
    (same : ∀ name, other name ↔ lingers name) :
    Tracks other filters selectors := by
  have equal : other = lingers := funext fun name => propext (same name)
  exact equal ▸ tracks

/-- A call that neither renews a name nor removes a selector leaves what lingers. -/
theorem keep {call : Call} (tracks : Tracks lingers filters selectors)
    (renews : ∀ name, ¬ call.Renews account name)
    (removes : ∀ name, call ≠ .removeSelector account name) :
    Tracks (LingersAfter account roster call lingers) filters selectors := by
  refine tracks.congr fun name => ?_
  simp [LingersAfter, renews, removes]

/-- An account that is not configured yet starts without filters and selectors. -/
theorem add (tracks : Tracks lingers filters selectors) :
    Tracks lingers (some (filters.getD ∅)) (some (selectors.getD ∅)) := by
  cases tracks with
  | absent never => exact .configured fun name => by simp [Agrees, never]
  | configured agrees => exact .configured agrees

/-- Filters that are stored for a selector agree with it. -/
theorem store (tracks : Tracks lingers filters selectors) (selector : CloudEntitySelector)
    (renewed : ∀ name, other name ↔ lingers name ∧ selector.name ≠ name) :
    Tracks other
      (filters.map (·.set selector.name (buildEc2Filters selector.vmSelector)))
      (selectors.map (·.set selector.name selector)) := by
  cases tracks with
  | absent never => exact .absent fun name lingering => never name ((renewed name).mp lingering).1
  | configured agrees =>
    refine .configured fun name => ?_
    rw [GoMap.get?_set, GoMap.get?_set]
    by_cases same : name = selector.name
    · simp [same, Agrees, renewed]
    · rw [if_neg same, if_neg same]
      have equal : other name ↔ lingers name := by simp [renewed, Ne.symm same]
      simpa only [Agrees, equal] using agrees name

/-- The filters of a selector that is removed stay and linger. -/
theorem forget (tracks : Tracks lingers filters selectors) (removed : String)
    (left : ∀ name, other name ↔ lingers name ∨ name = removed ∧
      ∃ live, selectors = some live ∧ (live.get? name).isSome) :
    Tracks other filters (selectors.map (·.remove removed)) := by
  cases tracks with
  | absent never => exact .absent fun name => by simp [left, never]
  | @configured filters selectors agrees =>
    refine .configured fun name => ?_
    rw [GoMap.get?_remove]
    have agrees := agrees name
    by_cases same : name = removed
    · rw [if_pos same]
      cases found : selectors.get? name with
      | none => simpa [Agrees, left, found] using agrees
      | some selector =>
        rw [found] at agrees
        have lingering : other name := (left name).mpr (.inr ⟨same, _, rfl, by rw [found]; rfl⟩)
        simp [Agrees, agrees.1, lingering]
    · rw [if_neg same]
      have equal : other name ↔ lingers name := by simp [left, same]
      simpa only [Agrees, equal] using agrees

theorem step (tracks : Tracks lingers (c.filtersAt account) (roster.get? account)) (call : Call) :
    Tracks (LingersAfter account roster call lingers) ((c.step call).filtersAt account)
      ((roster.step call).get? account) := by
  cases call with
  | addCloudAccount target credentials creation =>
    refine keep ?_ (fun _ => id) (by simp)
    match credentials, creation with
    | .ok credentials, none =>
      rw [filtersAt_addCloudAccount, Roster.get?_addCloudAccount]
      by_cases same : account = target
      · rw [if_pos same, if_pos same]
        exact tracks.add
      · rw [if_neg same, if_neg same]
        exact tracks
    | .error _, _ | .ok _, some _ => exact tracks
  | removeCloudAccount target =>
    rw [filtersAt_removeCloudAccount, Roster.step, GoMap.get?_remove]
    by_cases same : account = target
    · rw [if_pos same, if_pos same]
      exact .absent fun name => by simp [LingersAfter, Call.Renews, same]
    · rw [if_neg same, if_neg same]
      exact tracks.keep (fun _ renews => same renews.symm) (by simp)
  | addSelector target selector api =>
    rw [filtersAt_addSelector, Roster.step, GoMap.get?_adjust]
    by_cases same : account = target
    · subst same
      rw [if_pos rfl, if_pos rfl]
      exact tracks.store selector fun name => by simp [LingersAfter, Call.Renews]
    · rw [if_neg same, if_neg same]
      exact tracks.keep (fun _ renews => same renews.1.symm) (by simp)
  | removeSelector target removed =>
    rw [filtersAt_removeSelector, Roster.step, GoMap.get?_adjust]
    by_cases same : account = target
    · subst same
      rw [if_pos rfl]
      exact tracks.forget removed fun name => by
        simp [LingersAfter, Call.Renews, Roster.Has, eq_comm (a := removed)]
    · rw [if_neg same]
      exact tracks.keep (fun _ => id) fun name equal => by
        cases equal
        exact same rfl
  | inventory target api =>
    rw [filtersAt_inventory]
    exact tracks.keep (fun _ => id) (by simp)

end Tracks

/-! ## Runs -/

section Runs

variable {account : NamespacedName} {calls : List Call}

/-- A name lingers if it did and was not renewed, or if its selector was just removed. -/
theorem lingers_concat {call : Call} {name : String} :
    Lingers account (calls ++ [call]) name ↔
      LingersAfter account (run Roster.step ∅ calls) call (Lingers account calls) name := by
  constructor
  · rintro ⟨before, after, split, had, kept⟩
    rcases List.eq_nil_or_concat after with rfl | ⟨rest, last, rfl⟩
    · obtain ⟨rfl, isLast⟩ := List.append_inj' split rfl
      exact .inr ⟨List.singleton_inj.mp isLast, had⟩
    · rw [List.concat_eq_append, ← List.cons_append, ← List.append_assoc] at split
      obtain ⟨rfl, isLast⟩ := List.append_inj' split rfl
      cases isLast
      rw [List.concat_eq_append] at kept
      exact .inl ⟨⟨before, rest, rfl, had, fun call member =>
        kept call (List.mem_append_left _ member)⟩, kept call (by simp)⟩
  · rintro (⟨⟨before, after, rfl, had, kept⟩, notRenewed⟩ | ⟨rfl, had⟩)
    · refine ⟨before, after ++ [call], by simp, had, ?_⟩
      intro other member
      rcases List.mem_append.mp member with earlier | last
      · exact kept other earlier
      · rw [List.mem_singleton.mp last]
        exact notRenewed
    · exact ⟨calls, [], rfl, had, by simp⟩

theorem tracks_run (account : NamespacedName) (calls : List Call) :
    Tracks (Lingers account calls) ((run CloudCommon.step .new calls).filtersAt account)
      ((run Roster.step ∅ calls).get? account) := by
  induction calls using List.reverseRecOn with
  | nil => exact .absent fun name => by simp [Lingers]
  | append_singleton calls call induction =>
    simp only [run, List.foldl_append, List.foldl_cons, List.foldl_nil]
    exact (induction.step call).congr fun name => lingers_concat

/--
After every sequence of calls the filters of an account are those of its selectors, unless
the name of a selector that was removed has not been used again.
-/
theorem filters_follow_selectors (calls : List Call) (account : NamespacedName) :
    Follows (run CloudCommon.step .new calls) (run Roster.step ∅ calls) account ↔
      ∀ before name after, calls = before ++ .removeSelector account name :: after →
        (run Roster.step ∅ before).Has account name →
          ∃ call ∈ after, call.Renews account name := by
  have noneLingers : (∀ before name after, calls = before ++ .removeSelector account name :: after →
      (run Roster.step ∅ before).Has account name → ∃ call ∈ after, call.Renews account name) ↔
      ∀ name, ¬ Lingers account calls name := by
    simp only [Lingers, not_exists, not_and, not_forall, not_not, exists_prop]
    exact ⟨fun h name before after => h before name after,
      fun h before name after => h name before after⟩
  rw [noneLingers]
  have tracks := tracks_run account calls
  unfold CloudCommon.filtersAt at tracks
  unfold Follows
  cases found : (run CloudCommon.step .new calls).accountConfigs.get? account with
  | none =>
    rw [found] at tracks
    generalize (run Roster.step ∅ calls).get? account = selectors at tracks
    cases tracks with
    | absent never => exact ⟨fun _ => never, fun _ => (by simp)⟩
  | some config =>
    rw [found, Option.map_some] at tracks
    generalize (run Roster.step ∅ calls).get? account = selectors at tracks ⊢
    cases tracks with
    | @configured _ selectors agrees =>
      constructor
      · intro follows name lingers
        obtain ⟨_, live, same⟩ := follows config rfl
        cases live
        have agrees := agrees name
        rw [same name] at agrees
        cases live : selectors.get? name with
        | none => simp [Agrees, live, lingers] at agrees
        | some selector => simp [Agrees, live, lingers] at agrees
      · intro never _ same
        cases same
        refine ⟨selectors, rfl, fun name => ?_⟩
        have agrees := agrees name
        cases live : selectors.get? name with
        | none => simpa [Agrees, live, never] using agrees
        | some selector =>
          rw [live] at agrees
          exact agrees.1

end Runs

/-- EC2 without instances and VPCs. -/
def emptyEc2 : Ec2Api where
  describeInstances _ _ := .ok []
  describeVpcs _ := .ok []
  describeVpcPeeringConnections _ := .ok []
  code := 0

/-- One selector is removed and another one is added. -/
def replacedSelector : List Call :=
  [.addCloudAccount ⟨"ns", "account"⟩ (.ok ⟨"key", "secret", "", "", "us-west-2"⟩) none,
    .addSelector ⟨"ns", "account"⟩ ⟨"first", [⟨some ⟨"", "vpc-1"⟩, []⟩]⟩ emptyEc2,
    .removeSelector ⟨"ns", "account"⟩ "first",
    .addSelector ⟨"ns", "account"⟩ ⟨"second", [⟨some ⟨"", "vpc-2"⟩, []⟩]⟩ emptyEc2]

/-- The filters of the first selector are still used. -/
theorem removed_selector_keeps_its_filters :
    ((run CloudCommon.step .new replacedSelector).accountConfigs.get? ⟨"ns", "account"⟩).bind
        (·.service.getInstanceResourceFilters 0) =
      some [[⟨.vpcID, ["vpc-2"]⟩, buildEc2FilterForValidInstanceStates],
        [⟨.vpcID, ["vpc-1"]⟩, buildEc2FilterForValidInstanceStates]] ∧
    ((run Roster.step ∅ replacedSelector).get? ⟨"ns", "account"⟩).map (·.bindings.map (·.1)) =
      some ["second"] ∧
    ¬ Follows (run CloudCommon.step .new replacedSelector) (run Roster.step ∅ replacedSelector)
        ⟨"ns", "account"⟩ := by
  refine ⟨by decide +kernel, by decide +kernel, ?_⟩
  intro follows
  obtain ⟨selectors, live, same⟩ := follows _ rfl
  cases live
  exact absurd (same "first") (by decide +kernel)

end Nephe.Accounts
