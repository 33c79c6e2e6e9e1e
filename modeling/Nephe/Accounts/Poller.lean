import Nephe.Accounts.CloudCommon

/-!
# Polling an account

The poller of an account (`pkg/controllers/cloud/account_poller.go`) compares the
virtual machines that the cloud reports with those stored for its selector, and
creates, deletes and updates the stored ones accordingly.

A poll that discovers nothing looks like one that fails to discover: both compare
with an empty list.  Stored machines survive a failed discovery only when the poll
ends before the comparison, or when none of them belongs to the selector.
-/

namespace Nephe.Accounts

open Library Aws Crd

/-! ## The API server -/

/-- The kinds of errors that callers of the API server tell apart. -/
inductive ApiError where
  | notFound
  | other (text : String)
deriving DecidableEq, Repr

/-- What is stored: the virtual machines, and the errors in the status of the accounts. -/
structure ApiServer where
  virtualMachines : GoMap NamespacedName Crd.VirtualMachine
  accounts : GoMap NamespacedName String

/-- A request that writes. -/
inductive Request where
  | create (vm : Crd.VirtualMachine)
  | updateStatus (vm : Crd.VirtualMachine)
  | delete (vm : Crd.VirtualMachine)
  | updateAccountStatus (account : NamespacedName) (error : String)

def Request.isDelete : Request → Bool
  | .delete _ => true
  | _ => false

def keyOf (vm : Crd.VirtualMachine) : NamespacedName := ⟨vm.namespace, vm.name⟩

/-- A status without contents. -/
def emptyStatus : VirtualMachineStatus := ⟨"", "", ∅, [], ""⟩

/-- `&VirtualMachine{}`. -/
def emptyMachine : Crd.VirtualMachine := ⟨"", "", 0, [], emptyStatus⟩

/--
The API server carries out a request: the status is no part of what is created, and an
object must exist to be updated or deleted.
-/
def ApiServer.carryOut (server : ApiServer) : Request → Except ApiError ApiServer
  | .create vm =>
    match server.virtualMachines.get? (keyOf vm) with
    | some _ => .error (.other "already exists")
    | none => .ok { server with
        virtualMachines := server.virtualMachines.set (keyOf vm)
          { vm with status := emptyStatus } }
  | .updateStatus vm =>
    match server.virtualMachines.get? (keyOf vm) with
    | none => .error .notFound
    | some stored => .ok { server with
        virtualMachines := server.virtualMachines.set (keyOf vm)
          { stored with status := vm.status } }
  | .delete vm =>
    match server.virtualMachines.get? (keyOf vm) with
    | none => .error .notFound
    | some _ => .ok { server with
        virtualMachines := server.virtualMachines.remove (keyOf vm) }
  | .updateAccountStatus account error =>
    match server.accounts.get? account with
    | none => .error .notFound
    | some _ => .ok { server with accounts := server.accounts.set account error }

/-- The faults that a poll meets, and the orders of its loops over maps. -/
structure Environment where
  /-- `GetCloudInterface`. -/
  cloudInterface : Option String := none
  list : Option ApiError := none
  get : NamespacedName → Option ApiError := fun _ => none
  setControllerReference : Crd.VirtualMachine → Option ApiError := fun _ => none
  send : Request → Option ApiError := fun _ => none
  toVirtualMachineCRD : Instance → String → Crd.VirtualMachine
  code : Nat := 0

/-- A poll under way: what is stored, the requests so far and the errors so far. -/
structure Poll where
  server : ApiServer
  requests : List Request := []
  errors : List ApiError := []

namespace Poll

def fail (err : ApiError) (poll : Poll) : Poll :=
  { poll with errors := poll.errors ++ [err] }

/-- Send a request; the API server may fail to carry it out. -/
def send (env : Environment) (request : Request) (poll : Poll) : Option ApiError × Poll :=
  let poll := { poll with requests := poll.requests ++ [request] }
  match env.send request with
  | some err => (some err, poll)
  | none =>
    match poll.server.carryOut request with
    | .error err => (some err, poll)
    | .ok server => (none, { poll with server := server })

end Poll

/-! ## Comparing what is stored with what is discovered -/

/-- `areTagsSame`. -/
def areTagsSame (s1 s2 : GoMap String String) : Bool :=
  s1.bindings.all fun tag => (s2.get? tag.1).any fun value => toLower tag.2 == toLower value

/-- `convertAddressToMap`, as the list of its keys. -/
def convertAddressToMap (addresses : List IPAddress) : List String :=
  addresses.map fun address => address.addressType ++ ":" ++ address.address

/-- `areIPAddressesSame`. -/
def areIPAddressesSame (s1 s2 : List IPAddress) : Bool :=
  (convertAddressToMap s1).all (convertAddressToMap s2).contains

/-- `convertNetworkInterfacesToMap`. -/
def convertNetworkInterfacesToMap (nwInterfaces : List Crd.NetworkInterface) :
    GoMap String Crd.NetworkInterface :=
  nwInterfaces.foldl (fun byName nwIFace => byName.set nwIFace.name nwIFace) ∅

/-- `areNetworkInterfacesSame`. -/
def areNetworkInterfacesSame (s1 s2 : List Crd.NetworkInterface) : Bool :=
  s1.length == s2.length &&
    (convertNetworkInterfacesToMap s1).bindings.all fun (key1, value1) =>
      ((convertNetworkInterfacesToMap s2).get? key1).any fun value2 =>
        toLower value1.name == toLower value2.name && toLower value1.mac == toLower value2.mac &&
          value1.ips.length == value2.ips.length && areIPAddressesSame value1.ips value2.ips

/-- `areDiscoveredFieldsSameVirtualMachineStatus`. -/
def areDiscoveredFieldsSameVirtualMachineStatus (s1 s2 : VirtualMachineStatus) : Bool :=
  s1.provider == s2.provider && s1.state == s2.state &&
    s1.virtualPrivateCloud == s2.virtualPrivateCloud &&
    s1.tags.bindings.length == s2.tags.bindings.length &&
    s1.networkInterfaces.length == s2.networkInterfaces.length &&
    areTagsSame s1.tags s2.tags &&
    areNetworkInterfacesSame s1.networkInterfaces s2.networkInterfaces

def cloudEntitySelectorKind : String := "CloudEntitySelector"

/-- `isVirtualMachineOwnedBy`, for one selector. -/
def isVirtualMachineOwnedBy (vm : Crd.VirtualMachine) (selectorName : String) : Bool :=
  vm.ownerReferences.any fun reference =>
    reference.name == selectorName && reference.kind == cloudEntitySelectorKind

/-- The three lists of `findVirtualMachinesByOperation`. -/
structure ByOperation where
  toCreate : List Crd.VirtualMachine := []
  toDelete : List Crd.VirtualMachine := []
  toUpdate : List Crd.VirtualMachine := []

/-- `accountPoller`: the account and the selector that it polls for. -/
structure AccountPoller where
  namespacedName : NamespacedName
  selector : NamespacedName

namespace AccountPoller

variable (p : AccountPoller)

/-- A stored machine that the selector of the poller owns. -/
def owns (vm : Crd.VirtualMachine) : Bool :=
  vm.namespace == p.selector.namespace && isVirtualMachineOwnedBy vm p.selector.name

/-- `getCurrentVirtualMachinesByName`. -/
def getCurrentVirtualMachinesByName (env : Environment) (server : ApiServer) :
    Except ApiError (GoMap String Crd.VirtualMachine) :=
  match env.list with
  | some err => .error err
  | none => .ok ((server.virtualMachines.values.filter p.owns).foldl
      (fun byName vm => byName.set vm.name vm) ∅)

/-- One turn of the loop over the machines that were discovered. -/
def compare (state : GoMap String Crd.VirtualMachine × ByOperation)
    (discovered : Crd.VirtualMachine) :
    GoMap String Crd.VirtualMachine × ByOperation :=
  match state.1.get? discovered.name with
  | none => (state.1, { state.2 with toCreate := state.2.toCreate ++ [discovered] })
  | some current =>
    let remaining := state.1.remove current.name
    if areDiscoveredFieldsSameVirtualMachineStatus current.status discovered.status then
      (remaining, state.2)
    else (remaining, { state.2 with toUpdate := state.2.toUpdate ++ [discovered] })

/-- `findVirtualMachinesByOperation`. -/
def findVirtualMachinesByOperation (env : Environment) (server : ApiServer)
    (discovered : List Crd.VirtualMachine) : Except ApiError ByOperation :=
  match p.getCurrentVirtualMachinesByName env server with
  | .error err => .error err
  | .ok current =>
    if current.bindings.isEmpty then .ok { toCreate := discovered }
    else
      let (remaining, byOperation) := discovered.foldl compare (current, {})
      .ok { byOperation with toDelete := arrange env.code remaining.values }

/-! ## Creating, deleting and updating -/

/-- `SetControllerReference`, when it does not fail. -/
def withOwner (vm : Crd.VirtualMachine) : Crd.VirtualMachine :=
  let reference : OwnerReference := ⟨cloudEntitySelectorKind, p.selector.name⟩
  if reference ∈ vm.ownerReferences then vm
  else { vm with ownerReferences := vm.ownerReferences ++ [reference] }

def createVirtualMachine (env : Environment) (poll : Poll) (vm : Crd.VirtualMachine) : Poll :=
  match env.setControllerReference vm with
  | some err => poll.fail err
  | none =>
    match poll.send env (.create (p.withOwner vm)) with
    | (some err, poll) => poll.fail err
    | (none, poll) =>
      match poll.send env (.updateStatus (p.withOwner vm)) with
      | (some err, poll) => poll.fail err
      | (none, poll) => poll

def deleteVirtualMachine (env : Environment) (poll : Poll) (vm : Crd.VirtualMachine) : Poll :=
  match poll.send env (.delete vm) with
  | (some (.other text), poll) => poll.fail (.other text)
  | (_, poll) => poll

/-- `Get`, with what is read into an object that starts out empty. -/
def read (env : Environment) (server : ApiServer) (key : NamespacedName) :
    Except ApiError Crd.VirtualMachine :=
  match env.get key with
  | some err => .error err
  | none =>
    match server.virtualMachines.get? key with
    | none => .error .notFound
    | some vm => .ok vm

def updateVirtualMachine (env : Environment) (poll : Poll) (vm : Crd.VirtualMachine) : Poll :=
  let update (currentVM : Crd.VirtualMachine) : Poll :=
    -- `updateCloudDiscoveredFieldsOfVirtualMachineStatus` copies every field of the status.
    match poll.send env (.updateStatus { currentVM with status := vm.status }) with
    | (some err, poll) => poll.fail err
    | (none, poll) => poll
  match read env poll.server (keyOf vm) with
  | .error (.other text) => poll.fail (.other text)
  | .error .notFound => update emptyMachine
  | .ok currentVM => update currentVM

/-- `doVirtualMachineOperations`. -/
def doVirtualMachineOperations (env : Environment) (virtualMachines : List Crd.VirtualMachine)
    (poll : Poll) : Poll :=
  match p.findVirtualMachinesByOperation env poll.server virtualMachines with
  | .error err => poll.fail err
  | .ok byOperation =>
    let poll := byOperation.toCreate.foldl (p.createVirtualMachine env) poll
    let poll := byOperation.toDelete.foldl (deleteVirtualMachine env) poll
    byOperation.toUpdate.foldl (updateVirtualMachine env) poll

/-- `getComputeResources`: an error is only logged. -/
def getComputeResources (env : Environment) (cloud : CloudCommon) : List Crd.VirtualMachine :=
  match cloud.getCloudAccountComputeResourceCRDs env.toVirtualMachineCRD env.code
      p.namespacedName with
  | .error _ => []
  | .ok virtualMachines => virtualMachines

/--
The status of the account is written back with what the cloud reports.  An account that
cannot be read is written as an empty object, which no API server holds.
-/
def updateAccount (env : Environment) (cloud : CloudCommon) (poll : Poll) : Poll :=
  let account : Option String :=
    if env.get p.namespacedName = none then poll.server.accounts.get? p.namespacedName else none
  let status := (cloud.getStatus p.namespacedName).toOption.getD (account.getD "")
  let key : NamespacedName := if account.isSome then p.namespacedName else ⟨"", ""⟩
  (poll.send env (.updateAccountStatus key status)).2

/-- `doAccountPoller`. -/
def doAccountPoller (env : Environment) (cloud : CloudCommon) (server : ApiServer) : Poll :=
  match env.cloudInterface with
  | some _ => { server := server }
  | none =>
    let poll := p.updateAccount env cloud { server := server }
    p.doVirtualMachineOperations env (p.getComputeResources env cloud) poll

end AccountPoller

/-! ## Failed discovery -/

/--
Discovery did not succeed: the cloud answers with an error, or the account has no
result of an inventory.
-/
def DiscoveryFailed (env : Environment) (cloud : CloudCommon) (account : NamespacedName) : Prop :=
  (∃ err, cloud.getCloudAccountComputeResourceCRDs env.toVirtualMachineCRD env.code account =
      .error err) ∨
    ∃ config, cloud.accountConfigs.get? account = some config ∧ config.service.snapshot = none

/-- A poll that deletes nothing and leaves the stored machines as they are. -/
def Poll.Harmless (poll : Poll) (before : ApiServer) : Prop :=
  (∀ request ∈ poll.requests, request.isDelete = false) ∧
    poll.server.virtualMachines = before.virtualMachines

namespace AccountPoller

variable {p : AccountPoller} {env : Environment} {cloud : CloudCommon}

/-- A failed discovery looks like an empty cloud. -/
theorem getComputeResources_of_failed (failed : DiscoveryFailed env cloud p.namespacedName) :
    p.getComputeResources env cloud = [] := by
  unfold getComputeResources
  rcases failed with ⟨err, answered⟩ | ⟨config, found, unknown⟩
  · rw [answered]
  · simp [CloudCommon.getCloudAccountComputeResourceCRDs, found,
      Ec2ServiceConfig.getCachedInstances, unknown]

/-- Every request that is sent is recorded, and earlier ones stay. -/
theorem requests_send (request : Request) (poll : Poll) :
    (poll.send env request).2.requests = poll.requests ++ [request] := by
  simp only [Poll.send]
  split
  next => rfl
  next =>
    split <;> rfl

/-- The account is written before the machines are looked at, and nothing else. -/
theorem updateAccount_harmless (p : AccountPoller) (env : Environment) (cloud : CloudCommon)
    (poll : Poll) :
    ∃ account status, (p.updateAccount env cloud poll).requests =
        poll.requests ++ [.updateAccountStatus account status] ∧
      (p.updateAccount env cloud poll).server.virtualMachines = poll.server.virtualMachines := by
  refine ⟨_, _, requests_send _ _, ?_⟩
  unfold updateAccount Poll.send
  simp only
  split
  next => rfl
  next =>
    simp only [ApiServer.carryOut]
    cases poll.server.accounts.get? _ <;> rfl

theorem requests_deleteVirtualMachine (poll : Poll) (vm : Crd.VirtualMachine) :
    (deleteVirtualMachine env poll vm).requests = poll.requests ++ [.delete vm] := by
  rw [← requests_send (.delete vm) poll]
  unfold deleteVirtualMachine
  split
  next sent => rw [sent]; rfl
  next sent => rw [sent]

/-- Every machine of a list is asked to be deleted. -/
theorem requests_foldl_delete (machines : List Crd.VirtualMachine) (poll : Poll) :
    (machines.foldl (deleteVirtualMachine env) poll).requests =
      poll.requests ++ machines.map .delete := by
  induction machines generalizing poll with
  | nil => simp
  | cons vm rest induction =>
    rw [List.foldl_cons, induction, requests_deleteVirtualMachine, List.append_assoc]
    rfl

/-- The machines to delete, when none was discovered: all that the selector owns. -/
theorem findVirtualMachinesByOperation_nil (p : AccountPoller) (server : ApiServer)
    (listed : env.list = none) :
    ∃ toDelete, p.findVirtualMachinesByOperation env server [] = .ok { toDelete := toDelete } ∧
      (toDelete = [] ↔ ∀ vm ∈ server.virtualMachines.values, p.owns vm = false) := by
  simp only [findVirtualMachinesByOperation, getCurrentVirtualMachinesByName, listed,
    List.foldl_nil]
  generalize stored : (server.virtualMachines.values.filter p.owns).foldl
    (fun byName vm => GoMap.set byName vm.name vm) (∅ : GoMap String Crd.VirtualMachine) = current
  have owned : current.bindings = [] ↔ ∀ vm ∈ server.virtualMachines.values, p.owns vm = false := by
    constructor
    · intro empty vm member
      by_contra owns
      have listed : vm.name ∈ (server.virtualMachines.values.filter p.owns).map (·.name) :=
        List.mem_map_of_mem (List.mem_filter.mpr ⟨member, by simpa using owns⟩)
      obtain ⟨other, _, _, found⟩ := GoMap.get?_foldl_set_of_mem Crd.VirtualMachine.name id listed
      have bound := (GoMap.mem_bindings current vm.name other).mpr (stored ▸ found)
      rw [empty] at bound
      cases bound
    · intro unowned
      have none : server.virtualMachines.values.filter p.owns = [] :=
        List.filter_eq_nil_iff.mpr fun vm member => by simp [unowned vm member]
      rw [← stored, none]
      rfl
  split
  next empty => exact ⟨[], rfl, iff_of_true rfl (owned.mp (List.isEmpty_iff.mp empty))⟩
  next some =>
    refine ⟨_, rfl, ?_⟩
    rw [arrange_eq_nil, ← owned]
    simp [GoMap.values, GoMap.bindings]

/-- What a poll does to the machines when none was discovered. -/
theorem harmless_doVirtualMachineOperations {poll : Poll} {before : ApiServer}
    (harmless : poll.Harmless before) :
    (p.doVirtualMachineOperations env [] poll).Harmless before ↔
      env.list ≠ none ∨ ∀ vm ∈ before.virtualMachines.values, p.owns vm = false := by
  unfold doVirtualMachineOperations
  cases listed : env.list with
  | some err =>
    simp only [findVirtualMachinesByOperation, getCurrentVirtualMachinesByName, listed]
    exact iff_of_true harmless (.inl (by simp))
  | none =>
    obtain ⟨toDelete, found, owned⟩ :=
      findVirtualMachinesByOperation_nil p poll.server listed
    rw [found]
    rw [harmless.2] at owned
    simp only [List.foldl_nil, ne_eq, not_true_eq_false, false_or, ← owned]
    constructor
    · intro after
      cases toDelete with
      | nil => rfl
      | cons vm rest =>
        have asked := after.1 (.delete vm) (by rw [requests_foldl_delete]; simp)
        cases asked
    · rintro rfl
      exact harmless

end AccountPoller

/--
A poll in which discovery failed deletes nothing and changes nothing exactly when it ends
before the stored machines are compared, or when the selector owns none of them.
-/
theorem failed_discovery_is_harmless (p : AccountPoller) (env : Environment)
    (cloud : CloudCommon) (server : ApiServer)
    (failed : DiscoveryFailed env cloud p.namespacedName) :
    (p.doAccountPoller env cloud server).Harmless server ↔
      env.cloudInterface ≠ none ∨ env.list ≠ none ∨
        ∀ vm ∈ server.virtualMachines.values, p.owns vm = false := by
  unfold AccountPoller.doAccountPoller
  cases interface : env.cloudInterface with
  | some err => exact iff_of_true ⟨by simp, rfl⟩ (.inl (by simp))
  | none =>
    obtain ⟨account, status, requests, unchanged⟩ :=
      AccountPoller.updateAccount_harmless p env cloud { server := server }
    have harmless : (p.updateAccount env cloud { server := server }).Harmless server := by
      refine ⟨?_, unchanged⟩
      rw [requests]
      simp [Request.isDelete]
    rw [AccountPoller.getComputeResources_of_failed failed]
    simp only [AccountPoller.harmless_doVirtualMachineOperations harmless, ne_eq,
      not_true_eq_false, false_or]

/-- A poller, and an environment without faults. -/
def samplePoller : AccountPoller := ⟨⟨"ns", "account"⟩, ⟨"ns", "selector"⟩⟩

def sampleEnvironment : Environment where
  toVirtualMachineCRD vm «namespace» :=
    ⟨«namespace», vm.machine.id, 0, [], { emptyStatus with state := vm.state }⟩

/-- EC2 when it cannot be reached. -/
def unreachableEc2 : Ec2Api :=
  { emptyEc2 with describeInstances := fun _ _ => .error "connection refused" }

/-- An account to which a selector is added while EC2 cannot be reached. -/
def unreachedAccount : CloudCommon :=
  run CloudCommon.step .new
    [.addCloudAccount ⟨"ns", "account"⟩ (.ok ⟨"key", "secret", "", "", "us-west-2"⟩) none,
      .addSelector ⟨"ns", "account"⟩ ⟨"selector", []⟩ unreachableEc2]

/-- One stored machine, which belongs to the given selector. -/
def storedMachine (selectorName : String) : ApiServer :=
  let vm : Crd.VirtualMachine :=
    ⟨"ns", "i-1", 1, [⟨cloudEntitySelectorKind, selectorName⟩], { emptyStatus with state := "on" }⟩
  { virtualMachines := (∅ : GoMap NamespacedName Crd.VirtualMachine).set ⟨"ns", "i-1"⟩ vm
    accounts := ∅ }

/-- Machines of other selectors survive. -/
theorem sample_failed_discovery_is_harmless :
    (samplePoller.doAccountPoller sampleEnvironment unreachedAccount
      (storedMachine "another")).Harmless (storedMachine "another") :=
  (failed_discovery_is_harmless samplePoller sampleEnvironment unreachedAccount
    (storedMachine "another") (.inr ⟨_, rfl, rfl⟩)).mpr (.inr (.inr (by decide +kernel)))

/-- EC2 cannot be reached, and the machine that was stored is deleted. -/
theorem failed_discovery_deletes_machines :
    DiscoveryFailed sampleEnvironment unreachedAccount samplePoller.namespacedName ∧
      (storedMachine "selector").virtualMachines.bindings.map (·.1) = [⟨"ns", "i-1"⟩] ∧
      (samplePoller.doAccountPoller sampleEnvironment unreachedAccount
        (storedMachine "selector")).requests.map (·.isDelete) = [false, true] ∧
      (samplePoller.doAccountPoller sampleEnvironment unreachedAccount
        (storedMachine "selector")).server.virtualMachines = ∅ :=
  ⟨.inr ⟨_, rfl, rfl⟩, rfl, by decide +kernel, rfl⟩

end Nephe.Accounts
