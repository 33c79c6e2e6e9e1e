import Nephe.Accounts.CloudCommon
import Nephe.Library.ForkJoin

/-!
# Inventory rounds

`performInventorySync` (`cloudapi/internal/accounts_common.go`) runs the inventory
of every service of an account in a goroutine of its own and returns the errors
that it receives from them.  The goroutines send none.  They write an error to
the status of the account, from which nothing removes it.
-/

namespace Nephe.Accounts

open Library

/-! ## Services -/

/-- `CloudServiceInterface`, with what the cloud answers during one round. -/
structure CloudServiceInterface (ς α : Type) where
  /-- Whether there are filters, the first of the two results. -/
  hasFiltersConfigured : α → ς → Bool
  /-- The error, if any, and the service afterwards. -/
  doResourceInventory : α → ς → Option String × ς
  updateInventoryPollStats : Option String → ς → ς

/-- `cloudAccountConfig`, with any services. -/
structure ServicesConfig (ς : Type) where
  serviceConfigs : GoMap String ς
  statusError : String := ""

section

variable {ς α : Type} (interface : CloudServiceInterface ς α) (answers : α)

/-- The inventory of the service fails. -/
def CloudServiceInterface.Fails (service : ς) : Prop :=
  interface.hasFiltersConfigured answers service = true ∧
    (interface.doResourceInventory answers service).1 ≠ none

/-- The goroutine of a service; nothing is sent. -/
def CloudServiceInterface.inventory : Fork String (Option String) (ServicesConfig ς) where
  work name config :=
    match config.serviceConfigs.get? name with
    | none => config
    | some service =>
      if interface.hasFiltersConfigured answers service then
        let (err, service) := interface.doResourceInventory answers service
        { serviceConfigs :=
            config.serviceConfigs.set name (interface.updateInventoryPollStats err service)
          statusError := err.getD config.statusError }
      else config
  messages _ := []

/-- `performInventorySync` before a goroutine is started; the code orders the loop. -/
def ServicesConfig.performInventorySync (code : Nat) (config : ServicesConfig ς) :
    Join String (Option String) (ServicesConfig ς) :=
  Join.start config (arrange code (config.serviceConfigs.bindings.map (·.1)))
    config.serviceConfigs.bindings.length

/-- The goroutine of a service leaves the other services alone. -/
theorem CloudServiceInterface.get?_work {name other : String} (different : other ≠ name)
    (config : ServicesConfig ς) :
    ((interface.inventory answers).work name config).serviceConfigs.get? other =
      config.serviceConfigs.get? other := by
  simp only [inventory]
  split
  · rfl
  · split
    · exact GoMap.get?_set_of_ne _ _ different
    · rfl

theorem CloudServiceInterface.statusError_work {name : String} {config : ServicesConfig ς}
    (succeeds : ∀ service, config.serviceConfigs.get? name = some service →
      ¬ interface.Fails answers service) :
    ((interface.inventory answers).work name config).statusError = config.statusError := by
  simp only [inventory]
  split
  next => rfl
  next service found =>
    split
    next configured =>
      have noError : (interface.doResourceInventory answers service).1 = none :=
        not_not.mp fun fails => succeeds service found ⟨configured, fails⟩
      simp only [noError, Option.getD_none]
    next => rfl

theorem CloudServiceInterface.statusError_foldl {order : List String} (distinct : order.Nodup)
    {config : ServicesConfig ς}
    (succeed : ∀ name ∈ order, ∀ service, config.serviceConfigs.get? name = some service →
      ¬ interface.Fails answers service) :
    (order.foldl (fun config name => (interface.inventory answers).work name config)
      config).statusError = config.statusError := by
  induction order generalizing config with
  | nil => rfl
  | cons name rest induction =>
    obtain ⟨fresh, distinct⟩ := List.nodup_cons.mp distinct
    obtain ⟨here, later⟩ := List.forall_mem_cons.mp succeed
    refine (induction distinct fun other listed service found => ?_).trans
      (interface.statusError_work answers here)
    have different : other ≠ name := fun same => fresh (same ▸ listed)
    rw [interface.get?_work answers different] at found
    exact later other listed service found

end

/-! ## Rounds -/

/-- A round of the inventory of an account, until it returns. -/
structure Round {ς α : Type} (interface : CloudServiceInterface ς α) where
  answers : α
  code : Nat
  before : ServicesConfig ς
  final : Join String (Option String) (ServicesConfig ς)
  reaches : Reaches (Join.step (interface.inventory answers)) (before.performInventorySync code)
    final
  returned : final.returned = true

namespace Round

variable {ς α : Type} {interface : CloudServiceInterface ς α} (round : Round interface)

/-- Some service of the account fails in the round. -/
def SomeFails : Prop :=
  ∃ name service, round.before.serviceConfigs.get? name = some service ∧
    interface.Fails round.answers service

/-- The status of the account after the round. -/
def statusError : String :=
  round.final.shared.statusError

/-- The result of `AddSelector` whose `startPeriodicInventorySync` has run the round. -/
def addSelector (account : NamespacedName) : Except String (ServicesConfig ς) :=
  match round.final.errors with
  | [] => .ok round.final.shared
  | errors => .error ("inventory sync failed [ account : " ++ account.string ++ ", err: " ++
      "; ".intercalate errors ++ " ]")

/-- The error that is returned and the status say whether a service has failed. -/
structure Reports : Prop where
  returns : round.final.errors ≠ [] ↔ round.SomeFails
  status : round.statusError ≠ "" ↔ round.SomeFails
  adds : ∀ account, (round.addSelector account).isOk = false ↔ round.SomeFails

/-- A round is started for every service, so it ends under every schedule. -/
theorem every_schedule_ends (answers : α) (code : Nat) (config : ServicesConfig ς) :
    Inevitable (Join.step (interface.inventory answers)) (fun state => state.returned = true)
      (config.performInventorySync code) := by
  have units : config.serviceConfigs.bindings.length =
      (arrange code (config.serviceConfigs.bindings.map (·.1))).length := by
    rw [length_arrange, List.length_map]
  rw [ServicesConfig.performInventorySync, units]
  exact Join.returns _ _

theorem exists_order : round.final.errors = [] ∧
    ∃ order : List String, order.Perm (round.before.serviceConfigs.bindings.map (·.1)) ∧
      round.final.shared = order.foldl
        (fun config name => (interface.inventory round.answers).work name config)
        round.before := by
  obtain ⟨order, perm, shared, received⟩ := Join.of_returned
    (by rw [length_arrange, List.length_map]) round.reaches round.returned
  have nothing : round.final.received = [] := by
    refine List.eq_nil_of_length_eq_zero (received.length_eq.trans ?_)
    simp [CloudServiceInterface.inventory]
  refine ⟨?_, order, perm.trans (arrange_perm _ _), shared⟩
  rw [Join.errors, nothing, List.filterMap_nil]

/-- `AddSelector` never fails for its inventory. -/
theorem isOk_addSelector (account : NamespacedName) :
    (round.addSelector account).isOk = true := by
  rw [addSelector, round.exists_order.1]
  rfl

/-- A round without failures leaves the status as it was. -/
theorem statusError_eq (succeeds : ¬ round.SomeFails) :
    round.statusError = round.before.statusError := by
  obtain ⟨_, order, perm, shared⟩ := round.exists_order
  have distinct : order.Nodup := perm.nodup_iff.mpr round.before.serviceConfigs.nodup_bindings
  rw [statusError, shared]
  refine interface.statusError_foldl round.answers distinct fun name _ service found fails => ?_
  exact succeeds ⟨name, service, found, fails⟩

end Round

/-- The rounds of an account, one after the other; each starts with the status of the last. -/
def Consecutive {ς α : Type} {interface : CloudServiceInterface ς α} :
    String → List (Round interface) → Prop
  | _, [] => True
  | status, round :: rest =>
    round.before.statusError = status ∧ Consecutive round.statusError rest

/--
The errors and the status of an account follow its inventory in a sequence of
rounds if and only if no service fails in any of them.
-/
theorem status_follows_inventory_iff {ς α : Type} {interface : CloudServiceInterface ς α}
    (rounds : List (Round interface)) (consecutive : Consecutive "" rounds) :
    (∀ round ∈ rounds, round.Reports) ↔ ∀ round ∈ rounds, ¬ round.SomeFails := by
  constructor
  · intro reports round member fails
    exact (reports round member).returns.mpr fails round.exists_order.1
  · intro succeed
    -- As long as no service fails, the status stays empty.
    generalize started : "" = status at consecutive
    induction rounds with
    | nil => exact List.forall_mem_nil _
    | cons round rest induction =>
      obtain ⟨here, later⟩ := List.forall_mem_cons.mp succeed
      obtain ⟨carried, consecutive⟩ := consecutive
      have empty : round.statusError = "" := by
        rw [round.statusError_eq here, carried, started]
      rw [empty, started] at consecutive
      refine List.forall_mem_cons.mpr ⟨⟨?_, ?_, fun account => ?_⟩, induction later consecutive⟩
      · exact iff_of_false (not_not.mpr round.exists_order.1) here
      · exact iff_of_false (not_not.mpr empty) here
      · exact iff_of_false (ne_false_of_eq_true (round.isOk_addSelector account)) here

/-! ## Accounts with one service -/

/-- EC2 as a service. -/
def ec2Interface : CloudServiceInterface Ec2ServiceConfig Ec2Api where
  hasFiltersConfigured api service := (service.getInstanceResourceFilters api.code).isSome
  doResourceInventory api service := service.doResourceInventory api
  updateInventoryPollStats err service :=
    { service with inventoryStats := service.inventoryStats.update err }

/-- The services of an AWS account. -/
def CloudAccountConfig.services (config : CloudAccountConfig) :
    ServicesConfig Ec2ServiceConfig where
  serviceConfigs := (∅ : GoMap String Ec2ServiceConfig).set "EC2" config.service
  statusError := config.statusError

/-- With one service, every schedule of a round leads to what `performInventorySync` returns. -/
theorem final_eq_performInventorySync (round : Round ec2Interface) (config : CloudAccountConfig)
    (started : round.before = config.services) :
    round.final.shared = (config.performInventorySync round.answers).services := by
  obtain ⟨_, order, perm, shared⟩ := round.exists_order
  have one : order = ["EC2"] := by
    rw [started] at perm
    exact List.perm_singleton.mp perm
  rw [shared, one, started, List.foldl_cons, List.foldl_nil]
  cases configured : config.service.getInstanceResourceFilters round.answers.code with
  | none =>
    simp [CloudServiceInterface.inventory, CloudAccountConfig.services, ec2Interface,
      CloudAccountConfig.performInventorySync, configured]
  | some filters =>
    simp [CloudServiceInterface.inventory, CloudAccountConfig.services, ec2Interface,
      CloudAccountConfig.performInventorySync, configured, GoMap.set_set]

/-- EC2 answers with an error, or without instances. -/
def ec2Answers (instances : Except String (List Aws.Instance)) : Ec2Api where
  describeInstances _ _ := instances
  describeVpcs _ := .ok []
  describeVpcPeeringConnections _ := .ok []
  code := 0

/-- An account with a selector that selects everything. -/
def selectedAccount : CloudAccountConfig where
  namespacedName := ⟨"ns", "account"⟩
  credentials := ⟨"", "", "", "", ""⟩
  service :=
    { apiClient := ⟨"", "", "", "", ""⟩
      instanceFilters := (∅ : GoMap String (List (List Aws.Filter))).set "s" [] }

/-- The steps of a round with one service. -/
def oneService : List Move :=
  [.spawn, .work 0, .done 0, .close, .leave]

/-- A round that fails leaves its error in the status. -/
theorem round_ends_like_performInventorySync :
    ∃ round : Round ec2Interface, round.before = selectedAccount.services ∧
      round.statusError = "e" ∧
      round.final.shared = (selectedAccount.performInventorySync round.answers).services := by
  let round : Round ec2Interface :=
    ⟨ec2Answers (.error "e"), 0, selectedAccount.services, _,
      reaches_of_follow (show follow _ _ oneService = some _ from rfl), rfl⟩
  exact ⟨round, rfl, rfl, final_eq_performInventorySync round selectedAccount rfl⟩

theorem not_someFails_of_ec2 {round : Round ec2Interface} {service : Ec2ServiceConfig}
    (only : round.before.serviceConfigs = (∅ : GoMap String Ec2ServiceConfig).set "EC2" service)
    (succeeds : (service.doResourceInventory round.answers).1 = none) : ¬ round.SomeFails := by
  rintro ⟨name, other, found, _, fails⟩
  rw [only] at found
  by_cases own : name = "EC2"
  · subst own
    obtain rfl := Option.some.inj ((GoMap.get?_set_self _ _ _).symm.trans found)
    exact fails succeeds
  · rw [GoMap.get?_set_of_ne _ _ own, GoMap.get?_empty] at found
    cases found

/-- Two rounds that find no instances. -/
theorem status_follows_successful_rounds :
    ∃ first second : Round ec2Interface, first.before = selectedAccount.services ∧
      second.before = first.final.shared ∧ first.Reports ∧ second.Reports := by
  let first : Round ec2Interface :=
    ⟨ec2Answers (.ok []), 0, selectedAccount.services, _,
      reaches_of_follow (show follow _ _ oneService = some _ from rfl), rfl⟩
  let second : Round ec2Interface :=
    ⟨ec2Answers (.ok []), 0, first.final.shared, _,
      reaches_of_follow (show follow _ _ oneService = some _ from rfl), rfl⟩
  have succeed : ∀ round ∈ [first, second], ¬ round.SomeFails :=
    List.forall_mem_cons.mpr ⟨not_someFails_of_ec2 rfl rfl,
      List.forall_mem_singleton.mpr (not_someFails_of_ec2 rfl rfl)⟩
  have reports :=
    (status_follows_inventory_iff [first, second] ⟨rfl, rfl, trivial⟩).mpr succeed
  exact ⟨first, second, rfl, rfl, reports first (by simp), reports second (by simp)⟩

/-- A failure is not returned, and the status shows it after the service has recovered. -/
theorem old_error_remains :
    ∃ failed recovered : Round ec2Interface, Consecutive "" [failed, recovered] ∧
      failed.SomeFails ∧ failed.final.errors = [] ∧
      (failed.addSelector ⟨"ns", "account"⟩).isOk = true ∧
      recovered.answers = ec2Answers (.ok []) ∧ recovered.statusError = "e" := by
  let failed : Round ec2Interface :=
    ⟨ec2Answers (.error "e"), 0, selectedAccount.services, _,
      reaches_of_follow (show follow _ _ oneService = some _ from rfl), rfl⟩
  let recovered : Round ec2Interface :=
    ⟨ec2Answers (.ok []), 0, failed.final.shared, _,
      reaches_of_follow (show follow _ _ oneService = some _ from rfl), rfl⟩
  exact ⟨failed, recovered, ⟨rfl, rfl, trivial⟩, ⟨"EC2", _, rfl, rfl, by rintro ⟨⟩⟩, rfl, rfl,
    rfl, rfl⟩

end Nephe.Accounts
