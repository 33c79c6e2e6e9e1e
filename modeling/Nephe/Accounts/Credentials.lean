import Nephe.Accounts.CloudCommon

/-!
# Credentials of an account

An account that is added again gets new credentials (`updateCloudAccountConfig` in
`accounts_common.go`), when the comparator of the plug-in says that they have changed.
The service of the account then takes over clients that are made from them.  The
comparator of Azure looks at every field, that of AWS neither at the role nor at the
external id.
-/

namespace Nephe.Accounts

open Library

/-! ## Accounts of a plug-in -/

/-- What a plug-in registers with `cloudCommon`; both plug-ins have one service. -/
structure Plugin (γ σ κ : Type) where
  compareAccountCredentials : γ → γ → Bool
  newService : γ → σ
  /-- The clients of a service. -/
  clients : σ → κ
  updateServiceConfig (existing newConfig : σ) : σ
  clients_updateServiceConfig (existing newConfig : σ) :
    clients (updateServiceConfig existing newConfig) = clients newConfig

namespace Plugin

variable {γ σ κ : Type} (plugin : Plugin γ σ κ)

/-- `cloudAccountConfig`, whose service has clients that are made from its credentials. -/
structure Account where
  credentials : γ
  service : σ
  current : plugin.clients service = plugin.clients (plugin.newService credentials)

/-- `update`. -/
def update (newCredentials : γ) (account : plugin.Account) : plugin.Account :=
  if plugin.compareAccountCredentials newCredentials account.credentials then
    { credentials := newCredentials
      service := plugin.updateServiceConfig account.service (plugin.newService newCredentials)
      current := plugin.clients_updateServiceConfig _ _ }
  else account

/-- `AddCloudAccount`, with the answers of the functions that the plug-in registers. -/
def addCloudAccount (name : NamespacedName) (credentials : Except String γ)
    (creation : Option String) (accounts : GoMap NamespacedName plugin.Account) :
    Except String (GoMap NamespacedName plugin.Account) := do
  let credentials ← credentials
  match creation with
  | some err => throw err
  | none =>
    match accounts.get? name with
    | some account => return accounts.set name (plugin.update credentials account)
    | none => return accounts.set name ⟨credentials, plugin.newService credentials, rfl⟩

variable {plugin}

/-- The account has the credentials, and the clients that are made from them. -/
def Account.Has (account : plugin.Account) (credentials : γ) : Prop :=
  account.credentials = credentials ∧
    plugin.clients account.service = plugin.clients (plugin.newService credentials)

/-- New credentials take effect when they are the old ones or are found to have changed. -/
theorem has_update_iff (newCredentials : γ) (account : plugin.Account) :
    (plugin.update newCredentials account).Has newCredentials ↔
      account.credentials = newCredentials ∨
        plugin.compareAccountCredentials newCredentials account.credentials = true := by
  unfold update
  split
  next changed => exact iff_of_true ⟨rfl, plugin.clients_updateServiceConfig _ _⟩ (.inr changed)
  next unchanged =>
    rw [or_iff_left unchanged]
    exact ⟨And.left, fun same => ⟨same, by rw [account.current, same]⟩⟩

end Plugin

/-! ## AWS -/

/-- The credentials that a session of AWS works with. -/
inductive SessionCredentials where
  | assumeRole (roleArn : String) (externalID : Option String)
  | static (accessKeyID accessKeySecret : String)
deriving DecidableEq, Repr

/-- `newServiceSdkConfigProvider`: the region and the credentials of the session. -/
def newServiceSdkConfigProvider (accConfig : AwsAccountConfig) : String × SessionCredentials :=
  (accConfig.region,
    if accConfig.roleArn.length ≠ 0 then
      .assumeRole accConfig.roleArn
        (if accConfig.externalID.length = 0 then none else some accConfig.externalID)
    else .static accConfig.accessKeyID accConfig.accessKeySecret)

/-- The plug-in of AWS. -/
def aws : Plugin AwsAccountConfig Ec2ServiceConfig (String × SessionCredentials) where
  compareAccountCredentials := compareAccountCredentials
  newService credentials := { apiClient := credentials }
  clients service := newServiceSdkConfigProvider service.apiClient
  updateServiceConfig existing newConfig := { existing with apiClient := newConfig.apiClient }
  clients_updateServiceConfig _ _ := rfl

theorem aws_compareAccountCredentials_iff (new existing : AwsAccountConfig) :
    aws.compareAccountCredentials new existing = true ↔
      new.accessKeyID ≠ existing.accessKeyID ∨ new.accessKeySecret ≠ existing.accessKeySecret ∨
        new.region ≠ existing.region := by
  simp [aws, compareAccountCredentials, or_assoc]

/-- The client of every account is the one for its credentials. -/
def Current (c : CloudCommon) : Prop :=
  ∀ account config, c.accountConfigs.get? account = some config →
    config.service.apiClient = config.credentials

variable {c : CloudCommon} {config : CloudAccountConfig} {creation : Option String}

theorem Current.set (current : Current c) (account : NamespacedName)
    (same : config.service.apiClient = config.credentials) :
    Current ⟨c.accountConfigs.set account config⟩ := by
  intro other stored found
  rw [GoMap.get?_set] at found
  split at found
  next =>
    rw [← Option.some.inj found]
    exact same
  next => exact current other stored found

theorem apiClient_performInventorySync (config : CloudAccountConfig) (api : Ec2Api) :
    (config.performInventorySync api).service.apiClient = config.service.apiClient ∧
      (config.performInventorySync api).credentials = config.credentials := by
  unfold CloudAccountConfig.performInventorySync Ec2ServiceConfig.doResourceInventory
  split
  next => exact ⟨rfl, rfl⟩
  next => cases config.service.getInstances api <;> exact ⟨rfl, rfl⟩

theorem apiClient_update (same : config.service.apiClient = config.credentials)
    (new : AwsAccountConfig) :
    (config.update new).service.apiClient = (config.update new).credentials := by
  unfold CloudAccountConfig.update
  split
  next => rfl
  next => exact same

theorem Current.step (current : Current c) (call : Call) : Current (c.step call) := by
  cases call with
  | addCloudAccount account credentials creation =>
    cases credentials with
    | error err => exact current
    | ok credentials =>
      cases creation with
      | some err => exact current
      | none =>
        simp only [CloudCommon.step, CloudCommon.addCloudAccount, bind, Except.bind]
        cases found : c.accountConfigs.get? account with
        | none => exact current.set account rfl
        | some config =>
          exact current.set account (apiClient_update (current account config found) _)
  | removeCloudAccount account =>
    intro other config found
    rw [CloudCommon.step, CloudCommon.removeCloudAccount, GoMap.get?_remove] at found
    split at found
    next => cases found
    next => exact current other config found
  | addSelector account selector api =>
    simp only [CloudCommon.step, CloudCommon.addSelector]
    cases found : c.accountConfigs.get? account with
    | none => exact current
    | some config =>
      refine current.set account ?_
      obtain ⟨client, credentials⟩ := apiClient_performInventorySync
        { config with service := config.service.setResourceFilters (some selector) } api
      exact client.trans ((current account config found).trans credentials.symm)
  | removeSelector account selectorName =>
    simp only [CloudCommon.step, CloudCommon.removeSelector]
    cases found : c.accountConfigs.get? account with
    | none => exact current
    | some config => exact current.set account (current account config found)
  | inventory account api =>
    simp only [CloudCommon.step, CloudCommon.inventory]
    cases found : c.accountConfigs.get? account with
    | none => exact current
    | some config =>
      dsimp only
      split
      next =>
        obtain ⟨client, credentials⟩ := apiClient_performInventorySync config api
        exact current.set account
          (client.trans ((current account config found).trans credentials.symm))
      next => exact current

theorem current_run (calls : List Call) :
    Current (run CloudCommon.step CloudCommon.new calls) := by
  refine run_invariant Current (fun _ call _ current => current.step call)
    (allowed_of_forall (fun _ _ => trivial) _ calls) ?_
  intro account config found
  cases found

/-- A configured account as one of the plug-in. -/
def CloudAccountConfig.account (config : CloudAccountConfig)
    (same : config.service.apiClient = config.credentials) : aws.Account where
  credentials := config.credentials
  service := config.service
  current := congrArg newServiceSdkConfigProvider same

/-- What `cloudCommon` does to an account of AWS is what it does to one of any plug-in. -/
theorem account_update (config : CloudAccountConfig)
    (same : config.service.apiClient = config.credentials) (new : AwsAccountConfig) :
    (config.update new).account (apiClient_update same new) =
      aws.update new (config.account same) := by
  by_cases changed : compareAccountCredentials new config.credentials = true
  · simp [CloudAccountConfig.update, CloudAccountConfig.account, Plugin.update, aws, changed]
  · simp [CloudAccountConfig.update, CloudAccountConfig.account, Plugin.update, aws, changed]

theorem get?_addCloudAccount {after : CloudCommon} {account : NamespacedName}
    {new : AwsAccountConfig} (configured : c.accountConfigs.get? account = some config)
    (added : c.addCloudAccount account (.ok new) creation = .ok after) :
    after.accountConfigs.get? account = some (config.update new) := by
  cases creation with
  | some err => cases added
  | none =>
    simp only [CloudCommon.addCloudAccount, bind, Except.bind, configured] at added
    rw [← Except.ok.inj added]
    exact GoMap.get?_set_self _ _ _

/-! ## Azure -/

/-- `azureAccountConfig`. -/
structure AzureCredentials where
  subscriptionID : String
  clientID : String
  tenantID : String
  clientKey : String
  region : String
deriving DecidableEq, Repr

/-- An authorizer is made from three of the fields. -/
structure Authorizer where
  clientID : String
  clientKey : String
  tenantID : String
deriving DecidableEq, Repr

/-- A client with its authorizer; that of the resource graph has no subscription. -/
structure AzureAPIClient where
  subscriptionID : Option String
  authorizer : Authorizer
deriving DecidableEq, Repr

/-- What `UpdateServiceConfig` replaces of a `computeServiceConfig`. -/
structure ComputeClients where
  nwIntfAPIClient : AzureAPIClient
  nsgAPIClient : AzureAPIClient
  asgAPIClient : AzureAPIClient
  vnetAPIClient : AzureAPIClient
  resourceGraphAPIClient : AzureAPIClient
  credentials : AzureCredentials
deriving DecidableEq, Repr

/-- `computeServiceConfig`, with the queries of its selectors. -/
structure ComputeServiceConfig extends ComputeClients where
  computeFilters : GoMap String (List Azure.VmTableQueryParameters)

/-- `newComputeServiceConfig`. -/
def newComputeServiceConfig (credentials : AzureCredentials) : ComputeServiceConfig :=
  let authorizer := ⟨credentials.clientID, credentials.clientKey, credentials.tenantID⟩
  let client := ⟨some credentials.subscriptionID, authorizer⟩
  { nwIntfAPIClient := client
    nsgAPIClient := client
    asgAPIClient := client
    vnetAPIClient := client
    resourceGraphAPIClient := ⟨none, authorizer⟩
    credentials := credentials
    computeFilters := ∅ }

/-- The plug-in of Azure. -/
def azure : Plugin AzureCredentials ComputeServiceConfig ComputeClients where
  compareAccountCredentials existing new :=
    existing.subscriptionID != new.subscriptionID || existing.clientID != new.clientID ||
      existing.tenantID != new.tenantID || existing.clientKey != new.clientKey ||
      existing.region != new.region
  newService := newComputeServiceConfig
  clients := ComputeServiceConfig.toComputeClients
  updateServiceConfig existing newConfig := { existing with
    nwIntfAPIClient := newConfig.nwIntfAPIClient
    nsgAPIClient := newConfig.nsgAPIClient
    asgAPIClient := newConfig.asgAPIClient
    vnetAPIClient := newConfig.vnetAPIClient
    resourceGraphAPIClient := newConfig.resourceGraphAPIClient
    credentials := newConfig.credentials }
  clients_updateServiceConfig _ _ := rfl

/-- The comparator of Azure misses no field. -/
theorem azure_compareAccountCredentials_iff (new existing : AzureCredentials) :
    azure.compareAccountCredentials new existing = true ↔ new ≠ existing := by
  rcases new with ⟨subscriptionID, clientID, tenantID, clientKey, region⟩
  rcases existing with ⟨subscriptionID', clientID', tenantID', clientKey', region'⟩
  simp only [azure, Bool.or_eq_true, bne_iff_ne, ne_eq, AzureCredentials.mk.injEq, not_and_or,
    or_assoc]

theorem Plugin.get?_addCloudAccount {γ σ κ : Type} {plugin : Plugin γ σ κ}
    {accounts after : GoMap NamespacedName plugin.Account} {name : NamespacedName}
    {account : plugin.Account} {new : γ} (configured : accounts.get? name = some account)
    (added : plugin.addCloudAccount name (.ok new) creation accounts = .ok after) :
    after.get? name = some (plugin.update new account) := by
  cases creation with
  | some err => cases added
  | none =>
    simp only [Plugin.addCloudAccount, bind, Except.bind, configured] at added
    rw [← Except.ok.inj added]
    exact GoMap.get?_set_self _ _ _

/-! ## When new credentials take effect -/

/--
When an account that is configured is added again, new credentials of AWS take effect
exactly if they are the old ones or differ from them in the key or the region; those of
Azure always do.  Credentials that have not changed leave the account as it was.
-/
theorem credentials_take_effect_iff (calls : List Call) {account : NamespacedName}
    {config : CloudAccountConfig} {new : AwsAccountConfig} {creation : Option String}
    {after : CloudCommon} {accounts later : GoMap NamespacedName azure.Account}
    {azureAccount : azure.Account} {azureNew : AzureCredentials}
    (configured : (run CloudCommon.step CloudCommon.new calls).accountConfigs.get? account =
      some config)
    (added : (run CloudCommon.step CloudCommon.new calls).addCloudAccount account (.ok new)
      creation = .ok after)
    (azureConfigured : accounts.get? account = some azureAccount)
    (azureAdded : azure.addCloudAccount account (.ok azureNew) creation accounts = .ok later) :
    (∃ stored, after.accountConfigs.get? account = some stored ∧
      (stored.credentials = new ∧
          newServiceSdkConfigProvider stored.service.apiClient = newServiceSdkConfigProvider new ↔
        config.credentials = new ∨ new.accessKeyID ≠ config.credentials.accessKeyID ∨
          new.accessKeySecret ≠ config.credentials.accessKeySecret ∨
          new.region ≠ config.credentials.region) ∧
      (config.credentials = new → stored = config)) ∧
    ∃ stored, later.get? account = some stored ∧ stored.Has azureNew ∧
      (azureAccount.credentials = azureNew → stored = azureAccount) := by
  constructor
  · have same := current_run calls account config configured
    refine ⟨_, get?_addCloudAccount configured added, ?_, ?_⟩
    · rw [← aws_compareAccountCredentials_iff]
      have effect := Plugin.has_update_iff new (config.account same)
      rwa [← account_update] at effect
    · rintro rfl
      simp [CloudAccountConfig.update, compareAccountCredentials]
  · refine ⟨_, Plugin.get?_addCloudAccount azureConfigured azureAdded, ?_, ?_⟩
    · rw [Plugin.has_update_iff, azure_compareAccountCredentials_iff]
      exact (eq_or_ne _ _).imp_right Ne.symm
    · rintro rfl
      have unchanged := (azure_compareAccountCredentials_iff azureAccount.credentials
        azureAccount.credentials).not.mpr (not_not.mpr rfl)
      exact if_neg unchanged

/-- Credentials with a key and a role. -/
def credentialsWith (accessKeyID roleArn : String) : AwsAccountConfig :=
  ⟨accessKeyID, "secret", roleArn, "", "us-east-1"⟩

/-- The call that gives the only account credentials. -/
def addWith (credentials : AwsAccountConfig) : Call :=
  .addCloudAccount ⟨"ns", "account"⟩ (.ok credentials) none

/-- Credentials of Azure with a key. -/
def azureWith (clientKey : String) : AzureCredentials :=
  ⟨"subscription", "client", "tenant", clientKey, "westus"⟩

/-- A new key takes effect, for AWS and for Azure. -/
theorem new_key_takes_effect :
    (∃ stored, (run CloudCommon.step CloudCommon.new
        [addWith (credentialsWith "a" ""), addWith (credentialsWith "b" "")]).accountConfigs.get?
          ⟨"ns", "account"⟩ = some stored ∧ stored.credentials = credentialsWith "b" "") ∧
    ∃ stored, stored.Has (azureWith "b") ∧
      azure.update (azureWith "b") ⟨azureWith "a", azure.newService (azureWith "a"), rfl⟩ =
        stored := by
  obtain ⟨⟨stored, found, effect, -⟩, ⟨azureStored, azureFound, has, -⟩⟩ :=
    @credentials_take_effect_iff [addWith (credentialsWith "a" "")] ⟨"ns", "account"⟩ _
      (credentialsWith "b" "") none _
      (GoMap.set ∅ ⟨"ns", "account"⟩ ⟨azureWith "a", azure.newService (azureWith "a"), rfl⟩) _ _
      (azureWith "b") rfl rfl rfl rfl
  exact ⟨⟨stored, found, (effect.mpr (.inr (.inl (by decide)))).1⟩,
    ⟨azureStored, has, Option.some.inj azureFound⟩⟩

/-- A new role with the old key does not take effect. -/
theorem new_role_is_not_stored :
    ((run CloudCommon.step CloudCommon.new [addWith (credentialsWith "a" "old"),
        addWith (credentialsWith "a" "new")]).accountConfigs.get? ⟨"ns", "account"⟩).map
      (fun config =>
        (config.credentials, newServiceSdkConfigProvider config.service.apiClient)) =
      some (credentialsWith "a" "old", "us-east-1", .assumeRole "old" none) := by
  decide

end Nephe.Accounts
