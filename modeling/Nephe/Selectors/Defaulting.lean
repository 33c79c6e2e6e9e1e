import Mathlib.Logic.Function.Basic
import Nephe.Crd.VirtualMachine
import Nephe.Selectors.Selector

/-!
# Defaults of a selector

`CloudEntitySelector.Default` is to turn the ids and names that a selector asks for into
lower case, since Azure does not preserve case.  The selector is changed in place, inside
of loops over values: the match of a VPC is behind a pointer and is changed, the matches
of machines are copies when they are, so that they stay as they were.
-/

namespace Nephe.Webhook

open Library

/-! ## The selector in memory -/

/-- Where an `EntityMatch` is: behind a pointer, or in the array of a slice. -/
inductive Cell where
  | pointer (address : Nat)
  | item (address : Nat)
deriving DecidableEq

/-- `VirtualMachineSelector`, with the cells of its matches. -/
structure SelectorItem where
  vpcMatch : Option Nat
  vmMatch : List Nat

/-- `CloudEntitySelector`, with the contents of the cells and its controller reference. -/
structure CloudEntitySelector where
  «namespace» : String
  accountName : String
  vmSelector : List SelectorItem
  store : Cell → EntityMatch
  controllerOf : Option Crd.OwnerReference

/-- The entries that a reader of the selector finds. -/
def CloudEntitySelector.entries (r : CloudEntitySelector) : List VirtualMachineSelector :=
  r.vmSelector.map fun m =>
    ⟨m.vpcMatch.map fun address => r.store (.pointer address),
      m.vmMatch.map fun address => r.store (.item address)⟩

/-- `CloudProviderAccount`: which of its configurations are there. -/
structure CloudProviderAccount where
  awsConfig : Bool
  azureConfig : Bool

/-- `GetAccountProviderType`. -/
def CloudProviderAccount.getAccountProviderType (account : CloudProviderAccount) :
    Except String CloudProviderType :=
  if account.awsConfig then .ok .aws
  else if account.azureConfig then .ok .azure
  else .error "missing cloud provider config. Please add AWS or Azure Config"

/-! ## Default -/

/-- Both fields in lower case. -/
def lowerCase (entity : EntityMatch) : EntityMatch :=
  ⟨toLower entity.matchName, toLower entity.matchID⟩

/-- The cells, and the variable of the inner loop. -/
structure Memory where
  store : Cell → EntityMatch
  vmMatch : EntityMatch

/-- One turn of the inner loop: an item is copied to the variable, which is then changed. -/
def visitVMMatch (memory : Memory) (address : Nat) : Memory :=
  let memory := { memory with vmMatch := memory.store (.item address) }
  { memory with vmMatch := lowerCase memory.vmMatch }

/-- One turn of the outer loop; the match of the VPC is changed where it is. -/
def visit (memory : Memory) (m : SelectorItem) : Memory :=
  let memory := match m.vpcMatch with
    | none => memory
    | some address =>
      let vpcMatch := lowerCase (memory.store (.pointer address))
      { memory with store := Function.update memory.store (.pointer address) vpcMatch }
  m.vmMatch.foldl visitVMMatch memory

/-- The cells after the loops. -/
def afterLoops (vmSelector : List SelectorItem) (store : Cell → EntityMatch) :
    Cell → EntityMatch :=
  (vmSelector.foldl visit ⟨store, "", ""⟩).store

/--
`Default`, with the accounts that the client finds and the reference that
`SetControllerReference` makes; errors are only logged.
-/
def default (accounts : String → String → Except String CloudProviderAccount)
    (reference : Except String Crd.OwnerReference) (r : CloudEntitySelector) :
    CloudEntitySelector :=
  let ownerReference := r.controllerOf
  match accounts r.namespace r.accountName with
  | .error _ => r
  | .ok ownerAccount =>
    match ownerAccount.getAccountProviderType with
    | .error _ => r
    | .ok cloudProviderType =>
      let r := if cloudProviderType = .azure then
          { r with store := afterLoops r.vmSelector r.store }
        else r
      match ownerReference, reference with
      | none, .ok owner => { r with controllerOf := some owner }
      | _, _ => r

/-! ## What is written -/

theorem lowerCase_lowerCase (entity : EntityMatch) :
    lowerCase (lowerCase entity) = lowerCase entity := by
  simp [lowerCase, toLower_toLower]

/-- The inner loop writes to its variable only. -/
theorem store_foldl_visitVMMatch (addresses : List Nat) (memory : Memory) :
    (addresses.foldl visitVMMatch memory).store = memory.store := by
  induction addresses generalizing memory with
  | nil => rfl
  | cons address addresses induction =>
    rw [List.foldl_cons, induction]
    rfl

theorem store_visit (memory : Memory) (m : SelectorItem) :
    (visit memory m).store = fun cell =>
      if ∃ address ∈ m.vpcMatch, cell = .pointer address then lowerCase (memory.store cell)
      else memory.store cell := by
  rw [visit, store_foldl_visitVMMatch]
  cases m.vpcMatch with
  | none => simp
  | some address =>
    funext cell
    by_cases same : cell = .pointer address
    · subst same
      simp
    · simp [same]

/-- The outer loop writes behind the pointers of the entries, also when entries share one. -/
theorem store_foldl_visit (items : List SelectorItem) (memory : Memory) :
    (items.foldl visit memory).store = fun cell =>
      if ∃ m ∈ items, ∃ address ∈ m.vpcMatch, cell = .pointer address then
        lowerCase (memory.store cell)
      else memory.store cell := by
  induction items generalizing memory with
  | nil => simp
  | cons m items induction =>
    rw [List.foldl_cons, induction, store_visit]
    funext cell
    simp only [List.exists_mem_cons_iff]
    by_cases here : ∃ address ∈ m.vpcMatch, cell = .pointer address <;>
      by_cases later : ∃ m ∈ items, ∃ address ∈ m.vpcMatch, cell = .pointer address <;>
      simp only [here, later, if_true, if_false, or_true, or_false, lowerCase_lowerCase]

theorem afterLoops_pointer {vmSelector : List SelectorItem} {m : SelectorItem} {address : Nat}
    (member : m ∈ vmSelector) (pointed : m.vpcMatch = some address)
    (store : Cell → EntityMatch) :
    afterLoops vmSelector store (.pointer address) = lowerCase (store (.pointer address)) := by
  rw [afterLoops, store_foldl_visit]
  exact if_pos ⟨m, member, address, pointed, rfl⟩

theorem afterLoops_item (vmSelector : List SelectorItem) (store : Cell → EntityMatch)
    (address : Nat) : afterLoops vmSelector store (.item address) = store (.item address) := by
  simp [afterLoops, store_foldl_visit]

theorem afterLoops_afterLoops (vmSelector : List SelectorItem) (store : Cell → EntityMatch) :
    afterLoops vmSelector (afterLoops vmSelector store) = afterLoops vmSelector store := by
  simp only [afterLoops, store_foldl_visit]
  funext cell
  split
  next => exact lowerCase_lowerCase _
  next => rfl

/-- The entry with the match of its VPC in lower case. -/
def lowerVpc (entry : VirtualMachineSelector) : VirtualMachineSelector :=
  { entry with vpcMatch := entry.vpcMatch.map lowerCase }

/-- The entry with all its matches in lower case. -/
def lowered (entry : VirtualMachineSelector) : VirtualMachineSelector :=
  ⟨entry.vpcMatch.map lowerCase, entry.vmMatch.map lowerCase⟩

theorem lowerVpc_eq_lowered_iff (entry : VirtualMachineSelector) :
    lowerVpc entry = lowered entry ↔ ∀ item ∈ entry.vmMatch, lowerCase item = item := by
  rw [lowerVpc, lowered, VirtualMachineSelector.mk.injEq, and_iff_right rfl, eq_comm]
  nth_rewrite 2 [← List.map_id entry.vmMatch]
  exact List.map_inj_left

section Defaults

variable {accounts : String → String → Except String CloudProviderAccount}
  {reference : Except String Crd.OwnerReference} {r : CloudEntitySelector}
  {account : CloudProviderAccount}

variable (reference) in
/-- What `Default` does to a selector of an account with a provider. -/
theorem default_eq {provider : CloudProviderType}
    (found : accounts r.namespace r.accountName = .ok account)
    (provided : account.getAccountProviderType = .ok provider) :
    default accounts reference r = { r with
      store := if provider = .azure then afterLoops r.vmSelector r.store else r.store
      controllerOf := r.controllerOf.or reference.toOption } := by
  rcases r with ⟨«namespace», accountName, vmSelector, store, controllerOf⟩
  simp only [default, found, provided]
  cases controllerOf with
  | none => cases reference <;> by_cases azure : provider = .azure <;> simp [azure, Except.toOption]
  | some owner => by_cases azure : provider = .azure <;> simp [azure]

theorem entries_of_azure (found : accounts r.namespace r.accountName = .ok account)
    (azure : account.getAccountProviderType = .ok .azure) :
    (default accounts reference r).entries = r.entries.map lowerVpc := by
  rw [default_eq reference found azure, CloudEntitySelector.entries, CloudEntitySelector.entries,
    List.map_map]
  refine List.map_congr_left fun m member => ?_
  simp only [if_true, afterLoops_item, Function.comp_apply, lowerVpc]
  cases pointed : m.vpcMatch with
  | none => rfl
  | some address => simp only [Option.map_some, afterLoops_pointer member pointed]

theorem entries_of_aws (found : accounts r.namespace r.accountName = .ok account)
    (aws : account.getAccountProviderType = .ok .aws) :
    (default accounts reference r).entries = r.entries := by
  rw [default_eq reference found aws]
  rfl

theorem default_default (found : accounts r.namespace r.accountName = .ok account) :
    default accounts reference (default accounts reference r) = default accounts reference r := by
  cases provided : account.getAccountProviderType with
  | error err =>
    have same : default accounts reference r = r := by simp only [default, found, provided]
    rw [same, same]
  | ok provider =>
    have once := default_eq reference found provided
    have foundAgain : accounts (default accounts reference r).namespace
        (default accounts reference r).accountName = .ok account := by
      rw [once]
      exact found
    rw [default_eq reference foundAgain provided, once]
    by_cases azure : provider = .azure <;> simp [azure, afterLoops_afterLoops, Option.or_assoc]

end Defaults

/--
`Default` turns a selector of an existing Azure account into lower case exactly when the
matches of machines are in lower case already.  Applied again, it changes nothing, and it
changes no match of an AWS account.
-/
theorem default_normalises_iff (accounts : String → String → Except String CloudProviderAccount)
    (reference : Except String Crd.OwnerReference) (r : CloudEntitySelector)
    {account : CloudProviderAccount}
    (found : accounts r.namespace r.accountName = .ok account) :
    (account.getAccountProviderType = .ok .azure →
      ((default accounts reference r).entries = r.entries.map lowered ↔
        ∀ entry ∈ r.entries, ∀ item ∈ entry.vmMatch, lowerCase item = item)) ∧
    default accounts reference (default accounts reference r) = default accounts reference r ∧
    (account.getAccountProviderType = .ok .aws →
      (default accounts reference r).entries = r.entries) := by
  refine ⟨fun azure => ?_, default_default found, entries_of_aws found⟩
  rw [entries_of_azure found azure, List.map_inj_left]
  simp only [lowerVpc_eq_lowered_iff]

/-- A selector for a virtual network and a machine of it. -/
def vmSelectorOf (vpcID vmID : String) : CloudEntitySelector where
  «namespace» := "ns"
  accountName := "account"
  vmSelector := [⟨some 0, [0]⟩]
  store
    | .pointer _ => ⟨"", vpcID⟩
    | .item _ => ⟨"", vmID⟩
  controllerOf := none

/-- The only account is one of Azure. -/
def azureOnly (_ _ : String) : Except String CloudProviderAccount :=
  .ok ⟨false, true⟩

/-- A selector that has only the match of a VPC to turn into lower case. -/
theorem default_of_lower_machine :
    (default azureOnly (.error "") (vmSelectorOf "/VNET" "/vm")).entries =
      (vmSelectorOf "/VNET" "/vm").entries.map lowered :=
  ((default_normalises_iff azureOnly (.error "") (vmSelectorOf "/VNET" "/vm") rfl).1 rfl).mpr
    (by decide)

/-- The id of a machine in upper case is not changed. -/
theorem default_of_upper_machine :
    (default azureOnly (.error "") (vmSelectorOf "/VNET" "/VM")).entries =
      [⟨some ⟨"", "/vnet"⟩, [⟨"", "/VM"⟩]⟩] ∧
    (vmSelectorOf "/VNET" "/VM").entries.map lowered = [⟨some ⟨"", "/vnet"⟩, [⟨"", "/vm"⟩]⟩] := by
  decide

end Nephe.Webhook
