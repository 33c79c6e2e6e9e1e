import Nephe.Library.ForkJoin
import Nephe.SecurityGroup.Types

/-!
# The channel that carries the view of the clouds

`GetSecurityGroupSyncChan` (`securitygroup_impl.go`) asks every provider for the
security that it enforces, each in a goroutine of its own, and passes on one by
one the contents they return.  `GetEnforcedSecurity`, which `aws_security.go` and
`azure_security.go` have in the same words, asks the accounts of a provider in
this way.
-/

namespace Nephe.Accounts

open Library

/-! ## The accounts of a provider -/

/--
What comes of an account that `GetEnforcedSecurity` asks.  It is skipped when it is gone,
has no compute service, or no inventory after the wait.
-/
abbrev AccountView := Option (List SynchronizationContent)

/-- The goroutines of `GetEnforcedSecurity`; a skipped account sends nothing. -/
def enforcedSecurity : Fork AccountView (List SynchronizationContent) Unit where
  work _ _ := ()
  messages := Option.toList

/-- `GetEnforcedSecurity` at its start, with a unit of the wait group for every account. -/
def getEnforcedSecurity (accounts : List AccountView) :
    Join AccountView (List SynchronizationContent) Unit :=
  .start () accounts accounts.length

/-- A provider, and how its `GetEnforcedSecurity` has come to return. -/
structure Enforced where
  accounts : List AccountView
  final : Join AccountView (List SynchronizationContent) Unit
  reaches : Reaches (Join.step enforcedSecurity) (getEnforcedSecurity accounts) final
  returned : final.returned = true

/-- What `GetEnforcedSecurity` returns: the slices, in the order in which they came in. -/
def Enforced.enforcedSecurityCloudView (provider : Enforced) : List SynchronizationContent :=
  provider.final.received.flatten

/-! ## The providers -/

/-- The goroutines of `GetSecurityGroupSyncChan`. -/
def syncChan : Fork Enforced (List SynchronizationContent) Unit where
  work _ _ := ()
  messages provider := [provider.enforcedSecurityCloudView]

/--
`GetSecurityGroupSyncChan` at its start, for the registered providers.  Their types
are read from the map in which the providers are then looked up, so none is missing.
-/
def getSecurityGroupSyncChan (providers : List Enforced) :
    Join Enforced (List SynchronizationContent) Unit :=
  .start () providers providers.length

/-- What has been sent on the returned channel, by the loop over the slices received. -/
def retCh (state : Join Enforced (List SynchronizationContent) Unit) :
    List SynchronizationContent :=
  state.received.flatten

/-! ## What is delivered -/

theorem Enforced.perm (provider : Enforced) :
    provider.enforcedSecurityCloudView.Perm (provider.accounts.flatMap (·.getD [])) := by
  refine Join.flatten_received_perm (fun account => ?_) provider.reaches provider.returned
  cases account with
  | none => rfl
  | some contents => exact List.append_nil _

/--
Under every schedule of its goroutines `GetEnforcedSecurity` returns, and so does
`GetSecurityGroupSyncChan`, whatever the schedules inside the providers have been.
When the channel is closed it has carried every content of every account that was
not skipped, as often as the account has it, and nothing else.
-/
theorem sync_channel_carries_every_view (providers : List Enforced) :
    (∀ accounts, Inevitable (Join.step enforcedSecurity) (fun state => state.returned = true)
      (getEnforcedSecurity accounts)) ∧
    Inevitable (Join.step syncChan) (fun state => state.returned = true)
      (getSecurityGroupSyncChan providers) ∧
    ∀ state, Reaches (Join.step syncChan) (getSecurityGroupSyncChan providers) state →
      state.returned = true →
        (retCh state).Perm (providers.flatMap fun provider =>
          provider.accounts.flatMap (·.getD [])) := by
  refine ⟨fun accounts => Join.returns _ _, Join.returns _ _, fun state reaches returned => ?_⟩
  have carried := Join.flatten_received_perm (fun _ => List.append_nil _) reaches returned
  exact carried.trans (List.Perm.flatMap_left _ fun provider _ => provider.perm)

end Nephe.Accounts
