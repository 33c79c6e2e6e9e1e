import Nephe.Aws.Interfaces
import Nephe.Library.Runs

/-!
# Exact members and isolated interfaces

A call of `updateSecurityGroupMembers` that succeeds attaches its group to the
members and to nothing else, and the same call again has nothing left to do.

Over a run of calls an interface is never left without protection: as soon as
it carries a group that was made for an appliedTo group it carries groups of
the controller only, and before that it keeps a group of its own or the
default group of its VPC.
-/

namespace Nephe.Aws

open Library

/-! ## Exactness -/

/-- The member list names the instance or the interface. -/
def Listed (members : List CloudResource) (interfaceID instanceId : String) : Prop :=
  ∃ resource ∈ members,
    (resource.type = .virtualMachine ∧ resource.name.name = instanceId) ∨
      (resource.type = .networkInterface ∧ resource.name.name = interfaceID)

variable {groupCloudSgID groupCloudSgName vpcID vpcDefaultSgID interfaceID : String}
  {members : List CloudResource} {membershipOnly : Bool} {directory : Directory}
  {group : SecurityGroup} {interface : NetworkInterface} {account : Account}

theorem isMember_membersCall {instanceId : String}
    (lower : ∀ resource ∈ members, toLower resource.name.name = resource.name.name) :
    (membersCall groupCloudSgID groupCloudSgName vpcID members membershipOnly
        vpcDefaultSgID).IsMember interfaceID instanceId ↔
      Listed members interfaceID instanceId := by
  simp only [MembersCall.IsMember, membersCall, mem_findResources_fst, mem_findResources_snd,
    Listed]
  constructor
  · rintro (⟨resource, member, type, named⟩ | ⟨resource, member, type, named⟩)
    · exact ⟨resource, member, .inl ⟨type, (lower resource member).symm.trans named⟩⟩
    · exact ⟨resource, member, .inr ⟨type, (lower resource member).symm.trans named⟩⟩
  · rintro ⟨resource, member, ⟨type, named⟩ | ⟨type, named⟩⟩
    · exact .inl ⟨resource, member, type, (lower resource member).trans named⟩
    · exact .inr ⟨resource, member, type, (lower resource member).trans named⟩

/-- What a call for a group makes of an interface of its VPC. -/
structure Updated (directory : Directory) (group : SecurityGroup)
    (members : List CloudResource) (interfaceID : String)
    (before after : NetworkInterface) : Prop where
  exact : ∀ instanceId, before.instance? = some instanceId →
    (group.groupId ∈ after.groups ↔ Listed members interfaceID instanceId)
  others : ∀ groupId, groupId ≠ group.groupId → directory.isNephe groupId = true →
    (groupId ∈ after.groups ↔ groupId ∈ before.groups)
  unattached : before.instance? = none → after = before

theorem MembersCall.Proper.updated
    (proper : (membersCall group.groupId group.groupName group.vpcId members membershipOnly
      vpcDefaultSgID).Proper directory)
    (lower : ∀ resource ∈ members, toLower resource.name.name = resource.name.name)
    (holds : directory.Holds interface) (vpc : interface.vpcId = group.vpcId) :
    Updated directory group members interfaceID interface
      ((membersCall group.groupId group.groupName group.vpcId members membershipOnly
        vpcDefaultSgID).refreshed directory interfaceID interface) where
  exact instanceId running := by
    refine (proper.mem_refreshed holds vpc running proper.isNephe_group).trans ?_
    rw [isMember_membersCall lower]
    simp
  others groupId other nephe := by
    cases running : interface.instance? with
    | none => rw [refreshed_of_unattached running]
    | some instanceId =>
      rw [proper.mem_refreshed holds vpc running nephe]
      simp [membersCall, other]
  unattached := refreshed_of_unattached

/-- A refreshed interface needs no second modification. -/
theorem MembersCall.Proper.sgsToAttach_refreshed {call : MembersCall}
    (proper : call.Proper directory) (holds : directory.Holds interface)
    (vpc : interface.vpcId = call.vpcID) :
    call.sgsToAttach directory interfaceID
      (call.refreshed directory interfaceID interface) = none := by
  cases running : interface.instance? with
  | none => exact sgsToAttach_of_unattached (refreshed_instance.trans running)
  | some instanceId =>
    rw [proper.sgsToAttach_eq_none (proper.holds_refreshed holds) (refreshed_vpcId.trans vpc)
        (refreshed_instance.trans running),
      proper.mem_refreshed holds vpc running proper.isNephe_group]
    simp

theorem updateSecurityGroupMembers_idle {answers : MembersAnswers}
    (described : answers.describeNetworkInterfaces = none)
    (cached : account.vpcIDToDefaultSecurityGroup.get? vpcID = some vpcDefaultSgID)
    (settled : (membersCall groupCloudSgID groupCloudSgName vpcID members membershipOnly
      vpcDefaultSgID).networkInterfacesToModify account = []) :
    updateSecurityGroupMembers answers groupCloudSgID groupCloudSgName vpcID members
      membershipOnly account = (.ok (), account) := by
  have looked : getVpcDefaultSecurityGroupID answers.describeDefault vpcID account =
      .ok (vpcDefaultSgID, account) := by
    simp only [getVpcDefaultSecurityGroupID, cached]
  simp only [updateSecurityGroupMembers, described, looked, settled]
  rfl

/--
After a call that succeeds the group is attached to its members and to no other
interface, the other groups of the controller are where they were, and the same
call would have nothing left to do, whatever EC2 would answer to a modification.
-/
theorem members_are_exact {account : Account} (valid : account.Valid)
    {group : SecurityGroup} (member : group ∈ account.directory.groups)
    (lowerName : toLower group.groupName = group.groupName)
    (nephe : isNepheName group.groupName = true) {members : List CloudResource}
    (lowerMembers : ∀ resource ∈ members, toLower resource.name.name = resource.name.name)
    (membershipOnly : Bool) {answers : MembersAnswers} {after : Account}
    (succeeded : updateSecurityGroupMembers answers group.groupId group.groupName group.vpcId
      members membershipOnly account = (.ok (), after)) :
    (∀ interfaceID, (account.networkInterfaces.get? interfaceID = none ∧
        after.networkInterfaces.get? interfaceID = none) ∨
      ∃ before now, account.networkInterfaces.get? interfaceID = some before ∧
        after.networkInterfaces.get? interfaceID = some now ∧
        (before.vpcId = group.vpcId →
          Updated account.directory group members interfaceID before now) ∧
        (before.vpcId ≠ group.vpcId → now = before)) ∧
    ∀ again : MembersAnswers, again.describeNetworkInterfaces = none →
      updateSecurityGroupMembers again group.groupId group.groupName group.vpcId
        members membershipOnly after = (.ok (), after) := by
  obtain ⟨vpcDefaultSgID, account', looked, directory, cache, interfaces⟩ :=
    updateSecurityGroupMembers_ok (congrArg Prod.fst succeeded)
  rw [succeeded] at directory cache interfaces
  have proper := valid.proper looked member rfl lowerName nephe members membershipOnly
  refine ⟨fun interfaceID => ?_, fun again described => ?_⟩
  · rw [interfaces interfaceID]
    cases found : account.networkInterfaces.get? interfaceID with
    | none => exact .inl ⟨rfl, rfl⟩
    | some before =>
      refine .inr ⟨before, _, rfl, rfl, fun vpc => ?_, fun elsewhere => ?_⟩
      · exact proper.updated lowerMembers (valid.holds interfaceID before found) vpc
      · exact if_neg elsewhere
  · refine updateSecurityGroupMembers_idle described
      (cache ▸ (getVpcDefaultSecurityGroupID_ok looked).1) ?_
    rw [List.eq_nil_iff_forall_not_mem]
    rintro ⟨interfaceID, sgs⟩ listed
    obtain ⟨now, found, vpc, modified⟩ := MembersCall.mem_networkInterfacesToModify.mp listed
    rw [interfaces interfaceID, Option.map_eq_some_iff] at found
    obtain ⟨before, found, rfl⟩ := found
    rw [directory, proper.sgsToAttach_refreshed (valid.holds interfaceID before found)
      (MembersCall.refreshed_vpcId.symm.trans vpc)] at modified
    cases modified

/-- Every request is carried out. -/
def MembersAnswers.all : MembersAnswers := ⟨none, none, none, fun _ => none⟩

/-- A VPC with its default group and one group of each kind, and an interface in it. -/
def sampleAccount : Account where
  directory :=
    { groups := [⟨"sg-0", "default", "vpc-1", [], []⟩, ⟨"sg-1", "nephe-at-web", "vpc-1", [], []⟩,
        ⟨"sg-2", "nephe-ag-db", "vpc-1", [], []⟩]
      ids := by decide
      names := by decide }
  networkInterfaces :=
    (∅ : GoMap String NetworkInterface).set "eni-1"
      ⟨"vpc-1", some (some "i-1"), ["sg-0"], by decide⟩
  vpcIDToDefaultSecurityGroup := ∅

theorem sampleAccount_interfaces
    (found : sampleAccount.networkInterfaces.get? interfaceID = some interface) :
    interface = ⟨"vpc-1", some (some "i-1"), ["sg-0"], by decide⟩ := by
  rw [sampleAccount, GoMap.get?_set] at found
  split at found
  next => cases found; rfl
  next => cases found

theorem sampleAccount_valid : sampleAccount.Valid := by
  refine ⟨fun interfaceID interface found => ?_, fun vpcID sgID found => ?_⟩
  · rw [sampleAccount_interfaces found]
    unfold Directory.Holds
    decide
  · cases found

theorem sample_members_are_exact :
    updateSecurityGroupMembers ⟨none, none, none, fun _ => some "refused"⟩ "sg-1" "nephe-at-web"
        "vpc-1" [⟨.virtualMachine, ⟨"i-1", "vpc-1"⟩⟩] false
        (updateSecurityGroupMembers .all "sg-1" "nephe-at-web" "vpc-1"
          [⟨.virtualMachine, ⟨"i-1", "vpc-1"⟩⟩] false sampleAccount).2 =
      (.ok (), (updateSecurityGroupMembers .all "sg-1" "nephe-at-web" "vpc-1"
        [⟨.virtualMachine, ⟨"i-1", "vpc-1"⟩⟩] false sampleAccount).2) := by
  have member : ⟨"sg-1", "nephe-at-web", "vpc-1", [], []⟩ ∈ sampleAccount.directory.groups := by
    decide
  exact (members_are_exact sampleAccount_valid member (by decide) (by decide) (by decide) false
    (Prod.ext (by rfl) rfl)).2 ⟨none, none, none, fun _ => some "refused"⟩ rfl

/-! ## Isolation -/

/--
A set of attached groups leaves no gap: with a group for an appliedTo group there
are groups of the controller only, and without one some other group is left.
-/
structure Isolated (directory : Directory) (attached : String → Prop) : Prop where
  closed : ∀ groupId, attached groupId → directory.isAppliedTo groupId = true →
    ∀ other, attached other → directory.isNephe other = true
  opened : (∀ groupId, attached groupId → directory.isAppliedTo groupId = false) →
    ∃ other, attached other ∧ directory.isNephe other = false

/-- The only group for an appliedTo group. -/
theorem length_filter_appliedTo_eq_one {groups : List String} (distinct : groups.Nodup)
    {groupId : String} (member : groupId ∈ groups)
    (applied : directory.isAppliedTo groupId = true) :
    (groups.filter directory.isAppliedTo).length = 1 ↔
      ∀ other ∈ groups, directory.isAppliedTo other = true → other = groupId := by
  have there : groupId ∈ groups.filter directory.isAppliedTo :=
    List.mem_filter.mpr ⟨member, applied⟩
  constructor
  · intro one other member' applied'
    obtain ⟨single, eq⟩ := List.length_eq_one_iff.mp one
    have there' : other ∈ groups.filter directory.isAppliedTo :=
      List.mem_filter.mpr ⟨member', applied'⟩
    rw [eq, List.mem_singleton] at there there'
    rw [there, there']
  · intro only
    have all : ∀ other ∈ groups.filter directory.isAppliedTo, other = groupId := fun other there =>
      only other (List.mem_filter.mp there).1 (List.mem_filter.mp there).2
    have replicated := List.eq_replicate_of_mem all
    have bound : (groups.filter directory.isAppliedTo).length ≤ 1 := by
      have unique := distinct.filter directory.isAppliedTo
      rw [replicated] at unique
      exact List.nodup_replicate.mp unique
    exact le_antisymm bound (List.length_pos_of_mem there)

namespace MembersCall

variable {call : MembersCall} {directory : Directory} {interface : NetworkInterface}
  {interfaceID instanceId : String}

/-- Address groups leave the appliedTo groups alone, and the foreign groups as long as they may. -/
theorem Proper.isolated_addressGroup (proper : call.Proper directory)
    (holds : directory.Holds interface) (vpc : interface.vpcId = call.vpcID)
    (running : interface.instance? = some instanceId) (membershipOnly : call.membershipOnly = true)
    (kind : isAppliedToName call.groupCloudSgName = false)
    (isolated : Isolated directory (· ∈ interface.groups)) {sgs : GoSet String}
    (modified : call.sgsToAttach directory interfaceID interface = some sgs) :
    Isolated directory (· ∈ sgs) := by
  have mem (groupId : String) : groupId ∈ sgs ↔ _ :=
    proper.mem_sgsToAttach holds vpc running modified
  have applied (groupId : String) (applied : directory.isAppliedTo groupId = true) :
      groupId ∈ sgs ↔ groupId ∈ interface.groups := by
    have other : groupId ≠ call.groupCloudSgID := by
      rintro rfl
      rw [proper.isAppliedTo_group, kind] at applied
      cases applied
    rw [mem]
    simp [Directory.isNephe_of_isAppliedTo applied, other]
  constructor
  · intro groupId attached here other attached'
    rcases (mem other).mp attached' with nephe | ⟨-, bare | last⟩
    · exact nephe.1
    · rw [bare.2.1 groupId ((applied groupId here).mp attached)] at here
      cases here
    · rw [membershipOnly] at last
      cases last.1
  · intro none
    have bare : ∀ groupId ∈ interface.groups, directory.isAppliedTo groupId = false := by
      intro groupId attached
      by_contra here
      rw [Bool.not_eq_false] at here
      rw [none groupId ((applied groupId here).mpr attached)] at here
      cases here
    obtain ⟨other, attached, foreign⟩ := isolated.opened bare
    exact ⟨other, (mem other).mpr (.inr ⟨foreign, .inl ⟨membershipOnly, bare, .inl attached⟩⟩),
      foreign⟩

/--
The first appliedTo group drives out the foreign groups, the last one brings the default
back.
-/
theorem Proper.isolated_appliedToGroup (proper : call.Proper directory)
    (holds : directory.Holds interface) (vpc : interface.vpcId = call.vpcID)
    (running : interface.instance? = some instanceId)
    (membershipOnly : call.membershipOnly = false)
    (kind : isAppliedToName call.groupCloudSgName = true) {sgs : GoSet String}
    (modified : call.sgsToAttach directory interfaceID interface = some sgs) :
    Isolated directory (· ∈ sgs) := by
  have mem (groupId : String) : groupId ∈ sgs ↔ _ :=
    proper.mem_sgsToAttach holds vpc running modified
  have own : directory.isAppliedTo call.groupCloudSgID = true :=
    proper.isAppliedTo_group.trans kind
  have changed : ¬ (call.groupCloudSgID ∈ interface.groups ↔
      call.IsMember interfaceID instanceId) := by
    rw [← proper.sgsToAttach_eq_none holds vpc running, modified]
    exact Option.some_ne_none _
  by_cases last : call.groupCloudSgID ∈ interface.groups ∧
      (interface.groups.filter directory.isAppliedTo).length = 1
  · obtain ⟨attached, one⟩ := last
    have stranger : ¬ call.IsMember interfaceID instanceId := fun member =>
      changed ⟨fun _ => member, fun _ => attached⟩
    have only := (length_filter_appliedTo_eq_one interface.distinct attached own).mp one
    constructor
    · intro groupId attached' applied
      rcases (mem groupId).mp attached' with ⟨-, ⟨-, member⟩ | ⟨other, there⟩⟩ | foreign
      · exact absurd member stranger
      · exact absurd (only groupId there applied) other
      · rw [Directory.isNephe_of_isAppliedTo applied] at foreign
        cases foreign.1
    · intro _
      exact ⟨call.vpcDefaultSgID, (mem _).mpr (.inr ⟨proper.isNephe_default,
        .inr ⟨membershipOnly, attached, one, rfl⟩⟩), proper.isNephe_default⟩
  · -- No foreign group is kept, and one appliedTo group is left or has just come.
    have nephe : ∀ other, other ∈ sgs → directory.isNephe other = true := by
      intro other attached
      rcases (mem other).mp attached with nephe | ⟨-, bare | fallen⟩
      · exact nephe.1
      · rw [membershipOnly] at bare
        cases bare.1
      · exact absurd ⟨fallen.2.1, fallen.2.2.1⟩ last
    refine ⟨fun _ _ _ => nephe, fun none => ?_⟩
    obtain ⟨groupId, attached, applied⟩ :
        ∃ groupId, groupId ∈ sgs ∧ directory.isAppliedTo groupId = true := by
      by_cases attached : call.groupCloudSgID ∈ interface.groups
      · have more : ¬ ∀ other ∈ interface.groups, directory.isAppliedTo other = true →
            other = call.groupCloudSgID := fun only => last ⟨attached,
          (length_filter_appliedTo_eq_one interface.distinct attached own).mpr only⟩
        push Not at more
        obtain ⟨other, there, applied, different⟩ := more
        exact ⟨other, (mem other).mpr (.inl ⟨Directory.isNephe_of_isAppliedTo applied,
          .inr ⟨different, there⟩⟩), applied⟩
      · have member : call.IsMember interfaceID instanceId := by
          by_contra stranger
          exact changed ⟨fun there => absurd there attached, fun member => absurd member stranger⟩
        exact ⟨_, (mem _).mpr (.inl ⟨proper.isNephe_group, .inl ⟨rfl, member⟩⟩), own⟩
    rw [none groupId attached] at applied
    cases applied

/-- A modification isolates the interface, whichever group it is for. -/
theorem Proper.isolated_sgsToAttach (proper : call.Proper directory)
    (kind : isAppliedToName call.groupCloudSgName = !call.membershipOnly)
    (holds : directory.Holds interface) (vpc : interface.vpcId = call.vpcID)
    (running : interface.instance? = some instanceId)
    (isolated : Isolated directory (· ∈ interface.groups)) {sgs : GoSet String}
    (modified : call.sgsToAttach directory interfaceID interface = some sgs) :
    Isolated directory (· ∈ sgs) := by
  cases membershipOnly : call.membershipOnly with
  | true =>
    rw [membershipOnly] at kind
    exact proper.isolated_addressGroup holds vpc running membershipOnly kind isolated modified
  | false =>
    rw [membershipOnly] at kind
    exact proper.isolated_appliedToGroup holds vpc running membershipOnly kind modified

theorem Isolated.nonempty {attached : String → Prop} (isolated : Isolated directory attached) :
    ∃ groupId, attached groupId := by
  by_contra empty
  push Not at empty
  obtain ⟨other, there, -⟩ := isolated.opened fun groupId there => absurd there (empty groupId)
  exact empty other there

theorem Proper.isolated_refreshed (proper : call.Proper directory)
    (kind : isAppliedToName call.groupCloudSgName = !call.membershipOnly)
    (holds : directory.Holds interface)
    (running : interface.instance? = some instanceId)
    (isolated : Isolated directory (· ∈ interface.groups)) :
    Isolated directory (· ∈ (call.refreshed directory interfaceID interface).groups) := by
  by_cases vpc : interface.vpcId = call.vpcID
  · cases modified : call.sgsToAttach directory interfaceID interface with
    | none =>
      rw [refreshed, if_pos vpc, modified]
      exact isolated
    | some sgs =>
      have after := proper.isolated_sgsToAttach kind holds vpc running isolated modified
      have filled : ¬ ∀ key, key ∉ sgs := by
        obtain ⟨key, there⟩ := Isolated.nonempty after
        exact fun absent => absent key there
      have same (groupId : String) : groupId ∈ (call.refreshed directory interfaceID
          interface).groups ↔ groupId ∈ sgs := by
        rw [refreshed_of_modified vpc modified, mem_carrying, mem_orDefault]
        simp only [filled, false_and, or_false]
      simpa only [same] using after
  · rw [refreshed, if_neg vpc]
    exact isolated

end MembersCall

/-! ## Runs -/

/-- One call of `awsCloud.UpdateSecurityGroupMembers`. -/
structure MembersUpdate where
  groupIdentifier : CloudResourceID
  cloudResourceIdentifiers : List CloudResource
  membershipOnly : Bool

/-- The account after a call all of whose requests are carried out. -/
def MembersUpdate.step (account : Account) (update : MembersUpdate) : Account :=
  (awsUpdateSecurityGroupMembers .all update.groupIdentifier update.cloudResourceIdentifiers
    update.membershipOnly account).2

/-- No request fails, so no error is put together. -/
theorem foldl_modifyInterface_all (call : MembersCall) (errors : List String)
    (cached : account.vpcIDToDefaultSecurityGroup.get? call.vpcID = some call.vpcDefaultSgID)
    (toModify : List (String × GoSet String)) :
    (toModify.foldl (modifyInterface .all call.vpcID) (errors, account)).1 = errors := by
  induction toModify generalizing account with
  | nil => rfl
  | cons entry rest induction =>
    rw [List.foldl_cons, modifyInterface, updateNetworkInterfaceSecurityGroups_eq cached]
    simp only [MembersAnswers.all, Option.toList_none, List.append_nil]
    exact induction cached

theorem updateSecurityGroupMembers_all {found : String × Account}
    (looked : getVpcDefaultSecurityGroupID none vpcID account = .ok found) :
    (updateSecurityGroupMembers .all groupCloudSgID groupCloudSgName vpcID members
      membershipOnly account).1 = .ok () := by
  have quiet := foldl_modifyInterface_all (membersCall groupCloudSgID groupCloudSgName vpcID
    members membershipOnly found.1) [] (getVpcDefaultSecurityGroupID_ok looked).1
  have described : MembersAnswers.all.describeNetworkInterfaces = none := rfl
  have default : MembersAnswers.all.describeDefault = none := rfl
  simp only [updateSecurityGroupMembers, described, default, looked]
  exact if_pos (List.isEmpty_iff.mpr (quiet _))

/-- What a call in a run does: nothing, or it succeeds for a group of the directory. -/
theorem MembersUpdate.step_cases (account : Account) (update : MembersUpdate) :
    update.step account = account ∨
      ∃ group ∈ account.directory.groups, group.vpcId = update.groupIdentifier.vpc ∧
        group.groupName = update.groupIdentifier.getCloudName update.membershipOnly ∧
        updateSecurityGroupMembers .all group.groupId group.groupName group.vpcId
          update.cloudResourceIdentifiers update.membershipOnly account =
            (.ok (), update.step account) := by
  unfold step awsUpdateSecurityGroupMembers
  simp only [MembersAnswers.all]
  split
  next => exact .inl rfl
  next group found =>
    obtain ⟨member, vpc, named, -⟩ := mem_of_getCloudSecurityGroups found
    rw [List.mem_singleton] at vpc named
    rw [← vpc, ← named]
    -- A VPC without a default group ends the call before anything is modified.
    cases looked : getVpcDefaultSecurityGroupID none group.vpcId account with
    | error error =>
      refine .inl ?_
      simp only [updateSecurityGroupMembers, looked]
    | ok result =>
      exact .inr ⟨group, member, rfl, rfl, Prod.ext (updateSecurityGroupMembers_all looked) rfl⟩

/-- What holds of an account throughout a run. -/
structure Account.Guarded (account : Account) : Prop where
  valid : account.Valid
  isolated : ∀ interfaceID interface,
    account.networkInterfaces.get? interfaceID = some interface →
    interface.instance?.isSome = true → Isolated account.directory (· ∈ interface.groups)

/-- A call for a group that was found under its cloud name. -/
theorem Account.Valid.proper_update {account' : Account} (valid : account.Valid)
    {describeDefault : Option String} {sgID : String}
    (looked : getVpcDefaultSecurityGroupID describeDefault group.vpcId account =
      .ok (sgID, account')) (member : group ∈ account.directory.groups) {update : MembersUpdate}
    (named : group.groupName = update.groupIdentifier.getCloudName update.membershipOnly) :
    (membersCall group.groupId group.groupName group.vpcId update.cloudResourceIdentifiers
        update.membershipOnly sgID).Proper account.directory ∧
      isAppliedToName group.groupName = !update.membershipOnly := by
  refine ⟨valid.proper looked member rfl ?_ ?_ _ _, ?_⟩
  · rw [named, CloudResourceID.toLower_getCloudName]
  · rw [named, CloudResourceID.isNephe_getCloudName]
  · rw [named, CloudResourceID.isAppliedTo_getCloudName]

theorem Account.Guarded.step (guarded : account.Guarded) (update : MembersUpdate) :
    (update.step account).Guarded := by
  rcases update.step_cases account with same | ⟨group, member, -, named, succeeded⟩
  · rw [same]
    exact guarded
  · obtain ⟨vpcDefaultSgID, account', looked, directory, cache, interfaces⟩ :=
      updateSecurityGroupMembers_ok (congrArg Prod.fst succeeded)
    rw [succeeded] at directory cache interfaces
    obtain ⟨proper, kind⟩ := guarded.valid.proper_update looked member named
    have refreshed (interfaceID : String) (interface : NetworkInterface)
        (found : (update.step account).networkInterfaces.get? interfaceID = some interface) :
        ∃ before, account.networkInterfaces.get? interfaceID = some before ∧
          (membersCall group.groupId group.groupName group.vpcId update.cloudResourceIdentifiers
            update.membershipOnly vpcDefaultSgID).refreshed account.directory interfaceID before =
              interface := by
      rw [interfaces interfaceID, Option.map_eq_some_iff] at found
      exact found
    refine ⟨⟨fun interfaceID interface found => ?_, ?_⟩,
      fun interfaceID interface found running => ?_⟩
    · obtain ⟨before, known, rfl⟩ := refreshed interfaceID interface found
      rw [directory]
      exact proper.holds_refreshed (guarded.valid.holds interfaceID before known)
    · rw [directory, cache]
      exact guarded.valid.getVpcDefault looked
    · obtain ⟨before, known, rfl⟩ := refreshed interfaceID interface found
      rw [MembersCall.refreshed_instance] at running
      obtain ⟨instanceId, running⟩ := Option.isSome_iff_exists.mp running
      rw [directory]
      exact proper.isolated_refreshed kind (guarded.valid.holds interfaceID before known) running
        (guarded.isolated interfaceID before known (by rw [running]; rfl))

theorem Account.Guarded.run (guarded : account.Guarded) (updates : List MembersUpdate) :
    (run MembersUpdate.step account updates).Guarded :=
  run_invariant Account.Guarded (fun _ update _ guarded => guarded.step update)
    (allowed_of_forall (fun _ _ => trivial) account updates) guarded

/-- The sets of groups that a call hands to `updateNetworkInterfaceSecurityGroups`. -/
def MembersUpdate.setsToAttach (update : MembersUpdate) (account : Account) :
    List (GoSet String) :=
  let groupCloudSgName := update.groupIdentifier.getCloudName update.membershipOnly
  let vpcID := update.groupIdentifier.vpc
  match (getCloudSecurityGroupsWithNameFromCloud [vpcID] [groupCloudSgName]
      account.directory).get? groupCloudSgName,
    getVpcDefaultSecurityGroupID none vpcID account with
  | some group, .ok (vpcDefaultSgID, account) =>
    ((membersCall group.groupId groupCloudSgName vpcID update.cloudResourceIdentifiers
      update.membershipOnly vpcDefaultSgID).networkInterfacesToModify account).map (·.2)
  | _, _ => []

theorem Account.Guarded.setsToAttach (guarded : account.Guarded) (update : MembersUpdate) :
    ∀ sgs ∈ update.setsToAttach account, sgs.keys ≠ [] := by
  intro sgs member
  simp only [MembersUpdate.setsToAttach] at member
  split at member
  next group vpcDefaultSgID account' found looked =>
    obtain ⟨⟨interfaceID, sgs⟩, listed, rfl⟩ := List.mem_map.mp member
    obtain ⟨known, vpc, named, -⟩ := mem_of_getCloudSecurityGroups found
    rw [List.mem_singleton] at vpc named
    rw [← vpc] at looked
    rw [← vpc, ← named] at listed
    obtain ⟨-, directory, interfaces⟩ := getVpcDefaultSecurityGroupID_ok looked
    obtain ⟨proper, kind⟩ := guarded.valid.proper_update looked known named
    obtain ⟨interface, attached, inVpc, modified⟩ :=
      MembersCall.mem_networkInterfacesToModify.mp listed
    rw [interfaces] at attached
    rw [directory] at modified
    cases running : interface.instance? with
    | none =>
      rw [MembersCall.sgsToAttach_of_unattached running] at modified
      cases modified
    | some instanceId =>
      have isolated := proper.isolated_sgsToAttach kind
        (guarded.valid.holds _ _ attached) inVpc running
        (guarded.isolated _ _ attached (by rw [running]; rfl)) modified
      obtain ⟨groupId, there⟩ := MembersCall.Isolated.nonempty isolated
      exact fun empty => GoSet.keys_eq_nil.mp empty groupId there
  next => cases member

/--
Interfaces that carry foreign groups only are isolated after every run of calls,
for any groups and any members.  In every state reached, the sets that a further
call computes are not empty, so that none of them is replaced by the default group.
-/
theorem interfaces_stay_isolated {account : Account} (valid : account.Valid)
    (foreign : ∀ interfaceID interface,
      account.networkInterfaces.get? interfaceID = some interface →
      interface.instance?.isSome = true → interface.groups ≠ [] ∧
        ∀ groupId ∈ interface.groups, account.directory.isNephe groupId = false)
    (updates : List MembersUpdate) :
    (∀ interfaceID interface,
      (run MembersUpdate.step account updates).networkInterfaces.get? interfaceID =
          some interface →
      interface.instance?.isSome = true →
        Isolated (run MembersUpdate.step account updates).directory (· ∈ interface.groups)) ∧
    ∀ update : MembersUpdate,
      ∀ sgs ∈ update.setsToAttach (run MembersUpdate.step account updates), sgs.keys ≠ [] := by
  have guarded : account.Guarded := by
    refine ⟨valid, fun interfaceID interface found running => ?_⟩
    obtain ⟨filled, others⟩ := foreign interfaceID interface found running
    refine ⟨fun groupId there applied => ?_, fun _ => ?_⟩
    · have nephe := Directory.isNephe_of_isAppliedTo applied
      rw [others groupId there] at nephe
      cases nephe
    · obtain ⟨groupId, there⟩ := List.exists_mem_of_ne_nil _ filled
      exact ⟨groupId, there, others groupId there⟩
  have guarded := guarded.run updates
  exact ⟨guarded.isolated, guarded.setsToAttach⟩

theorem sample_interface_stays_isolated :
    Isolated (run MembersUpdate.step sampleAccount
        [⟨⟨"web", "vpc-1"⟩, [⟨.virtualMachine, ⟨"i-1", "vpc-1"⟩⟩], false⟩,
          ⟨⟨"db", "vpc-1"⟩, [⟨.virtualMachine, ⟨"i-1", "vpc-1"⟩⟩], true⟩]).directory
      (· ∈ ["sg-2", "sg-1"]) := by
  have isolated := (interfaces_stay_isolated sampleAccount_valid
    (fun interfaceID interface found _ => by
      rw [sampleAccount_interfaces found]
      decide)
    [⟨⟨"web", "vpc-1"⟩, [⟨.virtualMachine, ⟨"i-1", "vpc-1"⟩⟩], false⟩,
      ⟨⟨"db", "vpc-1"⟩, [⟨.virtualMachine, ⟨"i-1", "vpc-1"⟩⟩], true⟩]).1
  exact isolated "eni-1" ⟨"vpc-1", some (some "i-1"), ["sg-2", "sg-1"], by decide⟩
    (by decide +kernel) rfl

end Nephe.Aws
