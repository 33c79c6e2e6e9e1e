import Nephe.Azure.Membership

/-!
# Which ASG stands for a group

The operations on a group compute the cloud name of its ASG each by itself: creating the
group, updating its members, removing the rules that refer to it and deleting it
(`azure_security.go`).  They agree when each of them touches nothing but the ASG and the
tag with the cloud name of the group.
-/

namespace Nephe.Azure

open Library

/-! ## Creating a group -/

/-- `createOrGetApplicationSecurityGroup`; Azure gives a new ASG the given id. -/
def createOrGetApplicationSecurityGroup (account : Account) (faults : Faults)
    (rgName cloudAsgName newID : String) : Except String String × Account :=
  match faults.getAsg with
  | some err => (.error err, account)
  | none =>
    match account.asgs.get? (rgName, cloudAsgName) with
    | some asg => (.ok (toLower asg.id), account)
    | none =>
      match faults.createAsg with
      | some err => (.error err, account)
      | none => (.ok (toLower newID), { account with
          asgs := account.asgs.set (rgName, cloudAsgName) ⟨newID, cloudAsgName⟩ })

/-- `createOrGetNetworkSecurityGroup`; Azure gives a new NSG the given id. -/
def createOrGetNetworkSecurityGroup (account : Account) (faults : Faults)
    (rgName cloudSgName newID : String) : Except String String × Account :=
  match faults.getNsg with
  | some err => (.error err, account)
  | none =>
    match account.nsgs.get? (rgName, cloudSgName) with
    | some nsg => (.ok (toLower nsg.id), account)
    | none =>
      match faults.createNsg with
      | some err => (.error err, account)
      | none => (.ok (toLower newID),
          { account with nsgs := account.nsgs.set (rgName, cloudSgName) ⟨newID, none⟩ })

/-- `CreateSecurityGroup`, once the account of the virtual network is found. -/
def createSecurityGroup (account : Account) (group : CloudResourceID) (membershipOnly : Bool)
    (faults : Faults) (newNsgID newAsgID : String) : Except String String × Account :=
  match extractFieldsFromAzureResourceID group.vpc with
  | .error err => (.error err, account)
  | .ok (_, rgName, _) =>
    if membershipOnly then
      let cloudAsgName := group.getCloudName true
      match createOrGetApplicationSecurityGroup account faults rgName cloudAsgName newAsgID with
      | (.error err, account) => (.error ("azure asg " ++ cloudAsgName ++
          " create failed for AG sg " ++ group.name ++ ", reason: " ++ err), account)
      | (.ok cloudSecurityGroupID, account) => (.ok cloudSecurityGroupID, account)
    else
      let cloudNsgName := perVnetNsgName group.vpc
      match createOrGetNetworkSecurityGroup account faults rgName cloudNsgName newNsgID with
      | (.error err, account) => (.error ("azure per vnet nsg " ++ cloudNsgName ++
          " create failed for AT sg " ++ appliedToSecurityGroupNamePerVnet ++ ", reason: " ++
          err), account)
      | (.ok cloudSecurityGroupID, account) =>
        let cloudAsgName := group.getCloudName false
        match createOrGetApplicationSecurityGroup account faults rgName cloudAsgName
          newAsgID with
        | (.error err, account) => (.error ("azure asg " ++ cloudAsgName ++
            " create failed for AT sg " ++ group.name ++ ", reason: " ++ err), account)
        | (.ok _, account) => (.ok cloudSecurityGroupID, account)

/-! ## Deleting a group -/

/-- `getAsgsToAdd`: the ASGs that stay, if any, and whether the named one was among them. -/
def getAsgsToAdd (asgs : List ApplicationSecurityGroup) (addrGroupNepheControllerName : String) :
    Option (List ApplicationSecurityGroup) × Bool :=
  let isNamed (asg : ApplicationSecurityGroup) : Bool :=
    (nameInID asg.id).any fun asgName => toLower asgName == addrGroupNepheControllerName
  let asgsToKeep := asgs.filter fun asg => (nameInID asg.id).isSome && !isNamed asg
  (if asgsToKeep.isEmpty then none else some asgsToKeep, asgs.any isNamed)

/-- One end of a rule: whether it refers to the ASG, and whether it refers to no other. -/
def removeReferences (asgName : String) (endpoint : Endpoint) : Bool × Bool :=
  let (asgsToKeep, updated) := getAsgsToAdd (endpoint.applicationSecurityGroups.getD []) asgName
  (updated, updated && asgsToKeep.isNone)

/-- `removeReferencesToSecurityGroup`; a rule that refers to other ASGs as well stays as it is. -/
def removeReferencesToSecurityGroup (isPeer : Bool) (account : Account) (id : CloudResourceID)
    (rgName : String) (membershipOnly : Bool) (faults : Faults) : Except String Unit × Account :=
  let nsgName := perVnetNsgName id.vpc
  match answer faults.getRules (account.nsgs.get? (rgName, nsgName)) with
  | .error err => (.error err, account)
  | .ok nsgObj =>
    match nsgObj.securityRules with
    | none => (.ok (), account)
    | some currentNsgRules =>
      let asgName := id.getCloudName (if isPeer then false else membershipOnly)
      let nsgUpdateRequired := currentNsgRules.any fun rule =>
        (removeReferences asgName rule.source).1 ||
          (removeReferences asgName rule.destination).1
      let rulesToKeep := currentNsgRules.filter fun rule =>
        !((removeReferences asgName rule.source).2 ||
          (removeReferences asgName rule.destination).2)
      if nsgUpdateRequired then
        match faults.writeRules with
        | some err => (.error err, account)
        | none => (.ok (), { account with
            nsgs := account.nsgs.set (rgName, nsgName) ⟨nsgObj.id, some rulesToKeep⟩ })
      else (.ok (), account)

/-- `DeleteSecurityGroup`, once the account of the virtual network is found. -/
def deleteSecurityGroup (isPeer : Bool) (account : Account) (group : CloudResourceID)
    (membershipOnly : Bool) (faults : Faults) : Except String Unit × Account :=
  let account := (updateSecurityGroupMembers isPeer account ⟨group, [], membershipOnly, faults⟩).2
  match extractFieldsFromAzureResourceID group.vpc with
  | .error err => (.error err, account)
  | .ok (_, rgName, _) =>
    match removeReferencesToSecurityGroup isPeer account group rgName membershipOnly faults with
    | (.error err, account) => (.error err, account)
    | (.ok (), account) =>
      let cloudAsgName := group.getCloudName (if isPeer then false else membershipOnly)
      match faults.deleteAsg with
      | some err => (.error err, account)
      | none => (.ok (), { account with asgs := account.asgs.remove (rgName, cloudAsgName) })

/-- `ifPeerProcessing`. -/
def ifPeerProcessing (vnetPeerIDs : List String) (cachedVnetIDs : GoSet String) : Bool :=
  vnetPeerIDs.any (· ∈ cachedVnetIDs)

/-! ## Agreement -/

/-- The rule refers to the ASG with this name. -/
def SecurityRule.RefersTo (rule : SecurityRule) (asgName : String) : Prop :=
  ∃ asg ∈ rule.source.applicationSecurityGroups.getD [] ++
    rule.destination.applicationSecurityGroups.getD [],
    ∃ name ∈ nameInID asg.id, toLower name = asgName

/-- An interface whose other ASGs and other tags are as before. -/
structure OthersKept (asgID : Option String) (tagKey : String) (before after : Interface) :
    Prop where
  asgs : ∀ id, (∀ own ∈ asgID, toLower id ≠ toLower own) →
    (id ∈ after.primaryAsgs ↔ id ∈ before.primaryAsgs)
  tags : ∀ key, key ≠ tagKey → after.tag key = before.tag key

/-- Nothing is touched but what has the cloud name of the group. -/
structure Confined (group : CloudResourceID) (membershipOnly : Bool) (before after : Account) :
    Prop where
  asgs : ∀ rgName name, name ≠ group.getCloudName membershipOnly →
    after.asgs.get? (rgName, name) = before.asgs.get? (rgName, name)
  interfaces : List.Forall₂
    (OthersKept ((before.asgOf group membershipOnly).map (·.id))
      (group.getCloudName membershipOnly))
    before.interfaces after.interfaces
  rules : ∀ key nsg, before.nsgs.get? key = some nsg → ∃ nsg', after.nsgs.get? key = some nsg' ∧
    ∀ rule ∈ nsg.securityRules.getD [], ¬rule.RefersTo (group.getCloudName membershipOnly) →
      rule ∈ nsg'.securityRules.getD []

/-- The operations agree on the ASG of the group. -/
structure Agree (isPeer : Bool) (group : CloudResourceID) (membershipOnly : Bool) : Prop where
  creates : ∀ account faults newNsgID newAsgID,
    Confined group membershipOnly account
      (createSecurityGroup account group membershipOnly faults newNsgID newAsgID).2 ∧
    ∀ id, (createSecurityGroup account group membershipOnly faults newNsgID newAsgID).1 = .ok id →
      ((createSecurityGroup account group membershipOnly faults newNsgID newAsgID).2.asgOf group
        membershipOnly).isSome
  updates : ∀ account members faults, Confined group membershipOnly account
    (updateSecurityGroupMembers isPeer account ⟨group, members, membershipOnly, faults⟩).2
  deletes : ∀ account faults,
    Confined group membershipOnly account
      (deleteSecurityGroup isPeer account group membershipOnly faults).2 ∧
    ((deleteSecurityGroup isPeer account group membershipOnly faults).1 = .ok () →
      (deleteSecurityGroup isPeer account group membershipOnly faults).2.asgOf group
        membershipOnly = none)
  /-- What a completed update attaches, the next one does not attach again. -/
  recognises : ∀ account members members' faults faults' plan plan', account.Named →
    planMembers account ⟨group, members, membershipOnly, faults⟩ isPeer = .ok (some plan) →
    faults.listInterfaces = none →
    (updateSecurityGroupMembers isPeer account ⟨group, members, membershipOnly, faults⟩).1 =
      .ok () →
    planMembers (updateSecurityGroupMembers isPeer account
      ⟨group, members, membershipOnly, faults⟩).2 ⟨group, members', membershipOnly, faults'⟩
      isPeer = .ok (some plan') →
    ∀ id ∈ plan.changes.toAttach, id ∉ plan'.changes.toAttach

/-- Azure has ids for resources of this name. -/
def Nameable (name : String) : Prop :=
  ∃ id, nameInID (toLower id) = some (toLower name)

/--
The group has no resource group to be looked for; or it is no address group of a virtual
network with peers, and the end of the id of the virtual network of an appliedTo group
without peers, which the name of the NSG ends with, is in lower case.
-/
def NamesAgree (isPeer : Bool) (group : CloudResourceID) (membershipOnly : Bool) : Prop :=
  ∀ fields, extractFieldsFromAzureResourceID group.vpc = .ok fields →
    match isPeer, membershipOnly with
    | true, true => False
    | true, false => True
    | false, true => True
    | false, false => Nameable (perVnetNsgName group.vpc) → Nameable (group.getCloudName false) →
        toLower (lastToken group.vpc) = lastToken group.vpc

/-! ## What one operation touches -/

theorem OthersKept.refl (asgID : Option String) (tagKey : String) (nic : Interface) :
    OthersKept asgID tagKey nic nic :=
  ⟨fun _ _ => Iff.rfl, fun _ _ => rfl⟩

theorem othersKept_asg (asgID tagKey : String) (isAttach : Bool) (nic : Interface) :
    OthersKept (some asgID) tagKey nic (updateNetworkInterfaceAsg asgID isAttach nic) where
  asgs _ other := mem_primaryAsgs_of_changed rfl (other asgID rfl)
  tags _ _ := rfl

theorem othersKept_nsg (nsgID asgID tagKey : String) (isAttach : Bool) (nic : Interface) :
    OthersKept (some asgID) tagKey nic
      (updateNetworkInterfaceNsg nsgID asgID tagKey isAttach nic) where
  asgs _ other := mem_primaryAsgs_of_changed rfl (other asgID rfl)
  tags key other := by
    cases isAttach with
    | true => rw [tag_attach, if_neg other]
    | false => rw [tag_detach, if_neg other]

section Operations

variable {isPeer : Bool} {group : CloudResourceID} {membershipOnly : Bool}

theorem NamesAgree.plan (agree : NamesAgree isPeer group membershipOnly) {account : Account}
    {members : List CloudResource} {faults : Faults} {plan : Plan}
    (planned : planMembers account ⟨group, members, membershipOnly, faults⟩ isPeer =
      .ok (some plan)) (isAttach : Bool) (nic : Interface) :
    OthersKept ((account.asgOf group membershipOnly).map (·.id))
      (group.getCloudName membershipOnly) nic (plan.update isAttach nic) := by
  obtain ⟨_, fields, parsed, kind⟩ := planMembers_eq_ok.mp planned
  have names := agree fields parsed
  rw [asgOf_eq parsed]
  cases isPeer with
  | true =>
    cases membershipOnly with
    | true => exact names.elim
    | false => cases kind
  | false =>
    cases membershipOnly with
    | true =>
      obtain ⟨_, made, ⟨⟩⟩ := kind
      obtain ⟨asg, ⟨_, found⟩, _, update⟩ := processAddressGroupMembership_eq_ok.mp made
      rw [found, update]
      exact othersKept_asg asg.id _ isAttach nic
    | false =>
      obtain ⟨_, made, ⟨⟩⟩ := kind
      obtain ⟨nsg, asg, _, ⟨_, found⟩, _, update⟩ := processAppliedToMembership_eq_ok.mp made
      rw [found, update]
      exact othersKept_nsg nsg.id asg.id _ isAttach nic

/-- Updating members changes interfaces only, and these only for the group. -/
theorem NamesAgree.update (agree : NamesAgree isPeer group membershipOnly) (account : Account)
    (members : List CloudResource) (faults : Faults) :
    ∃ change : Interface → Interface,
      (updateSecurityGroupMembers isPeer account ⟨group, members, membershipOnly, faults⟩).2 =
        { account with interfaces := account.interfaces.map change } ∧
      ∀ nic, OthersKept ((account.asgOf group membershipOnly).map (·.id))
        (group.getCloudName membershipOnly) nic (change nic) := by
  unfold updateSecurityGroupMembers
  cases planned : planMembers account ⟨group, members, membershipOnly, faults⟩ isPeer with
  | error err => exact ⟨id, by simp, OthersKept.refl _ _⟩
  | ok result =>
    cases result with
    | none => exact ⟨id, by simp, OthersKept.refl _ _⟩
    | some plan =>
      obtain ⟨change, updated, changes⟩ := exists_attachDetach account faults plan
      refine ⟨change, updated, fun nic => ?_⟩
      rcases changes nic with same | ⟨isAttach, changed⟩
      · rw [same]
        exact .refl _ _ nic
      · rw [changed]
        exact agree.plan planned isAttach nic

theorem confined_interfaces {account : Account} {change : Interface → Interface}
    (kept : ∀ nic, OthersKept ((account.asgOf group membershipOnly).map (·.id))
      (group.getCloudName membershipOnly) nic (change nic)) :
    List.Forall₂ (OthersKept ((account.asgOf group membershipOnly).map (·.id))
      (group.getCloudName membershipOnly)) account.interfaces
      (account.interfaces.map change) := by
  rw [List.forall₂_map_right_iff, List.forall₂_same]
  exact fun nic _ => kept nic

theorem Confined.refl (account : Account) : Confined group membershipOnly account account where
  asgs _ _ _ := rfl
  interfaces := List.forall₂_same.mpr fun nic _ => .refl _ _ nic
  rules _ nsg found := ⟨nsg, found, fun _ member _ => member⟩

theorem NamesAgree.updates (agree : NamesAgree isPeer group membershipOnly) (account : Account)
    (members : List CloudResource) (faults : Faults) : Confined group membershipOnly account
      (updateSecurityGroupMembers isPeer account ⟨group, members, membershipOnly, faults⟩).2 := by
  obtain ⟨change, updated, kept⟩ := agree.update account members faults
  rw [updated]
  exact ⟨fun _ _ _ => rfl, confined_interfaces kept,
    fun _ nsg found => ⟨nsg, found, fun _ member _ => member⟩⟩

theorem refersTo_of_dropped {asgName : String} {rule : SecurityRule}
    (dropped : ((removeReferences asgName rule.source).2 ||
      (removeReferences asgName rule.destination).2) = true) : rule.RefersTo asgName := by
  have named {endpoint : Endpoint} (gone : (removeReferences asgName endpoint).2 = true) :
      ∃ asg ∈ endpoint.applicationSecurityGroups.getD [],
        ∃ name ∈ nameInID asg.id, toLower name = asgName := by
    simp only [removeReferences, getAsgsToAdd, Bool.and_eq_true, List.any_eq_true,
      Option.any_eq_true, beq_iff_eq] at gone
    exact gone.1
  rcases Bool.or_eq_true_iff.mp dropped with source | destination
  · obtain ⟨asg, member, refers⟩ := named source
    exact ⟨asg, List.mem_append_left _ member, refers⟩
  · obtain ⟨asg, member, refers⟩ := named destination
    exact ⟨asg, List.mem_append_right _ member, refers⟩

/-- Removing references changes the rules of NSGs only. -/
theorem exists_removeReferences (isPeer : Bool) (account : Account) (group : CloudResourceID)
    (rgName : String) (membershipOnly : Bool) (faults : Faults) :
    ∃ nsgs, (removeReferencesToSecurityGroup isPeer account group rgName membershipOnly faults).2 =
        { account with nsgs := nsgs } ∧
      ∀ key nsg, account.nsgs.get? key = some nsg → ∃ nsg', nsgs.get? key = some nsg' ∧
        ∀ rule ∈ nsg.securityRules.getD [],
          ¬rule.RefersTo (group.getCloudName (if isPeer then false else membershipOnly)) →
            rule ∈ nsg'.securityRules.getD [] := by
  unfold removeReferencesToSecurityGroup
  generalize group.getCloudName (if isPeer then false else membershipOnly) = asgName
  have unchanged : ∀ key nsg, account.nsgs.get? key = some nsg →
      ∃ nsg', account.nsgs.get? key = some nsg' ∧ ∀ rule ∈ nsg.securityRules.getD [],
        ¬rule.RefersTo asgName → rule ∈ nsg'.securityRules.getD [] :=
    fun _ nsg found => ⟨nsg, found, fun _ member _ => member⟩
  cases read : answer faults.getRules (account.nsgs.get? (rgName, perVnetNsgName group.vpc)) with
  | error err =>
    simp only [read]
    exact ⟨_, rfl, unchanged⟩
  | ok nsgObj =>
    cases rules : nsgObj.securityRules with
    | none =>
      simp only [read, rules]
      exact ⟨_, rfl, unchanged⟩
    | some current =>
      simp only [read, rules]
      split
      next =>
        cases faults.writeRules with
        | some err => exact ⟨_, rfl, unchanged⟩
        | none =>
          refine ⟨_, rfl, fun key nsg found => ?_⟩
          rw [GoMap.get?_set]
          split
          next own =>
            have same : nsg = nsgObj := by
              rw [own, (answer_eq_ok.mp read).2] at found
              exact (Option.some.inj found).symm
            refine ⟨_, rfl, fun rule member kept => List.mem_filter.mpr ⟨?_, ?_⟩⟩
            · rwa [same, rules] at member
            · rw [Bool.not_eq_true', ← Bool.not_eq_true]
              exact fun dropped => kept (refersTo_of_dropped dropped)
          next => exact unchanged key nsg found
      next => exact ⟨_, rfl, unchanged⟩

theorem NamesAgree.deletes (agree : NamesAgree isPeer group membershipOnly) (account : Account)
    (faults : Faults) :
    Confined group membershipOnly account
      (deleteSecurityGroup isPeer account group membershipOnly faults).2 ∧
    ((deleteSecurityGroup isPeer account group membershipOnly faults).1 = .ok () →
      (deleteSecurityGroup isPeer account group membershipOnly faults).2.asgOf group
        membershipOnly = none) := by
  have updated := agree.updates account [] faults
  cases parsed : extractFieldsFromAzureResourceID group.vpc with
  | error err =>
    simp only [deleteSecurityGroup, parsed]
    exact ⟨updated, by simp⟩
  | ok fields =>
    -- The name of the ASG is that of the group in both cases.
    have name : group.getCloudName (if isPeer then false else membershipOnly) =
        group.getCloudName membershipOnly := by
      have names := agree fields parsed
      cases isPeer <;> cases membershipOnly <;> first | rfl | exact names.elim
    obtain ⟨change, same, kept⟩ := agree.update account [] faults
    obtain ⟨nsgs, removed, rules⟩ := exists_removeReferences isPeer
      { account with interfaces := account.interfaces.map change } group fields.2.1
      membershipOnly faults
    rw [name] at rules
    simp only [deleteSecurityGroup, parsed, same]
    cases finished : removeReferencesToSecurityGroup isPeer
        { account with interfaces := account.interfaces.map change } group fields.2.1
        membershipOnly faults with
    | mk result after =>
      rw [finished] at removed
      subst removed
      cases result with
      | error err => exact ⟨⟨fun _ _ _ => rfl, confined_interfaces kept, rules⟩, by simp⟩
      | ok =>
        cases faults.deleteAsg with
        | some err => exact ⟨⟨fun _ _ _ => rfl, confined_interfaces kept, rules⟩, by simp⟩
        | none =>
          refine ⟨⟨fun rgName other different => ?_, confined_interfaces kept, rules⟩,
            fun _ => ?_⟩
          · rw [name]
            exact GoMap.get?_remove_of_ne _ fun own => different (congrArg Prod.snd own)
          · rw [asgOf_eq parsed, name]
            exact GoMap.get?_remove_self _ _

/-! ## Creating -/

section Create

variable (account : Account) (faults : Faults) (rgName name newID : String)

theorem createOrGetApplicationSecurityGroup_frame :
    ∃ asgs, (createOrGetApplicationSecurityGroup account faults rgName name newID).2 =
        { account with asgs := asgs } ∧
      (∀ key, key ≠ (rgName, name) → asgs.get? key = account.asgs.get? key) ∧
      ∀ id, (createOrGetApplicationSecurityGroup account faults rgName name newID).1 = .ok id →
        (asgs.get? (rgName, name)).isSome := by
  unfold createOrGetApplicationSecurityGroup
  cases faults.getAsg with
  | some err => exact ⟨_, rfl, fun _ _ => rfl, by simp⟩
  | none =>
    cases found : account.asgs.get? (rgName, name) with
    | some asg =>
      exact ⟨_, rfl, fun _ _ => rfl, fun _ _ => by rw [found]; rfl⟩
    | none =>
      cases faults.createAsg with
      | some err => exact ⟨_, rfl, fun _ _ => rfl, by simp⟩
      | none =>
        refine ⟨_, rfl, fun key other => GoMap.get?_set_of_ne _ _ other, fun _ _ => ?_⟩
        rw [GoMap.get?_set_self]
        rfl

theorem createOrGetNetworkSecurityGroup_frame :
    ∃ nsgs, (createOrGetNetworkSecurityGroup account faults rgName name newID).2 =
        { account with nsgs := nsgs } ∧
      ∀ key nsg, account.nsgs.get? key = some nsg → nsgs.get? key = some nsg := by
  unfold createOrGetNetworkSecurityGroup
  cases faults.getNsg with
  | some err => exact ⟨_, rfl, fun _ _ found => found⟩
  | none =>
    cases found : account.nsgs.get? (rgName, name) with
    | some nsg =>
      exact ⟨_, rfl, fun _ _ found => found⟩
    | none =>
      cases faults.createNsg with
      | some err => exact ⟨_, rfl, fun _ _ found => found⟩
      | none =>
        refine ⟨_, rfl, fun key nsg present => ?_⟩
        rw [GoMap.get?_set_of_ne _ _ (by rintro rfl; rw [found] at present; cases present)]
        exact present

end Create

theorem confined_of_frame {account : Account} (rgName : String)
    {asgs : GoMap (String × String) ApplicationSecurityGroup}
    {nsgs : GoMap (String × String) NetworkSecurityGroup}
    (frame : ∀ key, key ≠ (rgName, group.getCloudName membershipOnly) →
      asgs.get? key = account.asgs.get? key)
    (kept : ∀ key nsg, account.nsgs.get? key = some nsg → nsgs.get? key = some nsg) :
    Confined group membershipOnly account { account with asgs := asgs, nsgs := nsgs } where
  asgs _ _ different := frame _ fun same => different (congrArg Prod.snd same)
  interfaces := List.forall₂_same.mpr fun nic _ => .refl _ _ nic
  rules key nsg found := ⟨nsg, kept key nsg found, fun _ member _ => member⟩

/-- Creating a group is confined to it, with peers and without. -/
theorem confined_createSecurityGroup (account : Account) (faults : Faults)
    (newNsgID newAsgID : String) :
    Confined group membershipOnly account
      (createSecurityGroup account group membershipOnly faults newNsgID newAsgID).2 ∧
    ∀ id, (createSecurityGroup account group membershipOnly faults newNsgID newAsgID).1 = .ok id →
      ((createSecurityGroup account group membershipOnly faults newNsgID newAsgID).2.asgOf group
        membershipOnly).isSome := by
  cases parsed : extractFieldsFromAzureResourceID group.vpc with
  | error err =>
    simp only [createSecurityGroup, parsed]
    exact ⟨.refl account, by simp⟩
  | ok fields =>
    cases membershipOnly with
    | true =>
      obtain ⟨asgs, after, frame, present⟩ := createOrGetApplicationSecurityGroup_frame account
        faults fields.2.1 (group.getCloudName true) newAsgID
      simp only [createSecurityGroup, parsed, if_true, asgOf_eq parsed]
      cases created : createOrGetApplicationSecurityGroup account faults fields.2.1
          (group.getCloudName true) newAsgID with
      | mk result account' =>
        rw [created] at after present
        subst after
        have confined := confined_of_frame _ frame fun _ _ found => found
        cases result with
        | error err => exact ⟨confined, by simp⟩
        | ok id => exact ⟨confined, fun _ _ => present id rfl⟩
    | false =>
      obtain ⟨nsgs, afterNsg, kept⟩ := createOrGetNetworkSecurityGroup_frame account faults
        fields.2.1 (perVnetNsgName group.vpc) newNsgID
      simp only [createSecurityGroup, parsed, Bool.false_eq_true, if_false, asgOf_eq parsed]
      cases createdNsg : createOrGetNetworkSecurityGroup account faults fields.2.1
          (perVnetNsgName group.vpc) newNsgID with
      | mk result account' =>
        rw [createdNsg] at afterNsg
        subst afterNsg
        cases result with
        | error err =>
          exact ⟨confined_of_frame fields.2.1 (fun _ _ => rfl) kept, by simp⟩
        | ok nsgID =>
          dsimp only
          obtain ⟨asgs, after, frame, present⟩ :=
            createOrGetApplicationSecurityGroup_frame { account with nsgs := nsgs } faults
              fields.2.1 (group.getCloudName false) newAsgID
          cases created : createOrGetApplicationSecurityGroup
              { account with nsgs := nsgs } faults fields.2.1 (group.getCloudName false)
              newAsgID with
          | mk result account' =>
            rw [created] at after present
            subst after
            have confined : Confined group false account
                { account with asgs := asgs, nsgs := nsgs } :=
              confined_of_frame _ frame kept
            cases result with
            | error err => exact ⟨confined, by simp⟩
            | ok id => exact ⟨confined, fun _ _ => present id rfl⟩

/-! ## Recognising what is attached -/

section Recognise

variable {account : Account} {members members' : List CloudResource} {faults faults' : Faults}
  {plan plan' : Plan} {id : String}
  (planned : planMembers account ⟨group, members, membershipOnly, faults⟩ isPeer =
    .ok (some plan)) (listed : faults.listInterfaces = none)
  (successful : (updateSecurityGroupMembers isPeer account
    ⟨group, members, membershipOnly, faults⟩).1 = .ok ())
  (attached : id ∈ plan.changes.toAttach)

include planned listed successful attached

/-- What is attached now and would be attached by the next update is not recognised. -/
theorem exists_unrecognised {asgID : String} (writes : Writes asgID plan.update)
    {isAttached : NetworkInterfaceTable → Except String Bool}
    (finished : findChanges isAttached (findResourcesBasedOnKind members').1
      (findResourcesBasedOnKind members').2 ((updateSecurityGroupMembers isPeer account
        ⟨group, members, membershipOnly, faults⟩).2.getNetworkInterfacesOfVnet group.vpc) =
        .ok plan'.changes)
    (again : id ∈ plan'.changes.toAttach) :
    ∃ nic : Interface, nic.HasPrimary ∧ isAttached (plan.update true nic).row = .ok false := by
  have after : (updateSecurityGroupMembers isPeer account
      ⟨group, members, membershipOnly, faults⟩).2 =
        { account with interfaces := account.interfaces.map plan.change } := by
    simp only [updateSecurityGroupMembers, planned] at successful ⊢
    exact attachDetach_eq listed successful
  obtain ⟨row, inRows, _, unattached, _, rfl⟩ := (mem_findChanges finished id).1.mp again
  rw [after] at inRows
  obtain ⟨changed, kept, rfl⟩ := List.mem_map.mp inRows
  obtain ⟨member, shown⟩ := List.mem_filter.mp kept
  obtain ⟨nic, _, rfl⟩ := List.mem_map.mp member
  have sameID : (plan.change nic).row.id = nic.id := (writes.change nic).id
  have change : plan.change nic = plan.update true nic := by
    rw [sameID] at attached
    rw [Plan.change, if_pos attached]
  rw [change] at unattached shown
  exact ⟨nic, (hasPrimary_of_changed (writes.asgs true nic)).mp (Bool.and_eq_true_iff.mp shown).1,
    unattached⟩

theorem NamesAgree.recognises (agree : NamesAgree isPeer group membershipOnly)
    (named : account.Named) (planned' : planMembers (updateSecurityGroupMembers isPeer account
      ⟨group, members, membershipOnly, faults⟩).2 ⟨group, members', membershipOnly, faults'⟩
      isPeer = .ok (some plan')) : id ∉ plan'.changes.toAttach := by
  intro again
  obtain ⟨_, fields, parsed, kind⟩ := planMembers_eq_ok.mp planned
  obtain ⟨_, fields', parsed', kind'⟩ := planMembers_eq_ok.mp planned'
  have names := agree fields parsed
  cases isPeer with
  | true =>
    cases membershipOnly with
    | true => exact names
    | false => cases kind
  | false =>
    cases membershipOnly with
    | true =>
      obtain ⟨_, made, ⟨⟩⟩ := kind
      obtain ⟨_, made', ⟨⟩⟩ := kind'
      obtain ⟨asg, ⟨_, found⟩, _, update⟩ := processAddressGroupMembership_eq_ok.mp made
      obtain ⟨_, _, finished, _⟩ := processAddressGroupMembership_eq_ok.mp made'
      have writes : Writes asg.id plan.update := by
        rw [update]
        exact writes_updateNetworkInterfaceAsg asg.id
      obtain ⟨nic, primary, unattached⟩ :=
        exists_unrecognised planned listed successful attached writes finished again
      have present : isAsgAttached (group.getCloudName true)
          (plan.update true nic).row = true := by
        refine isAsgAttached_row.mpr ⟨asg.id, ?_, ?_⟩
        · rw [primaryAsgs_of_changed (writes.asgs true nic) primary]
          simp [newAsgs]
        · rw [named.asg _ _ _ found, group.toLower_getCloudName]
      rw [present] at unattached
      cases unattached
    | false =>
      obtain ⟨_, made, ⟨⟩⟩ := kind
      obtain ⟨_, made', ⟨⟩⟩ := kind'
      obtain ⟨nsg, asg, ⟨_, foundNsg⟩, ⟨_, found⟩, _, update⟩ :=
        processAppliedToMembership_eq_ok.mp made
      obtain ⟨_, _, _, _, finished, _⟩ := processAppliedToMembership_eq_ok.mp made'
      have writes : Writes asg.id plan.update := by
        rw [update]
        exact writes_updateNetworkInterfaceNsg nsg.id asg.id _
      obtain ⟨nic, _, unattached⟩ :=
        exists_unrecognised planned listed successful attached writes finished again
      have lower := names ⟨nsg.id, named.nsg _ _ _ foundNsg⟩ ⟨asg.id, named.asg _ _ _ found⟩
      refine Bool.false_ne_true ((isNsgAttached_row unattached).mpr ⟨⟨nsg.id, ?_, ?_⟩, ?_⟩)
      · rw [update]
        rfl
      · rw [named.nsg _ _ _ foundNsg, toLower_perVnetNsgName.mpr lower]
      · rw [update, tag_attach, if_pos rfl]
        rfl

end Recognise

/-! ## Where they do not agree -/

/-- An account with one ASG and one NSG, for the appliedTo group. -/
def accountOf (group : CloudResourceID) (rgName asgID nsgID : String)
    (interfaces : List Interface) : Account where
  asgs := (∅ : GoMap (String × String) ApplicationSecurityGroup).set
    (rgName, group.getCloudName false) ⟨asgID, group.getCloudName false⟩
  nsgs := (∅ : GoMap (String × String) NetworkSecurityGroup).set
    (rgName, perVnetNsgName group.vpc) ⟨nsgID, none⟩
  interfaces := interfaces

/-- With peers, deleting an address group deletes the ASG of an appliedTo group of its name. -/
theorem not_agree_of_peers {fields : String × String × String}
    (parsed : extractFieldsFromAzureResourceID group.vpc = .ok fields) :
    ¬Agree true group true := by
  intro agree
  obtain ⟨confined, _⟩ := agree.deletes (accountOf group fields.2.1 "" "" []) {}
  have other : group.getCloudName false ≠ group.getCloudName true := fun same =>
    Bool.false_ne_true (getCloudName_inj same).1
  have kept := confined.asgs fields.2.1 _ other
  -- There are no interfaces, so that updating the members changes nothing.
  have unchanged : (updateSecurityGroupMembers true (accountOf group fields.2.1 "" "" [])
      ⟨group, [], true, {}⟩).2 = accountOf group fields.2.1 "" "" [] := by
    unfold updateSecurityGroupMembers
    cases planMembers (accountOf group fields.2.1 "" "" []) ⟨group, [], true, {}⟩ true with
    | error err => rfl
    | ok result => cases result <;> rfl
  simp only [deleteSecurityGroup, unchanged, parsed] at kept
  simp only [removeReferencesToSecurityGroup, answer, accountOf, GoMap.get?_set_self, if_true,
    GoMap.get?_remove_self] at kept
  cases kept

section Unrecognised

variable {rgName asgID nsgID : String}

/-- An interface of the machine `m` without ASGs, NSG and tags. -/
def bareInterface (vnetID : String) : Interface :=
  ⟨"n", vnetID, some "m", none, [⟨true, none⟩], none⟩

/-- Attaching the interface, and nothing else. -/
def attachPlan (group : CloudResourceID) (asgID nsgID : String) : Plan where
  changes := ⟨["n"], []⟩
  update := updateNetworkInterfaceNsg nsgID asgID (group.getCloudName false)

/-- A call that has the machine `m` as its only member. -/
def attachCall (group : CloudResourceID) : MembersCall :=
  ⟨group, [⟨.virtualMachine, ⟨"m", ""⟩⟩], false, {}⟩

theorem named_accountOf {interfaces : List Interface}
    (asgName : nameInID (toLower asgID) = some (toLower (group.getCloudName false)))
    (nsgName : nameInID (toLower nsgID) = some (toLower (perVnetNsgName group.vpc))) :
    (accountOf group rgName asgID nsgID interfaces).Named := by
  constructor
  · intro rgName' name asg found
    rw [accountOf, GoMap.get?_set] at found
    split at found
    next key =>
      cases found
      rw [(Prod.mk.inj key).2]
      exact asgName
    next => cases found
  · intro rgName' name nsg found
    rw [accountOf, GoMap.get?_set] at found
    split at found
    next key =>
      cases found
      rw [(Prod.mk.inj key).2]
      exact nsgName
    next => cases found

/-- As long as the test fails, the interface is to be attached. -/
theorem planMembers_attachCall (asgID nsgID : String) {fields : String × String × String}
    (parsed : extractFieldsFromAzureResourceID group.vpc = .ok fields) {nic : Interface}
    (same : SameInterface (bareInterface group.vpc) nic)
    (tested : isNsgAttached (perVnetNsgName group.vpc) (group.getCloudName false) nic.row =
      .ok false) :
    planMembers (accountOf group fields.2.1 asgID nsgID [nic]) (attachCall group) false =
      .ok (some (attachPlan group asgID nsgID)) := by
  have rows : (accountOf group fields.2.1 asgID nsgID [nic]).getNetworkInterfacesOfVnet group.vpc =
      [nic.row] := by
    have primary : nic.HasPrimary := same.primary rfl
    rw [Interface.HasPrimary] at primary
    simp [Account.getNetworkInterfacesOfVnet, accountOf, primary, same.vnetID, bareInterface]
  have member : decide (toLower "m" ∈
      (findResourcesBasedOnKind [⟨.virtualMachine, ⟨"m", ""⟩⟩]).1) = true := by decide
  have lower : toLower "n" = "n" := by decide
  have sameID : nic.row.id = "n" := same.id
  have sameVM : nic.row.virtualMachineID = some "m" := by
    rw [Interface.row, same.virtualMachineID]
    rfl
  refine planMembers_eq_ok.mpr ⟨rfl, fields, parsed, _,
    processAppliedToMembership_eq_ok.mpr ⟨⟨nsgID, none⟩, ⟨asgID, group.getCloudName false⟩,
      ⟨rfl, GoMap.get?_set_self _ _ _⟩, ⟨rfl, GoMap.get?_set_self _ _ _⟩, ?_, rfl⟩, rfl⟩
  simp only [attachCall, rows]
  simp [findChanges, sameVM, sameID, tested, member, lower, bind, Except.bind, pure, Except.pure,
    attachPlan]

/-- The NSG is not the one that is looked for when its name is not in lower case. -/
theorem isNsgAttached_attachPlan (asgID : String)
    (nsgName : nameInID (toLower nsgID) = some (toLower (perVnetNsgName group.vpc)))
    (mixed : toLower (perVnetNsgName group.vpc) ≠ perVnetNsgName group.vpc) (nic : Interface) :
    isNsgAttached (perVnetNsgName group.vpc) (group.getCloudName false)
      ((attachPlan group asgID nsgID).update true nic).row = .ok false := by
  obtain ⟨parts, parsed, name⟩ := nameInID_eq_some.mp nsgName
  have nonempty : nsgID ≠ "" := by
    rintro rfl
    exact absurd nsgName (by rw [show nameInID (toLower "") = none by decide]; simp)
  have row : ((attachPlan group asgID nsgID).update true nic).row.networkSecurityGroupID =
      some nsgID := rfl
  have unequal : (parts.2.2 == perVnetNsgName group.vpc) = false := by
    rw [name]
    exact beq_false_of_ne mixed
  simp only [isNsgAttached, row, Option.getD_some, if_neg nonempty, parsed, bind, Except.bind, pure,
    Except.pure, unequal, Bool.false_and]

/-- The NSG of a virtual network whose id does not end in lower case is never recognised. -/
theorem lower_of_agree {fields : String × String × String}
    (parsed : extractFieldsFromAzureResourceID group.vpc = .ok fields)
    (agree : Agree false group false) (nsgNameable : Nameable (perVnetNsgName group.vpc))
    (asgNameable : Nameable (group.getCloudName false)) :
    toLower (lastToken group.vpc) = lastToken group.vpc := by
  obtain ⟨nsgID, nsgName⟩ := nsgNameable
  obtain ⟨asgID, asgName⟩ := asgNameable
  by_contra mixed
  have otherName : toLower (perVnetNsgName group.vpc) ≠ perVnetNsgName group.vpc :=
    mt toLower_perVnetNsgName.mp mixed
  have first := planMembers_attachCall asgID nsgID parsed
    (.refl (bareInterface group.vpc)) rfl
  have updated : updateSecurityGroupMembers false
      (accountOf group fields.2.1 asgID nsgID [bareInterface group.vpc]) (attachCall group) =
      (.ok (), accountOf group fields.2.1 asgID nsgID
        [(attachPlan group asgID nsgID).update true (bareInterface group.vpc)]) := by
    have lower : toLower "n" = "n" := by decide
    rw [updateSecurityGroupMembers, first]
    simp [Account.attachDetachConcurrently, accountOf, attachPlan, attachCall, bareInterface, lower]
  have second := planMembers_attachCall asgID nsgID parsed
    ((writes_updateNetworkInterfaceNsg nsgID asgID _).same true (bareInterface group.vpc))
    (isNsgAttached_attachPlan asgID nsgName otherName _)
  refine agree.recognises _ _ (attachCall group).members {} {} _ (attachPlan group asgID nsgID)
    (named_accountOf asgName nsgName) first rfl ?_ ?_ "n" List.mem_cons_self List.mem_cons_self
  · exact congrArg Prod.fst updated
  · change planMembers (updateSecurityGroupMembers false _ (attachCall group)).2 (attachCall group)
      false = _
    rw [updated]
    exact second

end Unrecognised

/--
The operations on a group agree on its ASG exactly when the group is no address group of a
virtual network with peers, and the NSG of the virtual network of an appliedTo group can be
recognised.
-/
theorem operations_agree_on_asg (vnetPeerIDs : List String) (cachedVnetIDs : GoSet String)
    (group : CloudResourceID) (membershipOnly : Bool) :
    Agree (ifPeerProcessing vnetPeerIDs cachedVnetIDs) group membershipOnly ↔
      NamesAgree (ifPeerProcessing vnetPeerIDs cachedVnetIDs) group membershipOnly := by
  constructor
  · intro agree fields parsed
    cases peers : ifPeerProcessing vnetPeerIDs cachedVnetIDs with
    | true =>
      rw [peers] at agree
      cases membershipOnly with
      | true => exact not_agree_of_peers parsed agree
      | false => trivial
    | false =>
      rw [peers] at agree
      cases membershipOnly with
      | true => trivial
      | false => exact lower_of_agree parsed agree
  · intro names
    exact ⟨fun account faults _ _ => confined_createSecurityGroup account faults _ _,
      names.updates, names.deletes,
      fun _ _ _ _ _ _ _ named planned listed successful planned' _ attached =>
        names.recognises planned listed successful attached named planned'⟩

end Operations

/-! ## A sample with peers -/

/-- An account in which an address group and an appliedTo group are both called `db`. -/
def peeredAccount : Account where
  asgs := (((∅ : GoMap (String × String) ApplicationSecurityGroup).set ("r", "nephe-at-db")
      ⟨resourceID "asgs" "nephe-at-db", "nephe-at-db"⟩).set ("r", "nephe-ag-db")
      ⟨resourceID "asgs" "nephe-ag-db", "nephe-ag-db"⟩)
  nsgs := vnetAccount.nsgs
  interfaces := [sampleInterface]

/-- Deleting the address group. -/
def deleteDb : Except String Unit × Account :=
  deleteSecurityGroup (ifPeerProcessing ["p"] (GoSet.ofList ["p"])) peeredAccount
    ⟨"db", sampleVnetID⟩ true {}

/-- Giving the address group the machine `m` as its member. -/
def updateDb (account : Account) : Account :=
  (updateSecurityGroupMembers (ifPeerProcessing ["p"] (GoSet.ofList ["p"])) account
    ⟨⟨"db", sampleVnetID⟩, [⟨.virtualMachine, ⟨resourceID "vms" "m", sampleVnetID⟩⟩], true, {}⟩).2

/--
With peers, deleting the address group deletes the ASG of the appliedTo group and leaves its
own; and the same member given twice is attached twice.
-/
theorem other_asg_is_deleted :
    (deleteDb.1 = .ok () ∧ deleteDb.2.asgs.get? ("r", "nephe-at-db") = none ∧
      (deleteDb.2.asgs.get? ("r", "nephe-ag-db")).isSome) ∧
    (updateDb (updateDb peeredAccount)).interfaces.map Interface.primaryAsgs =
      [[resourceID "asgs" "office", resourceID "asgs" "nephe-ag-db",
        resourceID "asgs" "nephe-ag-db"]] := by
  decide +kernel

end Nephe.Azure
