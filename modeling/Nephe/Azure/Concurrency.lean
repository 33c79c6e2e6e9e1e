import Nephe.Azure.Interfaces
import Nephe.Library.ForkJoin

/-!
# Attaching and detaching concurrently

`processNsgAttachDetachConcurrently` and `processAsgAttachDetachConcurrently`
(`azure_security.go`) update every interface in a goroutine of its own.  The wait
group is given a unit for each interface that is asked for, and a worker is
started for each interface that is found.
-/

namespace Nephe.Azure

open Library

/-! ## The workers -/

/-- An update that has been sent, and the error that Azure answered with. -/
structure SentUpdate where
  /-- The id of the interface, in lower case. -/
  id : String
  isAttach : Bool
  err : Option String
deriving DecidableEq, Repr

/-- The interfaces of the account, and the updates that have been sent for them. -/
structure Written where
  interfaces : List Interface
  sent : List SentUpdate

/-- `mergeSet`. -/
def mergeSet (s1 s2 : List String) : List String :=
  (s1 ++ s2).dedup

/-- `allNwIntfIDs`. -/
def Changes.all (changes : Changes) : List String :=
  mergeSet changes.toAttach changes.toDetach

/-- `getNetworkInterfacesGivenIDs`, for the interfaces that Azure lists. -/
def getNetworkInterfacesGivenIDs (nwIntfObjs : List Interface) (nwIntfIDSet : List String) :
    GoMap String Interface :=
  nwIntfObjs.foldl (fun nwIntfIDToObj nwIntfObj =>
    let nwIntfIDLowerCase := toLower nwIntfObj.id
    if nwIntfIDLowerCase ∈ nwIntfIDSet then nwIntfIDToObj.set nwIntfIDLowerCase nwIntfObj
    else nwIntfIDToObj) ∅

/-- What a worker writes to an interface of the account. -/
def Plan.write (plan : Plan) (nwIntfObj nic : Interface) : Interface :=
  if toLower nic.id = toLower nwIntfObj.id then
    plan.update (toLower nwIntfObj.id ∈ plan.changes.toAttach) nwIntfObj
  else nic

/-- The worker of an interface sends an update, and what came of it to the channel. -/
def Plan.fork (plan : Plan) (writeInterface : String → Option String) :
    Fork Interface (Option String) Written where
  work nwIntfObj written :=
    { interfaces :=
        if (writeInterface nwIntfObj.id).isNone then
          written.interfaces.map (plan.write nwIntfObj)
        else written.interfaces
      sent := written.sent ++ [⟨toLower nwIntfObj.id,
        toLower nwIntfObj.id ∈ plan.changes.toAttach, writeInterface nwIntfObj.id⟩] }
  messages nwIntfObj := [writeInterface nwIntfObj.id]

/--
The common body of the two functions, before a worker is started.

The code is the order of the loop over the interfaces that are found.  When they
cannot be listed, the function has already returned.
-/
def Plan.attachDetachConcurrently (plan : Plan) (listing : Except String (List Interface))
    (code : Nat) (interfaces : List Interface) : Join Interface (Option String) Written :=
  match listing with
  | .error _ => { Join.start ⟨interfaces, []⟩ [] 0 with closed := true, returned := true }
  | .ok nwIntfObjs =>
    Join.start ⟨interfaces, []⟩
      (arrange code (getNetworkInterfacesGivenIDs nwIntfObjs plan.changes.all).values)
      plan.changes.all.length

/-- `processNsgAttachDetachConcurrently`. -/
def processNsgAttachDetachConcurrently (nsgID asgID nwIntfTagKeyToUpdate : String)
    (changes : Changes) (listing : Except String (List Interface)) (code : Nat)
    (interfaces : List Interface) : Join Interface (Option String) Written :=
  Plan.attachDetachConcurrently
    ⟨changes, updateNetworkInterfaceNsg nsgID asgID nwIntfTagKeyToUpdate⟩ listing code interfaces

/-- `processAsgAttachDetachConcurrently`. -/
def processAsgAttachDetachConcurrently (asgID : String) (changes : Changes)
    (listing : Except String (List Interface)) (code : Nat) (interfaces : List Interface) :
    Join Interface (Option String) Written :=
  Plan.attachDetachConcurrently ⟨changes, updateNetworkInterfaceAsg asgID⟩ listing code interfaces

/-! ## What is found -/

section

variable {nwIntfObjs : List Interface} {ids : List String}

theorem get?_getNetworkInterfaces_concat (last : Interface) (id : String) :
    (getNetworkInterfacesGivenIDs (nwIntfObjs ++ [last]) ids).get? id =
      if id ∈ ids ∧ id = toLower last.id then some last
      else (getNetworkInterfacesGivenIDs nwIntfObjs ids).get? id := by
  simp only [getNetworkInterfacesGivenIDs, List.foldl_append, List.foldl_cons, List.foldl_nil]
  by_cases own : id = toLower last.id
  · subst own
    split
    next asked => simp [asked]
    next unasked => simp [unasked]
  · simp only [own, and_false, if_false]
    split
    next => exact GoMap.get?_set_of_ne _ _ own
    next => rfl

theorem get?_getNetworkInterfacesGivenIDs {id : String} {nic : Interface}
    (found : (getNetworkInterfacesGivenIDs nwIntfObjs ids).get? id = some nic) :
    nic ∈ nwIntfObjs ∧ toLower nic.id = id ∧ id ∈ ids := by
  induction nwIntfObjs using List.reverseRecOn with
  | nil => cases found
  | append_singleton front last induction =>
    rw [get?_getNetworkInterfaces_concat] at found
    split at found
    next own =>
      obtain rfl := Option.some.inj found
      exact ⟨List.mem_append_right _ List.mem_cons_self, own.2.symm, own.1⟩
    next => exact (induction found).imp_left (List.mem_append_left _)

theorem isSome_getNetworkInterfacesGivenIDs {nic : Interface} (listed : nic ∈ nwIntfObjs)
    (asked : toLower nic.id ∈ ids) :
    ((getNetworkInterfacesGivenIDs nwIntfObjs ids).get? (toLower nic.id)).isSome = true := by
  induction nwIntfObjs using List.reverseRecOn with
  | nil => cases listed
  | append_singleton front last induction =>
    rw [get?_getNetworkInterfaces_concat]
    split
    next => rfl
    next other =>
      rcases List.mem_append.mp listed with earlier | here
      · exact induction earlier
      · exact absurd ⟨asked, List.mem_singleton.mp here ▸ rfl⟩ other

theorem nodup_ids_found :
    ((getNetworkInterfacesGivenIDs nwIntfObjs ids).values.map fun nic => toLower nic.id).Nodup := by
  let found := getNetworkInterfacesGivenIDs nwIntfObjs ids
  have keys : (found.values.map fun nic => toLower nic.id) = found.bindings.map (·.1) := by
    simp only [GoMap.values, GoMap.bindings, List.map_map]
    refine List.map_congr_left fun entry member => ?_
    have bound := (found.mem_bindings entry.1 entry.2).mp (List.mem_map.mpr ⟨entry, member, rfl⟩)
    exact (get?_getNetworkInterfacesGivenIDs bound).2.1
  change (found.values.map fun nic => toLower nic.id).Nodup
  exact keys ▸ found.nodup_bindings

/-- All interfaces that are asked for are listed. -/
def AllListed (nwIntfObjs : List Interface) (ids : List String) : Prop :=
  ∀ id ∈ ids, ∃ nic ∈ nwIntfObjs, toLower nic.id = id

instance : Decidable (AllListed nwIntfObjs ids) :=
  inferInstanceAs (Decidable (∀ id ∈ ids, ∃ nic ∈ nwIntfObjs, _))

/-- There are as many workers as units when everything is listed, and fewer otherwise. -/
theorem length_found (distinct : ids.Nodup) :
    (getNetworkInterfacesGivenIDs nwIntfObjs ids).values.length ≤ ids.length ∧
      ((getNetworkInterfacesGivenIDs nwIntfObjs ids).values.length = ids.length ↔
        AllListed nwIntfObjs ids) := by
  let found := getNetworkInterfacesGivenIDs nwIntfObjs ids
  have keys (id : String) : id ∈ found.bindings.map (·.1) ↔
      id ∈ ids ∧ ∃ nic ∈ nwIntfObjs, toLower nic.id = id := by
    constructor
    · intro key
      obtain ⟨⟨id, nic⟩, entry, rfl⟩ := List.mem_map.mp key
      obtain ⟨listed, name, asked⟩ :=
        get?_getNetworkInterfacesGivenIDs ((found.mem_bindings id nic).mp entry)
      exact ⟨asked, nic, listed, name⟩
    · rintro ⟨asked, nic, listed, rfl⟩
      obtain ⟨other, there⟩ := Option.isSome_iff_exists.mp
        (isSome_getNetworkInterfacesGivenIDs listed asked)
      exact List.mem_map.mpr ⟨_, (found.mem_bindings _ other).mpr there, rfl⟩
  have length : found.values.length = (found.bindings.map (·.1)).length := by
    simp [GoMap.values, GoMap.bindings]
  have among : (found.bindings.map (·.1)).Subperm ids :=
    found.nodup_bindings.subperm fun id key => ((keys id).mp key).1
  change found.values.length ≤ _ ∧ (found.values.length = _ ↔ _)
  rw [length]
  refine ⟨among.length_le, fun same id asked => ?_, fun all => ?_⟩
  · exact ((keys id).mp ((among.perm_of_length_le same.ge).mem_iff.mpr asked)).2
  · exact ((List.perm_ext_iff_of_nodup found.nodup_bindings distinct).mpr fun id =>
      (keys id).trans (and_iff_left_of_imp (all id))).length_eq

end

/-! ## What is returned -/

/--
The call ends under every schedule.  It returns nil, which is when it has received
no errors, only if an update has been sent for every interface and all of them have
succeeded.
-/
structure ReportsTruth (fork : Fork Interface (Option String) Written) (changes : Changes)
    (call : Join Interface (Option String) Written) : Prop where
  ends : Inevitable (Join.step fork) (fun state => state.returned = true) call
  truthful : ∀ state, Reaches (Join.step fork) call state → state.returned = true →
    state.errors = [] →
      (∀ id ∈ changes.all, ∃ update ∈ state.shared.sent, update.id = id) ∧
        ∀ update ∈ state.shared.sent, update.err = none

/-- The interfaces are listed, and all that are asked for among them, unless there are none. -/
def Answerable (changes : Changes) : Except String (List Interface) → Prop
  | .error _ => changes.all = []
  | .ok nwIntfObjs => AllListed nwIntfObjs changes.all

section

variable {plan : Plan} {writeInterface : String → Option String}

/-- The update that the worker of an interface sends. -/
def Plan.sentFor (plan : Plan) (writeInterface : String → Option String) (nic : Interface) :
    SentUpdate :=
  ⟨toLower nic.id, toLower nic.id ∈ plan.changes.toAttach, writeInterface nic.id⟩

theorem sent_foldl (order : List Interface) (written : Written) :
    (order.foldl (fun shared nic => (plan.fork writeInterface).work nic shared) written).sent =
      written.sent ++ order.map (plan.sentFor writeInterface) := by
  induction order generalizing written with
  | nil => simp
  | cons nic rest induction =>
    rw [List.foldl_cons, induction]
    simp [Plan.fork, Plan.sentFor]

/-- A call that has returned at once makes no step. -/
theorem eq_of_reaches_error {err : String} {code : Nat} {interfaces : List Interface}
    {state : Join Interface (Option String) Written}
    (reaches : Reaches (Join.step (plan.fork writeInterface))
      (plan.attachDetachConcurrently (.error err) code interfaces) state) :
    state = plan.attachDetachConcurrently (.error err) code interfaces := by
  refine (reaches.invariant (fun before move next taken same => ?_) rfl).symm
  subst same
  cases move <;> simp [Plan.attachDetachConcurrently, Join.start, Join.step] at taken

theorem reportsTruth_iff (plan : Plan) (writeInterface : String → Option String)
    (listing : Except String (List Interface)) (code : Nat) (interfaces : List Interface) :
    ReportsTruth (plan.fork writeInterface) plan.changes
        (plan.attachDetachConcurrently listing code interfaces) ↔
      Answerable plan.changes listing := by
  cases listing with
  | error err =>
    constructor
    · intro reports
      obtain ⟨sent, _⟩ := reports.truthful _ .refl rfl rfl
      refine List.eq_nil_iff_forall_not_mem.mpr fun id asked => ?_
      obtain ⟨_, update, _⟩ := sent id asked
      cases update
    · intro none_
      refine ⟨.here rfl, fun state reaches _ _ => ?_⟩
      rw [eq_of_reaches_error reaches, show plan.changes.all = [] from none_]
      exact ⟨List.forall_mem_nil _, List.forall_mem_nil _⟩
  | ok nwIntfObjs =>
    let tasks := arrange code
      (getNetworkInterfacesGivenIDs nwIntfObjs plan.changes.all).values
    have distinct : plan.changes.all.Nodup := List.nodup_dedup _
    obtain ⟨enough, all_iff⟩ := @length_found nwIntfObjs _ distinct
    rw [← length_arrange code] at enough all_iff
    change ReportsTruth _ _ (Join.start _ tasks _) ↔ AllListed _ _
    rw [← all_iff]
    constructor
    · intro reports
      obtain ⟨state, reaches, returned⟩ := reports.ends.exists_reaches
      by_contra fewer
      have waiting := Join.never_returns (lt_of_le_of_ne enough fewer) reaches
      exact absurd returned (by simp [waiting])
    · intro same
      refine ⟨same ▸ Join.returns _ tasks, fun state reaches returned noErrors => ?_⟩
      obtain ⟨order, perm, shared, received⟩ := Join.of_returned enough reaches returned
      have sent : state.shared.sent = order.map (plan.sentFor writeInterface) := by
        rw [shared, sent_foldl, List.nil_append]
      rw [sent]
      constructor
      · intro id asked
        obtain ⟨nic, listed, rfl⟩ := all_iff.mp same id asked
        obtain ⟨worker, found⟩ := Option.isSome_iff_exists.mp
          (isSome_getNetworkInterfacesGivenIDs listed asked)
        have inOrder : worker ∈ order := perm.mem_iff.mpr
          ((mem_arrange _ _ _).mpr ((GoMap.mem_values _ _).mpr ⟨_, found⟩))
        exact ⟨_, List.mem_map_of_mem inOrder, (get?_getNetworkInterfacesGivenIDs found).2.1⟩
      · intro update listed
        obtain ⟨nic, inOrder, rfl⟩ := List.mem_map.mp listed
        have heard : writeInterface nic.id ∈ state.received :=
          received.mem_iff.mpr (List.mem_flatMap.mpr ⟨nic, inOrder, List.mem_singleton_self _⟩)
        exact (List.filterMap_eq_nil_iff.mp noErrors) _ heard

end

/-! ## The account afterwards -/

section

variable {plan : Plan} {writeInterface : String → Option String}

/-- What the workers make of one interface, in the order in which they write. -/
def Plan.writeAll (plan : Plan) (writeInterface : String → Option String)
    (order : List Interface) (nic : Interface) : Interface :=
  order.foldl
    (fun nic nwIntfObj =>
      if (writeInterface nwIntfObj.id).isNone then plan.write nwIntfObj nic else nic) nic

theorem interfaces_foldl (order : List Interface) (written : Written) :
    (order.foldl (fun shared nic => (plan.fork writeInterface).work nic shared)
      written).interfaces = written.interfaces.map (plan.writeAll writeInterface order) := by
  induction order generalizing written with
  | nil => exact (List.map_id' _).symm
  | cons nwIntfObj rest induction =>
    rw [List.foldl_cons, induction]
    simp only [Plan.fork]
    split
    next succeeds =>
      rw [List.map_map]
      refine List.map_congr_left fun nic _ => ?_
      simp only [Function.comp_apply, Plan.writeAll, List.foldl_cons, if_pos succeeds]
    next fails =>
      refine List.map_congr_left fun nic _ => ?_
      simp only [Plan.writeAll, List.foldl_cons, if_neg fails]

variable {order : List Interface} {nic : Interface}

/-- Workers of other interfaces leave an interface alone. -/
theorem writeAll_of_others (others : ∀ nwIntfObj ∈ order, toLower nwIntfObj.id ≠ toLower nic.id) :
    plan.writeAll writeInterface order nic = nic := by
  induction order with
  | nil => rfl
  | cons nwIntfObj rest induction =>
    obtain ⟨other, others⟩ := List.forall_mem_cons.mp others
    have unchanged : plan.write nwIntfObj nic = nic := if_neg fun same => other same.symm
    rw [Plan.writeAll, List.foldl_cons, unchanged, ite_self]
    exact induction others

/-- One worker writes to an interface, if there is one for it. -/
theorem writeAll_eq (keeps : ∀ isAttach nic, (plan.update isAttach nic).id = nic.id)
    (distinct : (order.map fun nic => toLower nic.id).Nodup)
    (own : ∀ nwIntfObj ∈ order, toLower nwIntfObj.id = toLower nic.id → nwIntfObj = nic) :
    plan.writeAll writeInterface order nic =
      if toLower nic.id ∈ (order.map fun nic => toLower nic.id) ∧
          (writeInterface nic.id).isNone then
        plan.update (toLower nic.id ∈ plan.changes.toAttach) nic
      else nic := by
  induction order with
  | nil => simp [Plan.writeAll]
  | cons nwIntfObj rest induction =>
    obtain ⟨fresh, distinct⟩ := List.nodup_cons.mp distinct
    obtain ⟨ownFirst, ownRest⟩ := List.forall_mem_cons.mp own
    by_cases same : toLower nwIntfObj.id = toLower nic.id
    · obtain rfl := ownFirst same
      have others (written : Interface) (id : written.id = nwIntfObj.id) :
          plan.writeAll writeInterface rest written = written :=
        writeAll_of_others fun other listed equal =>
          fresh (List.mem_map.mpr ⟨other, listed, equal.trans (congrArg toLower id)⟩)
      rw [Plan.writeAll, List.foldl_cons, Plan.write, if_pos rfl]
      change plan.writeAll writeInterface rest _ = _
      by_cases succeeds : (writeInterface nwIntfObj.id).isNone = true
      · rw [if_pos succeeds, if_pos ⟨List.mem_cons_self, succeeds⟩]
        exact others _ (keeps _ _)
      · rw [if_neg succeeds, if_neg fun found => succeeds found.2]
        exact others _ rfl
    · have unchanged : plan.write nwIntfObj nic = nic := if_neg fun equal => same equal.symm
      have other : ¬ toLower nic.id = toLower nwIntfObj.id := fun equal => same equal.symm
      rw [Plan.writeAll, List.foldl_cons, unchanged, ite_self]
      refine (induction distinct ownRest).trans ?_
      simp only [List.map_cons, List.mem_cons, other, false_or]

/--
However the workers are scheduled, the account is in the end what
`Account.attachDetachConcurrently` makes of it, and so is the result.
-/
theorem returned_eq_attachDetachConcurrently {account : Account} {faults : Faults} {plan : Plan}
    {code : Nat} {state : Join Interface (Option String) Written}
    (keeps : ∀ isAttach nic, (plan.update isAttach nic).id = nic.id)
    (distinct : (account.interfaces.map fun nic => toLower nic.id).Nodup)
    (listing : faults.listInterfaces = none)
    (reaches : Reaches (Join.step (plan.fork faults.writeInterface))
      (plan.attachDetachConcurrently (.ok account.interfaces) code account.interfaces) state)
    (returned : state.returned = true) :
    (account.attachDetachConcurrently faults plan).2 =
        { account with interfaces := state.shared.interfaces } ∧
      ((account.attachDetachConcurrently faults plan).1 = .ok () ↔ state.errors = []) := by
  have enough := (@length_found account.interfaces plan.changes.all (List.nodup_dedup _)).1
  rw [← length_arrange code] at enough
  obtain ⟨order, perm, shared, received⟩ := Join.of_returned enough reaches returned
  -- There is a worker for every interface that is concerned, and for no other.
  have unique {first second : Interface} (inFirst : first ∈ account.interfaces)
      (inSecond : second ∈ account.interfaces) (same : toLower first.id = toLower second.id) :
      first = second := List.inj_on_of_nodup_map distinct inFirst inSecond same
  have concerned (nic : Interface) : nic ∈ order ↔
      nic ∈ account.interfaces ∧ toLower nic.id ∈ plan.changes.all := by
    rw [perm.mem_iff, mem_arrange, GoMap.mem_values]
    constructor
    · rintro ⟨id, found⟩
      obtain ⟨listed, rfl, asked⟩ := get?_getNetworkInterfacesGivenIDs found
      exact ⟨listed, asked⟩
    · rintro ⟨listed, asked⟩
      obtain ⟨other, found⟩ := Option.isSome_iff_exists.mp
        (isSome_getNetworkInterfacesGivenIDs listed asked)
      obtain ⟨there, same, _⟩ := get?_getNetworkInterfacesGivenIDs found
      exact ⟨_, unique there listed same ▸ found⟩
  have idsDistinct : (order.map fun nic => toLower nic.id).Nodup :=
    ((perm.trans (arrange_perm _ _)).map _).nodup_iff.mpr nodup_ids_found
  have asked (nic : Interface) : toLower nic.id ∈ plan.changes.all ↔
      toLower nic.id ∈ plan.changes.toAttach ∨ toLower nic.id ∈ plan.changes.toDetach := by
    rw [Changes.all, mergeSet, List.mem_dedup, List.mem_append]
  simp only [Account.attachDetachConcurrently, listing]
  constructor
  · congr 1
    rw [shared, interfaces_foldl]
    refine List.map_congr_left fun nic listed => ?_
    rw [writeAll_eq keeps idsDistinct fun other inOrder same =>
      unique ((concerned other).mp inOrder).1 listed same]
    have hasWorker : toLower nic.id ∈ (order.map fun nic => toLower nic.id) ↔
        toLower nic.id ∈ plan.changes.toAttach ∨ toLower nic.id ∈ plan.changes.toDetach := by
      rw [← asked]
      constructor
      · intro member
        obtain ⟨other, inOrder, same⟩ := List.mem_map.mp member
        exact same ▸ ((concerned other).mp inOrder).2
      · exact fun wanted => List.mem_map_of_mem ((concerned nic).mpr ⟨listed, wanted⟩)
    simp only [hasWorker, Bool.and_eq_true, Bool.or_eq_true, decide_eq_true_eq]
  · have heard : state.errors = [] ↔
        ∀ nic ∈ order, faults.writeInterface nic.id = none := by
      rw [Join.errors, List.filterMap_eq_nil_iff]
      simp only [received.mem_iff, List.mem_flatMap, Plan.fork, List.mem_singleton, id_eq]
      constructor
      · exact fun all nic inOrder => all _ ⟨nic, inOrder, rfl⟩
      · rintro all _ ⟨nic, inOrder, rfl⟩
        exact all nic inOrder
    rw [heard]
    split
    next noErrs =>
      rw [List.isEmpty_iff, List.filterMap_eq_nil_iff] at noErrs
      refine iff_of_true rfl fun nic inOrder => ?_
      obtain ⟨listed, wanted⟩ := (concerned nic).mp inOrder
      exact noErrs nic (List.mem_filter.mpr ⟨listed, by simpa using (asked nic).mp wanted⟩)
    next someErrs =>
      refine iff_of_false (by simp) fun all => someErrs ?_
      rw [List.isEmpty_iff, List.filterMap_eq_nil_iff]
      intro nic member
      obtain ⟨listed, wanted⟩ := List.mem_filter.mp member
      exact all nic ((concerned nic).mpr ⟨listed, (asked nic).mpr (by simpa using wanted)⟩)

/-- Attaches `n` to a group and detaches `m`. -/
def samplePlan : Plan :=
  ⟨⟨["n"], ["m"]⟩, fun isAttach nic =>
    { nic with networkSecurityGroup := if isAttach then some "g" else none }⟩

/-- The account of `n` and `m`. -/
def pairAccount : Account :=
  ⟨∅, ∅, [⟨"n", "v", none, none, [], none⟩, ⟨"m", "v", none, some "g", [], none⟩]⟩

theorem two_interfaces_are_updated : ∃ state : Join Interface (Option String) Written,
    state.returned = true ∧
      state.shared.interfaces.map (·.networkSecurityGroup) = [some "g", none] ∧
      (pairAccount.attachDetachConcurrently {} samplePlan).2 =
        { pairAccount with interfaces := state.shared.interfaces } :=
  ⟨_, rfl, rfl, (@returned_eq_attachDetachConcurrently pairAccount {} samplePlan 0 _
    (fun _ _ => rfl) (by decide) rfl (reaches_of_follow (show follow _ _
      [.spawn, .spawn, .work 1, .work 0, .send 0, .send 1, .done 1, .done 0, .close, .leave] =
        some _ from rfl)) rfl).1⟩

end

/--
Attaching and detaching end under every schedule and report the truth, if and only
if the interfaces can be listed and all that are asked for are among them, or
there are none to attach or detach.
-/
theorem attachDetach_reports_truth_iff (nsgID asgID tagKey : String) (changes : Changes)
    (listing : Except String (List Interface)) (writeInterface : String → Option String)
    (code : Nat) (interfaces : List Interface) :
    (ReportsTruth
        (Plan.fork ⟨changes, updateNetworkInterfaceNsg nsgID asgID tagKey⟩ writeInterface) changes
        (processNsgAttachDetachConcurrently nsgID asgID tagKey changes listing code interfaces) ↔
      Answerable changes listing) ∧
    (ReportsTruth (Plan.fork ⟨changes, updateNetworkInterfaceAsg asgID⟩ writeInterface) changes
        (processAsgAttachDetachConcurrently asgID changes listing code interfaces) ↔
      Answerable changes listing) :=
  ⟨reportsTruth_iff ⟨changes, _⟩ writeInterface listing code interfaces,
    reportsTruth_iff ⟨changes, _⟩ writeInterface listing code interfaces⟩

/-- A call for one interface that is not listed never returns; one that cannot list returns nil. -/
theorem missing_interface_blocks :
    (∀ state, Reaches (Join.step (Plan.fork ⟨⟨["n"], []⟩, updateNetworkInterfaceAsg "a"⟩
        fun _ => none)) (processAsgAttachDetachConcurrently "a" ⟨["n"], []⟩ (.ok []) 0 []) state →
      state.returned = false) ∧
    (processAsgAttachDetachConcurrently "a" ⟨["n"], []⟩ (.error "e") 0 []).returned = true ∧
    (processAsgAttachDetachConcurrently "a" ⟨["n"], []⟩ (.error "e") 0 []).errors = [] ∧
    (processAsgAttachDetachConcurrently "a" ⟨["n"], []⟩ (.error "e") 0 []).shared.sent = [] := by
  refine ⟨fun state reaches => ?_, rfl, rfl, rfl⟩
  have surplus : ([] : List Interface).length < (Changes.all ⟨["n"], []⟩).length := by decide
  exact Join.never_returns surplus reaches

end Nephe.Azure
