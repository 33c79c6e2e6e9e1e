import Nephe.Safety.RetryTags

/-!
# The cached status of policies

The background pass (`processCloudResourceNPTrackers`) writes the status that it
computes for every dirty tracker to an entry for each virtual machine with the cloud
id of the tracker.  A machine without an entry gets one only for a status in its own
namespace, so that the status of a group without policies may be left out; and an
entry is written or deleted only for machines that the API server lists.
-/

namespace Nephe

open Library

/-! ## One machine -/

namespace NPStatusMap

/-- The status for machines in a namespace, with that of groups without policies. -/
def merged (status : NPStatusMap) (ns : String) : GoMap String String :=
  ((status.get? "").getD ∅).bindings.foldl
    (fun (npStatus : GoMap String String) entry => npStatus.set entry.1 entry.2)
    ((status.get? ns).getD ∅)

/-- What becomes of the entry of a machine in a namespace. -/
def write (status : NPStatusMap) (ns : String) (entry : Option (GoMap String String)) :
    Option (GoMap String String) :=
  if (status.get? ns).isNone && entry.isNone then entry
  else if (status.get? ns).isSome && sameStatus (entry.getD ∅) (status.merged ns) then entry
  else if (status.merged ns).bindings = [] then none
  else some (status.merged ns)

/-- No namespace has an empty status. -/
def Filled (status : NPStatusMap) : Prop :=
  ∀ ns own, status.get? ns = some own → own.bindings ≠ []

theorem filled_empty : Filled ∅ :=
  fun ns _ found => by rw [GoMap.get?_empty] at found; cases found

theorem Filled.put {status : NPStatusMap} (filled : status.Filled) (ns name text : String) :
    (status.put ns name text).Filled := by
  intro other own found
  rw [NPStatusMap.put, GoMap.get?_set] at found
  split at found
  next =>
    obtain rfl := Option.some.inj found
    rw [ne_eq, GoMap.bindings_eq_nil]
    intro empty
    simpa using empty name
  next => exact filled other own found

end NPStatusMap

theorem sameStatus_iff {left right : GoMap String String} :
    sameStatus left right = true ↔ ∀ name, left.get? name = right.get? name := by
  have agree := @GoMap.agree_iff _ _ _ _ (fun text => text) left right
  simp only [Option.map_id'] at agree
  rw [← agree]
  simp only [sameStatus, Bool.and_eq_true, beq_iff_eq, List.all_eq_true, Prod.forall,
    GoMap.mem_bindings]

/-- The entry is there exactly for a status with something in it, and equals it. -/
structure Shows (entry : Option (GoMap String String)) (status : GoMap String String) : Prop where
  present : entry ≠ none ↔ status.bindings ≠ []
  equal : ∀ cached, entry = some cached → ∀ name, cached.get? name = status.get? name

namespace NPStatusMap

variable {status : NPStatusMap} {ns : String}

theorem merged_ne_nil (filled : status.Filled) (own : status.get? ns ≠ none) :
    (status.merged ns).bindings ≠ [] := by
  obtain ⟨policies, found⟩ := Option.ne_none_iff_exists'.mp own
  have some := filled ns policies found
  rw [ne_eq, GoMap.bindings_eq_nil, not_forall] at some ⊢
  obtain ⟨name, some⟩ := some
  refine ⟨name, fun empty => some ?_⟩
  rw [merged, GoMap.get?_foldl_set (fun entry : String × String => entry.1) (fun entry => entry.2),
    found, Option.getD_some] at empty
  exact (Option.or_eq_none_iff.mp empty).2

/-- An entry is left exactly if there is something to show and it is noticed. -/
theorem write_ne_none (filled : status.Filled) (entry : Option (GoMap String String)) :
    status.write ns entry ≠ none ↔
      (status.merged ns).bindings ≠ [] ∧ (status.get? ns ≠ none ∨ entry ≠ none) := by
  cases own : status.get? ns with
  | none =>
    cases entry with
    | none => simp [write, own]
    | some cached => simp [write, own]
  | some policies =>
    have some := merged_ne_nil filled (own ▸ Option.some_ne_none policies)
    cases entry with
    | none =>
      have different : sameStatus ∅ (status.merged ns) = false := by
        rw [← Bool.not_eq_true, sameStatus_iff]
        intro same
        exact some (GoMap.bindings_eq_nil.mpr fun name => (same name).symm)
      simp [write, own, different, some]
    | some cached =>
      by_cases same : sameStatus cached (status.merged ns) = true
      · simp [write, own, same, some]
      · simp [write, own, same, some]

theorem get?_of_write {entry : Option (GoMap String String)} {cached : GoMap String String}
    (written : status.write ns entry = some cached) (name : String) :
    cached.get? name = (status.merged ns).get? name := by
  simp only [write] at written
  split at written
  next none =>
    rw [written] at none
    simp at none
  next =>
    split at written
    next same =>
      rw [written] at same
      exact sameStatus_iff.mp (Bool.and_eq_true_iff.mp same).2 name
    next =>
      split at written
      next => cases written
      next => rw [Option.some.inj written]

end NPStatusMap

section

variable {statuses : List NPStatusMap} (ns : String) (entry : Option (GoMap String String))

/-- Once an entry is there, it stays as long as there is something to show. -/
theorem foldl_write_ne_none (filled : ∀ status ∈ statuses, status.Filled)
    (some : ∀ status ∈ statuses, (status.merged ns).bindings ≠ []) :
    statuses.foldl (fun entry status => status.write ns entry) entry ≠ none ↔
      entry ≠ none ∨ ∃ status ∈ statuses, status.get? ns ≠ none := by
  induction statuses generalizing entry with
  | nil => simp
  | cons status rest induction =>
    obtain ⟨filledHere, filled⟩ := List.forall_mem_cons.mp filled
    obtain ⟨someHere, some⟩ := List.forall_mem_cons.mp some
    rw [List.foldl_cons, induction _ filled some, NPStatusMap.write_ne_none filledHere]
    simp only [List.exists_mem_cons_iff]
    tauto

/-- An entry that is written several times shows every status if these agree and are noticed. -/
theorem shows_foldl_write_iff (filled : ∀ status ∈ statuses, status.Filled) :
    (∀ status ∈ statuses, Shows (statuses.foldl (fun entry status => status.write ns entry) entry)
        (status.merged ns)) ↔
      (∀ status ∈ statuses, ∀ other ∈ statuses, ∀ name,
        (status.merged ns).get? name = (other.merged ns).get? name) ∧
      ∀ status ∈ statuses, (status.merged ns).bindings ≠ [] →
        entry ≠ none ∨ ∃ other ∈ statuses, other.get? ns ≠ none := by
  rcases List.eq_nil_or_concat statuses with rfl | ⟨init, last, rfl⟩
  · simp
  rw [List.concat_eq_append] at filled ⊢
  have lastFilled := filled last (by simp)
  have written : (init ++ [last]).foldl (fun entry status => status.write ns entry) entry =
      last.write ns (init.foldl (fun entry status => status.write ns entry) entry) := by
    rw [List.foldl_append, List.foldl_cons, List.foldl_nil]
  constructor
  · intro shows
    have agree : ∀ status ∈ init ++ [last], ∀ other ∈ init ++ [last], ∀ name,
        (status.merged ns).get? name = (other.merged ns).get? name := by
      intro status member other member' name
      cases final : (init ++ [last]).foldl (fun entry status => status.write ns entry) entry with
      | none =>
        have empty (status : NPStatusMap) (member : status ∈ init ++ [last]) :
            (status.merged ns).get? name = none := by
          have nothing := (shows status member).present.not.mp (not_not.mpr final)
          exact GoMap.bindings_eq_nil.mp (not_not.mp nothing) name
        rw [empty status member, empty other member']
      | some cached =>
        rw [← (shows status member).equal cached final name,
          (shows other member').equal cached final name]
    refine ⟨agree, fun status member some => ?_⟩
    have all : ∀ other ∈ init ++ [last], (other.merged ns).bindings ≠ [] := by
      intro other member' empty
      refine some (GoMap.bindings_eq_nil.mpr fun name => ?_)
      rw [agree status member other member' name, GoMap.bindings_eq_nil.mp empty name]
    exact (foldl_write_ne_none ns entry filled all).mp ((shows status member).present.mpr some)
  · rintro ⟨agree, noticed⟩ status member
    have lastAgrees := agree last (by simp) status member
    have sameEmpty : (last.merged ns).bindings = [] ↔ (status.merged ns).bindings = [] := by
      rw [GoMap.bindings_eq_nil, GoMap.bindings_eq_nil]
      exact forall_congr' fun name => by rw [lastAgrees name]
    refine ⟨⟨fun present => ?_, fun some => ?_⟩, fun cached final name => ?_⟩
    · rw [written, NPStatusMap.write_ne_none lastFilled] at present
      exact sameEmpty.not.mp present.1
    · have all : ∀ other ∈ init ++ [last], (other.merged ns).bindings ≠ [] := by
        intro other member' empty
        refine some (GoMap.bindings_eq_nil.mpr fun name => ?_)
        rw [agree status member other member' name, GoMap.bindings_eq_nil.mp empty name]
      exact (foldl_write_ne_none ns entry filled all).mpr (noticed status member some)
    · rw [written] at final
      rw [NPStatusMap.get?_of_write final name, lastAgrees name]

end

/-! ## Computing a status -/

namespace Reconciler

theorem filled_statusOfPolicies (entries : List (String × String))
    {state : NPStatusMap × Reconciler} (filled : state.1.Filled) :
    (entries.foldl statusOfPolicy state).1.Filled := by
  induction entries generalizing state with
  | nil => exact filled
  | cons entry rest induction =>
    refine induction ?_
    simp only [statusOfPolicy]
    split
    next => exact filled
    next => exact filled.put _ _ _

theorem filled_statusOfPrevious {r : Reconciler} (entries : List (String × Ref))
    {state : NPStatusMap × GoMap String Ref} (filled : state.1.Filled) :
    (entries.foldl r.statusOfPrevious state).1.Filled := by
  induction entries generalizing state with
  | nil => exact filled
  | cons entry rest induction =>
    refine induction ?_
    simp only [statusOfPrevious]
    split
    next => exact filled
    next =>
      split
      next => exact filled.put _ _ _
      next =>
        exact List.foldlRecOn _ _ filled fun _ filled policy _ => filled.put _ _ _

theorem filled_computeNPStatus (key : String) (tracker : CloudResourceNPTracker)
    (r : Reconciler) : (r.computeNPStatus key tracker).1.Filled :=
  filled_statusOfPrevious _ (filled_statusOfPolicies _ NPStatusMap.filled_empty)

/-- The status of policies is computed without touching the entries and the trackers. -/
structure SameCaches (r r' : Reconciler) : Prop where
  env : r'.env = r.env
  machines : r'.virtualMachinePolicyIndexer = r.virtualMachinePolicyIndexer
  trackers : r'.cloudResourceNPTrackerIndexer = r.cloudResourceNPTrackerIndexer

theorem sameCaches_statusOfPolicies (entries : List (String × String))
    (state : NPStatusMap × Reconciler) :
    SameCaches state.2 (entries.foldl statusOfPolicy state).2 := by
  induction entries generalizing state with
  | nil => exact ⟨rfl, rfl, rfl⟩
  | cons entry rest induction =>
    have here : SameCaches state.2 (statusOfPolicy state entry).2 := by
      simp only [statusOfPolicy]
      split
      next => exact ⟨rfl, rfl, rfl⟩
      next => exact ⟨rfl, rfl, rfl⟩
    have later := induction (statusOfPolicy state entry)
    exact ⟨later.env.trans here.env, later.machines.trans here.machines,
      later.trackers.trans here.trackers⟩

/-- The status of the group behind an entry of the previous groups is nil. -/
def settled (r : Reconciler) (entry : String × Ref) : Bool :=
  (r.objects entry.2).status.isNone

/-- Previous groups are forgotten once they are settled, and have a status until then. -/
theorem foldl_statusOfPrevious (r : Reconciler) (entries : List (String × Ref))
    (state : NPStatusMap × GoMap String Ref) :
    (entries.foldl r.statusOfPrevious state).2 = (entries.filter r.settled).foldl
        (fun previous entry => previous.remove (r.objects entry.2).id.string) state.2 ∧
      ((∀ entry ∈ entries, r.settled entry = true) →
        (entries.foldl r.statusOfPrevious state).1 = state.1) := by
  induction entries generalizing state with
  | nil => exact ⟨rfl, fun _ => rfl⟩
  | cons entry rest induction =>
    obtain ⟨previous, status⟩ := induction (r.statusOfPrevious state entry)
    rw [List.foldl_cons, previous]
    cases found : (r.objects entry.2).status with
    | none =>
      have turn : r.statusOfPrevious state entry =
          (state.1, state.2.remove (r.objects entry.2).id.string) := by
        simp [statusOfPrevious, found]
      have settled : r.settled entry = true := by simp [Reconciler.settled, found]
      rw [turn, List.filter_cons_of_pos settled, List.foldl_cons]
      refine ⟨rfl, fun all => ?_⟩
      rw [turn] at status
      exact status (List.forall_mem_cons.mp all).2
    | some failure =>
      have unsettled : ¬ r.settled entry = true := by simp [Reconciler.settled, found]
      have kept : (r.statusOfPrevious state entry).2 = state.2 := by
        simp only [statusOfPrevious, found]
        split
        next => rfl
        next => rfl
      rw [List.filter_cons_of_neg unsettled, kept]
      exact ⟨rfl, fun all => absurd (List.forall_mem_cons.mp all).1 unsettled⟩

/-- If no previous group is left, all were settled: a group takes one key away at most. -/
theorem settled_of_empty (r : Reconciler) (previous : GoMap String Ref) (code : Nat)
    (ret : NPStatusMap)
    (empty : ((arrange code previous.bindings).foldl r.statusOfPrevious
      (ret, previous)).2.bindings = []) :
    ∀ entry ∈ arrange code previous.bindings, r.settled entry = true := by
  have perm := arrange_perm code previous.bindings
  generalize arrange code previous.bindings = entries at empty perm
  rw [(foldl_statusOfPrevious r entries _).1, GoMap.bindings_eq_nil] at empty
  have removed : previous.bindings.map (·.1) ⊆
      (entries.filter r.settled).map fun entry => (r.objects entry.2).id.string := by
    intro key member
    have left := empty key
    rw [GoMap.get?_foldl_remove fun entry : String × Ref => (r.objects entry.2).id.string] at left
    split at left
    next listed => exact listed
    next => exact absurd left ((GoMap.mem_keys _ _).mp member)
  have enough := (previous.nodup_bindings.subperm removed).length_le
  rw [List.length_map, List.length_map, ← perm.length_eq] at enough
  exact List.length_filter_eq_length_iff.mp (le_antisymm (List.length_filter_le _ _) enough)

/-- What is computed for a tracker, and what it changes. -/
theorem computeNPStatus_spec (key : String) (tracker : CloudResourceNPTracker) (r : Reconciler) :
    ∃ previous : GoMap String Ref,
      (r.computeNPStatus key tracker).2.env = r.env ∧
      (r.computeNPStatus key tracker).2.virtualMachinePolicyIndexer =
        r.virtualMachinePolicyIndexer ∧
      (r.computeNPStatus key tracker).2.cloudResourceNPTrackerIndexer =
        r.cloudResourceNPTrackerIndexer.adjust key (fun tracker =>
          { tracker with prevAppliedToSGs := previous }) ∧
      (tracker.appliedToSGs.bindings = [] → previous.bindings = [] →
        (r.computeNPStatus key tracker).1 = ∅) := by
  let policies := (arrange (r.advance.order 0) (r.policiesOfTracker tracker).bindings).foldl
    statusOfPolicy (∅, r.advance.advance)
  let previous := (arrange (policies.2.order 0) tracker.prevAppliedToSGs.bindings).foldl
    policies.2.statusOfPrevious (policies.1, tracker.prevAppliedToSGs)
  have same : SameCaches r.advance.advance policies.2 :=
    sameCaches_statusOfPolicies _ (∅, r.advance.advance)
  refine ⟨previous.2, same.env, same.machines, congrArg (GoMap.adjust · key
    fun tracker : CloudResourceNPTracker => { tracker with prevAppliedToSGs := previous.2 })
      same.trackers, ?_⟩
  intro noGroups noPrevious
  have settled := settled_of_empty policies.2 _ _ _ noPrevious
  have status : (r.computeNPStatus key tracker).1 = policies.1 :=
    (foldl_statusOfPrevious policies.2 _ _).2 settled
  have none : r.policiesOfTracker tracker = ∅ := by
    rw [policiesOfTracker, noGroups, (arrange_eq_nil _ _).mpr rfl, List.foldl_nil]
  have nothing : arrange (r.advance.order 0) (r.policiesOfTracker tracker).bindings = [] := by
    rw [none, arrange_eq_nil]
    rfl
  rw [status]
  simp only [policies, nothing, List.foldl_nil]

/-! ## Writing the entries -/

/-- The loop body in terms of the merged status. -/
theorem setVMStatus_eq (status : NPStatusMap) (vm : NamespacedName) (r : Reconciler) :
    r.setVMStatus status vm =
      if (status.get? vm.namespace).isNone &&
          (r.virtualMachinePolicyIndexer.get? vm.string).isNone then r
      else if (status.get? vm.namespace).isSome &&
          sameStatus ((r.virtualMachinePolicyIndexer.get? vm.string).getD ∅)
            (status.merged vm.namespace) then r
      else if (status.merged vm.namespace).bindings = [] then
        { r with virtualMachinePolicyIndexer := r.virtualMachinePolicyIndexer.remove vm.string }
      else
        { r with
          virtualMachinePolicyIndexer :=
            r.virtualMachinePolicyIndexer.set vm.string (status.merged vm.namespace) } :=
  rfl

theorem get?_setVMStatus (status : NPStatusMap) (vm : NamespacedName) (r : Reconciler)
    (text : String) :
    (r.setVMStatus status vm).virtualMachinePolicyIndexer.get? text =
      if text = vm.string then
        status.write vm.namespace (r.virtualMachinePolicyIndexer.get? text)
      else r.virtualMachinePolicyIndexer.get? text := by
  by_cases here : text = vm.string
  · subst here
    rw [if_pos rfl]
    rw [setVMStatus_eq, NPStatusMap.write]
    split_ifs with skipped same empty
    · rfl
    · rfl
    · exact GoMap.get?_remove_self _ _
    · exact GoMap.get?_set_self _ _ _
  · rw [if_neg here, setVMStatus_eq]
    split_ifs with skipped same empty
    · rfl
    · rfl
    · exact GoMap.get?_remove_of_ne _ here
    · exact GoMap.get?_set_of_ne _ _ here

/-- Nothing but the entries changes. -/
theorem setVMStatus_frame (status : NPStatusMap) (vm : NamespacedName) (r : Reconciler) :
    (r.setVMStatus status vm).env = r.env ∧
      (r.setVMStatus status vm).cloudResourceNPTrackerIndexer =
        r.cloudResourceNPTrackerIndexer := by
  rw [setVMStatus_eq]
  split_ifs <;> exact ⟨rfl, rfl⟩

section

variable {vms : List NamespacedName} {status : NPStatusMap}

theorem foldl_setVMStatus_frame (vms : List NamespacedName) (status : NPStatusMap)
    (r : Reconciler) :
    (r.forEach vms (setVMStatus status)).env = r.env ∧
      (r.forEach vms (setVMStatus status)).cloudResourceNPTrackerIndexer =
        r.cloudResourceNPTrackerIndexer :=
  List.foldlRecOn (motive := fun r' : Reconciler => r'.env = r.env ∧
    r'.cloudResourceNPTrackerIndexer = r.cloudResourceNPTrackerIndexer) vms _ ⟨rfl, rfl⟩
    fun r' same vm _ => ⟨(setVMStatus_frame status vm r').1.trans same.1,
      (setVMStatus_frame status vm r').2.trans same.2⟩

theorem get?_forEach_of_not_mem {text : String} (absent : text ∉ vms.map (·.string))
    (r : Reconciler) :
    (r.forEach vms (setVMStatus status)).virtualMachinePolicyIndexer.get? text =
      r.virtualMachinePolicyIndexer.get? text := by
  induction vms generalizing r with
  | nil => rfl
  | cons vm rest induction =>
    rw [List.map_cons, List.mem_cons, not_or] at absent
    exact (induction absent.2 _).trans
      ((get?_setVMStatus status vm r text).trans (if_neg absent.1))

theorem get?_forEach_of_mem (distinct : (vms.map (·.string)).Nodup) {vm : NamespacedName}
    (member : vm ∈ vms) (r : Reconciler) :
    (r.forEach vms (setVMStatus status)).virtualMachinePolicyIndexer.get? vm.string =
      status.write vm.namespace (r.virtualMachinePolicyIndexer.get? vm.string) := by
  induction vms generalizing r with
  | nil => cases member
  | cons first rest induction =>
    obtain ⟨fresh, distinct⟩ := List.nodup_cons.mp distinct
    rcases List.mem_cons.mp member with rfl | member
    · exact (get?_forEach_of_not_mem fresh _).trans
        ((get?_setVMStatus status vm r _).trans (if_pos rfl))
    · have other : vm.string ≠ first.string := fun same =>
        fresh (List.mem_map.mpr ⟨vm, member, same⟩)
      refine (induction distinct member _).trans ?_
      rw [get?_setVMStatus, if_neg other]

end

end Reconciler

/-! ## The pass -/

/-- The machines with a cloud id. -/
def Env.machines (env : Env) (id : String) : List NamespacedName :=
  (env.listByCloudID id).toOption.getD []

/-- The API server lists machines without errors, each once and under its own cloud id. -/
structure Env.Lists (env : Env) (identity : String → String) : Prop where
  succeeds : ∀ id, ∃ vms, env.listByCloudID id = .ok vms
  distinct : ∀ id, ((env.machines id).map (·.string)).Nodup
  own : ∀ id, ∀ vm ∈ env.machines id, identity vm.string = id

/-- What a pass makes of a dirty tracker. -/
structure Report where
  id : String
  status : NPStatusMap
  dropped : Bool

namespace Reconciler

/-- The turn of a tracker, if it is dirty. -/
def report (key : String) (r : Reconciler) : Option Report :=
  match r.cloudResourceNPTrackerIndexer.get? key with
  | none => none
  | some tracker =>
    if tracker.dirty then
      some
        { id := tracker.cloudResource.name.name
          status := (r.computeNPStatus key tracker).1
          dropped := ((r.processTracker key).cloudResourceNPTrackerIndexer.get? key).isNone }
    else none

/-- The turns of a list of trackers. -/
def reportsOf : List String → Reconciler → List Report
  | [], _ => []
  | key :: rest, r => (r.report key).toList ++ reportsOf rest (r.processTracker key)

/-- The turns of a pass. -/
def reports (r : Reconciler) : List Report :=
  reportsOf (arrange (r.order 0) (r.cloudResourceNPTrackerIndexer.bindings.map (·.1))) r.advance

variable {r : Reconciler} {keys : List String}

/-- The end of a turn drops the tracker or takes its mark away. -/
theorem processTracker_of_written {key : String} {written : Reconciler}
    {tracker left : CloudResourceNPTracker}
    (found : r.cloudResourceNPTrackerIndexer.get? key = some tracker) (dirty : tracker.dirty = true)
    (setter : r.vmNPStatusSetter key tracker = (false, written))
    (kept : written.cloudResourceNPTrackerIndexer.get? key = some left) :
    (r.processTracker key).env = written.env ∧
      (r.processTracker key).virtualMachinePolicyIndexer = written.virtualMachinePolicyIndexer ∧
      ((r.processTracker key).cloudResourceNPTrackerIndexer.get? key = none →
        left.appliedToSGs.bindings = [] ∧ left.prevAppliedToSGs.bindings = []) := by
  simp only [processTracker, found, dirty, setter, kept]
  by_cases empty : left.appliedToSGs.bindings = [] ∧ left.prevAppliedToSGs.bindings = []
  · simp [empty]
  · simp [empty]

/-- A turn writes the status to the machines that are listed, and nothing else to the entries. -/
theorem processTracker_spec {identity : String → String} (lists : r.env.Lists identity)
    (key : String) :
    (r.processTracker key).env = r.env ∧
      (r.report key = none → (r.processTracker key).virtualMachinePolicyIndexer =
        r.virtualMachinePolicyIndexer) ∧
      ∀ report, r.report key = some report → report.status.Filled ∧
        (report.dropped = true → report.status = ∅) ∧
        ∃ r' : Reconciler, r'.virtualMachinePolicyIndexer = r.virtualMachinePolicyIndexer ∧
          (r.processTracker key).virtualMachinePolicyIndexer =
            (r'.forEach (r.env.machines report.id)
              (setVMStatus report.status)).virtualMachinePolicyIndexer := by
  cases found : r.cloudResourceNPTrackerIndexer.get? key with
  | none =>
    have turn : r.processTracker key = r := by simp [processTracker, found]
    have nothing : r.report key = none := by simp [report, found]
    simp [turn, nothing]
  | some tracker =>
    cases dirty : tracker.dirty with
    | false =>
      have turn : r.processTracker key = r := by simp [processTracker, found, dirty]
      have nothing : r.report key = none := by simp [report, found, dirty]
      simp [turn, nothing]
    | true =>
      obtain ⟨previous, env, machines, trackers, emptied⟩ := computeNPStatus_spec key tracker r
      obtain ⟨vms, listed⟩ := lists.succeeds tracker.cloudResource.name.name
      have listing : r.env.machines tracker.cloudResource.name.name = vms := by
        rw [Env.machines, listed]
        rfl
      let computed := r.computeNPStatus key tracker
      let written := computed.2.forEach vms (setVMStatus computed.1)
      have setter : r.vmNPStatusSetter key tracker = (false, written) := by
        simp only [vmNPStatusSetter, env, listed]
        rfl
      obtain ⟨env', trackers'⟩ := foldl_setVMStatus_frame vms computed.1 computed.2
      have kept : written.cloudResourceNPTrackerIndexer.get? key =
          some { tracker with prevAppliedToSGs := previous } := by
        rw [trackers', trackers, GoMap.get?_adjust, if_pos rfl, found, Option.map_some]
      obtain ⟨sameEnv, entries, empty⟩ := processTracker_of_written found dirty setter kept
      refine ⟨sameEnv.trans (env'.trans env), fun nothing => ?_, fun report reported => ?_⟩
      · simp [report, found, dirty] at nothing
      · simp only [Reconciler.report, found, dirty, if_true, Option.some.injEq] at reported
        subst reported
        refine ⟨filled_computeNPStatus key tracker r, fun dropped => ?_,
          computed.2, machines, by rw [entries, listing]⟩
        obtain ⟨noGroups, noPrevious⟩ := empty (Option.isNone_iff_eq_none.mp dropped)
        exact emptied noGroups noPrevious

variable {identity : String → String}

/-- The entry of a machine that is listed is written by every turn for its cloud id. -/
theorem foldl_processTracker_listed (lists : r.env.Lists identity) {id : String}
    {vm : NamespacedName} (listed : vm ∈ r.env.machines id) :
    (keys.foldl (fun r key => r.processTracker key) r).virtualMachinePolicyIndexer.get? vm.string =
      (((reportsOf keys r).filter (·.id = id)).map (·.status)).foldl
        (fun entry status => status.write vm.namespace entry)
        (r.virtualMachinePolicyIndexer.get? vm.string) := by
  induction keys generalizing r with
  | nil => rfl
  | cons key rest induction =>
    obtain ⟨sameEnv, idle, busy⟩ := processTracker_spec lists key
    rw [List.foldl_cons, induction (sameEnv ▸ lists) (sameEnv ▸ listed), reportsOf]
    cases reported : r.report key with
    | none => rw [idle reported, Option.toList_none, List.nil_append]
    | some report =>
      obtain ⟨_, _, r', before, after⟩ := busy report reported
      rw [after, Option.toList_some, List.singleton_append]
      by_cases own : report.id = id
      · rw [List.filter_cons_of_pos (by simpa using own), List.map_cons, List.foldl_cons,
          get?_forEach_of_mem (lists.distinct _) (own ▸ listed), before]
      · have absent : vm.string ∉ (r.env.machines report.id).map (·.string) := by
          intro member
          obtain ⟨other, listed', same⟩ := List.mem_map.mp member
          refine own ?_
          rw [← lists.own _ other listed', same, lists.own _ vm listed]
        rw [List.filter_cons_of_neg (by simpa using own), get?_forEach_of_not_mem absent,
          before]

/-- No turn touches an entry for which no machine is listed. -/
theorem foldl_processTracker_unlisted (lists : r.env.Lists identity) {text : String}
    (unlisted : text ∉ (r.env.machines (identity text)).map (·.string)) :
    (keys.foldl (fun r key => r.processTracker key) r).virtualMachinePolicyIndexer.get? text =
      r.virtualMachinePolicyIndexer.get? text := by
  induction keys generalizing r with
  | nil => rfl
  | cons key rest induction =>
    obtain ⟨sameEnv, idle, busy⟩ := processTracker_spec lists key
    rw [List.foldl_cons, induction (sameEnv ▸ lists) (sameEnv ▸ unlisted)]
    cases reported : r.report key with
    | none => rw [idle reported]
    | some report =>
      obtain ⟨_, _, r', before, after⟩ := busy report reported
      have absent : text ∉ (r.env.machines report.id).map (·.string) := by
        intro member
        obtain ⟨other, listed, same⟩ := List.mem_map.mp member
        rw [← same, lists.own _ other listed, same] at unlisted
        exact unlisted member
      rw [after, get?_forEach_of_not_mem absent, before]

theorem reportsOf_spec (lists : r.env.Lists identity) :
    ∀ report ∈ reportsOf keys r, report.status.Filled ∧
      (report.dropped = true → report.status = ∅) := by
  induction keys generalizing r with
  | nil => exact List.forall_mem_nil _
  | cons key rest induction =>
    obtain ⟨sameEnv, _, busy⟩ := processTracker_spec lists key
    intro report member
    rcases List.mem_append.mp member with here | later
    · obtain ⟨filled, empty, _⟩ := busy report (Option.mem_toList.mp here)
      exact ⟨filled, empty⟩
    · exact induction (sameEnv ▸ lists) report later

end Reconciler

/-! ## Exactness -/

/-- Every turn of a pass is shown by the entries after it, and a dropped tracker has none. -/
structure CacheExact (env : Env) (identity : String → String) (reports : List Report)
    (cache : GoMap String (GoMap String String)) : Prop where
  shows : ∀ report ∈ reports, ∀ vm ∈ env.machines report.id,
    Shows (cache.get? vm.string) (report.status.merged vm.namespace)
  forgets : ∀ report ∈ reports, report.dropped = true → ∀ text, identity text = report.id →
    cache.get? text = none

/--
What it takes: trackers with one cloud id agree; a machine without an entry has a status in
its namespace if it has any; and a machine of a dropped tracker is listed if it has an
entry.
-/
structure Coherent (env : Env) (identity : String → String) (reports : List Report)
    (cache : GoMap String (GoMap String String)) : Prop where
  agree : ∀ report ∈ reports, ∀ other ∈ reports, other.id = report.id →
    ∀ vm ∈ env.machines report.id, ∀ name,
      (report.status.merged vm.namespace).get? name = (other.status.merged vm.namespace).get? name
  noticed : ∀ report ∈ reports, ∀ vm ∈ env.machines report.id,
    (report.status.merged vm.namespace).bindings ≠ [] → cache.get? vm.string ≠ none ∨
      ∃ other ∈ reports, other.id = report.id ∧ other.status.get? vm.namespace ≠ none
  listed : ∀ report ∈ reports, report.dropped = true → ∀ text, identity text = report.id →
    cache.get? text ≠ none → text ∈ (env.machines report.id).map (·.string)

section

variable {r : Reconciler} {identity : String → String}

/-- The entry of a machine shows all turns for its cloud id if these agree and are noticed. -/
theorem shows_reports_iff (lists : r.env.Lists identity) {id : String} {vm : NamespacedName}
    (listed : vm ∈ r.env.machines id) :
    (∀ report ∈ r.reports, report.id = id →
        Shows (r.processCloudResourceNPTrackers.virtualMachinePolicyIndexer.get? vm.string)
          (report.status.merged vm.namespace)) ↔
      (∀ report ∈ r.reports, report.id = id → ∀ other ∈ r.reports, other.id = id → ∀ name,
        (report.status.merged vm.namespace).get? name =
          (other.status.merged vm.namespace).get? name) ∧
      ∀ report ∈ r.reports, report.id = id → (report.status.merged vm.namespace).bindings ≠ [] →
        r.virtualMachinePolicyIndexer.get? vm.string ≠ none ∨
          ∃ other ∈ r.reports, other.id = id ∧ other.status.get? vm.namespace ≠ none := by
  have written : r.processCloudResourceNPTrackers.virtualMachinePolicyIndexer.get? vm.string =
      ((r.reports.filter (·.id = id)).map (·.status)).foldl
        (fun entry status => status.write vm.namespace entry)
        (r.virtualMachinePolicyIndexer.get? vm.string) :=
    Reconciler.foldl_processTracker_listed (r := r.advance) lists listed
  have filled : ∀ status ∈ (r.reports.filter (·.id = id)).map (·.status), status.Filled := by
    intro status member
    obtain ⟨report, reported, rfl⟩ := List.mem_map.mp member
    exact (Reconciler.reportsOf_spec (r := r.advance) lists report
      (List.mem_of_mem_filter reported)).1
  have own : (∃ status ∈ (r.reports.filter (·.id = id)).map (·.status),
        status.get? vm.namespace ≠ none) ↔
      ∃ other ∈ r.reports, other.id = id ∧ other.status.get? vm.namespace ≠ none := by
    constructor
    · rintro ⟨_, member, some⟩
      obtain ⟨other, reported, rfl⟩ := List.mem_map.mp member
      obtain ⟨there, named⟩ := List.mem_filter.mp reported
      exact ⟨other, there, of_decide_eq_true named, some⟩
    · rintro ⟨other, there, named, some⟩
      exact ⟨_, List.mem_map_of_mem (List.mem_filter.mpr ⟨there, decide_eq_true named⟩), some⟩
  have every := shows_foldl_write_iff vm.namespace
    (r.virtualMachinePolicyIndexer.get? vm.string) filled
  rw [← written, own] at every
  simpa only [List.forall_mem_map, List.mem_filter, decide_eq_true_eq, and_imp] using every

theorem shows_empty {entry : Option (GoMap String String)} {ns : String}
    (shows : Shows entry (NPStatusMap.merged ∅ ns)) : entry = none :=
  not_not.mp (shows.present.not.mpr (not_not.mpr rfl))

theorem unlisted_entry (lists : r.env.Lists identity) {text : String}
    (unlisted : text ∉ (r.env.machines (identity text)).map (·.string)) :
    r.processCloudResourceNPTrackers.virtualMachinePolicyIndexer.get? text =
      r.virtualMachinePolicyIndexer.get? text :=
  Reconciler.foldl_processTracker_unlisted (r := r.advance) lists unlisted

end

/-- The entries are exact after a pass if and only if the turns and the entries before cohere. -/
theorem policy_status_is_exact_iff (r : Reconciler) (identity : String → String)
    (lists : r.env.Lists identity) :
    CacheExact r.env identity r.reports
        r.processCloudResourceNPTrackers.virtualMachinePolicyIndexer ↔
      Coherent r.env identity r.reports r.virtualMachinePolicyIndexer := by
  constructor
  · intro exact'
    have every (id : String) (vm : NamespacedName) (listed : vm ∈ r.env.machines id) :=
      (shows_reports_iff lists listed).mp fun report member own =>
        exact'.shows report member vm (own ▸ listed)
    refine ⟨fun report member other member' own vm listed => ?_,
      fun report member vm listed => ?_, fun report member dropped text named present => ?_⟩
    · exact (every _ vm listed).1 report member rfl other member' own
    · exact (every _ vm listed).2 report member rfl
    · by_contra unlisted
      rw [← named] at unlisted
      rw [← unlisted_entry lists unlisted] at present
      exact present (exact'.forgets report member dropped text named)
  · intro coherent
    have shows : ∀ report ∈ r.reports, ∀ vm ∈ r.env.machines report.id, Shows
        (r.processCloudResourceNPTrackers.virtualMachinePolicyIndexer.get? vm.string)
        (report.status.merged vm.namespace) := by
      intro report member vm listed
      refine (shows_reports_iff lists listed).mpr ⟨?_, ?_⟩ report member rfl
      · intro first member own other member' own' name
        exact coherent.agree first member other member' (own'.trans own.symm) vm
          (own ▸ listed) name
      · intro first member own some
        have noticed := coherent.noticed first member vm (own ▸ listed) some
        rwa [own] at noticed
    refine ⟨shows, fun report member dropped text named => ?_⟩
    by_cases listed : text ∈ (r.env.machines report.id).map (·.string)
    · obtain ⟨vm, there, rfl⟩ := List.mem_map.mp listed
      have shown := shows report member vm there
      rw [(Reconciler.reportsOf_spec (r := r.advance) lists report member).2 dropped] at shown
      exact shows_empty shown
    · by_contra present
      rw [← named] at listed
      rw [unlisted_entry lists listed] at present
      rw [named] at listed
      exact listed (coherent.listed report member dropped text named present)

/-! ## Sample runs -/

namespace Sample

/-- The API server lists the given machines with the cloud id `a`, and no others. -/
def listing (vms : List NamespacedName) : Env :=
  { env with listByCloudID := fun id => .ok (if id = "a" then vms else []) }

theorem lists_listing {vms : List NamespacedName} (distinct : (vms.map (·.string)).Nodup) :
    (listing vms).Lists fun _ => "a" := by
  have machines (id : String) : (listing vms).machines id = if id = "a" then vms else [] := rfl
  refine ⟨fun id => ⟨_, rfl⟩, fun id => ?_, fun id vm listed => ?_⟩
  · rw [machines]
    split
    next => exact distinct
    next => exact List.nodup_nil
  · rw [machines] at listed
    split at listed
    next same => exact same.symm
    next => cases listed

/-- The pass at which the machines are listed, after the labels. -/
def passAfter (labels : List Label) (vms : List NamespacedName) : Reconciler :=
  (run System.step (System.initial fun _ => none) labels).reconciler.enter
    { event := .background, env := listing vms }

/-- The entries after that pass. -/
def cacheAfter (labels : List Label) (vms : List NamespacedName) :
    GoMap String (GoMap String String) :=
  (passAfter labels vms).processCloudResourceNPTrackers.virtualMachinePolicyIndexer

def plainPolicy (group : String) : AntreaNetworkPolicy :=
  ⟨"p", "ns", some ⟨.antreaNetworkPolicy, "ns", "p"⟩, [], [group]⟩

/-- A machine is in a group to which a policy applies. -/
def applying : List Label :=
  steps [.appliedToGroup .added (.complete "g" [member "a"]),
    .networkPolicy .added (plainPolicy "g")]

/-- A machine leaves a group that is still being created, and that has no policies. -/
def detaching : List Label :=
  steps (bookmarks ++ [.appliedToGroup .added (.complete "g" [member "a"]),
    .appliedToGroup .modified (.patch "g" [] [member "a"])])

/-- After a pass a machine leaves a group to which a policy applies. -/
def leaving : List Label :=
  applying ++ [{ event := .background, env := listing [⟨"ns", "a"⟩] }] ++
    steps [.appliedToGroup .modified (.patch "g" [] [member "a"])]

end Sample

theorem status_of_applied_policy_is_exact :
    CacheExact (Sample.listing [⟨"ns", "a"⟩]) (fun _ => "a")
      (Sample.passAfter Sample.applying [⟨"ns", "a"⟩]).reports
      (Sample.cacheAfter Sample.applying [⟨"ns", "a"⟩]) := by
  refine (policy_status_is_exact_iff (Sample.passAfter Sample.applying [⟨"ns", "a"⟩]) _
    (Sample.lists_listing (by decide))).mpr ?_
  obtain ⟨report, only⟩ := List.length_eq_one_iff.mp
    (show (Sample.passAfter Sample.applying [⟨"ns", "a"⟩]).reports.length = 1 by decide +kernel)
  have facts : ∀ report ∈ (Sample.passAfter Sample.applying [⟨"ns", "a"⟩]).reports,
      report.id = "a" ∧ report.dropped = false ∧ (report.status.get? "ns").isSome = true := by
    decide +kernel
  rw [only] at facts ⊢
  obtain ⟨named, kept, own⟩ := facts report List.mem_cons_self
  refine ⟨fun first member other member' _ vm _ name => ?_, fun first member vm listed _ => ?_,
    fun first member dropped => ?_⟩
  · rw [List.mem_singleton.mp member, List.mem_singleton.mp member']
  · obtain rfl := List.mem_singleton.mp member
    rw [named] at listed
    obtain rfl := List.mem_singleton.mp listed
    exact .inr ⟨first, member, rfl, Option.isSome_iff_ne_none.mp own⟩
  · rw [List.mem_singleton.mp member, kept] at dropped
    cases dropped

/--
The status of a group without policies is not shown for a machine that had no status; and
the entry of a machine whose object is gone outlives its tracker.
-/
theorem status_cache_is_inexact :
    (∃ report ∈ (Sample.passAfter Sample.detaching [⟨"ns", "a"⟩]).reports, report.id = "a" ∧
        (report.status.merged "ns").bindings =
          [("g/v1", "Deleting/Detaching g/v1: in-progress")] ∧
        (Sample.cacheAfter Sample.detaching [⟨"ns", "a"⟩]).get? "ns/a" = none) ∧
      ∃ report ∈ (Sample.passAfter Sample.leaving []).reports, report.id = "a" ∧
        report.dropped = true ∧
        ((Sample.cacheAfter Sample.leaving []).get? "ns/a").map (·.bindings) =
          some [("p", "in-progress")] := by
  decide +kernel

end Nephe
