import Nephe.Accounts.Poller

/-!
# The controller of the selectors

`CloudEntitySelectorReconciler` (`cloudentityselector_controller.go`) keeps a poller
for every selector.  It is made when the selector is seen for the first time, with the
account that the selector names then; its goroutine is started once the plug-in has
taken the selector, and ends when the channel of the poller is closed.

The machines of a selector, whose errors a reconciliation only logs, are left to
`doVirtualMachineOperations`.  Both types of providers are registered, so a plug-in is
always found.
-/

namespace Nephe.Accounts

open Library

/-- `accountPoller`; a channel is known by its number. -/
structure SelectorPoller extends AccountPoller where
  pollIntvInSeconds : Nat
  cloudType : CloudProviderType
  ch : Nat

/-- What a reconciliation finds under the name of a selector. -/
inductive SelectorRead where
  | failed (err : String)
  | notFound
  | found (accountName : String)

/-- A request, and what the controller reads while it works on it. -/
structure SelectorRequest where
  namespacedName : NamespacedName
  selector : SelectorRead
  /-- `GetAccountProviderType` of the account; it fails for an account that is missing. -/
  accountCloudType : Option CloudProviderType
  pollIntervalInSeconds : Option Nat
  /-- The error of `AddAccountResourceSelector`. -/
  addError : Option String

/-- `CloudEntitySelectorReconciler`, and what it has made of goroutines and plug-ins. -/
structure SelectorReconciler where
  accPollers : GoMap NamespacedName SelectorPoller := ∅
  /-- The pollers whose goroutines were started. -/
  started : List SelectorPoller := []
  /-- The channels that were closed. -/
  closed : List Nat := []
  nextCh : Nat := 0
  /-- What was added to the plug-ins and not removed again: provider, account and selector. -/
  added : List (CloudProviderType × NamespacedName × String) := []
  panicked : Bool := false

namespace SelectorReconciler

/--
`addAccountPoller`: the poller, and whether it was there before.  There is none when
the type of the account is unknown, or its interval.
-/
def addAccountPoller (request : SelectorRequest) (accountName : String)
    (r : SelectorReconciler) : Option (SelectorPoller × Bool) × SelectorReconciler :=
  match r.accPollers.get? request.namespacedName with
  | some poller => (some (poller, true), r)
  | none =>
    match request.accountCloudType, request.pollIntervalInSeconds with
    | some cloudType, some pollIntvInSeconds =>
      let poller : SelectorPoller :=
        { namespacedName := ⟨request.namespacedName.namespace, accountName⟩
          selector := request.namespacedName
          pollIntvInSeconds, cloudType
          ch := r.nextCh }
      (some (poller, false), { r with
        accPollers := r.accPollers.set request.namespacedName poller
        nextCh := r.nextCh + 1 })
    | _, _ => (none, r)

/-- `removeAccountPoller`. -/
def removeAccountPoller (selectorNamespacedName : NamespacedName) (r : SelectorReconciler) :
    Option SelectorPoller × SelectorReconciler :=
  match r.accPollers.get? selectorNamespacedName with
  | none => (none, r)
  | some poller => (some poller, { r with
      closed := poller.ch :: r.closed
      accPollers := r.accPollers.remove selectorNamespacedName })

/-- `processDelete`. -/
def processDelete (selectorNamespacedName : NamespacedName) (r : SelectorReconciler) :
    SelectorReconciler :=
  match r.removeAccountPoller selectorNamespacedName with
  | (none, r) => r
  | (some poller, r) => { r with
      added := r.added.filter
        (· ≠ (poller.cloudType, poller.namespacedName, selectorNamespacedName.name)) }

/-- `processCreateOrUpdate`; without a poller the program ends. -/
def processCreateOrUpdate (request : SelectorRequest) (accountName : String)
    (r : SelectorReconciler) : SelectorReconciler :=
  match r.addAccountPoller request accountName with
  | (none, r) => { r with panicked := true }
  | (some (poller, preExists), r) =>
    match request.addError with
    | some _ => if preExists then r else r.processDelete request.namespacedName
    | none => { r with
        added := (poller.cloudType, poller.namespacedName, request.namespacedName.name) :: r.added
        started := if preExists then r.started else poller :: r.started }

/-- What happens to the controller: a request, or a plug-in loses an account. -/
inductive Event where
  | reconcile (request : SelectorRequest)
  | removeProviderAccount (providerType : CloudProviderType) (account : NamespacedName)

/-- `Reconcile`, and `RemoveProviderAccount` of a plug-in. -/
def step (r : SelectorReconciler) : Event → SelectorReconciler
  | .reconcile request =>
    if r.panicked then r
    else
      match request.selector with
      | .failed _ => r
      | .notFound => r.processDelete request.namespacedName
      | .found accountName => r.processCreateOrUpdate request accountName
  | .removeProviderAccount providerType account =>
    { r with added := r.added.filter fun entry => entry.1 ≠ providerType ∨ entry.2.1 ≠ account }

/-! ## Pollers and goroutines -/

/-- The poller of a selector is recorded. -/
def Recorded (r : SelectorReconciler) (poller : SelectorPoller) : Prop :=
  r.accPollers.get? poller.selector = some poller

/-- The goroutine of a poller was started, and its channel is open. -/
def Polls (r : SelectorReconciler) (poller : SelectorPoller) : Prop :=
  poller ∈ r.started ∧ poller.ch ∉ r.closed

/-- What was added to a plug-in is for the provider and the account of a recorded poller. -/
def Backed (r : SelectorReconciler) : Prop :=
  ∀ entry ∈ r.added, ∃ poller, r.Recorded poller ∧
    entry = (poller.cloudType, poller.namespacedName, poller.selector.name)

/-- What holds after every request. -/
structure Sound (r : SelectorReconciler) : Prop where
  keys : ∀ key poller, r.accPollers.get? key = some poller → poller.selector = key
  polls : ∀ poller, r.Polls poller ↔ r.Recorded poller
  started : (r.started.map (·.ch)).Nodup
  closed : r.closed.Nodup
  fresh : ∀ ch, ch ∈ r.started.map (·.ch) ∨ ch ∈ r.closed → ch < r.nextCh
  backed : r.Backed

namespace Sound

variable {r : SelectorReconciler} {poller : SelectorPoller}

/-- A new poller, whose selector the plug-in has taken. -/
theorem taken (sound : r.Sound) (new : r.accPollers.get? poller.selector = none)
    (ch : poller.ch = r.nextCh) :
    Sound { r with
      accPollers := r.accPollers.set poller.selector poller
      nextCh := r.nextCh + 1
      added := (poller.cloudType, poller.namespacedName, poller.selector.name) :: r.added
      started := poller :: r.started } := by
  have recorded (other : SelectorPoller) : (r.accPollers.set poller.selector poller).get?
      other.selector = some other ↔ other = poller ∨ r.Polls other := by
    rw [GoMap.get?_set, sound.polls, Recorded]
    split
    next same => simp [same, new, eq_comm]
    next different => exact (or_iff_right fun same : other = poller => different (same ▸ rfl)).symm
  refine ⟨fun key other found => ?_, fun other => ?_, ?_, sound.closed, ?_, ?_⟩
  · rw [GoMap.get?_set] at found
    split at found
    next same => rw [← Option.some.inj found, same]
    next => exact sound.keys key other found
  · have unused : poller.ch ∉ r.closed := fun there => (sound.fresh _ (.inr there)).ne ch
    rw [Recorded, recorded, Polls, List.mem_cons, or_and_right]
    exact or_congr_left (and_iff_left_of_imp fun same => same ▸ unused)
  · exact List.nodup_cons.mpr ⟨fun there => (sound.fresh _ (.inl there)).ne ch, sound.started⟩
  · rintro ch' (there | there)
    · rcases List.mem_cons.mp there with rfl | there
      · exact ch.le.trans_lt (Nat.lt_succ_self _)
      · exact (sound.fresh ch' (.inl there)).trans (Nat.lt_succ_self _)
    · exact (sound.fresh ch' (.inr there)).trans (Nat.lt_succ_self _)
  · refine List.forall_mem_cons.mpr ⟨⟨poller, (recorded _).mpr (.inl rfl), rfl⟩, ?_⟩
    intro entry member
    obtain ⟨other, there, same⟩ := sound.backed entry member
    exact ⟨other, (recorded _).mpr (.inr ((sound.polls other).mpr there)), same⟩

theorem processDelete (sound : r.Sound) (key : NamespacedName) : (r.processDelete key).Sound := by
  unfold SelectorReconciler.processDelete removeAccountPoller
  cases found : r.accPollers.get? key with
  | none => exact sound
  | some poller =>
    have selector := sound.keys key poller found
    subst selector
    have polls := (sound.polls poller).mpr found
    have recorded (other : SelectorPoller) : (r.accPollers.remove poller.selector).get?
        other.selector = some other ↔ r.Polls other ∧ other ≠ poller := by
      rw [GoMap.get?_remove, sound.polls, Recorded]
      split
      next same => simp [same, found, eq_comm]
      next different =>
        exact (and_iff_left fun same : other = poller => different (same ▸ rfl)).symm
    refine ⟨fun key other there => ?_, fun other => ?_, sound.started,
      List.nodup_cons.mpr ⟨polls.2, sound.closed⟩, ?_, fun entry member => ?_⟩
    · rw [GoMap.get?_remove] at there
      split at there
      next => cases there
      next => exact sound.keys key other there
    · -- The channel that was closed is the channel of this poller alone.
      have own (member : other ∈ r.started) : other.ch = poller.ch ↔ other = poller :=
        ⟨List.inj_on_of_nodup_map sound.started member polls.1, fun same => same ▸ rfl⟩
      rw [Recorded, recorded, Polls, Polls, List.mem_cons, not_or, and_assoc]
      refine and_congr_right fun member => ?_
      rw [own member, and_comm]
    · rintro ch (there | there)
      · exact sound.fresh ch (.inl there)
      · rcases List.mem_cons.mp there with rfl | there
        · exact sound.fresh _ (.inl (List.mem_map_of_mem polls.1))
        · exact sound.fresh ch (.inr there)
    · obtain ⟨there, other⟩ := List.mem_filter.mp member
      obtain ⟨backer, known, same⟩ := sound.backed entry there
      refine ⟨backer, (recorded _).mpr ⟨(sound.polls backer).mpr known, ?_⟩, same⟩
      rintro rfl
      simp [same] at other

/-- A goroutine whose channel is closed does not count. -/
theorem unstarted (sound : r.Sound) {rest : List SelectorPoller}
    (started : r.started = poller :: rest) (closed : poller.ch ∈ r.closed) :
    Sound { r with started := rest } := by
  have nodup := sound.started
  rw [started, List.map_cons] at nodup
  refine ⟨sound.keys, fun other => ?_, nodup.of_cons, sound.closed, fun ch there => ?_,
    sound.backed⟩
  · refine Iff.trans (and_congr_left fun opened => ?_) (sound.polls other)
    rw [started, List.mem_cons, or_iff_right]
    rintro rfl
    exact opened closed
  · exact sound.fresh ch (there.imp_left fun there => started ▸ List.mem_cons_of_mem _ there)

theorem processCreateOrUpdate (sound : r.Sound) (request : SelectorRequest)
    (accountName : String) : (r.processCreateOrUpdate request accountName).Sound := by
  unfold SelectorReconciler.processCreateOrUpdate addAccountPoller
  cases found : r.accPollers.get? request.namespacedName with
  | some poller =>
    have selector := sound.keys _ _ found
    cases request.addError with
    | some err => exact sound
    | none =>
      have here : r.Recorded poller := (congrArg r.accPollers.get? selector).trans found
      exact { sound with
        backed := List.forall_mem_cons.mpr ⟨⟨poller, here, selector ▸ rfl⟩, sound.backed⟩ }
  | none =>
    cases request.accountCloudType with
    | none => exact { sound with }
    | some cloudType =>
      cases request.pollIntervalInSeconds with
      | none => exact { sound with }
      | some pollIntvInSeconds =>
        have taken := @taken r ⟨⟨⟨request.namespacedName.namespace, accountName⟩,
          request.namespacedName⟩, pollIntvInSeconds, cloudType, r.nextCh⟩ sound found rfl
        cases request.addError with
        | none => exact taken
        | some err =>
          -- What is left is what a deletion after a success would leave.
          have deleted := taken.processDelete request.namespacedName
          simp only [SelectorReconciler.processDelete, removeAccountPoller,
            GoMap.get?_set_self, List.filter_cons, ne_eq, not_true_eq_false, decide_false,
            Bool.false_eq_true, if_false] at deleted ⊢
          exact deleted.unstarted rfl List.mem_cons_self

theorem step (sound : r.Sound) (event : Event) : (r.step event).Sound := by
  cases event with
  | removeProviderAccount providerType account =>
    exact { sound with
      backed := fun entry member => sound.backed entry (List.mem_of_mem_filter member) }
  | reconcile request =>
    simp only [SelectorReconciler.step]
    split
    next => exact sound
    next =>
      cases request.selector with
      | failed err => exact sound
      | notFound => exact sound.processDelete _
      | found accountName => exact sound.processCreateOrUpdate request accountName

end Sound

/--
After every run of requests and of accounts that the plug-ins lose, the goroutines that
poll are those of the recorded pollers, each with a channel of its own; no channel was
closed twice; and what was added to the plug-ins and not removed again is for the
provider and the account of a recorded poller.
-/
theorem pollers_follow_the_selectors (events : List Event) :
    let r := run step {} events
    (∀ poller, r.Polls poller ↔ r.Recorded poller) ∧ (r.started.map (·.ch)).Nodup ∧
      r.closed.Nodup ∧ r.Backed := by
  have initially : Sound {} := by
    refine ⟨fun _ _ found => ?_, fun poller => ?_, List.nodup_nil, List.nodup_nil, ?_, ?_⟩
    · cases found
    · simp [Polls, Recorded]
    · simp
    · simp [Backed]
  have sound := run_invariant Sound (fun _ event _ sound => sound.step event)
    (allowed_of_forall (fun _ _ => trivial) {} events) initially
  exact ⟨sound.polls, sound.started, sound.closed, sound.backed⟩

end SelectorReconciler

end Nephe.Accounts
