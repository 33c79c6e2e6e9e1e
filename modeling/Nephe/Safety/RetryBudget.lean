import Nephe.Controller.PendingItemCalls

/-!
# The budget of an item

A queue with a budget runs an item until its counter is used up.  `CheckToRun` looks at
the counter before it runs an item and removes the item when the counter is negative;
`Update` runs the item first and removes it when the counter is not positive.  The counter
is decremented after the run.

As long as no item is run while it is running, the counter of a queued item is what its
runs have left of the budget.  Then the budget is respected exactly if `Update` runs no
item whose counter is used up.
-/

namespace Nephe.PendingItemCalls

open Library

namespace State

/-- The items on which a move invokes `RunPendingItem` while they are queued. -/
def invokes (s : State) (move : Move) : List Nat :=
  (List.range s.added.length).filter fun item => s.invoked item < (s.step move).invoked item

/-- No item is run while it is running. -/
def Steady (s : State) (move : Move) : Prop :=
  ∀ item ∈ s.invokes move, s.running item = 0

/-- Only items with some budget left are run. -/
def InBudget (s : State) (move : Move) : Prop :=
  ∀ item ∈ s.invokes move, (s.counts item).any (0 < ·) = true

/--
The turn in which an item has asked to run, at the move that decides whether it stays: in
`CheckToRun` an item without budget is dropped when it asks, in `Update` when it has run.
-/
def concluded (s : State) : Move → Option Turn
  | .asked true _ =>
    match s.calls with
    | .checkToRun _ _ (some ⟨id, item, .runOrDeletePendingItem⟩) :: _ =>
      some ⟨id, item, .runOrDeletePendingItem⟩
    | _ => none
  | .ran _ =>
    match s.calls with
    | .update _ ⟨id, item, .runPendingItem⟩ :: _ => some ⟨id, item, .runPendingItem⟩
    | _ => none
  | _ => none

instance (s : State) (move : Move) : Decidable (s.Steady move) :=
  inferInstanceAs (Decidable (∀ item ∈ s.invokes move, s.running item = 0))

instance (s : State) (move : Move) : Decidable (s.InBudget move) :=
  inferInstanceAs (Decidable (∀ item ∈ s.invokes move, (s.counts item).any (0 < ·) = true))

/-! ## What a move can do -/

/-- Every turn of the calls is that of an item that was called before or is queued. -/
def Frames (s : State) (calls : List Call) : Prop :=
  ∀ call ∈ calls, ∀ turn, call.turn = some turn →
    (∃ before ∈ s.calls, ∃ method, before.turn = some ⟨turn.id, turn.item, method⟩) ∨
      s.items.get? turn.id = some turn.item

/-- The changes of a move. -/
inductive Outcome (s : State) : State → Prop where
  | quiet (condition : Bool) (id : String) (calls : List Call) (frames : s.Frames calls)
      (same : ∀ item, calls.countP (·.runs item) = s.running item) :
      Outcome s ((s.removeIf condition id).returning calls)
  | added (id : String) (absent : s.items.get? id = none) :
      Outcome s (s.add id)
  | begun (turn : Turn) (condition : Bool) (calls : List Call) (frames : s.Frames calls)
      (called : ∃ before ∈ s.calls, ∃ method, before.turn = some ⟨turn.id, turn.item, method⟩)
      (more : ∀ item, calls.countP (·.runs item) =
        s.running item + if item = turn.item then 1 else 0) :
      Outcome s (((s.removeIf condition turn.id).invoke turn).returning calls)
  | ended (turn : Turn) (condition : Bool) (calls : List Call) (frames : s.Frames calls)
      (fewer : ∀ item, calls.countP (·.runs item) + (if item = turn.item then 1 else 0) =
        s.running item) :
      Outcome s (((s.decrement turn.item).removeIf condition turn.id).returning calls)
  /-- The budget is used up: the item is counted down and removed. -/
  | skipped (turn : Turn) (calls : List Call) (frames : s.Frames calls)
      (called : ∃ before ∈ s.calls, ∃ method, before.turn = some ⟨turn.id, turn.item, method⟩)
      (same : ∀ item, calls.countP (·.runs item) = s.running item) :
      Outcome s (((s.decrement turn.item).removeIf true turn.id).returning calls)

@[simp]
theorem running_returning (s : State) (calls : List Call) (item : Nat) :
    (s.returning calls).running item = calls.countP (·.runs item) :=
  rfl

theorem Frames.refl (s : State) : s.Frames s.calls :=
  fun call member turn found => .inl ⟨call, member, turn.method, found⟩

variable {s after : State} {calls : List Call} {call : Call} {id : String} {item n : Nat}

theorem Frames.cons (frames : s.Frames calls) (here : ∀ turn, call.turn = some turn →
      (∃ before ∈ s.calls, ∃ method, before.turn = some ⟨turn.id, turn.item, method⟩) ∨
        s.items.get? turn.id = some turn.item) : s.Frames (call :: calls) :=
  List.forall_mem_cons.mpr ⟨here, frames⟩

theorem Frames.loop (frames : s.Frames calls) (initially seen : List Nat) :
    s.Frames (.checkToRun initially seen none :: calls) :=
  .cons frames (by simp [Call.turn])

/-- Below the innermost call. -/
theorem Frames.tail {rest : List Call} (calls : s.calls = call :: rest) : s.Frames rest :=
  fun before member turn found =>
    .inl ⟨before, calls ▸ List.mem_cons_of_mem _ member, turn.method, found⟩

theorem Outcome.refl (s : State) : Outcome s s :=
  .quiet false "" s.calls (.refl s) fun _ => rfl

theorem add_of_absent (absent : s.items.get? id = none) :
    s.add id =
      { s with
        items := s.items.set id s.added.length
        counts := Function.update s.counts s.added.length s.opCnt
        added := s.added ++ [id] } := by
  simp [add, absent]

section

variable {s : State} {id : String} {item : Nat} {rest : List Call}

/-- A call in which `RunPendingItem` of an item is being executed. -/
theorem countP_running {call : Call} (found : call.turn = some ⟨id, item, .runPendingItem⟩)
    (other : Nat) : (call :: rest).countP (·.runs other) =
      rest.countP (·.runs other) + if other = item then 1 else 0 := by
  have runs : call.runs other = decide (other = item) := by
    by_cases same : other = item
    · simp [Call.runs, found, same]
    · simp [Call.runs, found, same, Ne.symm same]
  rw [List.countP_cons, runs]
  simp only [decide_eq_true_eq]

theorem countP_idle {call : Call}
    (idle : ∀ turn, call.turn = some turn → turn.method ≠ .runPendingItem) (other : Nat) :
    (call :: rest).countP (·.runs other) = rest.countP (·.runs other) := by
  refine List.countP_cons_of_neg ?_
  cases found : call.turn with
  | none => simp [Call.runs, found]
  | some turn => simp [Call.runs, found, idle turn found]

/-- `CheckToRun` between two items. -/
theorem countP_loop (initially seen : List Nat) (other : Nat) :
    (Call.checkToRun initially seen none :: rest).countP (·.runs other) =
      rest.countP (·.runs other) := by
  refine countP_idle (fun turn found => ?_) other
  cases found

theorem called_of {call : Call} {method : Method} (calls : s.calls = call :: rest)
    (found : call.turn = some ⟨id, item, method⟩) :
    ∃ before ∈ s.calls, ∃ method, before.turn = some ⟨id, item, method⟩ :=
  ⟨call, calls ▸ List.mem_cons_self, method, found⟩

theorem asked_cases (s : State) (run delete : Bool) : s.asked run delete = s ∨
    (∃ checkRun id item rest,
      s.calls = .update checkRun ⟨id, item, .runOrDeletePendingItem⟩ :: rest) ∨
    ∃ initially seen id item rest, s.calls =
      .checkToRun initially seen (some ⟨id, item, .runOrDeletePendingItem⟩) :: rest := by
  unfold asked
  split
  next calls => exact .inr (.inl ⟨_, _, _, _, calls⟩)
  next calls => exact .inr (.inr ⟨_, _, _, _, _, calls⟩)
  next => exact .inl rfl

theorem ran_cases (s : State) (delete : Bool) : s.ran delete = s ∨
    (∃ checkRun id item rest,
      s.calls = .update checkRun ⟨id, item, .runPendingItem⟩ :: rest) ∨
    ∃ initially seen id item rest, s.calls =
      .checkToRun initially seen (some ⟨id, item, .runPendingItem⟩) :: rest := by
  unfold ran
  split
  next calls => exact .inr (.inl ⟨_, _, _, _, calls⟩)
  next calls => exact .inr (.inr ⟨_, _, _, _, _, calls⟩)
  next => exact .inl rfl

theorem outcome_updated (s : State) : Outcome s s.updated := by
  unfold updated
  split
  next checkRun id item rest calls =>
    have idle (other : Nat) : s.running other = rest.countP (·.runs other) := by
      rw [running, calls, countP_idle (by rintro turn ⟨rfl⟩; simp)]
    split
    next =>
      refine .quiet false "" _ (Frames.cons (.tail calls) ?_) fun other => ?_
      · rintro turn ⟨rfl⟩
        exact .inl (called_of calls rfl)
      · rw [idle, countP_idle (by rintro turn ⟨rfl⟩; simp)]
    next => exact .quiet false "" rest (.tail calls) fun other => (idle other).symm
  next => exact .refl s

theorem outcome_asked (s : State) (run delete : Bool) : Outcome s (s.asked run delete) := by
  rcases asked_cases s run delete with unchanged | ⟨checkRun, id, item, rest, calls⟩ |
    ⟨initially, seen, id, item, rest, calls⟩
  · rw [unchanged]
    exact .refl s
  · have idle (other : Nat) : s.running other = rest.countP (·.runs other) := by
      rw [running, calls, countP_idle (by rintro turn ⟨rfl⟩; simp)]
    rw [asked_update calls]
    split
    next =>
      refine .begun ⟨id, item, .runPendingItem⟩ delete _ (Frames.cons (.tail calls) ?_)
        (called_of calls rfl) fun other => ?_
      · rintro turn ⟨rfl⟩
        exact .inl (called_of calls rfl)
      · rw [idle, countP_running rfl]
    next => exact .quiet _ id rest (.tail calls) fun other => (idle other).symm
  · have idle (other : Nat) : s.running other = rest.countP (·.runs other) := by
      rw [running, calls, countP_idle (by rintro turn ⟨rfl⟩; simp)]
    have next : s.Frames (.checkToRun initially seen none :: rest) := .loop (.tail calls) _ _
    have same (other : Nat) :
        (Call.checkToRun initially seen none :: rest).countP (·.runs other) = s.running other := by
      rw [idle, countP_loop]
    rw [asked_checkToRun calls]
    split
    next =>
      split
      next =>
        refine .begun ⟨id, item, .runPendingItem⟩ delete _ (Frames.cons (.tail calls) ?_)
          (called_of calls rfl) fun other => ?_
        · rintro turn ⟨rfl⟩
          exact .inl (called_of calls rfl)
        · rw [idle, countP_running rfl]
      next => exact .skipped ⟨id, item, .runPendingItem⟩ _ next (called_of calls rfl) same
    next => exact .quiet _ id _ next same

theorem outcome_ran (s : State) (delete : Bool) : Outcome s (s.ran delete) := by
  rcases ran_cases s delete with unchanged | ⟨checkRun, id, item, rest, calls⟩ |
    ⟨initially, seen, id, item, rest, calls⟩
  · rw [unchanged]
    exact .refl s
  · rw [ran_update calls]
    refine .ended ⟨id, item, .runPendingItem⟩ _ rest (.tail calls) fun other => ?_
    rw [running, calls, countP_running rfl]
  · rw [ran_checkToRun calls]
    refine .ended ⟨id, item, .runPendingItem⟩ _ _ (.loop (.tail calls) _ _) fun other => ?_
    rw [running, calls, countP_loop, countP_running rfl]

theorem outcome_visit (s : State) (id : String) : Outcome s (s.visit id) := by
  unfold visit
  split
  next initially seen rest calls =>
    split
    next => exact .refl s
    next item found =>
      split
      next => exact .refl s
      next =>
        refine .quiet false "" _ (Frames.cons (.tail calls) ?_) fun other => ?_
        · rintro turn ⟨rfl⟩
          exact .inr found
        · rw [running, calls, countP_loop,
            countP_idle (by rintro turn ⟨rfl⟩; simp)]
  next => exact .refl s

theorem outcome_finish (s : State) : Outcome s s.finish := by
  unfold finish
  split
  next initially seen rest calls =>
    split
    next =>
      refine .quiet false "" rest (.tail calls) fun other => ?_
      rw [running, calls, countP_loop]
    next => exact .refl s
  next => exact .refl s

theorem outcome_call (s : State) {called : State} (outcome : Outcome s called) :
    Outcome s (if s.callable then called else s) := by
  split
  next => exact outcome
  next => exact .refl s

theorem outcome_add (s : State) (id : String) : Outcome s (s.add id) := by
  cases found : s.items.get? id with
  | none => exact .added id found
  | some item =>
    have unchanged : s.add id = s := by simp [add, found]
    rw [unchanged]
    exact .refl s

theorem outcome_update (s : State) (id : String) (checkRun : Bool) :
    Outcome s (s.update id checkRun) := by
  unfold update
  split
  next => exact .refl s
  next item found =>
    refine .quiet false "" _ (Frames.cons (.refl s) ?_) fun other => ?_
    · rintro turn ⟨rfl⟩
      exact .inr found
    · rw [countP_idle (by rintro turn ⟨rfl⟩; simp), running]

theorem step_outcome (s : State) (move : Move) : Outcome s (s.step move) := by
  cases move with
  | add id => exact outcome_call s (outcome_add s id)
  | remove id => exact outcome_call s (.quiet true id s.calls (.refl s) fun _ => rfl)
  | update id checkRun => exact outcome_call s (outcome_update s id checkRun)
  | checkToRun =>
    refine outcome_call s (.quiet false "" _ (.loop (.refl s) _ _) fun other => ?_)
    rw [countP_loop, running]
  | updated => exact outcome_updated s
  | asked run delete => exact outcome_asked s run delete
  | ran delete => exact outcome_ran s delete
  | visit id => exact outcome_visit s id
  | finish => exact outcome_finish s

end

/-! ## Every item in use has been added -/

/-- Items are queued and called under the ids with which they were added. -/
structure Known (s : State) : Prop where
  queued : s.Distinct
  called : ∀ call ∈ s.calls, ∀ turn, call.turn = some turn → s.added[turn.item]? = some turn.id

theorem Known.frames (known : s.Known) (frames : s.Frames calls) :
    ∀ call ∈ calls, ∀ turn, call.turn = some turn → s.added[turn.item]? = some turn.id := by
  intro call member turn found
  rcases frames call member turn found with ⟨before, there, method, same⟩ | queued
  · have called := known.called before there ⟨turn.id, turn.item, method⟩ same
    exact called
  · exact known.queued turn.id turn.item queued

theorem Distinct.removeIf (distinct : s.Distinct) (condition : Bool) (id : String) :
    (s.removeIf condition id).Distinct :=
  fun other item found => distinct other item (get?_removeIf_eq_some.mp found).1

theorem Outcome.known (outcome : Outcome s after) (known : s.Known) : after.Known := by
  cases outcome with
  | quiet condition id calls frames _ =>
    exact ⟨known.queued.removeIf condition id, known.frames frames⟩
  | begun turn condition calls frames _ _ =>
    exact ⟨known.queued.removeIf condition turn.id, known.frames frames⟩
  | ended turn condition calls frames _ =>
    exact ⟨known.queued.removeIf condition turn.id, known.frames frames⟩
  | skipped turn calls frames _ _ =>
    exact ⟨known.queued.removeIf true turn.id, known.frames frames⟩
  | added id absent =>
    refine ⟨known.queued.add id, fun call member turn found => ?_⟩
    rw [add_of_absent absent] at member ⊢
    have before := known.called call member turn found
    exact (List.getElem?_append_left (List.getElem?_eq_some_iff.mp before).1).trans before

/-- An item is invoked once by a move, and it was queued before. -/
theorem Outcome.invoked (outcome : Outcome s after) (item : Nat) :
    after.invoked item = s.invoked item ∨
      after.invoked item = s.invoked item + 1 ∧ ∃ id, s.items.get? id = some item := by
  cases outcome with
  | quiet => exact .inl rfl
  | ended => exact .inl rfl
  | skipped => exact .inl rfl
  | added id absent => exact .inl (by rw [add_of_absent absent])
  | begun turn condition =>
    by_cases same : item = turn.item
    · subst same
      by_cases here : (s.removeIf condition turn.id).holds turn = true
      · have queued := (get?_removeIf_eq_some.mp (beq_iff_eq.mp here)).1
        exact .inr ⟨invoked_invoke_self here, turn.id, queued⟩
      · exact .inl (by simp only [returning, invoke, here]; rfl)
    · exact .inl (invoked_invoke_of_ne same)

/-- The turn of a call has the only id of its item. -/
theorem Known.only (known : s.Known) {turn : Turn}
    (called : ∃ before ∈ s.calls, ∃ method, before.turn = some ⟨turn.id, turn.item, method⟩)
    (queued : s.items.get? id = some turn.item) : id = turn.id := by
  obtain ⟨before, there, method, same⟩ := called
  have first := known.queued id turn.item queued
  have second := known.called before there ⟨turn.id, turn.item, method⟩ same
  exact Option.some.inj (first.symm.trans second)

theorem Known.lt_length (known : s.Known) (queued : s.items.get? id = some item) :
    item < s.added.length :=
  (List.getElem?_eq_some_iff.mp (known.queued id item queued)).1

/-- An item that has not been added is not running. -/
theorem Known.running_eq_zero (known : s.Known) (new : s.added.length ≤ item) :
    s.running item = 0 := by
  refine List.countP_eq_zero.mpr fun call member => ?_
  cases found : call.turn with
  | none => simp [Call.runs, found]
  | some turn =>
    have old := (List.getElem?_eq_some_iff.mp (known.called call member turn found)).1
    have different : turn.item ≠ item := by omega
    simp [Call.runs, found, different]

theorem Outcome.length_le (outcome : Outcome s after) : s.added.length ≤ after.added.length := by
  cases outcome with
  | quiet => exact le_rfl
  | begun => exact le_rfl
  | ended => exact le_rfl
  | skipped => exact le_rfl
  | added id absent => simp [add_of_absent absent]

theorem Outcome.opCnt_eq (outcome : Outcome s after) : after.opCnt = s.opCnt := by
  cases outcome with
  | quiet => rfl
  | begun => rfl
  | ended => rfl
  | skipped => rfl
  | added id absent => rw [add_of_absent absent]

/-! ## Counters -/

/--
The counter of an item is what its invocations have left of the budget, and an invocation
is counted down when it returns.
-/
def Counted (n : Nat) (s : State) (item : Nat) : Prop :=
  ∃ count, s.counts item = some count ∧ s.invoked item + count = n + s.running item ∧
    s.running item ≤ 1

theorem Counted.of_eq (counted : s.Counted n item) (counts : after.counts item = s.counts item)
    (invoked : after.invoked item = s.invoked item)
    (running : after.running item = s.running item) :
    after.Counted n item := by
  unfold Counted
  rw [counts, invoked, running]
  exact counted

/-- The counters of the queued items. -/
structure Balanced (n : Nat) (s : State) : Prop where
  known : s.Known
  opCnt : s.opCnt = some (n : Int)
  fresh : ∀ item, s.added.length ≤ item → s.invoked item = 0
  counted : ∀ id item, s.items.get? id = some item → s.Counted n item

/-- The counters after a move that runs no item that is running. -/
theorem Outcome.counted (outcome : Outcome s after)
    (steady : ∀ item, s.invoked item < after.invoked item → s.running item = 0)
    (balanced : s.Balanced n) (id : String) (item : Nat)
    (queued : after.items.get? id = some item) :
    after.Counted n item := by
  cases outcome with
  | quiet condition removed calls _ same =>
    have before := balanced.counted id item (get?_removeIf_eq_some.mp queued).1
    exact before.of_eq rfl rfl (same item)
  | begun turn condition calls _ called more =>
    have before := balanced.counted id item (get?_removeIf_eq_some.mp queued).1
    by_cases same : item = turn.item
    · subst same
      obtain rfl := balanced.known.only called (get?_removeIf_eq_some.mp queued).1
      have here : (s.removeIf condition turn.id).holds turn = true := beq_iff_eq.mpr queued
      have invoked : (((s.removeIf condition turn.id).invoke turn).returning calls).invoked
          turn.item = s.invoked turn.item + 1 :=
        invoked_invoke_self here
      have idle := steady turn.item (by omega)
      have running : (((s.removeIf condition turn.id).invoke turn).returning calls).running
          turn.item = s.running turn.item + 1 := by
        simpa using more turn.item
      obtain ⟨count, left, balance, _⟩ := before
      refine ⟨count, left, ?_, ?_⟩
      · rw [invoked, running]
        push_cast
        omega
      · omega
    · refine before.of_eq rfl (invoked_invoke_of_ne same) ?_
      simpa [same] using more item
  | ended turn condition calls _ fewer =>
    have before := balanced.counted id item (get?_removeIf_eq_some.mp queued).1
    have running := fewer item
    by_cases same : item = turn.item
    · subst same
      obtain ⟨count, left, balance, once⟩ := before
      rw [if_pos rfl] at running
      refine ⟨count - 1, ?_, ?_, ?_⟩
      · exact (counts_decrement_self turn.item s).trans (by rw [left, Option.map_some])
      · rw [running_returning]
        change (s.invoked turn.item : Int) + (count - 1) = n + _
        omega
      · rw [running_returning]
        omega
    · refine before.of_eq (Function.update_of_ne same ..) rfl ?_
      simpa [same] using running
  | skipped turn calls _ called same =>
    obtain ⟨before, different⟩ := get?_removeIf_eq_some.mp queued
    have other : item ≠ turn.item := by
      rintro rfl
      exact different ⟨rfl, balanced.known.only called before⟩
    exact (balanced.counted id item before).of_eq (Function.update_of_ne other ..) rfl
      (same item)
  | added new absent =>
    rw [add_of_absent absent] at queued ⊢
    simp only [GoMap.get?_set] at queued
    split at queued
    next =>
      cases queued
      have invoked := balanced.fresh s.added.length le_rfl
      have running := balanced.known.running_eq_zero (le_refl s.added.length)
      refine ⟨n, ?_, ?_, ?_⟩
      · exact (Function.update_self ..).trans balanced.opCnt
      · change (s.invoked s.added.length : Int) + n = n + (s.running s.added.length : Nat)
        omega
      · exact le_of_eq_of_le running (Nat.zero_le 1)
    next =>
      have old := balanced.known.lt_length queued
      exact (balanced.counted id item queued).of_eq
        (Function.update_of_ne (Nat.ne_of_lt old) ..) rfl rfl

theorem mem_invokes {move : Move} :
    item ∈ s.invokes move ↔
      item < s.added.length ∧ s.invoked item < (s.step move).invoked item := by
  simp [invokes]

section

variable {n : Nat} {s : State} {move : Move}

variable {item : Nat} {turn : Turn}

theorem queued_of_invoked (grows : s.invoked item < (s.step move).invoked item) :
    ∃ id, s.items.get? id = some item := by
  rcases (step_outcome s move).invoked item with same | ⟨_, queued⟩
  · omega
  · exact queued

theorem Balanced.mem_invokes (balanced : s.Balanced n)
    (grows : s.invoked item < (s.step move).invoked item) : item ∈ s.invokes move := by
  obtain ⟨id, queued⟩ := queued_of_invoked grows
  exact State.mem_invokes.mpr ⟨balanced.known.lt_length queued, grows⟩

theorem Balanced.step (balanced : s.Balanced n) (steady : s.Steady move) :
    (s.step move).Balanced n := by
  have outcome := step_outcome s move
  have longer := outcome.length_le
  have steady' (item : Nat) (grows : s.invoked item < (s.step move).invoked item) :
      s.running item = 0 :=
    steady item (balanced.mem_invokes grows)
  refine ⟨outcome.known balanced.known, ?_, ?_, outcome.counted steady' balanced⟩
  · rw [outcome.opCnt_eq, balanced.opCnt]
  · intro item new
    rcases outcome.invoked item with same | ⟨_, id, queued⟩
    · rw [same, balanced.fresh item (Nat.le_trans longer new)]
    · have old := balanced.known.lt_length queued
      omega

/-- The budget of an item that is invoked is unused exactly if it was invoked less often. -/
theorem Balanced.spare_iff (balanced : s.Balanced n) (steady : s.Steady move)
    (invoked : item ∈ s.invokes move) :
    (s.counts item).any (0 < ·) = true ↔ s.invoked item < n := by
  obtain ⟨id, queued⟩ := queued_of_invoked (State.mem_invokes.mp invoked).2
  obtain ⟨count, left, balance, _⟩ := balanced.counted id item queued
  have idle := steady item invoked
  simp only [left, Option.any_some, decide_eq_true_eq]
  omega

theorem Balanced.within_step_iff (balanced : s.Balanced n) (steady : s.Steady move)
    (within : ∀ item, s.invoked item ≤ n) :
    (∀ item, (s.step move).invoked item ≤ n) ↔ s.InBudget move := by
  constructor
  · intro after item invoked
    rw [balanced.spare_iff steady invoked]
    exact Nat.lt_of_lt_of_le (State.mem_invokes.mp invoked).2 (after item)
  · intro inBudget item
    rcases (step_outcome s move).invoked item with same | ⟨more, _⟩
    · exact same ▸ within item
    · have grows : s.invoked item < (s.step move).invoked item := by omega
      have invoked := balanced.mem_invokes grows
      have spare := (balanced.spare_iff steady invoked).mp (inBudget item invoked)
      omega

theorem invoked_le_step (s : State) (move : Move) (item : Nat) :
    s.invoked item ≤ (s.step move).invoked item := by
  rcases (step_outcome s move).invoked item with same | ⟨more, _⟩
  · exact Nat.le_of_eq same.symm
  · omega

theorem balanced_new (n : Nat) : (new (some (n : Int))).Balanced n where
  known := ⟨fun _ _ found => by simp [new] at found, fun _ member => by simp [new] at member⟩
  opCnt := rfl
  fresh _ _ := rfl
  counted _ _ found := by simp [new] at found

/-! ## Items that have used their budget up -/

theorem concluded_cases (concluded : s.concluded move = some turn) :
    (∃ delete initially seen rest, move = .asked true delete ∧
      s.calls = .checkToRun initially seen (some ⟨turn.id, turn.item, .runOrDeletePendingItem⟩) ::
        rest) ∨
    ∃ delete checkRun rest, move = .ran delete ∧
      s.calls = .update checkRun ⟨turn.id, turn.item, .runPendingItem⟩ :: rest := by
  unfold State.concluded at concluded
  split at concluded
  next delete =>
    split at concluded
    next initially seen id item rest calls =>
      cases concluded
      exact .inl ⟨delete, initially, seen, rest, rfl, calls⟩
    next => cases concluded
  next delete =>
    split at concluded
    next checkRun id item rest calls =>
      cases concluded
      exact .inr ⟨delete, checkRun, rest, rfl, calls⟩
    next => cases concluded
  next => cases concluded

theorem holds_removeIf {condition : Bool}
    (removed : s.items.get? turn.id = some turn.item → condition = true) :
    (s.removeIf condition turn.id).holds turn = false := by
  rw [holds, beq_eq_false_iff_ne]
  intro queued
  obtain ⟨before, stays⟩ := get?_removeIf_eq_some.mp queued
  exact stays ⟨removed before, rfl⟩

/-- An item that asks to run after its last invocation is not queued when its turn has ended. -/
theorem Balanced.removed (balanced : s.Balanced n) (steady : s.Steady move)
    (concluded : s.concluded move = some turn) (used : n ≤ s.invoked turn.item) :
    (s.step move).holds turn = false := by
  rcases concluded_cases concluded with ⟨delete, initially, seen, rest, rfl, calls⟩ |
    ⟨delete, checkRun, rest, rfl, calls⟩
  · have asked := asked_checkToRun calls true delete
    rw [if_pos rfl] at asked
    by_cases left : (s.counts turn.item).all (0 < ·) = true
    · rw [if_pos left] at asked
      -- the counter is positive although the budget is used up: the item is running
      refine (congrArg (holds · turn) asked).trans (holds_removeIf fun queued => ?_)
      by_contra stays
      obtain ⟨count, found, balance, _⟩ := balanced.counted turn.id turn.item queued
      have here : (s.removeIf delete turn.id).holds turn = true :=
        beq_iff_eq.mpr (get?_removeIf_eq_some.mpr ⟨queued, fun both => stays both.1⟩)
      have invoked : (s.step (.asked true delete)).invoked turn.item =
          s.invoked turn.item + 1 :=
        (congrArg (invoked · turn.item) asked).trans (invoked_invoke_self here)
      have idle := steady turn.item (balanced.mem_invokes (by omega))
      simp only [found, Option.all_some, decide_eq_true_eq] at left
      omega
    · rw [if_neg left] at asked
      exact (congrArg (holds · turn) asked).trans
        (holds_removeIf (s := s.decrement turn.item) fun _ => rfl)
  · refine (congrArg (holds · turn) (ran_update calls delete)).trans
      (holds_removeIf (s := s.decrement turn.item) fun queued => ?_)
    obtain ⟨count, found, balance, once⟩ := balanced.counted turn.id turn.item queued
    simp only [found, Option.map_some, Option.any_some, Bool.or_eq_true, decide_eq_true_eq]
    omega

end

end State

/--
A queue that is made with `opCnt = n`, and any calls of it and of the methods of its
items in which no item is run while it is running.  No item is run more than `n` times
while it is queued exactly if every item that is run has some of its budget left.  An item
that asks to run after the `n`-th time is not queued when that turn has ended.
-/
theorem retry_budget_respected_iff (n : Nat) (moves : List Move)
    (steady : Allowed State.step State.Steady (State.new (some (n : Int))) moves) :
    let s := run State.step (State.new (some (n : Int))) moves
    ((∀ item, s.invoked item ≤ n) ↔
      Allowed State.step State.InBudget (State.new (some (n : Int))) moves) ∧
    ∀ move turn, s.Steady move → s.concluded move = some turn → n ≤ s.invoked turn.item →
      (s.step move).holds turn = false := by
  intro s
  have balanced : s.Balanced n :=
    run_invariant (State.Balanced n) (fun _ _ steady before => before.step steady) steady
      (State.balanced_new n)
  constructor
  · exact run_iff_allowed (State.Balanced n)
      (fun _ _ steady before => before.step steady)
      (fun _ _ steady before within => before.within_step_iff steady within)
      (fun s move after item => Nat.le_trans (s.invoked_le_step move item) (after item)) steady
      (State.balanced_new n) fun _ => Nat.zero_le n
  · exact fun move turn steady concluded used => balanced.removed steady concluded used

/-- An item is run by `CheckToRun`. -/
def checkedOnce : List Move :=
  [.add "a", .checkToRun, .visit "a", .asked true false, .ran false, .finish]

/-- The second run of two, by `Update`. -/
theorem budget_of_two_is_respected :
    let s := run State.step (State.new (some 2))
      (checkedOnce ++ [.update "a" true, .updated, .asked true false])
    (∀ item, s.invoked item ≤ 2) ∧ s.invoked 0 = 2 ∧
      (s.step (.ran false)).holds ⟨"a", 0, .runPendingItem⟩ = false := by
  intro s
  obtain ⟨within, removed⟩ := retry_budget_respected_iff 2
    (checkedOnce ++ [.update "a" true, .updated, .asked true false]) (by decide +kernel)
  refine ⟨within.mpr (by decide +kernel), by decide +kernel, ?_⟩
  exact removed (.ran false) ⟨"a", 0, .runPendingItem⟩ (by decide +kernel) (by decide +kernel)
    (by decide +kernel)

/--
With a budget of one, `Update` runs an item that `CheckToRun` has run and left queued; and
an item that calls `Update` for itself when it is run is run again.
-/
theorem budget_of_one_is_exceeded :
    let new := State.new (some 1)
    let retried := run State.step new checkedOnce
    let nested := run State.step new
      [.add "a", .update "a" true, .updated, .asked true false, .update "a" true, .updated]
    (retried.items.get? "a" = some 0 ∧ retried.invoked 0 = 1 ∧ retried.calls = [] ∧
      (run State.step retried [.update "a" true, .updated, .asked true false]).invoked 0 = 2) ∧
    nested.items.get? "a" = some 0 ∧ nested.invoked 0 = 1 ∧
      (nested.step (.asked true false)).invoked 0 = 2 := by
  decide +kernel

end Nephe.PendingItemCalls
