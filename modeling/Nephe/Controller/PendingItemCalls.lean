import Nephe.Controller.PendingItemQueue
import Nephe.Library.Runs

/-!
# Items that call the queue back

`Update` and `CheckToRun` call methods of an item, and the methods may call the queue
again before they return.  Here the calls that have not returned are on a stack, and
what the methods do and return is up to whoever makes the moves.

An item is known by the number of the `Add` that has put it, which stands for the
pointer to its counter: an item that is removed and added again has another one.
-/

namespace Nephe.PendingItemCalls

open Library

/-! ## Calls -/

/-- A method of `PendingItem`. -/
inductive Method where
  | updatePendingItem
  | runOrDeletePendingItem
  | runPendingItem
deriving DecidableEq, Repr

/-- A method that is being executed for an item. -/
structure Turn where
  id : String
  item : Nat
  method : Method
deriving DecidableEq, Repr

/--
A call of the queue that has not returned.

The loop of `CheckToRun` has the items that were queued at its start, those that it has
produced, and the turn of the last one of these if that has not ended.
-/
inductive Call where
  | update (checkRun : Bool) (turn : Turn)
  | checkToRun (initially seen : List Nat) (turn : Option Turn)
deriving DecidableEq, Repr

def Call.turn : Call → Option Turn
  | .update _ turn => some turn
  | .checkToRun _ _ turn => turn

/-- `RunPendingItem` of the item is being executed. -/
def Call.runs (item : Nat) (call : Call) : Bool :=
  call.turn.any fun turn => turn.item == item && turn.method == .runPendingItem

/-- The queue, the counters of its items, and the calls that have not returned. -/
structure State where
  items : GoMap String Nat
  opCnt : Option Int
  counts : Nat → Option Int
  /-- The ids of the items, by number. -/
  added : List String
  /-- The innermost call first. -/
  calls : List Call
  /-- How often `RunPendingItem` has been invoked on an item while it was queued. -/
  invoked : Nat → Nat

/-- What can happen next: a call of the queue, the return of a method, or a step of a loop. -/
inductive Move where
  | add (id : String)
  | remove (id : String)
  | update (id : String) (checkRun : Bool)
  | checkToRun
  | updated
  | asked (run delete : Bool)
  | ran (delete : Bool)
  | visit (id : String)
  | finish
deriving DecidableEq, Repr

namespace State

/-- `NewPendingItemQueue`. -/
def new (opCnt : Option Int) : State where
  items := ∅
  opCnt := opCnt
  counts _ := none
  added := []
  calls := []
  invoked _ := 0

/-- How many executions of `RunPendingItem` of an item have not returned. -/
def running (s : State) (item : Nat) : Nat :=
  s.calls.countP (·.runs item)

/-- The queue can be called: by the program that uses it, or by a method. -/
def callable (s : State) : Bool :=
  match s.calls with
  | [] => true
  | call :: _ => call.turn.isSome

/-- The item of a turn is queued. -/
def holds (s : State) (turn : Turn) : Bool :=
  s.items.get? turn.id == some turn.item

def removeIf (condition : Bool) (id : String) (s : State) : State :=
  { s with items := if condition then s.items.remove id else s.items }

/-- `*i.opCnt--`, if there is a counter. -/
def decrement (item : Nat) (s : State) : State :=
  { s with counts := Function.update s.counts item ((s.counts item).map (· - 1)) }

/-- Record that `RunPendingItem` is invoked. -/
def invoke (turn : Turn) (s : State) : State :=
  { s with
    invoked :=
      if s.holds turn then Function.update s.invoked turn.item (s.invoked turn.item + 1)
      else s.invoked }

def returning (calls : List Call) (s : State) : State :=
  { s with calls := calls }

@[simp]
theorem counts_decrement_self (item : Nat) (s : State) :
    (s.decrement item).counts item = (s.counts item).map (· - 1) :=
  Function.update_self ..

theorem invoked_invoke_self {s : State} {turn : Turn} (here : s.holds turn = true) :
    (s.invoke turn).invoked turn.item = s.invoked turn.item + 1 := by
  simp only [invoke, here, if_true, Function.update_self]

theorem invoked_invoke_of_ne {s : State} {turn : Turn} {item : Nat} (other : item ≠ turn.item) :
    (s.invoke turn).invoked item = s.invoked item := by
  simp only [invoke]
  split
  next => exact Function.update_of_ne other ..
  next => rfl

/-! ## Calling the queue -/

/-- `Add`. -/
def add (id : String) (s : State) : State :=
  if (s.items.get? id).isSome then s
  else
    { s with
      items := s.items.set id s.added.length
      counts := Function.update s.counts s.added.length s.opCnt
      added := s.added ++ [id] }

/-- `Update` up to `UpdatePendingItem`. -/
def update (id : String) (checkRun : Bool) (s : State) : State :=
  match s.items.get? id with
  | none => s
  | some item => s.returning (.update checkRun ⟨id, item, .updatePendingItem⟩ :: s.calls)

/-- `CheckToRun` up to its first iteration. -/
def checkToRun (s : State) : State :=
  s.returning (.checkToRun s.items.values [] none :: s.calls)

/-! ## Methods return -/

/-- `UpdatePendingItem` returns. -/
def updated (s : State) : State :=
  match s.calls with
  | .update checkRun ⟨id, item, .updatePendingItem⟩ :: rest =>
    if checkRun then
      s.returning (.update checkRun ⟨id, item, .runOrDeletePendingItem⟩ :: rest)
    else s.returning rest
  | _ => s

/-- `RunOrDeletePendingItem` returns. -/
def asked (run delete : Bool) (s : State) : State :=
  match s.calls with
  | .update checkRun ⟨id, item, .runOrDeletePendingItem⟩ :: rest =>
    let s := s.removeIf delete id
    if run then
      (s.invoke ⟨id, item, .runPendingItem⟩).returning
        (.update checkRun ⟨id, item, .runPendingItem⟩ :: rest)
    else (s.removeIf (delete || (s.counts item).any (· ≤ 0)) id).returning rest
  | .checkToRun initially seen (some ⟨id, item, .runOrDeletePendingItem⟩) :: rest =>
    let s := s.removeIf delete id
    if run then
      if (s.counts item).all (0 < ·) then
        (s.invoke ⟨id, item, .runPendingItem⟩).returning
          (.checkToRun initially seen (some ⟨id, item, .runPendingItem⟩) :: rest)
      else
        let s := s.decrement item
        (s.removeIf (delete || (s.counts item).any (· < 0)) id).returning
          (.checkToRun initially seen none :: rest)
    else
      (s.removeIf (delete || (s.counts item).any (· < 0)) id).returning
        (.checkToRun initially seen none :: rest)
  | _ => s

/-- `RunPendingItem` returns. -/
def ran (delete : Bool) (s : State) : State :=
  match s.calls with
  | .update _ ⟨id, item, .runPendingItem⟩ :: rest =>
    let s := s.decrement item
    (s.removeIf (delete || (s.counts item).any (· ≤ 0)) id).returning rest
  | .checkToRun initially seen (some ⟨id, item, .runPendingItem⟩) :: rest =>
    let s := s.decrement item
    (s.removeIf (delete || (s.counts item).any (· < 0)) id).returning
      (.checkToRun initially seen none :: rest)
  | _ => s

section

variable {s : State} {id : String} {item : Nat} {rest : List Call}

/-- An item that has been removed need not be removed again. -/
theorem removeIf_removeIf (s : State) (first second : Bool) (id : String) :
    (s.removeIf first id).removeIf (first || second) id = s.removeIf (first || second) id := by
  cases first with
  | false => rfl
  | true =>
    simp only [removeIf, Bool.true_or, if_true]
    rw [GoMap.remove_of_get?_eq_none (GoMap.get?_remove_self _ _)]

variable {checkRun : Bool} {initially seen : List Nat}

theorem asked_update
    (calls : s.calls = .update checkRun ⟨id, item, .runOrDeletePendingItem⟩ :: rest)
    (run delete : Bool) :
    s.asked run delete =
      if run then
        ((s.removeIf delete id).invoke ⟨id, item, .runPendingItem⟩).returning
          (.update checkRun ⟨id, item, .runPendingItem⟩ :: rest)
      else (s.removeIf (delete || (s.counts item).any (· ≤ 0)) id).returning rest := by
  rw [← removeIf_removeIf]
  simp only [asked, calls]
  rfl

/-- An item whose budget is used up is removed. -/
theorem asked_checkToRun (calls : s.calls =
      .checkToRun initially seen (some ⟨id, item, .runOrDeletePendingItem⟩) :: rest)
    (run delete : Bool) :
    s.asked run delete =
      if run then
        if (s.counts item).all (0 < ·) then
          ((s.removeIf delete id).invoke ⟨id, item, .runPendingItem⟩).returning
            (.checkToRun initially seen (some ⟨id, item, .runPendingItem⟩) :: rest)
        else
          ((s.decrement item).removeIf true id).returning (.checkToRun initially seen none :: rest)
      else
        (s.removeIf (delete || (s.counts item).any (· < 0)) id).returning
          (.checkToRun initially seen none :: rest) := by
  have skipped (used : ¬ (s.counts item).all (0 < ·) = true) :
      ((s.removeIf delete id).decrement item).removeIf
          (delete || ((s.counts item).map (· - 1)).any (· < 0)) id =
        (s.decrement item).removeIf true id := by
    have negative : ((s.counts item).map (· - 1)).any (· < 0) = true := by
      cases left : s.counts item with
      | none => simp [left] at used
      | some count =>
        simp only [left, Option.all_some, decide_eq_true_eq] at used
        simp only [Option.map_some, Option.any_some, decide_eq_true_eq]
        omega
    rw [negative, Bool.or_true, ← Bool.or_true delete]
    exact removeIf_removeIf (s.decrement item) delete true id
  rw [← removeIf_removeIf]
  simp only [asked, calls, counts_decrement_self]
  cases run with
  | false => rfl
  | true =>
    by_cases left : (s.counts item).all (0 < ·) = true
    · simp only [if_true, left]
      exact if_pos left
    · simp only [if_true, left, if_false, Bool.false_eq_true, ← skipped left]
      exact if_neg left

theorem ran_update (calls : s.calls = .update checkRun ⟨id, item, .runPendingItem⟩ :: rest)
    (delete : Bool) :
    s.ran delete = ((s.decrement item).removeIf
      (delete || ((s.counts item).map (· - 1)).any (· ≤ 0)) id).returning rest := by
  simp only [ran, calls, counts_decrement_self]

theorem ran_checkToRun (calls : s.calls =
      .checkToRun initially seen (some ⟨id, item, .runPendingItem⟩) :: rest) (delete : Bool) :
    s.ran delete = ((s.decrement item).removeIf
      (delete || ((s.counts item).map (· - 1)).any (· < 0)) id).returning
        (.checkToRun initially seen none :: rest) := by
  simp only [ran, calls, counts_decrement_self]

end

/-! ## Loops -/

/-- An iteration over an item that is queued and has not been produced. -/
def visit (id : String) (s : State) : State :=
  match s.calls with
  | .checkToRun initially seen none :: rest =>
    match s.items.get? id with
    | none => s
    | some item =>
      if item ∈ seen then s
      else
        s.returning (.checkToRun initially (item :: seen)
          (some ⟨id, item, .runOrDeletePendingItem⟩) :: rest)
  | _ => s

/-- The loop ends; items that were added after its start need not have been produced. -/
def finish (s : State) : State :=
  match s.calls with
  | .checkToRun initially seen none :: rest =>
    if s.items.values.all fun item => item ∉ initially || item ∈ seen then s.returning rest
    else s
  | _ => s

/-- A move that is not possible changes nothing. -/
def step (s : State) : Move → State
  | .add id => if s.callable then s.add id else s
  | .remove id => if s.callable then s.removeIf true id else s
  | .update id checkRun => if s.callable then s.update id checkRun else s
  | .checkToRun => if s.callable then s.checkToRun else s
  | .updated => s.updated
  | .asked run delete => s.asked run delete
  | .ran delete => s.ran delete
  | .visit id => s.visit id
  | .finish => s.finish

end State

/-! ## Methods that do not call back -/

/-- The queue whose items are numbers, as the state has it. -/
structure Represents (s : State) (queue : PendingItemQueue Nat) : Prop where
  opCnt : queue.opCnt = s.opCnt
  items : ∀ id, queue.items.get? id = (s.items.get? id).map fun item => ⟨item, s.counts item⟩

/-- The queue is all there is. -/
def queueItself : QueueAt (PendingItemQueue Nat) Nat :=
  ⟨fun queue => queue, fun change queue => change queue⟩

/-- An item is queued under the id with which it was added. -/
def State.Distinct (s : State) : Prop :=
  ∀ id item, s.items.get? id = some item → s.added[item]? = some id

section

variable {s : State} {queue : PendingItemQueue Nat} {id : String} {item : Nat}

theorem Represents.queued (represents : Represents s queue) (found : s.items.get? id = some item) :
    queue.items.get? id = some ⟨item, s.counts item⟩ := by
  rw [represents.items id, found, Option.map_some]

theorem Represents.new (opCnt : Option Int) : Represents (.new opCnt) (.new opCnt) :=
  ⟨rfl, fun id => by simp only [State.new, PendingItemQueue.new, GoMap.get?_empty, Option.map_none]⟩

theorem State.Distinct.new (opCnt : Option Int) : (State.new opCnt).Distinct := by
  intro id item found
  rw [State.new, GoMap.get?_empty] at found
  cases found

theorem State.Distinct.add (distinct : s.Distinct) (id : String) : (s.add id).Distinct := by
  rw [State.add]
  split
  next => exact distinct
  next =>
    intro other item found
    simp only [GoMap.get?_set] at found ⊢
    split at found
    next here =>
      cases found
      simp [here]
    next =>
      have before := distinct other item found
      rw [List.getElem?_append_left (List.getElem?_eq_some_iff.mp before).1, before]

theorem Represents.add (represents : Represents s queue) (distinct : s.Distinct) (id : String) :
    Represents (s.add id) (queue.add id s.added.length) := by
  have queued : queue.has id = (s.items.get? id).isSome := by
    rw [PendingItemQueue.has, represents.items, Option.isSome_map]
  rw [State.add, PendingItemQueue.add, queued]
  split
  next => exact represents
  next =>
    refine ⟨represents.opCnt, fun other => ?_⟩
    simp only [GoMap.get?_set]
    split
    next => simp [represents.opCnt]
    next =>
      rw [represents.items other]
      -- The counters of the others stay: their numbers are smaller.
      refine Option.map_congr fun item found => ?_
      have older := (List.getElem?_eq_some_iff.mp (distinct other item found)).1
      rw [Function.update_of_ne (Nat.ne_of_lt older)]

theorem Represents.removeIf (represents : Represents s queue) (condition : Bool) (id : String) :
    Represents (s.removeIf condition id) (if condition then queue.remove id else queue) := by
  cases condition with
  | false => exact represents
  | true =>
    refine ⟨represents.opCnt, fun other => ?_⟩
    have left := represents.items other
    simp only [State.removeIf, if_true, PendingItemQueue.get?_remove, GoMap.get?_remove]
    split
    next => rfl
    next => exact left

theorem Represents.returning (represents : Represents s queue) (calls : List Call) :
    Represents (s.returning calls) queue :=
  ⟨represents.opCnt, represents.items⟩

theorem Represents.invoke (represents : Represents s queue) (turn : Turn) :
    Represents (s.invoke turn) queue :=
  ⟨represents.opCnt, represents.items⟩

/-- Counting an item down by its number or by its id is the same. -/
theorem Represents.decrement (represents : Represents s queue)
    (there : s.items.get? id = some item ∨ s.items.get? id = none)
    (only : ∀ other, s.items.get? other = some item → other = id) :
    Represents (s.decrement item) (queue.setCount id ((s.counts item).map (· - 1))) := by
  refine ⟨represents.opCnt, fun other => ?_⟩
  rw [PendingItemQueue.get?_setCount, represents.items id, represents.items other]
  simp only [State.decrement]
  by_cases here : other = id
  · subst here
    rcases there with found | absent
    · simp [found]
    · simp [absent]
  · rw [if_neg here]
    cases found : s.items.get? other with
    | none => rfl
    | some another =>
      have different : another ≠ item := fun same => here (only other (same ▸ found))
      rw [Option.map_some, Option.map_some, Function.update_of_ne different]

theorem get?_removeIf_eq_some {condition : Bool} {other : String} :
    (s.removeIf condition id).items.get? other = some item ↔
      s.items.get? other = some item ∧ ¬ (condition = true ∧ other = id) := by
  cases condition with
  | false => simp [State.removeIf]
  | true =>
    simp only [State.removeIf, if_true, GoMap.get?_remove]
    by_cases here : other = id
    · simp [here]
    · simp [here]

/-- The only id of an item, also after a removal. -/
theorem State.Distinct.only (distinct : s.Distinct) (found : s.items.get? id = some item)
    (condition : Bool) (other : String)
    (there : (s.removeIf condition id).items.get? other = some item) : other = id := by
  have before := (get?_removeIf_eq_some.mp there).1
  exact Option.some.inj ((distinct other item before).symm.trans (distinct id item found))

theorem get?_removeIf (found : s.items.get? id = some item) (condition : Bool) :
    (s.removeIf condition id).items.get? id = some item ∨
      (s.removeIf condition id).items.get? id = none := by
  cases condition with
  | true => exact .inr (GoMap.get?_remove_self _ _)
  | false => exact .inl found

/-- `Update` of an item whose methods do not call back. -/
theorem Represents.checkRun (represents : Represents s queue) (distinct : s.Distinct)
    (callable : s.callable = true) (found : s.items.get? id = some item)
    (run delete deleteAfter : Bool) :
    let after := Library.run State.step s (.update id true :: .updated :: .asked run delete ::
      if run then [.ran deleteAfter] else [])
    after.calls = s.calls ∧
      Represents after (queueItself.checkRun (fun _ _ => (run, delete))
        (fun _ _ queue => (deleteAfter, queue)) id queue) := by
  have item? := represents.queued found
  have called : s.step (.update id true) =
      s.returning (.update true ⟨id, item, .updatePendingItem⟩ :: s.calls) := by
    simp only [State.step, callable, if_true, State.update, found]
  have asking := (represents.returning
    (.update true ⟨id, item, .runOrDeletePendingItem⟩ :: s.calls)).removeIf delete id
  cases run with
  | false =>
    simp only [Library.run, Bool.false_eq_true, if_false, List.foldl_cons, List.foldl_nil, called]
    refine ⟨rfl, ?_⟩
    simp only [QueueAt.checkRun, queueItself, item?, Bool.false_eq_true, if_false]
    exact (asking.removeIf (delete || (s.counts item).any (· ≤ 0)) id).returning s.calls
  | true =>
    have counted := (asking.invoke ⟨id, item, .runPendingItem⟩).decrement
      (get?_removeIf found delete) (distinct.only found delete)
    have ended := State.ran_update (s := (s.returning (.update true
      ⟨id, item, .updatePendingItem⟩ :: s.calls)).updated.asked true delete) rfl deleteAfter
    simp only [Library.run, if_true, List.foldl_cons, List.foldl_nil, called]
    refine ⟨(congrArg State.calls ended :), ?_⟩
    simp only [QueueAt.checkRun, queueItself, item?, if_true]
    refine (congrArg (Represents · _) ended).mpr ?_
    exact (counted.removeIf (deleteAfter || ((s.counts item).map (· - 1)).any (· ≤ 0))
      id).returning s.calls

theorem first_item_is_updated : Represents
    (Library.run State.step (State.add "a" (.new (some 2)))
      [.update "a" true, .updated, .asked true false, .ran false])
    (((PendingItemQueue.new (some 2)).add "a" 0).setCount "a" (some 1)) :=
  (Represents.checkRun (.add (.new (some 2)) (.new (some 2)) "a") (.add (.new (some 2)) "a")
    rfl rfl true false false).2

/-- An iteration of `CheckToRun` over an item whose methods do not call back. -/
theorem Represents.checkToRunItem (represents : Represents s queue) (distinct : s.Distinct)
    {initially seen : List Nat} {rest : List Call}
    (calls : s.calls = .checkToRun initially seen none :: rest)
    (found : s.items.get? id = some item) (fresh : item ∉ seen) (run delete deleteAfter : Bool) :
    let after := Library.run State.step s (.visit id :: .asked run delete ::
      if run && (s.counts item).all (0 < ·) then [.ran deleteAfter] else [])
    after.calls = .checkToRun initially (item :: seen) none :: rest ∧
      Represents after (queueItself.checkToRunItem (fun _ _ => (run, delete))
        (fun _ _ queue => (deleteAfter, queue)) id queue) := by
  have item? := represents.queued found
  have visited : s.step (.visit id) = s.returning (.checkToRun initially (item :: seen)
      (some ⟨id, item, .runOrDeletePendingItem⟩) :: rest) := by
    simp only [State.step, State.visit, calls, found, fresh, if_false]
  have asking := (represents.returning (.checkToRun initially (item :: seen)
      (some ⟨id, item, .runOrDeletePendingItem⟩) :: rest)).removeIf delete id
  cases run with
  | false =>
    simp only [Library.run, Bool.false_and, Bool.false_eq_true, if_false, List.foldl_cons,
      List.foldl_nil, visited]
    refine ⟨rfl, ?_⟩
    simp only [QueueAt.checkToRunItem, queueItself, item?, Bool.false_eq_true, if_false]
    exact (asking.removeIf (delete || (s.counts item).any (· < 0)) id).returning _
  | true =>
    cases left : (s.counts item).all (0 < ·) with
    | true =>
      have counted := (asking.invoke ⟨id, item, .runPendingItem⟩).decrement
        (get?_removeIf found delete) (distinct.only found delete)
      have runs : (s.returning (.checkToRun initially (item :: seen)
          (some ⟨id, item, .runOrDeletePendingItem⟩) :: rest)).asked true delete = _ :=
        if_pos left
      have ended := State.ran_checkToRun (s := (s.returning (.checkToRun initially
        (item :: seen) (some ⟨id, item, .runOrDeletePendingItem⟩) :: rest)).asked true delete)
        (congrArg State.calls runs) deleteAfter
      simp only [Library.run, Bool.and_self, if_true, List.foldl_cons, List.foldl_nil, visited]
      refine ⟨(congrArg State.calls ended :), ?_⟩
      simp only [QueueAt.checkToRunItem, queueItself, item?, left, if_true]
      refine (congrArg (Represents · _) ended).mpr ?_
      rw [runs]
      exact (counted.removeIf (deleteAfter || ((s.counts item).map (· - 1)).any (· < 0))
        id).returning _
    | false =>
      have counted := asking.decrement (get?_removeIf found delete) (distinct.only found delete)
      have skips : (s.returning (.checkToRun initially (item :: seen)
          (some ⟨id, item, .runOrDeletePendingItem⟩) :: rest)).asked true delete = _ :=
        if_neg (Bool.not_eq_true _ ▸ left)
      simp only [Library.run, Bool.and_false, Bool.false_eq_true, if_false, List.foldl_cons,
        List.foldl_nil, visited]
      refine ⟨congrArg State.calls skips, ?_⟩
      simp only [QueueAt.checkToRunItem, queueItself, item?, left, if_true, Bool.false_eq_true,
        if_false]
      refine (congrArg (Represents · _) skips).mpr ?_
      simp only [State.counts_decrement_self]
      exact (counted.removeIf (delete || ((s.counts item).map (· - 1)).any (· < 0))
        id).returning _

/-- Items are only removed. -/
structure Shrinks (s after : State) : Prop where
  added : after.added = s.added
  items : ∀ {id : String} {item : Nat},
    after.items.get? id = some item → s.items.get? id = some item

theorem Shrinks.trans {middle after : State} (first : Shrinks s middle)
    (second : Shrinks middle after) : Shrinks s after :=
  ⟨second.added.trans first.added, fun found => first.items (second.items found)⟩

theorem Shrinks.distinct {after : State} (shrinks : Shrinks s after) (distinct : s.Distinct) :
    after.Distinct := by
  intro id item found
  rw [shrinks.added]
  exact distinct id item (shrinks.items found)

theorem shrinks_removeIf (condition : Bool) (id : String) : Shrinks s (s.removeIf condition id) :=
  ⟨rfl, fun found => (get?_removeIf_eq_some.mp found).1⟩

theorem Shrinks.of_eq {middle after : State} (shrinks : Shrinks s middle)
    (added : after.added = middle.added) (items : after.items = middle.items) : Shrinks s after :=
  ⟨added.trans shrinks.added, fun found => shrinks.items (items ▸ found)⟩

theorem shrinks_visit (id : String) : Shrinks s (s.visit id) := by
  have same : Shrinks s s := ⟨rfl, fun found => found⟩
  unfold State.visit
  repeat' split
  all_goals exact same.of_eq rfl rfl

theorem shrinks_asked (run delete : Bool) : Shrinks s (s.asked run delete) := by
  have twice (second : Bool) (id : String) :=
    (shrinks_removeIf (s := s) delete id).trans (shrinks_removeIf second id)
  unfold State.asked
  split
  next =>
    dsimp only
    split
    next => exact (shrinks_removeIf delete _).of_eq rfl rfl
    next => exact (twice _ _).of_eq rfl rfl
  next =>
    dsimp only
    split
    next =>
      split
      next => exact (shrinks_removeIf delete _).of_eq rfl rfl
      next => exact (twice _ _).of_eq rfl rfl
    next => exact (twice _ _).of_eq rfl rfl
  next => exact ⟨rfl, fun found => found⟩

theorem shrinks_ran (delete : Bool) : Shrinks s (s.ran delete) := by
  unfold State.ran
  split
  next => exact (shrinks_removeIf _ _).of_eq rfl rfl
  next => exact (shrinks_removeIf _ _).of_eq rfl rfl
  next => exact ⟨rfl, fun found => found⟩

/-! ## The loop of `CheckToRun` -/

section

variable (asks : Nat → Bool × Bool) (deletes : Nat → Bool)

/-- The moves of an iteration over an id, by what the methods of its item return. -/
def State.iteration (id : String) (s : State) : List Move :=
  match s.items.get? id with
  | none => []
  | some item =>
    .visit id :: .asked (asks item).1 (asks item).2 ::
      if (asks item).1 && (s.counts item).all (0 < ·) then [.ran (deletes item)] else []

/-- The moves of a loop over ids, until it ends. -/
def State.loop : List String → State → List Move
  | [], _ => [.finish]
  | id :: left, s =>
    let moves := s.iteration asks deletes id
    moves ++ loop left (Library.run State.step s moves)

theorem shrinks_iteration (id : String) :
    Shrinks s (Library.run State.step s (s.iteration asks deletes id)) := by
  unfold State.iteration
  split
  next => exact ⟨rfl, fun found => found⟩
  next item _ =>
    have asked := (shrinks_visit (s := s) id).trans (shrinks_asked (asks item).1 (asks item).2)
    split
    next => exact asked.trans (shrinks_ran (deletes item))
    next => exact asked

/-- A loop that has still to visit some ids, and has produced some items. -/
structure Looping (initially : List Nat) (outer : List Call) (left : List String) (s : State)
    (queue : PendingItemQueue Nat) : Prop where
  represents : Represents s queue
  distinct : s.Distinct
  leftDistinct : left.Nodup
  progress : ∃ seen, s.calls = .checkToRun initially seen none :: outer ∧
    ∀ id item, s.items.get? id = some item → (id ∈ left ↔ item ∉ seen)

/-- The body of the loop of the sequential queue. -/
abbrev checkToRunItem (asks : Nat → Bool × Bool) (deletes : Nat → Bool) (id : String) :
    PendingItemQueue Nat → PendingItemQueue Nat :=
  queueItself.checkToRunItem (fun item _ => asks item) (fun _ item queue => (deletes item, queue))
    id

variable {initially : List Nat} {outer : List Call} {left : List String}

theorem Looping.iteration (looping : Looping initially outer (id :: left) s queue) :
    Looping initially outer left (Library.run State.step s (s.iteration asks deletes id))
      (checkToRunItem asks deletes id queue) := by
  obtain ⟨fresh, leftDistinct⟩ := List.nodup_cons.mp looping.leftDistinct
  obtain ⟨seen, calls, progress⟩ := looping.progress
  have shrinks := shrinks_iteration (s := s) asks deletes id
  have distinct := shrinks.distinct looping.distinct
  cases found : s.items.get? id with
  | none =>
    -- The item has been removed on the way.
    have absent : queue.items.get? id = none := by
      rw [looping.represents.items, found, Option.map_none]
    have skipped : checkToRunItem asks deletes id queue = queue := by
      simp only [checkToRunItem, QueueAt.checkToRunItem, queueItself, absent]
    simp only [State.iteration, found, skipped]
    refine ⟨looping.represents, looping.distinct, leftDistinct, seen, calls,
      fun other item there => ?_⟩
    have different : other ≠ id := by
      rintro rfl
      cases found.symm.trans there
    rw [← progress other item there, List.mem_cons, or_iff_right different]
  | some item =>
    have produced : item ∉ seen := (progress id item found).mp List.mem_cons_self
    obtain ⟨after, represents⟩ := looping.represents.checkToRunItem looping.distinct calls found
      produced (asks item).1 (asks item).2 (deletes item)
    have body : checkToRunItem asks deletes id queue =
        queueItself.checkToRunItem (fun _ _ => asks item)
          (fun _ _ queue => (deletes item, queue)) id queue := by
      simp only [checkToRunItem, QueueAt.checkToRunItem, queueItself,
        looping.represents.queued found]
    simp only [State.iteration, found, body] at shrinks distinct ⊢
    refine ⟨represents, distinct, leftDistinct, item :: seen, after,
      fun other another there => ?_⟩
    have before := shrinks.items there
    have old := progress other another before
    by_cases same : other = id
    · subst same
      obtain rfl := Option.some.inj (found.symm.trans before)
      exact iff_of_false fresh (not_not.mpr List.mem_cons_self)
    · have different : another ≠ item := by
        rintro rfl
        exact same (looping.distinct.only found false other before)
      rw [List.mem_cons, or_iff_right same] at old
      rw [old, List.mem_cons, or_iff_right different]

theorem Looping.run (looping : Looping initially outer left s queue) :
    let after := Library.run State.step s (s.loop asks deletes left)
    after.calls = outer ∧ Represents after
      (left.foldl (fun queue id => checkToRunItem asks deletes id queue) queue) := by
  induction left generalizing s queue with
  | nil =>
    obtain ⟨seen, calls, progress⟩ := looping.progress
    have all : s.items.values.all (fun item => item ∉ initially || item ∈ seen) = true := by
      simp only [List.all_eq_true, Bool.or_eq_true, decide_eq_true_eq]
      intro item queued
      obtain ⟨id, found⟩ := (GoMap.mem_values _ _).mp queued
      exact .inr (not_not.mp fun unseen => List.not_mem_nil ((progress id item found).mpr unseen))
    have ended : s.finish = s.returning outer := by
      simp only [State.finish, calls, all, if_true]
    change s.finish.calls = outer ∧ Represents s.finish queue
    rw [ended]
    exact ⟨rfl, looping.represents.returning outer⟩
  | cons id left induction =>
    have := induction (looping.iteration asks deletes)
    simp only [State.loop, Library.run, List.foldl_append] at this ⊢
    exact this

end

/-- `CheckToRun` when no method calls back, for every order of its loop. -/
theorem Represents.checkToRun (represents : Represents s queue) (distinct : s.Distinct)
    (callable : s.callable = true) (asks : Nat → Bool × Bool) (deletes : Nat → Bool) (code : Nat) :
    let order := arrange code (queue.items.bindings.map (·.1))
    let after := Library.run State.step s (.checkToRun :: s.checkToRun.loop asks deletes order)
    after.calls = s.calls ∧
      Represents after (queueItself.checkToRun (fun item _ => asks item)
        (fun _ item queue => (deletes item, queue)) code queue) := by
  intro order
  have looping : Looping s.items.values s.calls order s.checkToRun queue := by
    refine ⟨represents.returning _, distinct, ?_, [], rfl, fun id item found => ?_⟩
    · exact (arrange_perm _ _).nodup_iff.mpr queue.items.nodup_bindings
    · have queued := (GoMap.mem_bindings ..).mpr (represents.queued found)
      have inOrder : id ∈ order := (mem_arrange ..).mpr (List.mem_map_of_mem queued)
      exact iff_of_true inOrder List.not_mem_nil
  have started : s.step .checkToRun = s.checkToRun := by
    simp only [State.step, callable, if_true]
  simp only [Library.run, List.foldl_cons, started]
  exact looping.run asks deletes

theorem two_items_are_checked : Represents
    (Library.run State.step (State.add "b" (State.add "a" (.new (some 2))))
      [.checkToRun, .visit "a", .asked true false, .ran true, .visit "b", .asked true false,
        .ran false, .finish])
    (((PendingItemQueue.new (some 2)).add "b" 1).setCount "b" (some 1)) :=
  (Represents.checkToRun (.add (.add (.new (some 2)) (.new (some 2)) "a")
    (.add (.new (some 2)) "a") "b") (.add (.add (.new (some 2)) "a") "b") rfl
    (fun _ => (true, false)) (fun item => item == 0) 1).2

end

end Nephe.PendingItemCalls
