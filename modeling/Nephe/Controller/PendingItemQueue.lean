import Nephe.Library.GoMap

/-!
# The queue of pending items

`PendingItemQueue` of `networkpolicy_pendingitem.go`, for any type of items.
The queue is part of a larger state `σ` that running or updating an item may
change, including the queue itself, so the operations that call into an item
work on `σ` and reach the queue through `QueueAt`.
-/

namespace Nephe

open Library

/-- `countingPendingItem`: an item and the runs it has left. -/
structure CountingPendingItem (ι : Type) where
  item : ι
  opCnt : Option Int

/-- `PendingItemQueue`; its context is the surrounding state. -/
structure PendingItemQueue (ι : Type) where
  items : GoMap String (CountingPendingItem ι)
  opCnt : Option Int

namespace PendingItemQueue

variable {ι σ υ : Type}

/-- `NewPendingItemQueue`. -/
def new (opCnt : Option Int) : PendingItemQueue ι :=
  ⟨∅, opCnt⟩

/-- `Has`. -/
def has (queue : PendingItemQueue ι) (id : String) : Bool :=
  (queue.items.get? id).isSome

/-- `Add`: an item that is already queued stays. -/
def add (queue : PendingItemQueue ι) (id : String) (item : ι) :
    PendingItemQueue ι :=
  if queue.has id then queue
  else { queue with items := queue.items.set id ⟨item, queue.opCnt⟩ }

/-- `Remove`. -/
def remove (queue : PendingItemQueue ι) (id : String) : PendingItemQueue ι :=
  { queue with items := queue.items.remove id }

/-- `GetRetryCount`: minus one when there is no item or no budget. -/
def getRetryCount (queue : PendingItemQueue ι) (id : String) : Int :=
  match queue.items.get? id with
  | none => -1
  | some counting => counting.opCnt.getD (-1)

/-- Write back an item after its methods changed it. -/
def setItem (queue : PendingItemQueue ι) (id : String) (item : ι) :
    PendingItemQueue ι :=
  { queue with items := queue.items.adjust id fun counting => { counting with item } }

/-- Write back the budget of an item that is still queued. -/
def setCount (queue : PendingItemQueue ι) (id : String) (opCnt : Option Int) :
    PendingItemQueue ι :=
  { queue with items := queue.items.adjust id fun counting => { counting with opCnt } }

/-! ## Lookup after each operation -/

theorem get?_add (queue : PendingItemQueue ι) (id key : String) (item : ι) :
    (queue.add id item).items.get? key =
      if key = id then some ((queue.items.get? id).getD ⟨item, queue.opCnt⟩)
      else queue.items.get? key := by
  unfold add has
  cases found : queue.items.get? id with
  | none => simp only [Option.isSome_none, Bool.false_eq_true, if_false, GoMap.get?_set,
      Option.getD_none]
  | some counting =>
    simp only [Option.isSome_some, if_true, Option.getD_some]
    split
    next equal => rw [equal, found]
    next => rfl

@[simp]
theorem opCnt_add (queue : PendingItemQueue ι) (id : String) (item : ι) :
    (queue.add id item).opCnt = queue.opCnt := by
  unfold add
  split <;> rfl

theorem get?_remove (queue : PendingItemQueue ι) (id key : String) :
    (queue.remove id).items.get? key =
      if key = id then none else queue.items.get? key :=
  GoMap.get?_remove queue.items id key

theorem get?_setItem (queue : PendingItemQueue ι) (id key : String) (item : ι) :
    (queue.setItem id item).items.get? key =
      if key = id then (queue.items.get? id).map fun counting => { counting with item }
      else queue.items.get? key :=
  GoMap.get?_adjust queue.items id key _

theorem get?_setCount (queue : PendingItemQueue ι) (id key : String) (opCnt : Option Int) :
    (queue.setCount id opCnt).items.get? key =
      if key = id then (queue.items.get? id).map fun counting => { counting with opCnt }
      else queue.items.get? key :=
  GoMap.get?_adjust queue.items id key _

end PendingItemQueue

/-- Where a queue sits in the state. -/
structure QueueAt (σ ι : Type) where
  get : σ → PendingItemQueue ι
  change : (PendingItemQueue ι → PendingItemQueue ι) → σ → σ

namespace QueueAt

variable {ι σ υ : Type}

/--
`Update` with `checkRun = false`.

`updatePendingItem` is the method of the item; it may change the item and the
surrounding state.
-/
def update (at_ : QueueAt σ ι)
    (updatePendingItem : ι → υ → σ → ι × σ)
    (id : String) (updates : υ) (state : σ) : σ :=
  match (at_.get state).items.get? id with
  | none => state
  | some counting =>
    let (item, state) := updatePendingItem counting.item updates state
    at_.change (·.setItem id item) state

/-- What `Update` does after `UpdatePendingItem` when `checkRun = true`. -/
def checkRun (at_ : QueueAt σ ι)
    (runOrDeletePendingItem : ι → σ → Bool × Bool)
    (runPendingItem : String → ι → σ → Bool × σ)
    (id : String) (state : σ) : σ :=
  match (at_.get state).items.get? id with
  | none => state
  | some counting =>
    let (run, delete) := runOrDeletePendingItem counting.item state
    let state := if delete then at_.change (·.remove id) state else state
    let (delete, opCnt, state) :=
      if run then
        let (delete, state) := runPendingItem id counting.item state
        let opCnt := counting.opCnt.map (· - 1)
        (delete, opCnt, at_.change (·.setCount id opCnt) state)
      else (delete, counting.opCnt, state)
    if delete || opCnt.any (· ≤ 0) then at_.change (·.remove id) state
    else state

/-- The body of the loop of `CheckToRun`. -/
def checkToRunItem (at_ : QueueAt σ ι)
    (runOrDeletePendingItem : ι → σ → Bool × Bool)
    (runPendingItem : String → ι → σ → Bool × σ)
    (id : String) (state : σ) : σ :=
  match (at_.get state).items.get? id with
  | none => state
  | some counting =>
    let (run, delete) := runOrDeletePendingItem counting.item state
    let state := if delete then at_.change (·.remove id) state else state
    let (delete, opCnt, state) :=
      if run then
        let (delete, state) :=
          if counting.opCnt.all (0 < ·) then runPendingItem id counting.item state
          else (delete, state)
        let opCnt := counting.opCnt.map (· - 1)
        (delete, opCnt, at_.change (·.setCount id opCnt) state)
      else (delete, counting.opCnt, state)
    if delete || opCnt.any (· < 0) then at_.change (·.remove id) state
    else state

/-- `CheckToRun`: items removed on the way are not visited. -/
def checkToRun (at_ : QueueAt σ ι)
    (runOrDeletePendingItem : ι → σ → Bool × Bool)
    (runPendingItem : String → ι → σ → Bool × σ)
    (code : Nat) (state : σ) : σ :=
  (arrange code ((at_.get state).items.bindings.map (·.1))).foldl
    (fun state id =>
      at_.checkToRunItem runOrDeletePendingItem runPendingItem id state)
    state

end QueueAt

end Nephe
