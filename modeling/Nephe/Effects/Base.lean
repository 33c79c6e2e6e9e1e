import Nephe.Effects.Objects

/-!
# Invariants of every state

How the parts of the state refer to each other, and the part of the life cycle
of an object that no failure can break.  Every effect keeps these facts.
-/

namespace Nephe

open Library

/-! ## Components of changed states -/

namespace Reconciler

variable (r : Reconciler) (c d : Ref)

theorem get?_indexerAdd (membershipOnly : Bool) (key : String) :
    ((r.indexerAdd c).indexer membershipOnly).get? key =
      if membershipOnly = (r.objects c).membershipOnly ∧ key = (r.objects c).id.string
      then some c else (r.indexer membershipOnly).get? key := by
  cases membershipOnly <;> cases kind : (r.objects c).membershipOnly <;>
    simp [Core.indexer, indexerAdd, kind, GoMap.get?_set]

/-- Adding an object again changes nothing. -/
theorem indexer_indexerAdd {r : Reconciler} {c : Ref} (indexed : r.Indexed c)
    (membershipOnly : Bool) (key : String) :
    ((r.indexerAdd c).indexer membershipOnly).get? key =
      (r.indexer membershipOnly).get? key := by
  rw [get?_indexerAdd]
  split
  next same =>
    rw [same.1, same.2]
    exact indexed.symm
  next => rfl

theorem get?_indexerDelete (membershipOnly : Bool) (key : String) :
    ((r.indexerDelete c).indexer membershipOnly).get? key =
      if membershipOnly = (r.objects c).membershipOnly ∧ key = (r.objects c).id.string
      then none else (r.indexer membershipOnly).get? key := by
  cases membershipOnly <;> cases kind : (r.objects c).membershipOnly <;>
    simp [Core.indexer, indexerDelete, kind, GoMap.get?_remove]

/-- Taking another object out of its indexer leaves an indexed object. -/
theorem indexed_indexerDelete {r : Reconciler} {c d : Ref} (indexed : r.Indexed c) (other : c ≠ d)
    (listed : r.Indexed d ∨ r.KeyFree (r.objects d).membershipOnly (r.objects d).id) :
    (r.indexerDelete d).Indexed c := by
  refine (r.get?_indexerDelete d _ _).trans ((if_neg ?_).trans indexed)
  rintro ⟨sameKind, sameKey⟩
  rw [Core.Indexed] at indexed
  have here : (r.indexer (r.objects d).membershipOnly).get? (r.objects d).id.string = some c :=
    sameKind ▸ sameKey ▸ indexed
  rcases listed with listed | free
  · exact other (Option.some.inj (here.symm.trans listed))
  · exact absurd (free.symm.trans here) (by simp)

end Reconciler

/-! ## The invariants -/

/-- What is known about a call in flight. -/
structure MessageOf (core : Core) (m : Message) : Prop where
  allocated : m.sg < core.nextRef
  networked : (core.objects m.sg).Networked
  call : match m.call with
    | .createSecurityGroup id membershipOnly =>
      id = (core.objects m.sg).id ∧ membershipOnly = (core.objects m.sg).membershipOnly ∧
        m.op = some .add
    | .updateSecurityGroupMembers id members membershipOnly =>
      id = (core.objects m.sg).id ∧ membershipOnly = (core.objects m.sg).membershipOnly ∧
        (core.objects m.sg).state ≠ .init ∧
        (m.op = none ∨
          (m.op = some .clearMembers ∧ members = [] ∧ membershipOnly = false))
    | .updateSecurityGroupRules id _ _ =>
      id = (core.objects m.sg).id ∧ (core.objects m.sg).membershipOnly = false ∧
        (core.objects m.sg).state ≠ .init ∧ m.op = some .updateRules
    | .deleteSecurityGroup id membershipOnly =>
      id = (core.objects m.sg).id ∧ membershipOnly = (core.objects m.sg).membershipOnly ∧
        (core.objects m.sg).state = .garbageCollectState ∧ m.op = some .delete
  answered : ∀ op err, m.stage = .answered op err →
    m.op = some op ∨ (m.op = none ∧ (op = .clearMembers ∨ op = .updateMembers))

namespace MessageOf

variable {core : Core} {m : Message}

/-- Only the updates of members are reported under an operation chosen late. -/
theorem op_of_answered (known : MessageOf core m) {op : SecurityGroupOperation}
    {err : Option String} (answered : m.stage = .answered op err) (clear : op ≠ .clearMembers)
    (update : op ≠ .updateMembers) : m.op = some op := by
  rcases known.answered op err answered with fixed | ⟨_, late | late⟩
  · exact fixed
  · exact absurd late clear
  · exact absurd late update

/-- A call reported under `add` creates the group of its object. -/
theorem create_of_op (known : MessageOf core m) (fixed : m.op = some .add) :
    m.call = .createSecurityGroup (core.objects m.sg).id (core.objects m.sg).membershipOnly := by
  have call := known.call
  cases there : m.call with
  | createSecurityGroup id membershipOnly =>
    simp only [there] at call
    rw [call.1, call.2.1]
  | _ => simp [there, fixed] at call

/-- A call reported under `delete` deletes the group of its object, which is garbage. -/
theorem delete_of_op (known : MessageOf core m) (fixed : m.op = some .delete) :
    m.call = .deleteSecurityGroup (core.objects m.sg).id (core.objects m.sg).membershipOnly ∧
      (core.objects m.sg).state = .garbageCollectState := by
  have call := known.call
  cases there : m.call with
  | deleteSecurityGroup id membershipOnly =>
    simp only [there] at call
    rw [call.1, call.2.1]
    exact ⟨rfl, call.2.2.1⟩
  | _ => simp [there, fixed] at call

end MessageOf

/-- What is known about an item of the retry queue. -/
def QueueItemOf (core : Core) (key : String) (counting : CountingPendingItem PendingItem) :
    Prop :=
  (∃ count, counting.opCnt = some count) ∧
    match counting.item with
    | .securityGroup c =>
      c < core.nextRef ∧ (core.objects c).uName = key ∧ (core.objects c).Networked
    | .pendingGroup group => group.refCnt = none ∧ group.event ≠ some .deleted

/-- What is known about an item of `pendingDeleteGroups`. -/
def EntryOf (counting : CountingPendingItem PendingItem) : Prop :=
  counting.opCnt = none ∧
    ∃ group refCnt, counting.item = .pendingGroup group ∧ group.refCnt = some refCnt ∧
      group.event ≠ some .deleted

/-- The invariants that hold whatever fails. -/
structure Base (core : Core) : Prop where
  index : ∀ membershipOnly key c, (core.indexer membershipOnly).get? key = some c →
    c < core.nextRef ∧ (core.objects c).membershipOnly = membershipOnly ∧
      (core.objects c).id.string = key
  queue : ∀ key counting, core.retryQueue.items.get? key = some counting →
    QueueItemOf core key counting
  queueBudget : core.retryQueue.opCnt = some operationCount
  entries : ∀ key counting, core.pendingDeleteGroups.items.get? key = some counting →
    EntryOf counting
  entriesBudget : core.pendingDeleteGroups.opCnt = none
  messages : ∀ m ∈ core.inFlight, MessageOf core m
  tracked : ∀ c, core.Tracked c →
    c < core.nextRef ∧ (core.objects c).membershipOnly = false
  unallocated : ∀ c, core.nextRef ≤ c → (core.objects c).state = .init
  alive : ∀ c, core.Indexed c → (core.objects c).state ≠ .garbageCollectState
  networked : ∀ c, core.Indexed c → (core.objects c).state ≠ .init →
    (core.objects c).Networked
  superseded : ∀ c < core.nextRef, (core.objects c).state = .garbageCollectState →
    (core.objects c).retryOp = none ∨ (core.objects c).retryOp = some .delete
  deleting : ∀ c < core.nextRef, (core.objects c).retryOp = some .delete →
    (core.objects c).state = .garbageCollectState

namespace Base

variable {core : Core}

variable {c : Ref} {key : String}

theorem allocated (base : Base core) (indexed : core.Indexed c) : c < core.nextRef :=
  (base.index _ _ c indexed).1

theorem indexed (base : Base core) {membershipOnly : Bool}
    (found : (core.indexer membershipOnly).get? key = some c) : core.Indexed c := by
  obtain ⟨_, kind, named⟩ := base.index _ _ _ found
  rw [Core.Indexed, kind, named]
  exact found

/-- Only objects that stand for a group of the cloud are queued. -/
theorem networked_of_queued (base : Base core) (queued : core.Queued c) :
    (core.objects c).Networked := by
  obtain ⟨count, found⟩ := queued
  exact (base.queue _ _ found).2.2.2

theorem init_or_networked (base : Base core) (indexed : core.Indexed c) :
    (core.objects c).state = .init ∨ (core.objects c).Networked := by
  by_cases init : (core.objects c).state = .init
  · exact .inl init
  · exact .inr (base.networked c indexed init)

/-- The entries keep their shape when `deleteImpl` makes one. -/
theorem entries_add (base : Base core) {id : String} {counting : CountingPendingItem PendingItem}
    (found : (core.pendingDeleteGroups.add id
      (.pendingGroup { refCnt := some 0 })).items.get? key = some counting) : EntryOf counting := by
  rw [PendingItemQueue.get?_add] at found
  split at found
  next =>
    obtain rfl := Option.some.inj found
    cases there : core.pendingDeleteGroups.items.get? id with
    | none => exact ⟨base.entriesBudget, _, _, rfl, rfl, by simp⟩
    | some old => exact base.entries id old there
  next => exact base.entries key counting found

/-- A new reference is unknown to the rest of the state. -/
theorem untouched (base : Base core) (new : core.nextRef ≤ c) :
    core.Untouched c where
  messages m member same :=
    absurd (base.messages m member).allocated (Nat.not_lt.mpr (same ▸ new))
  queue key _ found :=
    absurd (base.queue key _ found).2.1 (Nat.not_lt.mpr new)
  trackers tracked :=
    absurd (base.tracked c tracked).1 (Nat.not_lt.mpr new)

end Base

/-! ## Compound changes, component by component -/

namespace Reconciler

variable (r : Reconciler) (c : Ref)

theorem inFlight_beginDelete :
    (r.beginDelete c).inFlight = r.inFlight ++
      [⟨c, .deleteSecurityGroup (r.objects c).id (r.objects c).membershipOnly,
        some .delete, .issued⟩] := by
  simp [beginDelete, issueDelete, issue, observe, assign, countDelete, unlist,
    indexerDelete, deleteImplEntry]

theorem indexer_retryAdd (membershipOnly : Bool) :
    (r.retryAdd c).indexer membershipOnly = (r.indexerAdd c).indexer membershipOnly := by
  simp [retryAdd, startRetry, endRetry, issueCreate, issue, observe, assign, indexerAdd,
    Core.indexer]

theorem inFlight_retryAdd :
    (r.retryAdd c).inFlight = r.inFlight ++
      [⟨c, .createSecurityGroup (r.objects c).id (r.objects c).membershipOnly, some .add,
        .issued⟩] := by
  simp [retryAdd, startRetry, endRetry, issueCreate, issue, observe, assign, indexerAdd]

theorem indexer_retryAddEarly (membershipOnly : Bool) :
    (r.retryAddEarly c).indexer membershipOnly = (r.indexerAdd c).indexer membershipOnly := by
  simp [retryAddEarly, startRetry, endRetry, observe, assign, indexerAdd, Core.indexer]

theorem inFlight_retryDelete :
    (r.retryDelete c).inFlight = r.inFlight ++
      [⟨c, .deleteSecurityGroup (r.objects c).id (r.objects c).membershipOnly,
        some .delete, .issued⟩] := by
  simp [retryDelete, startRetry, endRetry, issueDelete, issue, observe, assign,
    countDelete, deleteImplEntry]

theorem pendingDeleteGroups_retryDelete :
    (r.retryDelete c).pendingDeleteGroups =
      (r.pendingDeleteGroups.add (r.objects c).guName
        (.pendingGroup { refCnt := some 0 })).reference (r.objects c).guName 1 false := by
  simp [retryDelete, startRetry, endRetry, issueDelete, issue, observe, assign,
    countDelete, deleteImplEntry, SecurityGroup.guName]

/-- A response is reported under the operation of its call, if that is fixed. -/
theorem responseOp_cases (m : Message) :
    m.op = some (r.responseOp m) ∨
      (m.op = none ∧ (r.responseOp m = .clearMembers ∨ r.responseOp m = .updateMembers)) := by
  unfold responseOp
  cases fixed : m.op with
  | some op => exact .inl rfl
  | none =>
    refine .inr ⟨rfl, ?_⟩
    dsimp only
    split
    · exact .inl rfl
    · exact .inr rfl

/-- A call in flight after one of them has moved on. -/
theorem mem_setStage {position : Nat} {stage : Stage} {m : Message}
    (member : m ∈ (r.setStage position stage).inFlight) :
    m ∈ r.inFlight ∨
      ∃ old, r.inFlight[position]? = some old ∧ m = { old with stage := stage } := by
  obtain ⟨index, found⟩ := List.mem_iff_getElem?.mp member
  have found : (r.inFlight.modify position fun m => { m with stage := stage })[index]? =
    some m := found
  rw [List.getElem?_modify] at found
  split at found
  next here =>
    obtain ⟨old, there, rfl⟩ := Option.map_eq_some_iff.mp found
    exact .inr ⟨old, here ▸ there, rfl⟩
  next =>
    obtain ⟨old, there, rfl⟩ := Option.map_eq_some_iff.mp found
    exact .inl (List.mem_of_getElem? there)

end Reconciler

/-! ## How the retry queue changes -/

/-- What an effect may leave under a name of the retry queue. -/
inductive Slot (o : Origin) (r r' : Reconciler) (key : String) :
    Option (CountingPendingItem PendingItem) → Prop where
  | same : Slot o r r' key (r.retryQueue.items.get? key)
  /-- A new deletion takes out what waits under the name of the object. -/
  | deleted (c : Ref) (named : (r.objects c).uName = key) (deletes : Deletes o r.toCore c)
      (networked : (r.objects c).Networked) (after : r' = r.forget c ∨ r' = r.beginDelete c) :
      Slot o r r' key none
  | dropped (name : String) (membershipOnly : Bool)
      (origin : o = .deleted name membershipOnly none)
      (named : getGroupUniqueName name membershipOnly = key) : Slot o r r' key none
  | retired (origin : o = .pending key)
      (idle : ∀ c count, r.retryQueue.items.get? key = some ⟨.securityGroup c, count⟩ →
        (r.objects c).retryOp = none) : Slot o r r' key none
  | expired (c : Ref) (op : SecurityGroupOperation) (count : Int) (origin : o = .expired c)
      (named : (r.objects c).uName = key)
      (found : r.retryQueue.items.get? key = some ⟨.securityGroup c, some count⟩)
      (retries : (r.objects c).retryOp = some op) (spent : count ≤ 0) : Slot o r r' key none
  | queued (c : Ref) (op : SecurityGroupOperation) (message : String)
      (origin : o = .response c op (some message)) (named : (r.objects c).uName = key)
      (free : r.retryQueue.items.get? key = none) (after : r' = r.enqueue c op)
      (current : (r.objects c).state ≠ .garbageCollectState ∨ op = .delete)
      (allocated : c < r.nextRef) (networked : (r.objects c).Networked) :
      Slot o r r' key (some ⟨.securityGroup c, some operationCount⟩)
  | event (name : String) (membershipOnly : Bool) (group : PendingGroup) (count : Option Int)
      (origin : o = .event name membershipOnly)
      (named : getGroupUniqueName name membershipOnly = key)
      (slot : ∀ counting, r.retryQueue.items.get? key = some counting →
        ∃ queued, counting.item = .pendingGroup queued)
      (budget : ∃ n, count = some n) (retry : group.refCnt = none)
      (kept : group.event ≠ some .deleted) : Slot o r r' key (some ⟨.pendingGroup group, count⟩)
  | spent (item : PendingItem) (count : Int) (origin : o = .pending key)
      (found : r.retryQueue.items.get? key = some ⟨item, some count⟩)
      (issued : 0 < count → ∀ c, item = .securityGroup c →
        (r.objects c).retryOp = some .delete →
          ∃ m ∈ r.inFlight, m.sg = c ∧ m.op = some .delete) :
      Slot o r r' key (some ⟨item, some (count - 1)⟩)

/-! ## Every effect keeps them -/

namespace Effect

variable {o : Origin} {r r' : Reconciler}

theorem nextRef_le (effect : Effect o r r') : r.nextRef ≤ r'.nextRef := by
  cases effect with
  | allocate => exact Nat.le_succ _
  | _ => exact Nat.le_refl _

variable {c : Ref}

/-- No effect writes the kind or the id of an object. -/
theorem static (effect : Effect o r r') (old : c < r.nextRef) :
    (r'.objects c).membershipOnly = (r.objects c).membershipOnly ∧
      (r'.objects c).id = (r.objects c).id := by
  rcases effect.objects c with same | written
  · rw [same]
    exact ⟨rfl, rfl⟩
  · generalize r'.objects c = new at written ⊢
    cases written with
    | allocate group new => exact absurd new (Nat.ne_of_lt old)
    | answerItem d op => simp
    | _ => exact ⟨rfl, rfl⟩

theorem networked (effect : Effect o r r') (old : c < r.nextRef)
    (networked : (r.objects c).Networked) : (r'.objects c).Networked := by
  obtain ⟨sameKind, sameId⟩ := effect.static old
  rwa [SecurityGroup.Networked, sameKind, sameId]

/-- An object that has been sent to the cloud stays so; garbage stays garbage. -/
theorem state_mono (base : Base r.toCore) (effect : Effect o r r') (old : c < r.nextRef) :
    ((r.objects c).state ≠ .init → (r'.objects c).state ≠ .init) ∧
      ((r.objects c).state = .garbageCollectState →
        (r'.objects c).state = .garbageCollectState) := by
  rcases effect.objects c with same | written
  · rw [same]
    exact ⟨id, id⟩
  · generalize r'.objects c = new at written ⊢
    cases written with
    | allocate group new => exact absurd new (Nat.ne_of_lt old)
    | reported origin indexed => simp [base.alive c indexed]
    | created origin init => simp [init]
    | beginDelete | answerItem => simp
    | _ => exact ⟨id, id⟩

/-- Where the operation that an object is to retry comes from. -/
theorem retryOp_source (effect : Effect o r r') {op : SecurityGroupOperation}
    (retries : (r'.objects c).retryOp = some op) :
    (r.objects c).retryOp = some op ∨
      (∃ message, o = .response c op (some message) ∧ r' = r.enqueue c op ∧
        r.retryQueue.items.get? (r.objects c).uName = none ∧
        ((r.objects c).state ≠ .garbageCollectState ∨ op = .delete) ∧
        (op = .delete → (r.objects c).state = .garbageCollectState)) ∨
      (o = .retry c (some op) ∧ r' = r.endRetry c op ∧ r.Queued c ∧ op ≠ .add ∧
        op ≠ .delete ∧ (r.objects c).state ≠ .garbageCollectState) := by
  rcases effect.objects c with same | written
  · exact .inl (same ▸ retries)
  · generalize r'.objects c = new at written retries
    cases written with
    | allocate group new clean => exact absurd (clean.retryOp.symm.trans retries) (by simp)
    | forget | beginDelete | startRetry => cases retries
    | queueRetry op' message origin free current deleting after =>
      cases retries
      exact .inr (.inl ⟨message, origin, after, free, current, deleting⟩)
    | endRetry op' origin queued idle alive other ran after =>
      cases retries
      exact .inr (.inr ⟨origin, after, queued, other.1, other.2, alive⟩)
    | retryAdd origin queued before | retryAddEarly origin queued before
    | retryDelete origin queued before =>
      cases retries
      exact .inl before
    | answerItem d op' =>
      rcases (r.objects c).updatePendingItem_retryOp op' with kept | dropped
      · exact .inl (kept.symm.trans retries)
      · exact absurd (dropped.symm.trans retries) (by simp)
    | _ => exact .inl retries

/-- Only the start of a deletion makes an object garbage. -/
theorem garbage_source (effect : Effect o r r')
    (garbage : (r'.objects c).state = .garbageCollectState) :
    (r.objects c).state = .garbageCollectState ∨ r' = r.beginDelete c := by
  rcases effect.objects c with same | written
  · exact .inl (same ▸ garbage)
  · generalize r'.objects c = new at written garbage
    cases written with
    | allocate group new clean fresh => rcases fresh with ⟨init, _⟩ | ⟨_, created, _⟩ <;> simp_all
    | answerItem d op => exact .inl (by simpa using garbage)
    | beginDelete deletes networked unreferenced alive after => exact .inr after
    | reported | created => cases garbage
    | _ => exact .inl garbage

/-- Only objects that stand for a group of the cloud leave the initial state. -/
theorem sent_source (effect : Effect o r r') (sent : (r'.objects c).state ≠ .init) :
    (r.objects c).state ≠ .init ∨ (r.objects c).Networked ∨ c = r.nextRef := by
  rcases effect.objects c with same | written
  · exact .inl (same ▸ sent)
  · generalize r'.objects c = new at written sent
    cases written with
    | allocate group new => exact .inr (.inr new)
    | answerItem d op => exact .inl (by simpa using sent)
    | beginDelete deletes networked | created origin init networked
    | reported origin indexed networked => exact .inr (.inl networked)
    | _ => exact .inl sent

variable {key : String} {counting : CountingPendingItem PendingItem} {m : Message}

/-- An item of the retry queue keeps its name when the state changes. -/
theorem queueItemOf (effect : Effect o r r') (item : QueueItemOf r.toCore key counting) :
    QueueItemOf r'.toCore key counting := by
  refine ⟨item.1, ?_⟩
  have known := item.2
  cases found : counting.item with
  | pendingGroup group => simpa only [found] using known
  | securityGroup c =>
    simp only [found] at known ⊢
    refine ⟨known.1.trans_le effect.nextRef_le, ?_, effect.networked known.1 known.2.2⟩
    obtain ⟨sameKind, sameId⟩ := effect.static known.1
    rw [← known.2.1, SecurityGroup.uName, SecurityGroup.uName, sameKind, sameId]

/-- Counting does not change the shape of an entry. -/
theorem entryOf_reference {queue : PendingItemQueue PendingItem} {id : String} {n : Int} {b : Bool}
    (shape : ∀ old, queue.items.get? id = some old → EntryOf old)
    (others : ∀ old, queue.items.get? key = some old → EntryOf old)
    (found : (queue.reference id n b).items.get? key = some counting) : EntryOf counting := by
  rw [PendingItemQueue.get?_reference] at found
  split at found
  next =>
    cases there : queue.items.get? id with
    | none => simp only [there, Option.map_none, reduceCtorEq] at found
    | some old =>
      simp only [there, Option.map_some, Option.some.injEq] at found
      obtain ⟨unbounded, group, refCnt, isGroup, some_, kept⟩ := shape old there
      rw [← found]
      simp only [isGroup, PendingItem.reference]
      exact ⟨unbounded, _, refCnt + n, rfl, by simp only [some_, Option.map_some], kept⟩
  next => exact others counting found

/-- What can be put into an indexer under a key. -/
def Listable (core : Core) (membershipOnly : Bool) (key : String) (c : Ref) : Prop :=
  c < core.nextRef ∧ (core.objects c).membershipOnly = membershipOnly ∧
    (core.objects c).id.string = key ∧ (core.objects c).state ≠ .garbageCollectState ∧
    ((core.objects c).state = .init ∨ (core.objects c).Networked)

section

variable (base : Base r.toCore) (effect : Effect o r r')

include base effect

/-- An object found in an indexer was there before or is put there under its key. -/
theorem indexer_source {membershipOnly : Bool} {c : Ref}
    (found : (r'.indexer membershipOnly).get? key = some c) :
    (r.indexer membershipOnly).get? key = some c ∨ Listable r.toCore membershipOnly key c := by
  have put (d : Ref) (allocated : d < r.nextRef)
      (alive : (r.objects d).state ≠ .garbageCollectState)
      (listed : (r.objects d).state = .init ∨ (r.objects d).Networked)
      (found : ((r.indexerAdd d).indexer membershipOnly).get? key = some c) :
      (r.indexer membershipOnly).get? key = some c ∨ Listable r.toCore membershipOnly key c := by
    rw [Reconciler.get?_indexerAdd] at found
    split at found
    next here =>
      obtain rfl : d = c := Option.some.inj found
      exact .inr ⟨allocated, here.1.symm, here.2.symm, alive, listed⟩
    next => exact .inl found
  have taken (d : Ref)
      (found : ((r.indexerDelete d).indexer membershipOnly).get? key = some c) :
      (r.indexer membershipOnly).get? key = some c := by
    rw [Reconciler.get?_indexerDelete] at found
    split at found
    next => cases found
    next => exact found
  cases effect with
  | index d new => exact put d new.allocated (by simp [new.init]) (.inl new.init) found
  | reindex d indexed =>
    exact put d (base.allocated indexed) (base.alive d indexed)
      (base.init_or_networked indexed) found
  | retryAdd d allocated queued retries alive =>
    exact put d allocated alive (.inr (base.networked_of_queued queued))
      (r.indexer_retryAdd d _ ▸ found)
  | retryAddEarly d allocated queued retries alive =>
    exact put d allocated alive (.inr (base.networked_of_queued queued))
      (r.indexer_retryAddEarly d _ ▸ found)
  | unindexAddresses d | forget d | beginDelete d => exact .inl (taken d found)
  | _ => exact .inl found

theorem base_index (membershipOnly : Bool) (key : String) (c : Ref)
    (found : (r'.indexer membershipOnly).get? key = some c) :
    c < r'.nextRef ∧ (r'.objects c).membershipOnly = membershipOnly ∧
      (r'.objects c).id.string = key := by
  have known : c < r.nextRef ∧ (r.objects c).membershipOnly = membershipOnly ∧
      (r.objects c).id.string = key := by
    rcases effect.indexer_source base found with before | ⟨old, kind, named, _, _⟩
    · exact base.index _ _ _ before
    · exact ⟨old, kind, named⟩
  obtain ⟨old, kind, named⟩ := known
  obtain ⟨sameKind, sameId⟩ := effect.static old
  exact ⟨old.trans_le effect.nextRef_le, sameKind.trans kind, sameId ▸ named⟩

theorem slot (key : String) :
    Slot o r r' key (r'.retryQueue.items.get? key) := by
  have removed {id : String} (gone : id = key → Slot o r r' key none) :
      Slot o r r' key ((r.retryQueue.remove id).items.get? key) := by
    rw [PendingItemQueue.get?_remove]
    split
    next same => exact gone same.symm
    next => exact .same
  have touched {id : String} {old : CountingPendingItem PendingItem}
      (there : r.retryQueue.items.get? id = some old) :
      Slot o r r' key ((r.retryQueue.setItem id old.item).items.get? key) := by
    have same : (r.retryQueue.setItem id old.item).items.get? key =
        r.retryQueue.items.get? key := by
      rw [PendingItemQueue.get?_setItem]
      split
      next equal => rw [equal, there, Option.map_some]
      next => rfl
    rw [same]
    exact .same
  cases effect with
  | forget c allocated deletes networked =>
    exact removed fun named => .deleted c named deletes networked (.inl rfl)
  | beginDelete c allocated deletes networked =>
    exact removed fun named => .deleted c named deletes networked (.inr rfl)
  | @dropEvent name membershipOnly =>
    exact removed fun named => .dropped name membershipOnly rfl named
  | retire id idle =>
    refine removed ?_
    rintro rfl
    exact .retired rfl idle
  | expire c op count found retries spent =>
    refine removed ?_
    rintro rfl
    exact .expired c op count rfl rfl found retries spent
  | touchItem id old there => exact touched there
  | answerItem c op err d count there => exact touched there
  | queueRetry c op message allocated networked free current =>
    have after : (r.enqueue c op).retryQueue.items.get? key = _ :=
      PendingItemQueue.get?_add r.retryQueue (r.objects c).uName key (.securityGroup c)
    rw [after, free, base.queueBudget]
    split
    next same =>
      subst same
      exact .queued c op message rfl rfl free rfl current allocated networked
    next => exact .same
  | @queueEvent name membershipOnly _ group retry kept slot =>
    dsimp only
    rw [PendingItemQueue.get?_setItem, PendingItemQueue.get?_add, PendingItemQueue.get?_add,
      if_pos rfl]
    split
    next same =>
      subst same
      refine .event name membershipOnly group _ rfl rfl slot ?_ retry kept
      cases there : r.retryQueue.items.get? (getGroupUniqueName name membershipOnly) with
      | none => exact ⟨_, base.queueBudget⟩
      | some old => exact (base.queue _ old there).1
    next => exact .same
  | spend id item count there issued =>
    dsimp only
    rw [PendingItemQueue.get?_setCount, there]
    split
    next same =>
      subst same
      exact .spent item count rfl there issued
    next => exact .same
  | _ => exact .same

/-- Every item of the queue after an effect is described by the state before it. -/
theorem queue_source (found : r'.retryQueue.items.get? key = some counting) :
    QueueItemOf r.toCore key counting := by
  have slot := effect.slot base key
  rw [found] at slot
  generalize there : some counting = result at slot
  cases slot with
  | same => exact base.queue key counting there.symm
  | queued c op message origin named free after current allocated networked =>
    cases there
    exact ⟨⟨_, rfl⟩, allocated, named, networked⟩
  | event name membershipOnly group count origin named slot budget retry kept =>
    cases there
    exact ⟨budget, retry, kept⟩
  | spent item count origin before =>
    cases there
    exact ⟨⟨_, rfl⟩, (base.queue key _ before).2⟩
  | deleted | dropped | retired | expired => cases there

theorem base_queueBudget : r'.retryQueue.opCnt = some operationCount := by
  cases effect with
  | queueRetry | queueEvent => exact (PendingItemQueue.opCnt_add _ _ _).trans base.queueBudget
  | _ => exact base.queueBudget

theorem base_entries (key : String) (counting : CountingPendingItem PendingItem)
    (found : r'.pendingDeleteGroups.items.get? key = some counting) : EntryOf counting := by
  have begun (id : String)
      (found : ((r.pendingDeleteGroups.add id (.pendingGroup { refCnt := some 0 })).reference
        id 1 false).items.get? key = some counting) : EntryOf counting := by
    by_cases same : key = id
    · subst same
      exact entryOf_reference (fun _ => base.entries_add) (fun _ => base.entries_add) found
    · rw [PendingItemQueue.get?_reference, if_neg same] at found
      exact base.entries_add found
  cases effect with
  | deletePending | forget => exact base.entries_add found
  | beginDelete c => exact begun _ found
  | retryDelete c => exact begun _ (r.pendingDeleteGroups_retryDelete c ▸ found)
  | release c b => exact entryOf_reference (base.entries _) (base.entries _) found
  | removeEntry c =>
    have found : (r.pendingDeleteGroups.remove (r.objects c).guName).items.get? key =
      some counting := found
    rw [PendingItemQueue.get?_remove] at found
    split at found
    next => cases found
    next => exact base.entries key counting found
  | park id group parked count there same kept =>
    have found : (r.pendingDeleteGroups.setItem id (.pendingGroup parked)).items.get? key =
      some counting := found
    rw [PendingItemQueue.get?_setItem, there] at found
    split at found
    next =>
      obtain rfl := Option.some.inj found
      obtain ⟨unbounded, old, refCnt, isGroup, some_, _⟩ := base.entries id _ there
      cases isGroup
      exact ⟨unbounded, _, _, rfl, same.1.trans some_, kept⟩
    next => exact base.entries key counting found
  | _ => exact base.entries key counting found

theorem base_entriesBudget : r'.pendingDeleteGroups.opCnt = none := by
  cases effect with
  | deletePending | forget | beginDelete | retryDelete =>
    exact (PendingItemQueue.opCnt_add _ _ _).trans base.entriesBudget
  | _ => exact base.entriesBudget

/-- What is known about a call in flight stays true. -/
theorem messageOf (known : MessageOf r.toCore m) : MessageOf r'.toCore m := by
  obtain ⟨sameKind, sameId⟩ := effect.static known.allocated
  obtain ⟨sent, garbage⟩ := effect.state_mono base known.allocated
  refine ⟨known.allocated.trans_le effect.nextRef_le,
    effect.networked known.allocated known.networked, ?_, known.answered⟩
  have call := known.call
  rw [sameKind, sameId]
  cases there : m.call with
  | createSecurityGroup => simpa only [there] using call
  | updateSecurityGroupMembers | updateSecurityGroupRules =>
    simp only [there] at call ⊢
    exact ⟨call.1, call.2.1, sent call.2.2.1, call.2.2.2⟩
  | deleteSecurityGroup =>
    simp only [there] at call ⊢
    exact ⟨call.1, call.2.1, garbage call.2.2.1, call.2.2.2⟩

/-- A call in flight is described by the state before, unless it starts a deletion. -/
theorem message_source (member : m ∈ r'.inFlight) :
    MessageOf r.toCore m ∨
      ∃ c < r.nextRef, (r.objects c).Networked ∧ r' = r.beginDelete c ∧
        m = ⟨c, .deleteSecurityGroup (r.objects c).id (r.objects c).membershipOnly,
          some .delete, .issued⟩ := by
  have issued {new : Message} (member : m ∈ r.inFlight ++ [new])
      (known : MessageOf r.toCore new) : MessageOf r.toCore m := by
    rcases List.mem_append.mp member with old | here
    · exact base.messages m old
    · rwa [List.mem_singleton.mp here]
  cases effect with
  | execute position old err found issued =>
    rcases r.mem_setStage member with before | ⟨same, there, rfl⟩
    · exact .inl (base.messages m before)
    · have known := base.messages same (List.mem_of_getElem? there)
      exact .inl ⟨known.allocated, known.networked, known.call, by simp⟩
  | answer position old err found executed =>
    rcases r.mem_setStage member with before | ⟨same, there, rfl⟩
    · exact .inl (base.messages m before)
    · obtain rfl := Option.some.inj (found.symm.trans there)
      have known := base.messages old (List.mem_of_getElem? there)
      refine .inl ⟨known.allocated, known.networked, known.call, fun op err answered => ?_⟩
      simp only [Stage.answered.injEq] at answered
      exact answered.1 ▸ r.responseOp_cases old
  | receive position => exact .inl (base.messages m (List.mem_of_mem_eraseIdx member))
  | create c allocated indexed networked =>
    exact .inl (issued member ⟨allocated, networked, ⟨rfl, rfl, rfl⟩, by simp⟩)
  | retryAdd c allocated queued =>
    rw [Reconciler.inFlight_retryAdd] at member
    exact .inl (issued member ⟨allocated, base.networked_of_queued queued, ⟨rfl, rfl, rfl⟩,
      (by simp)⟩)
  | retryDelete c allocated queued retries garbage =>
    rw [Reconciler.inFlight_retryDelete] at member
    exact .inl (issued member ⟨allocated, base.networked_of_queued queued,
      ⟨rfl, rfl, garbage, rfl⟩, by simp⟩)
  | beginDelete c allocated deletes networked =>
    rw [Reconciler.inFlight_beginDelete] at member
    rcases List.mem_append.mp member with old | here
    · exact .inl (base.messages m old)
    · exact .inr ⟨c, allocated, networked, rfl, List.mem_singleton.mp here⟩
  | pushMembers c members allocated networked source created =>
    exact .inl (issued member
      ⟨allocated, networked, ⟨rfl, rfl, by simp [created], .inl rfl⟩, by simp⟩)
  | pushNoMembers c allocated created idle kind =>
    exact .inl (issued member
      ⟨allocated, SecurityGroup.networked_of_appliedTo kind,
        ⟨rfl, kind.symm, by simp [created], .inr ⟨rfl, rfl, rfl⟩⟩, by simp⟩)
  | pushRules c ingress egress allocated created idle kind =>
    exact .inl (issued member ⟨allocated, SecurityGroup.networked_of_appliedTo kind,
      ⟨rfl, kind, by simp [created], rfl⟩, by simp⟩)
  | _ => exact .inl (base.messages m member)

theorem base_messages (m : Message) (member : m ∈ r'.inFlight) : MessageOf r'.toCore m := by
  rcases effect.message_source base member with known | ⟨c, allocated, networked, rfl, rfl⟩
  · exact effect.messageOf base known
  · obtain ⟨sameKind, sameId⟩ := effect.static allocated
    refine ⟨allocated, effect.networked allocated networked,
      ⟨sameId.symm, sameKind.symm, ?_, rfl⟩, by simp⟩
    simp [Reconciler.beginDelete, Reconciler.issueDelete, Reconciler.issue,
      Reconciler.observe, Reconciler.assign]

theorem base_tracked (c : Ref) (tracked : r'.Tracked c) :
    c < r'.nextRef ∧ (r'.objects c).membershipOnly = false := by
  have known : c < r.nextRef ∧ (r.objects c).membershipOnly = false := by
    cases effect with
    | trackers trackers known =>
      rcases known c tracked with old | ⟨allocated, kind, _⟩
      · exact base.tracked c old
      · exact ⟨allocated, kind⟩
    | _ => exact base.tracked c tracked
  exact ⟨known.1.trans_le effect.nextRef_le, (effect.static known.1).1.trans known.2⟩

theorem base_unallocated (c : Ref) (new : r'.nextRef ≤ c) : (r'.objects c).state = .init := by
  have unknown : r.nextRef ≤ c := effect.nextRef_le.trans new
  have before := base.unallocated c unknown
  rcases effect.objects c with same | written
  · rw [same, before]
  · generalize r'.objects c = group at written ⊢
    cases written with
    | allocate group here clean fresh after =>
      subst after
      exact absurd new (Nat.not_le.mpr (Nat.lt_succ_of_le (Nat.le_of_eq here)))
    | beginDelete _ _ _ _ _ allocated => exact absurd allocated (Nat.not_lt.mpr unknown)
    | created _ _ _ allocated => exact absurd allocated (Nat.not_lt.mpr unknown)
    | reported origin indexed => exact absurd (base.allocated indexed) (Nat.not_lt.mpr unknown)
    | answerItem d op => rw [SecurityGroup.updatePendingItem_state, before]
    | _ => exact before

theorem base_alive (c : Ref)
    (indexed : r'.Indexed c) : (r'.objects c).state ≠ .garbageCollectState := by
  intro garbage
  rcases effect.garbage_source garbage with before | rfl
  · rcases effect.indexer_source base indexed with old | ⟨_, _, _, alive, _⟩
    · exact base.alive c (base.indexed old) before
    · exact alive before
  · -- The start of a deletion takes the object out of the indexer.
    have gone : ((r.beginDelete c).indexer (r.objects c).membershipOnly).get?
        (r.objects c).id.string = none :=
      (r.get?_indexerDelete c _ _).trans (if_pos ⟨rfl, rfl⟩)
    have allocated : c < r.nextRef := (effect.base_index base _ _ c indexed).1
    obtain ⟨sameKind, sameId⟩ := effect.static allocated
    rw [Core.Indexed, sameKind, sameId] at indexed
    exact absurd (gone.symm.trans indexed) (by simp)

theorem base_networked (c : Ref)
    (indexed : r'.Indexed c) (sent : (r'.objects c).state ≠ .init) :
    (r'.objects c).Networked := by
  obtain ⟨allocated, listed⟩ : c < r.nextRef ∧
      ((r.objects c).state = .init ∨ (r.objects c).Networked) := by
    rcases effect.indexer_source base indexed with old | ⟨old, _, _, _, listed⟩
    · exact ⟨(base.index _ _ c old).1, base.init_or_networked (base.indexed old)⟩
    · exact ⟨old, listed⟩
  refine effect.networked allocated ?_
  rcases effect.sent_source sent with before | networked | new
  · exact listed.resolve_left before
  · exact networked
  · exact absurd new (Nat.ne_of_lt allocated)

theorem base_retryOp (c : Ref) (allocated : c < r'.nextRef) :
    ((r'.objects c).state = .garbageCollectState →
        (r'.objects c).retryOp = none ∨ (r'.objects c).retryOp = some .delete) ∧
      ((r'.objects c).retryOp = some .delete →
        (r'.objects c).state = .garbageCollectState) := by
  by_cases old : c < r.nextRef
  · obtain ⟨_, stays⟩ := effect.state_mono base old
    constructor
    · intro garbage
      rcases effect.garbage_source garbage with before | rfl
      · cases retries : (r'.objects c).retryOp with
        | none => exact .inl rfl
        | some op =>
          rcases effect.retryOp_source retries with kept | failed | again
          · rw [← kept]
            exact base.superseded c old before
          · obtain ⟨_, _, _, _, current, _⟩ := failed
            exact .inr (congrArg some (current.resolve_left (not_not_intro before)))
          · exact absurd before again.2.2.2.2.2
      · exact .inl (by rw [r.objects_beginDelete, if_pos rfl])
    · intro deleting
      rcases effect.retryOp_source deleting with kept | ⟨_, _, _, _, _, garbage⟩ | again
      · exact stays (base.deleting c old kept)
      · exact stays (garbage rfl)
      · exact absurd rfl again.2.2.2.2.1
  · -- Only an allocation makes a reference valid.
    cases effect with
    | allocate group clean fresh =>
      obtain rfl : c = r.nextRef :=
        Nat.le_antisymm (Nat.lt_succ_iff.mp allocated) (Nat.not_lt.mp old)
      simp [Reconciler.allocate, clean.retryOp]
    | _ => exact absurd allocated old

end

theorem base (base : Base r.toCore) (effect : Effect o r r') : Base r'.toCore where
  index := effect.base_index base
  queue _ _ found := effect.queueItemOf (effect.queue_source base found)
  queueBudget := effect.base_queueBudget base
  entries := effect.base_entries base
  entriesBudget := effect.base_entriesBudget base
  messages := effect.base_messages base
  tracked := effect.base_tracked base
  unallocated := effect.base_unallocated base
  alive := effect.base_alive base
  networked := effect.base_networked base
  superseded c allocated := (effect.base_retryOp base c allocated).1
  deleting c allocated := (effect.base_retryOp base c allocated).2

end Effect

variable {allowed : Origin → Prop} {r r' : Reconciler} {c : Ref} {o : Origin} {core : Core}

theorem Base.effects (base : Base r.toCore) (effects : Effects allowed r r') : Base r'.toCore :=
  effects.invariant (fun r => Base r.toCore)
    (fun _ _ _ _ effect before => effect.base before) base

/-- No sequence of effects writes the kind or the id of an object. -/
theorem static_effects (effects : Effects allowed r r') (old : c < r.nextRef) :
    c < r'.nextRef ∧ (r'.objects c).membershipOnly = (r.objects c).membershipOnly ∧
      (r'.objects c).id = (r.objects c).id := by
  induction effects with
  | refl => exact ⟨old, rfl, rfl⟩
  | tail _ _ effect induction =>
    obtain ⟨old, kind, named⟩ := induction
    obtain ⟨sameKind, sameId⟩ := effect.static old
    exact ⟨old.trans_le effect.nextRef_le, sameKind.trans kind, sameId.trans named⟩

theorem networked_effects (effects : Effects allowed r r') (old : c < r.nextRef)
    (networked : (r.objects c).Networked) : (r'.objects c).Networked := by
  obtain ⟨_, sameKind, sameId⟩ := static_effects effects old
  rwa [SecurityGroup.Networked, sameKind, sameId]

/-- An object that has been sent to the cloud stays so along a sequence of effects. -/
theorem Base.state_mono (base : Base r.toCore) (effects : Effects allowed r r')
    (old : c < r.nextRef) :
    ((r.objects c).state ≠ .init → (r'.objects c).state ≠ .init) ∧
      ((r.objects c).state = .garbageCollectState →
        (r'.objects c).state = .garbageCollectState) := by
  induction effects with
  | refl => exact ⟨id, id⟩
  | tail before _ effect induction =>
    have step := effect.state_mono (base.effects before) (static_effects before old).1
    exact ⟨step.1 ∘ induction.1, step.2 ∘ induction.2⟩

/-! ## Objects that stay indexed -/

/-- Who deletes an indexed object is about that object. -/
theorem Deletes.listed (deletes : Deletes o core c) :
    (o.target = some c ∧ core.Indexed c) ∨
      core.KeyFree (core.objects c).membershipOnly (core.objects c).id := by
  cases o with
  | deleted name membershipOnly target => exact .inl ⟨deletes.1, deletes.2.1⟩
  | policy target => exact .inl ⟨deletes.1, deletes.2.1⟩
  | sync => exact .inr deletes.free
  | _ => exact deletes.elim

theorem Deletes.target (deletes : Deletes o core c) (indexed : core.Indexed c) :
    o.target = some c :=
  deletes.listed.elim And.left fun free => absurd (free.symm.trans indexed) (by simp)

/-- The ways in which an object is taken out of its indexer. -/
def Unindexes (r r' : Reconciler) (c : Ref) : Prop :=
  (r' = r.indexerDelete c ∧ ¬ (r.objects c).Networked) ∨
    ((r' = r.forget c ∨ r' = r.beginDelete c) ∧ r.policiesOf (r.objects c) = [] ∧
      r.Untracked c)

/--
An object leaves its indexer only for reasons that are about it, or when the
creation of an object that is not indexed is retried.
-/
theorem Effect.indexed_or (base : Base r.toCore) (effect : Effect o r r') (indexed : r.Indexed c)
    (listed : ∀ d, o = .retry d (some .add) → r.Queued d →
      (r.objects d).retryOp = some .add → r.Indexed d) :
    r'.Indexed c ∨ (Deletes o r.toCore c ∧ Unindexes r r' c) := by
  obtain ⟨sameKind, sameId⟩ := effect.static (base.allocated indexed)
  suffices kept : (r'.indexer (r.objects c).membershipOnly).get? (r.objects c).id.string =
      some c ∨ (Deletes o r.toCore c ∧ Unindexes r r' c) by
    rw [Core.Indexed, sameKind, sameId]
    exact kept
  have deleted {d : Ref} (deletes : Deletes o r.toCore d) (about : c = d → Unindexes r r' c)
      (after : r'.indexer (r.objects c).membershipOnly =
        (r.indexerDelete d).indexer (r.objects c).membershipOnly) :
      (r'.indexer (r.objects c).membershipOnly).get? (r.objects c).id.string = some c ∨
        (Deletes o r.toCore c ∧ Unindexes r r' c) := by
    by_cases same : c = d
    · subst same
      exact .inr ⟨deletes, about rfl⟩
    · rw [after]
      exact .inl (Reconciler.indexed_indexerDelete indexed same
        (deletes.listed.imp_left And.right))
  have again {d : Ref} (listed : r.Indexed d) : ((r.indexerAdd d).indexer
      (r.objects c).membershipOnly).get? (r.objects c).id.string = some c := by
    rw [Reconciler.indexer_indexerAdd listed]
    exact indexed
  cases effect with
  | index d new =>
    refine .inl ((r.get?_indexerAdd d _ _).trans ((if_neg ?_).trans indexed))
    rintro ⟨sameKind, sameKey⟩
    have here : (r.indexer (r.objects d).membershipOnly).get? (r.objects d).id.string =
        some c := sameKind ▸ sameKey ▸ indexed
    exact absurd (new.free.symm.trans here) (by simp)
  | reindex d listed => exact .inl (again listed)
  | unindexAddresses d allocated kind addresses deletes =>
    refine deleted deletes ?_ rfl
    rintro rfl
    exact .inl ⟨rfl, fun networked => networked kind addresses⟩
  | forget d allocated deletes networked unreferenced init idle untracked =>
    refine deleted deletes ?_ rfl
    rintro rfl
    exact .inr ⟨.inl rfl, unreferenced, untracked⟩
  | beginDelete d allocated deletes networked alive unreferenced started untracked =>
    refine deleted deletes ?_ rfl
    rintro rfl
    exact .inr ⟨.inr rfl, unreferenced, untracked⟩
  | retryAdd d allocated queued retries =>
    rw [r.indexer_retryAdd]
    exact .inl (again (listed d rfl queued retries))
  | retryAddEarly d allocated queued retries =>
    rw [r.indexer_retryAddEarly]
    exact .inl (again (listed d rfl queued retries))
  | _ => exact .inl indexed

/-- An object that the origin is not about stays indexed. -/
theorem Effect.indexed (base : Base r.toCore) (effect : Effect o r r') (indexed : r.Indexed c)
    (other : o.target ≠ some c) (listed : ∀ d, o = .retry d (some .add) → r.Queued d →
      (r.objects d).retryOp = some .add → r.Indexed d) : r'.Indexed c :=
  (effect.indexed_or base indexed listed).resolve_right fun gone => other (gone.1.target indexed)

/-- The same along a sequence of effects. -/
theorem Base.indexed_effects (base : Base r.toCore) (effects : Effects allowed r r')
    (indexed : r.Indexed c) (other : ∀ o, allowed o → o.target ≠ some c ∧ ¬ o.IsRetry) :
    r'.Indexed c :=
  (effects.invariant (fun r => Base r.toCore ∧ r.Indexed c)
    (fun o _ _ permitted effect before =>
      ⟨effect.base before.1,
        effect.indexed before.1 before.2 (other o permitted).1 fun d retry =>
          absurd ⟨d, _, retry⟩ (other o permitted).2⟩)
    ⟨base, indexed⟩).2

end Nephe
