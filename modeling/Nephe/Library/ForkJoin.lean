import Mathlib.Algebra.BigOperators.Group.List.Basic
import Mathlib.Data.Multiset.Bind
import Mathlib.Logic.Relation
import Mathlib.Tactic.Abel

/-!
# Workers that are waited for

A function starts a goroutine for each of its tasks and gathers what they send on
a channel.  A wait group counts the workers; when its counter has come down to
zero, the channel is closed and the function returns.

All interleavings are possible.  The function returns under every schedule when
the wait group is given one unit for each task, and under none when it is given
more.
-/

namespace Nephe.Library

/-! ## Schedules -/

section Schedules

variable {σ ℓ : Type} (step : σ → ℓ → Option σ)

/-- One state leads to another under some schedule. -/
def Reaches : σ → σ → Prop :=
  Relation.ReflTransGen fun state next => ∃ label, step state label = some next

/-- Every schedule leads to the goal, and none gets stuck on the way. -/
inductive Inevitable (goal : σ → Prop) : σ → Prop
  | here {state : σ} (reached : goal state) : Inevitable goal state
  | later {state : σ} (enabled : ∃ label next, step state label = some next)
      (all : ∀ label next, step state label = some next → Inevitable goal next) :
      Inevitable goal state

/-- The state after a list of steps, if all of them can be made. -/
def follow (state : σ) (labels : List ℓ) : Option σ :=
  labels.foldlM step state

variable {step}

theorem reaches_of_follow {state final : σ} {labels : List ℓ}
    (followed : follow step state labels = some final) : Reaches step state final := by
  induction labels generalizing state with
  | nil =>
    cases followed
    exact .refl
  | cons label rest induction =>
    obtain ⟨next, taken, later⟩ := Option.bind_eq_some_iff.mp followed
    exact .head ⟨label, taken⟩ (induction later)

theorem Reaches.invariant {invariant : σ → Prop}
    (preserved : ∀ state label next, step state label = some next → invariant state →
      invariant next)
    {state final : σ} (reaches : Reaches step state final) (initially : invariant state) :
    invariant final := by
  induction reaches with
  | refl => exact initially
  | tail _ last holds =>
    obtain ⟨label, taken⟩ := last
    exact preserved _ label _ taken holds

theorem Inevitable.exists_reaches {goal : σ → Prop} {state : σ}
    (inevitable : Inevitable step goal state) : ∃ final, Reaches step state final ∧ goal final := by
  induction inevitable with
  | here reached => exact ⟨_, .refl, reached⟩
  | later enabled _ induction =>
    obtain ⟨label, next, taken⟩ := enabled
    obtain ⟨final, reaches, reached⟩ := induction label next taken
    exact ⟨final, .head ⟨label, taken⟩ reaches, reached⟩

/-- A goal is inevitable when every step costs something and only the goal is without steps. -/
theorem inevitable_of_cost {goal invariant : σ → Prop} (cost : σ → Nat)
    (preserved : ∀ state label next, step state label = some next → invariant state →
      invariant next)
    (decreases : ∀ state label next, step state label = some next → cost next < cost state)
    (progress : ∀ state, invariant state → ¬ goal state →
      ∃ label next, step state label = some next)
    {state : σ} (initially : invariant state) : Inevitable step goal state := by
  induction bound : cost state using Nat.strongRecOn generalizing state with
  | ind _ induction =>
    by_cases reached : goal state
    · exact .here reached
    · refine .later (progress state initially reached) fun label next taken => ?_
      exact induction _ (bound ▸ decreases state label next taken)
        (preserved state label next taken initially) rfl

end Schedules

/-! ## The workers and the function that waits for them -/

/-- What a task does to the state that all share, and what it sends. -/
structure Fork (τ ε σ : Type) where
  work : τ → σ → σ
  messages : τ → List ε

/-- A worker that has still to do its task, or has still to send some messages. -/
inductive Worker (τ ε : Type) where
  | started (task : τ)
  | sending (left : List ε)
deriving DecidableEq, Repr

/-- The task that a worker has still to do. -/
def Worker.task? {τ ε : Type} : Worker τ ε → Option τ
  | .started task => some task
  | .sending _ => none

/-- The messages of its task that a worker has still to send, once the task is done. -/
def Worker.left {τ ε : Type} : Worker τ ε → List ε
  | .started _ => []
  | .sending left => left

/-- The state of the function, of its workers and of the wait group. -/
structure Join (τ ε σ : Type) where
  shared : σ
  toSpawn : List τ
  workers : List (Worker τ ε)
  counter : Nat
  closed : Bool
  received : List ε
  returned : Bool

/-- The next goroutine that makes a step, and the step. -/
inductive Move where
  | spawn
  | work (index : Nat)
  | send (index : Nat)
  | done (index : Nat)
  | close
  | leave
deriving DecidableEq, Repr

namespace Join

variable {τ ε σ : Type}

/-- The errors among the messages that have been received. -/
def errors (state : Join τ (Option ε) σ) : List ε :=
  state.received.filterMap id

/-- Units have been added to the wait group, and no worker has been started. -/
def start (shared : σ) (tasks : List τ) (units : Nat) : Join τ ε σ where
  shared := shared
  toSpawn := tasks
  workers := []
  counter := units
  closed := false
  received := []
  returned := false

/--
One step of a goroutine, if it can make one.

A message passes from a worker to the function when both are ready for it, which
the function is once it has started all workers.  A worker is done when it has
sent its messages.
-/
def step (fork : Fork τ ε σ) (state : Join τ ε σ) : Move → Option (Join τ ε σ)
  | .spawn =>
    match state.toSpawn with
    | [] => none
    | task :: rest =>
      some { state with toSpawn := rest, workers := state.workers ++ [.started task] }
  | .work index =>
    match state.workers[index]? with
    | some (.started task) =>
      some { state with
        shared := fork.work task state.shared
        workers := state.workers.set index (.sending (fork.messages task)) }
    | _ => none
  | .send index =>
    match state.toSpawn, state.returned, state.workers[index]? with
    | [], false, some (.sending (message :: left)) =>
      some { state with
        workers := state.workers.set index (.sending left)
        received := state.received ++ [message] }
    | _, _, _ => none
  | .done index =>
    match state.counter, state.workers[index]? with
    | counter + 1, some (.sending []) =>
      some { state with workers := state.workers.eraseIdx index, counter }
    | _, _ => none
  | .close =>
    match state.counter, state.closed with
    | 0, false => some { state with closed := true }
    | _, _ => none
  | .leave =>
    match state.toSpawn, state.closed, state.returned with
    | [], true, false => some { state with returned := true }
    | _, _, _ => none

/-! ## What a step does -/

section

variable (fork : Fork τ ε σ)

/-- A step, with the other workers in any order. -/
inductive Advance (state : Join τ ε σ) : Join τ ε σ → Prop
  | spawn {task : τ} {rest : List τ} (next : state.toSpawn = task :: rest) :
      Advance state { state with toSpawn := rest, workers := state.workers ++ [.started task] }
  | work {task : τ} {others workers : List (Worker τ ε)}
      (before : state.workers.Perm (.started task :: others))
      (after : workers.Perm (.sending (fork.messages task) :: others)) :
      Advance state { state with shared := fork.work task state.shared, workers }
  | send {message : ε} {left : List ε} {others workers : List (Worker τ ε)}
      (spawned : state.toSpawn = []) (waiting : state.returned = false)
      (before : state.workers.Perm (.sending (message :: left) :: others))
      (after : workers.Perm (.sending left :: others)) :
      Advance state { state with workers, received := state.received ++ [message] }
  | done {counter : Nat} {others : List (Worker τ ε)} (units : state.counter = counter + 1)
      (before : state.workers.Perm (.sending [] :: others)) :
      Advance state { state with workers := others, counter }
  | close (free : state.counter = 0) (opened : state.closed = false) :
      Advance state { state with closed := true }
  | leave (spawned : state.toSpawn = []) (closed : state.closed = true)
      (waiting : state.returned = false) :
      Advance state { state with returned := true }

end

section

variable {fork : Fork τ ε σ}

theorem perm_eraseIdx {α : Type} {list : List α} {index : Nat} {element : α}
    (found : list[index]? = some element) : list.Perm (element :: list.eraseIdx index) := by
  obtain ⟨inside, rfl⟩ := List.getElem?_eq_some_iff.mp found
  exact (List.getElem_cons_eraseIdx_perm inside).symm

theorem perm_set {α : Type} {list : List α} {index : Nat} {element new : α}
    (found : list[index]? = some element) :
    (list.set index new).Perm (new :: list.eraseIdx index) :=
  List.set_perm_cons_eraseIdx (List.getElem?_eq_some_iff.mp found).1 new

theorem advance_of_step {state next : Join τ ε σ} {move : Move}
    (taken : step fork state move = some next) : Advance fork state next := by
  cases move with
  | spawn =>
    simp only [step] at taken
    split at taken
    next => cases taken
    next task rest listed =>
      cases taken
      exact .spawn listed
  | work index =>
    simp only [step] at taken
    split at taken
    next task found =>
      cases taken
      exact .work (perm_eraseIdx found) (perm_set found)
    next => cases taken
  | send index =>
    simp only [step] at taken
    split at taken
    next message left spawned waiting found =>
      cases taken
      exact .send spawned waiting (perm_eraseIdx found) (perm_set found)
    next => cases taken
  | done index =>
    simp only [step] at taken
    split at taken
    next counter units found =>
      cases taken
      exact .done units (perm_eraseIdx found)
    next => cases taken
  | close =>
    simp only [step] at taken
    split at taken
    next free opened =>
      cases taken
      exact .close free opened
    next => cases taken
  | leave =>
    simp only [step] at taken
    split at taken
    next spawned closed waiting =>
      cases taken
      exact .leave spawned closed waiting
    next => cases taken

end

/-! ## What holds all the time -/

/-- The tasks that workers have still to do. -/
def begun (workers : List (Worker τ ε)) : Multiset τ :=
  (workers.filterMap Worker.task? : List τ)

/-- The messages of tasks that are done, as far as they have still to be sent. -/
def unsent (workers : List (Worker τ ε)) : Multiset ε :=
  (workers.flatMap Worker.left : List ε)

section

variable {workers others : List (Worker τ ε)} {task : τ} {left : List ε}

theorem begun_started (perm : workers.Perm (.started task :: others)) :
    begun workers = {task} + begun others := by
  rw [begun, Multiset.coe_eq_coe.mpr (perm.filterMap Worker.task?)]
  rfl

theorem begun_sending (perm : workers.Perm (.sending left :: others)) :
    begun workers = begun others := by
  rw [begun, Multiset.coe_eq_coe.mpr (perm.filterMap Worker.task?)]
  rfl

theorem unsent_started (perm : workers.Perm (.started task :: others)) :
    unsent workers = unsent others := by
  rw [unsent, Multiset.coe_eq_coe.mpr (perm.flatMap_right Worker.left)]
  rfl

theorem unsent_sending (perm : workers.Perm (.sending left :: others)) :
    unsent workers = left + unsent others := by
  rw [unsent, Multiset.coe_eq_coe.mpr (perm.flatMap_right Worker.left)]
  rfl

end

/--
What the workers have done so far.

The tasks are done, begun or still to be spawned; what has been received and what
is still to be sent are the messages of the tasks that have been done; and the
counter is the number of tasks that are left, with the surplus of units.
-/
structure Sound (fork : Fork τ ε σ) (shared : σ) (tasks : List τ) (units : Nat)
    (state : Join τ ε σ) : Prop where
  counter : state.counter + tasks.length = units + state.toSpawn.length + state.workers.length
  closed : state.closed = true → state.counter = 0
  returned : state.returned = true → state.closed = true
  worked : ∃ order : List τ,
    state.shared = order.foldl (fun shared task => fork.work task shared) shared ∧
    (order : Multiset τ) + begun state.workers + state.toSpawn = tasks ∧
    (state.received : Multiset ε) + unsent state.workers = (order.flatMap fork.messages : List ε)

section

variable {fork : Fork τ ε σ} {shared : σ} {tasks : List τ} {units : Nat}

theorem sound_start : Sound fork shared tasks units (start shared tasks units) where
  counter := by simp [start]
  closed := by simp [start]
  returned := by simp [start]
  worked := ⟨[], rfl, by simp [start, begun], by simp [start, unsent]⟩

theorem Sound.advance {state next : Join τ ε σ} (sound : Sound fork shared tasks units state)
    (step : Advance fork state next) : Sound fork shared tasks units next := by
  obtain ⟨counter, closed, returned, order, sharedNow, tasksNow, messagesNow⟩ := sound
  cases step with
  | @spawn task rest listed =>
    have started : (state.workers ++ [Worker.started task]).Perm
        (.started task :: state.workers) := List.perm_append_singleton _ _
    refine ⟨?_, closed, returned, order, sharedNow, ?_, ?_⟩
    · simp only [listed, List.length_cons, List.length_append, List.length_nil] at counter ⊢
      omega
    · rw [listed, ← Multiset.cons_coe, ← Multiset.singleton_add] at tasksNow
      rw [begun_started started, ← tasksNow]
      abel
    · rw [unsent_started started, messagesNow]
  | @work task others workers before after =>
    refine ⟨?_, closed, returned, order ++ [task], ?_, ?_, ?_⟩
    · rw [after.length_eq]
      rw [before.length_eq] at counter
      exact counter
    · rw [sharedNow, List.foldl_append, List.foldl_cons, List.foldl_nil]
    · rw [begun_started before] at tasksNow
      rw [begun_sending after, ← tasksNow, ← Multiset.coe_add, Multiset.coe_singleton]
      abel
    · rw [unsent_started before] at messagesNow
      rw [unsent_sending after, List.flatMap_append, ← Multiset.coe_add, ← messagesNow,
        List.flatMap_singleton]
      abel
  | @send message left others workers spawned waiting before after =>
    refine ⟨?_, closed, returned, order, sharedNow, ?_, ?_⟩
    · rw [after.length_eq]
      rw [before.length_eq] at counter
      exact counter
    · rw [begun_sending after, ← begun_sending before, tasksNow]
    · rw [unsent_sending before, ← Multiset.cons_coe, ← Multiset.singleton_add] at messagesNow
      rw [unsent_sending after, ← messagesNow, ← Multiset.coe_add, Multiset.coe_singleton]
      abel
  | @done left others units' before =>
    refine ⟨?_, fun closedNow => ?_, returned, order, sharedNow, ?_, ?_⟩
    · simp only [before.length_eq, List.length_cons] at counter
      dsimp only
      omega
    · have empty := closed closedNow
      omega
    · rw [← begun_sending before, tasksNow]
    · rw [unsent_sending before, Multiset.coe_nil, zero_add] at messagesNow
      exact messagesNow
  | close free _ =>
    exact ⟨counter, fun _ => free, fun _ => rfl, order, sharedNow, tasksNow, messagesNow⟩
  | leave _ closedNow _ =>
    exact ⟨counter, closed, fun _ => closedNow, order, sharedNow, tasksNow, messagesNow⟩

theorem sound_of_reaches {state : Join τ ε σ}
    (reaches : Reaches (step fork) (start shared tasks units) state) :
    Sound fork shared tasks units state :=
  reaches.invariant (fun _ _ _ taken sound => sound.advance (advance_of_step taken)) sound_start

end

/-! ## Returning -/

/-- What is left to be done: by the tasks, and then by the function itself. -/
def cost (fork : Fork τ ε σ) (state : Join τ ε σ) : Nat :=
  (state.toSpawn.map fun task => (fork.messages task).length + 3).sum +
    (state.workers.map fun worker => match worker with
      | .started task => (fork.messages task).length + 2
      | .sending left => left.length + 1).sum +
    (if state.closed then 0 else 1) + (if state.returned then 0 else 1)

section

variable {fork : Fork τ ε σ} {shared : σ} {tasks : List τ} {units : Nat}

theorem cost_advance {state next : Join τ ε σ} (step : Advance fork state next) :
    cost fork next < cost fork state := by
  cases step with
  | spawn listed =>
    simp only [cost, listed, List.map_cons, List.sum_cons, List.map_append, List.sum_append,
      List.map_nil, List.sum_nil]
    omega
  | work before after =>
    simp only [cost, (before.map _).sum_eq, (after.map _).sum_eq, List.map_cons, List.sum_cons]
    omega
  | send spawned waiting before after =>
    simp only [cost, (before.map _).sum_eq, (after.map _).sum_eq, List.map_cons, List.sum_cons,
      List.length_cons]
    omega
  | done free before =>
    simp only [cost, (before.map _).sum_eq, List.map_cons, List.sum_cons, List.length_nil]
    omega
  | close free opened => simp [cost, opened]
  | leave spawned closed waiting => simp [cost, waiting]

/-- As long as the function has not returned, some goroutine can make a step. -/
theorem Sound.progress {state : Join τ ε σ} (sound : Sound fork shared tasks tasks.length state)
    (waiting : ¬ state.returned = true) : ∃ move next, step fork state move = some next := by
  have counter := sound.counter
  have waiting : state.returned = false := by simpa using waiting
  cases toSpawn : state.toSpawn with
  | cons task rest => exact ⟨.spawn, by simp [step, toSpawn]⟩
  | nil =>
    cases workers : state.workers with
    | cons worker others =>
      cases worker with
      | started task => exact ⟨.work 0, by simp [step, workers]⟩
      | sending left =>
        cases left with
        | cons message left => exact ⟨.send 0, by simp [step, workers, toSpawn, waiting]⟩
        | nil =>
          have positive : state.counter = others.length + 1 := by
            simp only [toSpawn, workers, List.length_nil, List.length_cons] at counter
            omega
          exact ⟨.done 0, by simp [step, workers, positive]⟩
    | nil =>
      have zero : state.counter = 0 := by
        simp only [toSpawn, workers, List.length_nil] at counter
        omega
      cases closed : state.closed with
      | false => exact ⟨.close, by simp [step, zero, closed]⟩
      | true => exact ⟨.leave, by simp [step, toSpawn, closed, waiting]⟩

/-- With one unit for each task, the function returns under every schedule. -/
theorem returns (shared : σ) (tasks : List τ) :
    Inevitable (step fork) (fun state => state.returned = true)
      (start shared tasks tasks.length) :=
  inevitable_of_cost (cost fork)
    (fun _ _ _ taken sound => Sound.advance sound (advance_of_step taken))
    (fun _ _ _ taken => cost_advance (advance_of_step taken))
    (fun _ sound waiting => Sound.progress sound waiting) sound_start

/-- With more units than tasks, the function never returns. -/
theorem never_returns (surplus : tasks.length < units) {state : Join τ ε σ}
    (reaches : Reaches (step fork) (start shared tasks units) state) : state.returned = false := by
  have sound := sound_of_reaches reaches
  by_contra returned
  have zero := sound.closed (sound.returned (by simpa using returned))
  have counter := sound.counter
  omega

/-- What the function returns with: all tasks are done, in some order, and all is received. -/
theorem of_returned (enough : tasks.length ≤ units) {state : Join τ ε σ}
    (reaches : Reaches (step fork) (start shared tasks units) state)
    (returned : state.returned = true) :
    ∃ order : List τ, order.Perm tasks ∧
      state.shared = order.foldl (fun shared task => fork.work task shared) shared ∧
      state.received.Perm (order.flatMap fork.messages) := by
  have sound := sound_of_reaches reaches
  obtain ⟨order, sharedNow, tasksNow, messagesNow⟩ := sound.worked
  have zero := sound.closed (sound.returned returned)
  have counter := sound.counter
  have spawned : state.toSpawn = [] := List.eq_nil_of_length_eq_zero (by omega)
  have finished : state.workers = [] := List.eq_nil_of_length_eq_zero (by omega)
  refine ⟨order, ?_, sharedNow, ?_⟩
  · rw [spawned, finished] at tasksNow
    exact Multiset.coe_eq_coe.mp (by simpa [begun] using tasksNow)
  · rw [finished] at messagesNow
    exact Multiset.coe_eq_coe.mp (by simpa [unsent] using messagesNow)

/-- Lists that are received are put together to what the tasks contribute, in some order. -/
theorem flatten_received_perm {fork : Fork τ (List ε) σ} {contribution : τ → List ε}
    (contributes : ∀ task, (fork.messages task).flatten = contribution task)
    {state : Join τ (List ε) σ}
    (reaches : Reaches (step fork) (start shared tasks tasks.length) state)
    (returned : state.returned = true) :
    state.received.flatten.Perm (tasks.flatMap contribution) := by
  obtain ⟨order, perm, -, received⟩ := of_returned le_rfl reaches returned
  have flat : (order.flatMap fork.messages).flatten = order.flatMap contribution := by
    rw [← List.flatMap_id, List.flatMap_assoc]
    simp only [List.flatMap_id, contributes]
  exact (received.flatten.trans (.of_eq flat)).trans (perm.flatMap_right _)

end

end Join

end Nephe.Library
