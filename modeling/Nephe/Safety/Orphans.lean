import Nephe.Effects.Slots
import Nephe.Safety.Bookmarks

/-!
# Objects that are retried without being indexed

A creation that fails is queued for its object even if the object has been
dropped from its indexer in the meantime.  Retrying it puts the object back
into the indexer, in place of whatever has been indexed under the key since.
-/

namespace Nephe

open Library

/-- Every object whose creation waits to be retried is indexed. -/
def NoOrphans (r : Reconciler) : Prop :=
  ∀ c, r.Queued c → (r.objects c).retryOp = some .add → r.Indexed c

instance (core : Core) (c : Ref) : Decidable (core.Indexed c) :=
  inferInstanceAs (Decidable (_ = _))

/-! ## The condition -/

/-- The call in flight whose response the event receives. -/
def Event.received? (event : Event) (messages : List Message) : Option Message :=
  match event with
  | .respond position => messages[position]?
  | _ => none

theorem Event.received_eq (event : Event) {messages : List Message} {m : Message}
    (received : m ∈ event.received? messages) :
    ∃ position, event = .respond position ∧ messages[position]? = some m := by
  cases event with
  | respond position => exact ⟨position, rfl, received⟩
  | _ => cases received

/-- The response reports that the operation failed. -/
def Stage.FailedAs (op : SecurityGroupOperation) : Stage → Prop
  | .answered reported (some _) => reported = op
  | _ => False

instance (op : SecurityGroupOperation) : DecidablePred (Stage.FailedAs op)
  | .issued => isFalse id
  | .executed _ => isFalse id
  | .answered _ none => isFalse id
  | .answered reported (some _) => inferInstanceAs (Decidable (reported = op))

/-- The object of a failed creation that the step receives is deleted or indexed. -/
def FailureListed (s : System) (label : Label) (core : Core) : Prop :=
  ∀ m ∈ label.event.received? s.reconciler.inFlight, m.stage.FailedAs .add →
    (core.objects m.sg).state = .garbageCollectState ∨ core.Indexed m.sg

/-- No failed creation is received for an object that was dropped before it was created. -/
def FailsListed (s : System) (label : Label) : Prop :=
  FailureListed s label s.reconciler.toCore

instance (s : System) (label : Label) : Decidable (FailsListed s label) :=
  inferInstanceAs (Decidable (∀ m ∈ label.event.received? s.reconciler.inFlight, _))

/-! ## Effects -/

namespace NoOrphans

variable {o : Origin} {r r' : Reconciler}

/-- Without orphans an indexed object stays indexed until it is deleted. -/
theorem indexed (noOrphans : NoOrphans r) (base : Base r.toCore) (effect : Effect o r r')
    {c : Ref} (indexed : r.Indexed c) (other : o.target ≠ some c) : r'.Indexed c :=
  effect.indexed base indexed other fun d _ => noOrphans d

theorem effect (noOrphans : NoOrphans r) (base : Base r.toCore) (effect : Effect o r r')
    (listed : ∀ c message, o = .response c .add (some message) →
      (r.objects c).state = .garbageCollectState ∨ r.Indexed c) : NoOrphans r' := by
  intro c queued retries
  -- A creation that has just failed is queued for an indexed object.
  have failed {message : String} (origin : o = .response c .add (some message))
      (alive : (r.objects c).state ≠ .garbageCollectState) : r'.Indexed c := by
    refine noOrphans.indexed base effect ((listed c message origin).resolve_left alive) ?_
    simp [origin, Origin.target]
  rcases effect.queued_source base queued with waits | ⟨op, message, origin, after, current⟩
  · rcases effect.retryOp_source retries with before | ⟨message, origin, _, _, current, _⟩ | again
    · rcases effect.indexed_or base (noOrphans c waits before) fun d _ => noOrphans d with
        indexed | ⟨_, unindexes⟩
      · exact indexed
      · exact absurd queued (unindexes.unqueued base waits)
    · exact failed origin (current.resolve_right (by simp))
    · exact absurd rfl again.2.2.2.1
  · obtain rfl : op = .add := by
      rw [after, r.objects_enqueue, if_pos rfl] at retries
      exact Option.some.inj retries
    exact failed origin (current.resolve_right (by simp))

end NoOrphans

/-! ## Steps -/

/-- The step keeps the object of the failure that it receives in its indexer. -/
theorem FailureListed.effect {s : System} {label : Label} {o : Origin} {r r' : Reconciler}
    (listed : FailureListed s label r.toCore) (noOrphans : NoOrphans r)
    (before : Base s.reconciler.toCore)
    (effects : Effects (Origin.OfStep (s.reconciler.enter label).toCore label.event) s.reconciler r)
    (origin : o.OfStep (s.reconciler.enter label).toCore label.event) (base : Base r.toCore)
    (effect : Effect o r r') : FailureListed s label r'.toCore := by
  intro m received failed
  obtain ⟨position, event, found⟩ := label.event.received_eq received
  have allocated := (static_effects effects
    (before.messages m (List.mem_of_getElem? found)).allocated).1
  refine (listed m received failed).imp (effect.state_mono base allocated).2 fun indexed => ?_
  refine noOrphans.indexed base effect indexed ?_
  rw [event] at origin
  rw [Origin.target_of_respond origin]
  simp

/-- What the effects of a step keep in the absence of orphans, the step keeps. -/
theorem NoOrphans.step_along {s : System} {label : Label} (noOrphans : NoOrphans s.reconciler)
    (base : Base s.reconciler.toCore) (allowed : FailsListed s label)
    (property : Reconciler → Prop)
    (kept : ∀ (o : Origin) (r r' : Reconciler),
      Effects (Origin.OfStep (s.reconciler.enter label).toCore label.event) s.reconciler r →
      o.OfStep (s.reconciler.enter label).toCore label.event → Base r.toCore → NoOrphans r →
      Effect o r r' → property r → property r')
    (before : property s.reconciler) :
    NoOrphans (s.step label).reconciler ∧ property (s.step label).reconciler := by
  obtain ⟨⟨noOrphans, _⟩, after⟩ := System.step_along base
    (fun r => (NoOrphans r ∧ FailureListed s label r.toCore) ∧ property r)
    (fun o r r' effects origin base' effect before => by
      obtain ⟨⟨noOrphans, listed⟩, before⟩ := before
      refine ⟨⟨noOrphans.effect base' effect ?_,
        listed.effect noOrphans base effects origin base' effect⟩,
        kept o r r' effects origin base' noOrphans effect before⟩
      rintro c message rfl
      obtain ⟨position, m, event, found, rfl, answered⟩ := Origin.response_of_step origin
      refine listed m ?_ (answered ▸ rfl)
      rw [event]
      exact found) ⟨⟨noOrphans, allowed⟩, before⟩
  exact ⟨noOrphans, after⟩

theorem noOrphans_setup : NoOrphans Reconciler.setup :=
  fun _ _ retries => nomatch retries

end Nephe
