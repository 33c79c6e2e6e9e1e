import Nephe.Effects.Trackers

/-!
# Steps and runs, as effects

Every step of the system is a sequence of effects whose origins fit the event,
and the base invariants hold in every state that a run reaches.
-/

namespace Nephe

open Library

/-! ## The origins of a step -/

/-- The name of the group that an event is about. -/
def GroupObject.name : GroupObject → String
  | .complete name _ => name
  | .patch name _ _ => name

/-- The members that a Modified event removes. -/
def GroupObject.removed : GroupObject → List GroupMember
  | .complete _ _ => []
  | .patch _ _ removed => removed

/-- The event is a cloud sync, or a bookmark that may start the first one. -/
def Event.Syncs : Event → Prop
  | .addrGroup type _ => type = .bookmark
  | .appliedToGroup type _ => type = .bookmark
  | .networkPolicy type _ => type = .bookmark
  | .cloudSync => True
  | _ => False

/-- The origins of a tick of the retry queue. -/
def Origin.IsTick (o : Origin) : Prop :=
  (∃ key, o = .pending key) ∨ (∃ c op, o = .retry c op) ∨ (∃ c, o = .expired c) ∨
    ∃ name membershipOnly, o = .event name membershipOnly

/-- The origins of a response. -/
def Origin.IsResponse (c : Ref) (op : SecurityGroupOperation) (err : Option String)
    (o : Origin) : Prop :=
  o = .arrival c op err ∨ o = .response c op err ∨ (o = .release c ∧ op = .delete) ∨ o.IsTick

/-- The origins of an event of the main loop, or of a goroutine. -/
def Origin.OfEvent (core : Core) (event : Event) (o : Origin) : Prop :=
  match event with
  | .addrGroup type object =>
    (type = .bookmark ∧ o.IsBookmark) ∨
      o.OfGroup core.env object.name true type object.removed
  | .appliedToGroup type object =>
    (type = .bookmark ∧ o.IsBookmark) ∨
      o.OfGroup core.env object.name false type object.removed
  | .networkPolicy type _ => (type = .bookmark ∧ o.IsBookmark) ∨ o.IsPolicy
  | .watchClosed _ => False
  | .execute _ _ => o = .execution
  | .answer _ => o = .answering
  | .respond position =>
    ∃ m op err, core.inFlight[position]? = some m ∧ m.stage = .answered op err ∧
      o.IsResponse m.sg op err
  | .background => o = .background
  | .checkToRun => o.IsTick
  | .cloudSync => o.IsSync

/-- The origins of a step, which begins with a new environment. -/
def Origin.OfStep (core : Core) (event : Event) (o : Origin) : Prop :=
  o = .start ∨ o.OfEvent core event

namespace Origin

variable {core : Core} {event : Event}

-- Origins of different kinds are told apart by their constructors.
attribute [local simp] OfEvent IsBookmark IsSync OfGroup IsGroup IsPolicy IsResponse IsTick

/-- The environment of an event is fixed when it begins. -/
theorem not_start : ¬ OfEvent core event .start := by
  cases event <;> simp

variable {c : Ref} {op : SecurityGroupOperation} {err : Option String} {o : Origin}

theorem response_of_event (origin : OfEvent core event (.response c op err)) :
    ∃ position m, event = .respond position ∧ core.inFlight[position]? = some m ∧ m.sg = c ∧
      m.stage = .answered op err := by
  cases event with
  | respond position =>
    obtain ⟨m, op', err', found, answered, isResponse⟩ := origin
    obtain ⟨rfl, rfl, rfl⟩ : c = m.sg ∧ op = op' ∧ err = err' := by simpa using isResponse
    exact ⟨position, m, rfl, found, rfl, answered⟩
  | _ => simp at origin

theorem response_of_step (origin : OfStep core event (.response c op err)) :
    ∃ position m, event = .respond position ∧ core.inFlight[position]? = some m ∧ m.sg = c ∧
      m.stage = .answered op err :=
  response_of_event (origin.resolve_left (by simp))

/-- A response is not about an indexed object that it may delete. -/
theorem target_of_respond {position : Nat} (origin : OfStep core (.respond position) o) :
    o.target = none := by
  rcases origin with rfl | ⟨m, op, err, _, _, isResponse⟩
  · rfl
  · rcases isResponse with
      rfl | rfl | ⟨rfl, _⟩ | ⟨_, rfl⟩ | ⟨_, _, rfl⟩ | ⟨_, rfl⟩ | ⟨_, _, rfl⟩ <;> rfl

/-- Only a response goroutine prepares a response. -/
theorem answering_of_step (origin : OfStep core event .answering) :
    ∃ position, event = .answer position := by
  have origin := origin.resolve_left (by simp)
  cases event with
  | answer position => exact ⟨position, rfl⟩
  | _ => simp at origin

theorem policy_of_step {target : Option Ref} (origin : OfStep core event (.policy target)) :
    ∃ type anp, event = .networkPolicy type anp := by
  have origin := origin.resolve_left (by simp)
  cases event with
  | networkPolicy type anp => exact ⟨type, anp, rfl⟩
  | _ => simp at origin

theorem sync_of_event (origin : o.OfEvent core event) (isSync : o.IsSync) : event.Syncs := by
  rcases isSync with rfl | ⟨c, rfl⟩ <;> cases event <;> simp at origin <;> exact origin

end Origin

namespace Reconciler

variable {r : Reconciler}

theorem Runs.isTick {pass : Pass} {core : Core} {key : String} {o : Origin}
    (runs : Runs pass core key o) : o.IsTick := by
  cases runs with
  | pending => exact .inl ⟨_, rfl⟩
  | settled | retry => exact .inr (.inl ⟨_, _, rfl⟩)
  | expired => exact .inr (.inr (.inl ⟨_, rfl⟩))
  | event => exact .inr (.inr (.inr ⟨_, _, rfl⟩))

/-! ## The events -/

theorem processGrpEvent_effects (base : Base r.toCore) (type : EventType)
    (object : GroupObject) (isAddrGrp : Bool) :
    Effects (fun o => (type = .bookmark ∧ o.IsBookmark) ∨
        o.OfGroup r.env object.name isAddrGrp type object.removed) r
      (r.processGrpEvent type object isAddrGrp) := by
  cases object with
  | complete name members =>
    simp only [processGrpEvent]
    split
    · exact .refl r
    · split
      next bookmark =>
        exact (processBookMark_effects base).mono fun _ counted => .inl ⟨bookmark, counted⟩
      next =>
        exact (processMemberGrp_effects base name isAddrGrp type _ []).mono fun _ => .inr
  | patch name added removed =>
    simp only [processGrpEvent]
    split
    · exact (processMemberGrp_effects base name isAddrGrp type added removed).mono fun _ => .inr
    · exact .refl r

theorem processNetworkPolicy_effects (base : Base r.toCore) (type : EventType)
    (anp : AntreaNetworkPolicy) :
    Effects (fun o => (type = .bookmark ∧ o.IsBookmark) ∨ o.IsPolicy) r
      (r.processNetworkPolicy type anp) := by
  simp only [processNetworkPolicy]
  split
  next bookmark =>
    exact (processBookMark_effects base).mono fun _ counted => .inl ⟨bookmark, counted⟩
  next => exact (processPolicyEvent_effects base type anp).mono fun _ => .inr

theorem retryQueueCheckToRun_effects (base : Base r.toCore) :
    Effects Origin.IsTick r r.retryQueueCheckToRun := by
  have drawn : Effects Origin.IsTick r r.advance :=
    (advance_effects (.pending "")).only (.inl ⟨"", rfl⟩)
  exact drawn.trans (Chain.foldl (fun _ r => Base r.toCore)
    (fun key _ r base =>
      ⟨(checkToRunItem_effects base key).mono fun _ => Runs.isTick,
        base.effects (checkToRunItem_effects base key)⟩) _ _ (base.effects drawn)).1

theorem finishResponse_effects (base : Base r.toCore) (c : Ref) (op : SecurityGroupOperation)
    (err : Option String) :
    Effects (Origin.IsResponse c op err) r (r.finishResponse c op err) := by
  have checked : Effects (Origin.IsResponse c op err) r
      (if err.isNone then r.retryQueueCheckRun (r.objects c).uName else r) := by
    split
    · exact (retryQueueCheckRun_effects base _).mono fun _ runs => .inr (.inr (.inr runs.isTick))
    · exact .refl r
  simp only [finishResponse]
  split
  next deleted =>
    subst deleted
    refine checked.trans ((releaseDelete_effects (base.effects checked)).mono ?_)
    rintro o (released | event)
    · exact .inr (.inr (.inl ⟨released, rfl⟩))
    · exact .inr (.inr (.inr (.inr (.inr (.inr ⟨_, _, event⟩)))))
  next => exact checked

variable {m : Message} {err : Option String} {position : Nat} {op : SecurityGroupOperation}

/-- A delete is answered for an object that is garbage. -/
theorem garbage_of_answered (base : Base r.toCore) (member : m ∈ r.inFlight)
    (answered : m.stage = .answered .delete err) :
    (r.objects m.sg).state = .garbageCollectState := by
  have known := base.messages m member
  exact (known.delete_of_op (known.op_of_answered answered (by simp) (by simp))).2

/-- The main loop takes a response out of the channel. -/
def receive (position : Nat) (r : Reconciler) : Reconciler :=
  { r with inFlight := r.inFlight.eraseIdx position }

theorem receive_effects (found : r.inFlight[position]? = some m)
    (answered : m.stage = .answered op err) :
    Effects (· = .arrival m.sg op err) r (r.receive position) :=
  .single rfl (.receive position m op err found answered)

/-- What a response finds, in the terms that the rest of the response needs. -/
theorem respond_eq (base : Base r.toCore) (found : r.inFlight[position]? = some m)
    (answered : m.stage = .answered op err) :
    r.respond position =
        ((r.receive position).receiveResponse m.sg op err).finishResponse m.sg op err ∧
      m.sg < r.nextRef ∧ (r.objects m.sg).Networked ∧
      (op = .delete → (r.objects m.sg).state = .garbageCollectState) := by
  have member := List.mem_of_getElem? found
  have allocated := (base.messages m member).allocated
  have networked := (base.messages m member).networked
  have deleting : op = .delete → (r.objects m.sg).state = .garbageCollectState := by
    rintro rfl
    exact garbage_of_answered base member answered
  refine ⟨?_, allocated, networked, deleting⟩
  simp only [respond, found, answered]
  exact processCloudResponse_eq (base.effects (receive_effects found answered)) allocated
    networked deleting

theorem respond_effects (base : Base r.toCore) (position : Nat) :
    Effects (Origin.OfEvent r.toCore (.respond position)) r (r.respond position) := by
  cases found : r.inFlight[position]? with
  | none =>
    simp only [respond, found]
    exact .refl r
  | some m =>
    cases answered : m.stage with
    | answered op err =>
      obtain ⟨same, allocated, networked, deleting⟩ := respond_eq base found answered
      have received := receive_effects found answered
      have base' := base.effects received
      have handled : Effects (Origin.IsResponse m.sg op err) r _ :=
        (received.only (.inl rfl)).trans
          ((receiveResponse_effects base' allocated networked deleting).only (.inr (.inl rfl)))
      rw [same]
      refine (handled.trans
        (finishResponse_effects (base.effects handled) m.sg op err)).mono ?_
      exact fun o isResponse => ⟨m, op, err, found, answered, isResponse⟩
    | issued | executed =>
      simp only [respond, found, answered]
      exact .refl r

theorem answer_effects (position : Nat) :
    Effects (· = .answering) r (r.answer position) := by
  simp only [answer]
  split
  next m found =>
    split
    next err executed => exact .single rfl (.answer position m err found executed)
    next => exact .refl r
  next => exact .refl r

/-- One event of the main loop, or of a response goroutine. -/
theorem handle_effects (base : Base r.toCore) (event : Event) :
    Effects (Origin.OfEvent r.toCore event) r (r.handle event) := by
  cases event with
  | addrGroup type object =>
    simp only [handle]
    split
    · exact .refl r
    · exact processGrpEvent_effects base type object true
  | appliedToGroup type object =>
    simp only [handle]
    split
    · exact .refl r
    · exact processGrpEvent_effects base type object false
  | networkPolicy type anp =>
    simp only [handle]
    split
    · exact .refl r
    · exact processNetworkPolicy_effects base type anp
  | watchClosed watch => exact .refl r
  | execute position fault => exact .refl r
  | answer position => exact answer_effects position
  | respond position => exact respond_effects base position
  | background => exact processCloudResourceNPTrackers_effects base
  | checkToRun => exact retryQueueCheckToRun_effects base
  | cloudSync => exact syncWithCloud_effects base

end Reconciler

/-! ## Steps -/

namespace System

theorem execute_effects (s : System) (position : Nat) (fault : Option String) :
    Effects (· = .execution) s.reconciler (s.execute position fault).reconciler := by
  simp only [execute]
  split
  next m found =>
    split
    next issued =>
      split
      · exact .single rfl (.execute position m _ found issued)
      · split
        · exact .single rfl (.execute position m _ found issued)
        · exact .single rfl (.execute position m _ found issued)
    next => exact .refl _
  next => exact .refl _

/-- A step begins with a new environment and then handles its event. -/
theorem step_effects (s : System) (label : Label) (base : Base s.reconciler.toCore)
    (running : s.reconciler.panicked = false) :
    Effects (· = .start) s.reconciler (s.reconciler.enter label) ∧
      Effects (Origin.OfEvent (s.reconciler.enter label).toCore label.event)
        (s.reconciler.enter label) (s.step label).reconciler := by
  have entered : Effects (· = .start) s.reconciler (s.reconciler.enter label) :=
    .single rfl (.enter label.env label.order)
  refine ⟨entered, ?_⟩
  simp only [step, running, Bool.false_eq_true, if_false]
  have handled := Reconciler.handle_effects (base.effects entered) label.event
  cases there : label.event with
  | execute position fault =>
    exact execute_effects ⟨s.reconciler.enter label, s.cloud⟩ position fault
  | _ =>
    rw [there] at handled
    exact handled

theorem step_panicked (s : System) (label : Label)
    (panicked : s.reconciler.panicked = true) : s.step label = s := by
  simp only [step, panicked, if_true]

end System

/-! ## Runs -/

/-- Nothing is known in the state after `SetupWithManager`. -/
theorem base_setup : Base Reconciler.setup.toCore where
  index membershipOnly key c found := by
    cases membershipOnly <;> simp [Core.indexer, Reconciler.setup] at found
  queue key counting found := by
    simp [Reconciler.setup, PendingItemQueue.new] at found
  queueBudget := rfl
  entries key counting found := by
    simp [Reconciler.setup, PendingItemQueue.new] at found
  entriesBudget := rfl
  messages m member := by simp [Reconciler.setup] at member
  tracked c tracked := by
    obtain ⟨rsc, tracker, id, found, _⟩ := tracked
    simp [Reconciler.setup] at found
  unallocated c _ := rfl
  alive c _ := by rintro ⟨⟩
  networked c _ sent := absurd rfl sent
  superseded c allocated := absurd allocated (Nat.not_lt_zero c)
  deleting c allocated := absurd allocated (Nat.not_lt_zero c)

theorem System.base_step (s : System) (label : Label) (base : Base s.reconciler.toCore) :
    Base (s.step label).reconciler.toCore := by
  cases running : s.reconciler.panicked with
  | true =>
    rw [s.step_panicked label running]
    exact base
  | false =>
    obtain ⟨entered, handled⟩ := s.step_effects label base running
    exact (base.effects entered).effects handled

theorem System.base_run {s : System} (base : Base s.reconciler.toCore) (labels : List Label) :
    Base (run System.step s labels).reconciler.toCore :=
  run_invariant (fun s => Base s.reconciler.toCore) (fun s label _ => s.base_step label)
    (allowed_of_forall (fun _ _ => trivial) s labels) base

/-- An invariant of the allowed effects is an invariant of the allowed runs. -/
theorem run_effects (allowed : System → Label → Prop) (property : Reconciler → Prop)
    (kept : ∀ (s : System) (label : Label), allowed s label → Base s.reconciler.toCore →
      property s.reconciler → property (s.step label).reconciler)
    {s : System} {labels : List Label} (runAllowed : Allowed System.step allowed s labels)
    (base : Base s.reconciler.toCore) (initially : property s.reconciler) :
    Base (run System.step s labels).reconciler.toCore ∧
      property (run System.step s labels).reconciler :=
  run_invariant (fun s => Base s.reconciler.toCore ∧ property s.reconciler)
    (fun s label permitted before =>
      ⟨s.base_step label before.1, kept s label permitted before.1 before.2⟩)
    runAllowed ⟨base, initially⟩

/--
What every effect of a step keeps, the step keeps.  The effect may be seen
together with the part of the step that comes before it.
-/
theorem System.step_along {s : System} {label : Label} (base : Base s.reconciler.toCore)
    (property : Reconciler → Prop)
    (kept : ∀ (o : Origin) (r r' : Reconciler),
      Effects (Origin.OfStep (s.reconciler.enter label).toCore label.event) s.reconciler r →
      o.OfStep (s.reconciler.enter label).toCore label.event → Base r.toCore → Effect o r r' →
      property r → property r')
    (before : property s.reconciler) : property (s.step label).reconciler := by
  cases running : s.reconciler.panicked with
  | true =>
    rw [s.step_panicked label running]
    exact before
  | false =>
    obtain ⟨entered, handled⟩ := s.step_effects label base running
    have begun : Effects (Origin.OfStep (s.reconciler.enter label).toCore label.event) s.reconciler
        (s.reconciler.enter label) := entered.only (.inl rfl)
    exact (begun.trans (handled.mono fun _ => .inr)).along property
      (fun o r r' effects permitted effect => kept o r r' effects permitted
        (base.effects effects) effect) before

/-- What every effect keeps, every step keeps. -/
theorem System.step_invariant (property : Reconciler → Prop)
    (kept : ∀ (o : Origin) (r r' : Reconciler), Base r.toCore → Effect o r r' →
      property r → property r')
    (s : System) (label : Label) (base : Base s.reconciler.toCore)
    (before : property s.reconciler) : property (s.step label).reconciler :=
  System.step_along base property (fun o r r' _ _ => kept o r r') before

/-- What every effect keeps holds in every run. -/
theorem run_unconditional (property : Reconciler → Prop)
    (kept : ∀ (o : Origin) (r r' : Reconciler), Base r.toCore → Effect o r r' →
      property r → property r')
    (initially : property Reconciler.setup) (cloud : Cloud) (labels : List Label) :
    Base (run System.step (System.initial cloud) labels).reconciler.toCore ∧
      property (run System.step (System.initial cloud) labels).reconciler :=
  run_effects (fun _ _ => True) property
    (fun s label _ base before => s.step_invariant property kept label base before)
    (allowed_of_forall (fun _ _ => trivial) _ labels) base_setup initially

end Nephe
