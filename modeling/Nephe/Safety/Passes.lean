import Nephe.Safety.Names

/-!
# Steps in parts

A tick of the retry queue is a sequence of passes, one for each name in the
queue, and a response is received, handled, used to check the queue and, for a
delete, used to release the entry of the group.  What holds at the end of a
step is found by following it through these parts.
-/

namespace Nephe

open Library Reconciler

/-- What `CheckToRun` does with the item under a name. -/
abbrev Reconciler.checkToRunItem (key : String) (r : Reconciler) : Reconciler :=
  retryQueueAt.checkToRunItem PendingItem.runOrDeletePendingItem PendingItem.runPendingItem key r

namespace Named

variable {r : Reconciler}

/-- A tick visits every name at most once. -/
theorem tick (named : Named r.toCore) (ready : List String → Reconciler → Prop)
    (pass : ∀ key rest r, key ∉ rest → Named r.toCore → ready (key :: rest) r →
      ready rest (r.checkToRunItem key))
    (initially : ∀ keys, ready keys r.advance) :
    Named r.retryQueueCheckToRun.toCore ∧ ready [] r.retryQueueCheckToRun := by
  have distinct : (arrange (r.order 0) (r.retryQueue.items.bindings.map (·.1))).Nodup :=
    (arrange_perm _ _).nodup_iff.mpr r.retryQueue.items.nodup_bindings
  have drawn : Effects (· = .pending "") r r.advance := advance_effects _
  obtain ⟨(_ : Effects (fun _ => True) _ _), _, after⟩ := Chain.foldl
    (fun keys r => keys.Nodup ∧ Named r.toCore ∧ ready keys r)
    (fun key rest r before => by
      obtain ⟨distinct, named, before⟩ := before
      obtain ⟨fresh, distinct⟩ := List.nodup_cons.mp distinct
      have effects := checkToRunItem_effects named.base key
      exact ⟨effects.mono fun _ _ => trivial, distinct,
        named.effects effects fun _ => named.names.runs, pass key rest r fresh named before⟩)
    _ r.advance ⟨distinct, ⟨named.base.effects drawn, named.names.objects, named.names.events,
      named.names.contents⟩, initially _⟩
  exact after

section

variable {position : Nat} {m : Message} {op : SecurityGroupOperation} {err : Option String}

/-- A response is received, handled, used to check the queue and to release an entry. -/
theorem respond (named : Named r.toCore) (found : r.inFlight[position]? = some m)
    (answered : m.stage = .answered op err) (handling property : Reconciler → Prop)
    (arrive : handling (r.receive position))
    (handle : ∀ r₁ r₂, Named r₁.toCore → Effect (.response m.sg op err) r₁ r₂ →
      handling r₁ → handling r₂)
    (check : ∀ r₂, err = none → Named ((r.receive position).receiveResponse m.sg op none).toCore →
      Effects (Runs .update ((r.receive position).receiveResponse m.sg op none).toCore
        (r.objects m.sg).uName) ((r.receive position).receiveResponse m.sg op none) r₂ →
      handling ((r.receive position).receiveResponse m.sg op none) → handling r₂)
    (finish : ∀ r₁, Effects (Origin.IsResponse m.sg op err) r r₁ → Named r₁.toCore → handling r₁ →
      (op ≠ .delete → property r₁) ∧ (op = .delete → property (r₁.releaseDelete m.sg))) :
    Named (r.respond position).toCore ∧ property (r.respond position) := by
  obtain ⟨same, allocated, networked, deleting⟩ := respond_eq named.base found answered
  have received := receive_effects found answered
  have named₁ : Named (r.receive position).toCore := named.effects received (by
    rintro o rfl
    exact ⟨trivial, by simp⟩)
  have handled : Effects (· = .response m.sg op err) _ _ :=
    receiveResponse_effects named₁.base allocated networked deleting
  obtain ⟨named₂, handling₂⟩ := handled.invariant (fun r => Named r.toCore ∧ handling r)
    (fun o r₁ r₂ permitted effect before => by
      cases permitted
      exact ⟨before.1.effect (o := .response m.sg op err) trivial (by simp) effect,
        handle r₁ r₂ before.1 effect before.2⟩)
    ⟨named₁, arrive⟩
  have effects₂ : Effects (Origin.IsResponse m.sg op err) r _ :=
    (received.only (.inl rfl)).trans (handled.only (.inr (.inl rfl)))
  have sameName := (uName_effects effects₂ allocated).1
  -- The state after the check of the queue.
  have checked : ∃ r₃, Effects (Origin.IsResponse m.sg op err) r r₃ ∧ Named r₃.toCore ∧
      handling r₃ ∧ r.respond position =
        if op = .delete then r₃.releaseDelete m.sg else r₃ := by
    rw [same, finishResponse]
    cases err with
    | some message => exact ⟨_, effects₂, named₂, handling₂, rfl⟩
    | none =>
      have effects := retryQueueCheckRun_effects named₂.base (r.objects m.sg).uName
      refine ⟨_, effects₂.trans (effects.mono fun _ runs => .inr (.inr (.inr runs.isTick))),
        named₂.effects effects fun _ => named₂.names.runs,
        check _ rfl named₂ effects handling₂, ?_⟩
      rw [sameName]
      rfl
  obtain ⟨r₃, effects₃, named₃, handling₃, end_⟩ := checked
  obtain ⟨others, deletes⟩ := finish r₃ effects₃ named₃ handling₃
  rw [end_]
  split
  next isDelete =>
    refine ⟨named₃.effects (releaseDelete_effects named₃.base) fun _ =>
      named₃.names.releases (static_effects effects₃ allocated).1, deletes isDelete⟩
  next other => exact ⟨named₃, others other⟩

end

end Named

/-! ## Steps -/

theorem Named.enter {r : Reconciler} (named : Named r.toCore) {label : Label}
    (plain : label.Plain) : Named (r.enter label).toCore :=
  ⟨Effect.base named.base (.enter label.env label.order),
    named.names.objects, named.names.events, plain.2⟩

theorem Named.step {s : System} {label : Label} (named : Named s.reconciler.toCore)
    (plain : label.Plain) (property : Reconciler → Prop)
    (entered : property (s.reconciler.enter label))
    (direct : label.event.Direct → ∀ (o : Origin) (r r' : Reconciler),
      o.OfEvent (s.reconciler.enter label).toCore label.event → o.Plain → Named r.toCore →
      Effect o r r' → property r → property r')
    (tick : label.event = .checkToRun → Named (s.reconciler.enter label).toCore →
      Named (s.reconciler.enter label).retryQueueCheckToRun.toCore ∧
        property (s.reconciler.enter label).retryQueueCheckToRun)
    (respond : ∀ position m op err, label.event = .respond position →
      Named (s.reconciler.enter label).toCore →
      s.reconciler.inFlight[position]? = some m → m.stage = .answered op err →
      Named ((s.reconciler.enter label).respond position).toCore ∧
        property ((s.reconciler.enter label).respond position))
    (before : property s.reconciler) :
    Named (s.step label).reconciler.toCore ∧ property (s.step label).reconciler := by
  cases running : s.reconciler.panicked with
  | true =>
    rw [s.step_panicked label running]
    exact ⟨named, before⟩
  | false =>
    have named' := named.enter plain
    by_cases isDirect : label.event.Direct
    · obtain ⟨_, handled⟩ := s.step_effects label named.base running
      exact handled.invariant (fun r => Named r.toCore ∧ property r)
        (fun o r r' origin effect before =>
          have plain := isDirect.plain plain.1 origin
          ⟨before.1.effect plain (fun start => Origin.not_start (start ▸ origin)) effect,
            direct isDirect o r r' origin plain before.1 effect before.2⟩)
        ⟨named', entered⟩
    · simp only [System.step, running, Bool.false_eq_true, if_false]
      cases event : label.event with
      | checkToRun => exact tick event named'
      | respond position =>
        simp only [handle]
        have nothing (same : (s.reconciler.enter label).respond position =
            s.reconciler.enter label) :
            Named ((s.reconciler.enter label).respond position).toCore ∧
              property ((s.reconciler.enter label).respond position) := by
          rw [same]
          exact ⟨named', entered⟩
        cases found : s.reconciler.inFlight[position]? with
        | none => exact nothing (by simp [Reconciler.respond, Reconciler.enter, found])
        | some m =>
          cases answered : m.stage with
          | answered op err => exact respond position m op err event named' found answered
          | issued | executed =>
            exact nothing
              (by simp [Reconciler.respond, Reconciler.enter, found, answered])
      | _ =>
        rw [event] at isDirect
        exact absurd trivial isDirect

end Nephe
