import Nephe.Effects.Observed

/-!
# How the calls in flight change

A call is added when it is issued, moves on when the plug-in executes it and
when its response is prepared, and leaves when the response is received.
-/

namespace Nephe

open Library

/-- What an effect may do to the calls in flight. -/
inductive Flight (o : Origin) (r : Reconciler) : List Message → Prop where
  | same : Flight o r r.inFlight
  | issued (m : Message) (allocated : m.sg < r.nextRef) (stage : m.stage = .issued) :
      Flight o r (r.inFlight ++ [m])
  | executed (position : Nat) (m : Message) (err : Option String) (origin : o = .execution)
      (found : r.inFlight[position]? = some m) (stage : m.stage = .issued) :
      Flight o r (r.setStage position (.executed err)).inFlight
  | answered (position : Nat) (m : Message) (err : Option String) (origin : o = .answering)
      (found : r.inFlight[position]? = some m) (stage : m.stage = .executed err) :
      Flight o r (r.setStage position (.answered (r.responseOp m) err)).inFlight
  | received (position : Nat) (m : Message) (op : SecurityGroupOperation)
      (err : Option String) (origin : o = .arrival m.sg op err)
      (found : r.inFlight[position]? = some m) (stage : m.stage = .answered op err) :
      Flight o r (r.inFlight.eraseIdx position)

theorem Effect.flight {o : Origin} {r r' : Reconciler} (effect : Effect o r r') :
    Flight o r r'.inFlight := by
  cases effect with
  | execute position m err found issued => exact .executed position m err rfl found issued
  | answer position m err found executed => exact .answered position m err rfl found executed
  | receive position m op err found answered =>
    exact .received position m op err rfl found answered
  | create c allocated => exact .issued _ allocated rfl
  | retryAdd c allocated =>
    rw [r.inFlight_retryAdd]
    exact .issued _ allocated rfl
  | retryDelete c allocated =>
    rw [r.inFlight_retryDelete]
    exact .issued _ allocated rfl
  | beginDelete c allocated =>
    rw [r.inFlight_beginDelete]
    exact .issued _ allocated rfl
  | pushMembers c members allocated => exact .issued _ allocated rfl
  | pushNoMembers c allocated => exact .issued _ allocated rfl
  | pushRules c ingress egress allocated => exact .issued _ allocated rfl
  | _ => exact .same

/-- Outside of the response goroutines, an answered call has been answered before. -/
theorem Flight.answered_before {o : Origin} {r : Reconciler} {messages : List Message}
    (flight : Flight o r messages) (other : o ≠ .answering) {m : Message}
    (member : m ∈ messages) {op : SecurityGroupOperation} {err : Option String}
    (stage : m.stage = .answered op err) : m ∈ r.inFlight := by
  cases flight with
  | same => exact member
  | issued new allocated issued =>
    rcases List.mem_append.mp member with old | here
    · exact old
    · rw [List.mem_singleton.mp here, issued] at stage
      cases stage
  | executed position old err' origin found issued =>
    rcases r.mem_setStage member with before | ⟨same, there, rfl⟩
    · exact before
    · cases stage
  | answered position old err' origin => exact absurd origin other
  | received position => exact List.mem_of_mem_eraseIdx member

end Nephe
