import Nephe.Effects.Responses

/-!
# The background pass, as effects
-/

namespace Nephe

open Library

namespace Reconciler

variable {r : Reconciler}

/-- Computing the status of a policy can make its rules ready. -/
theorem getStatus_effects {key : String} {policy : NetworkPolicy}
    (found : r.networkPolicyIndexer.get? key = some policy) :
    Effects (· = .background) r
      (r.split.setPolicy key (policy.getStatus r.toCore r.order.left).1) := by
  have touched : Effects (· = .background) r (r.setPolicy key policy) :=
    .single rfl (.touchPolicy key policy found)
  have stored : Effects (· = .background) r
      (r.setPolicy key (policy.getStatus r.toCore r.order.left).1) := by
    simp only [NetworkPolicy.getStatus, NetworkPolicy.computeRulesReady]
    split
    · exact touched
    · split
      · split
        · exact touched
        next ready => exact .single rfl (.ready key policy true _ found ready)
      · exact touched
  exact .tail stored rfl (.order r.order.right)

theorem statusOfPolicies_effects (entries : List (String × String))
    (state : NPStatusMap × Reconciler) :
    Effects (· = .background) state.2 (entries.foldl statusOfPolicy state).2 := by
  induction entries generalizing state with
  | nil => exact .refl _
  | cons entry rest induction =>
    have first : Effects (· = .background) state.2 (statusOfPolicy state entry).2 := by
      simp only [statusOfPolicy]
      split
      · exact .refl _
      next policy found => exact getStatus_effects found
    exact first.trans (induction _)

theorem computeNPStatus_effects (key : String) (tracker : CloudResourceNPTracker) :
    Effects (· = .background) r (r.computeNPStatus key tracker).2 := by
  have drawn : Effects (· = .background) r r.advance.advance :=
    (advance_effects _).trans (advance_effects _)
  have computed := drawn.trans (statusOfPolicies_effects
    (arrange (r.advance.order 0) (r.policiesOfTracker tracker).bindings) (∅, r.advance.advance))
  refine (computed.trans (advance_effects _)).trans (Quiet.mark_effects ?_ _)
  exact quiet_adjustTracker key _ fun _ => ⟨rfl, rfl⟩

theorem setVMStatus_effects (status : NPStatusMap) (vm : NamespacedName) :
    Effects (· = .background) r (r.setVMStatus status vm) := by
  simp only [setVMStatus]
  split
  · exact .refl r
  · split
    · exact .refl r
    · split
      · exact .single rfl (.machines _)
      · exact .single rfl (.machines _)

theorem vmNPStatusSetter_effects (key : String) (tracker : CloudResourceNPTracker) :
    Effects (· = .background) r (r.vmNPStatusSetter key tracker).2 := by
  have computed := computeNPStatus_effects (r := r) key tracker
  simp only [vmNPStatusSetter]
  split
  · exact computed
  next vms _ =>
    exact computed.trans (Chain.foldl (fun _ _ => True)
      (fun vm _ r _ => ⟨setVMStatus_effects _ vm, trivial⟩) vms _ trivial).1

theorem processTracker_effects (key : String) :
    Effects (· = .background) r (r.processTracker key) := by
  simp only [processTracker]
  split
  · exact .refl r
  next tracker _ =>
    split
    · exact .refl r
    · have reported := vmNPStatusSetter_effects (r := r) key tracker
      split
      · exact reported
      · split
        · exact reported
        next tracker found =>
          split
          next empty =>
            exact reported.trans ((quiet_removeTracker found empty.1).mark_effects _)
          next =>
            refine reported.trans (Quiet.mark_effects ?_ _)
            exact quiet_setTracker found rfl rfl

theorem processCloudResourceNPTrackers_effects (base : Base r.toCore) :
    Effects (· = .background) r r.processCloudResourceNPTrackers :=
  base.forAny_effects rfl fun key _ _ => processTracker_effects key

end Reconciler

end Nephe
