import Nephe.Controller.Responses

/-!
# Reporting the status of policies

`networkpolicy_cloudresource.go`: the background pass over the dirty trackers.
Computing the status of a policy can make its rules ready.
-/

namespace Nephe

open Library

/-- Realization status of policies, by namespace and then by policy name. -/
abbrev NPStatusMap := GoMap String (GoMap String String)

/-- `ret[namespace][name] = text`. -/
def NPStatusMap.put (ret : NPStatusMap) (ns name text : String) : NPStatusMap :=
  ret.set ns (((ret.get? ns).getD ∅).set name text)

/-- `reflect.DeepEqual` of two status maps. -/
def sameStatus (left right : GoMap String String) : Bool :=
  left.bindings.length == right.bindings.length &&
    left.bindings.all fun entry => right.get? entry.1 == some entry.2

/-- `NetworkPolicyStatusApplied`. -/
def networkPolicyStatusApplied : String := "applied"

/-- `AppliedSecurityGroupDeleteError`, formatted. -/
def appliedSecurityGroupDeleteError (id status : String) : String :=
  "Deleting/Detaching " ++ id ++ ": " ++ status

namespace Reconciler

/-! ## The status of the policies of one resource -/

/-- `npMap`: for each policy key the id of a group that it applies to. -/
def policiesOfTracker (tracker : CloudResourceNPTracker) (r : Reconciler) :
    GoMap String String :=
  (arrange (r.order 0) tracker.appliedToSGs.bindings).foldl
    (fun npMap entry =>
      (r.policiesByAppliedToGrp (r.objects entry.2).id.name).foldl
        (fun npMap np => npMap.set np.1 entry.1) npMap)
    ∅

/-- The body of the loop over `npMap`. -/
def statusOfPolicy (state : NPStatusMap × Reconciler) (entry : String × String) :
    NPStatusMap × Reconciler :=
  let (ret, r) := state
  let (key, asgName) := entry
  match r.networkPolicyIndexer.get? key with
  | none => (ret, r)
  | some np =>
    let (np, status) := np.getStatus r.toCore r.order.left
    let r := r.split.setPolicy key np
    let text :=
      match status with
      | some status => status
      | none =>
        match r.appliedToSGIndexer.get? asgName with
        | none => asgName ++ "=Internal Error "
        | some asg =>
          match (r.objects asg).getStatus with
          | some status => asgName ++ "=" ++ status.error
          | none => networkPolicyStatusApplied
    (ret.put np.namespace np.name text, r)

/-- The body of the loop over `newPrevSgs`. -/
def statusOfPrevious (r : Reconciler) (state : NPStatusMap × GoMap String Ref)
    (entry : String × Ref) : NPStatusMap × GoMap String Ref :=
  let (ret, newPrevSgs) := state
  let asg := r.objects entry.2
  match asg.status with
  | none => (ret, newPrevSgs.remove asg.id.string)
  | some status =>
    let errMsg := appliedSecurityGroupDeleteError asg.id.string status.error
    let nps := r.policiesByAppliedToGrp asg.id.name
    if nps = [] then (ret.put "" asg.id.string errMsg, newPrevSgs)
    else
      (nps.foldl (fun ret np => ret.put np.2.namespace np.2.name errMsg) ret, newPrevSgs)

/-- `computeNPStatus`. -/
def computeNPStatus (key : String) (tracker : CloudResourceNPTracker) (r : Reconciler) :
    NPStatusMap × Reconciler :=
  let npMap := r.policiesOfTracker tracker
  let r := r.advance
  let (ret, r) :=
    (arrange (r.order 0) npMap.bindings).foldl statusOfPolicy (∅, r.advance)
  let (ret, newPrevSgs) :=
    (arrange (r.order 0) tracker.prevAppliedToSGs.bindings).foldl r.statusOfPrevious
      (ret, tracker.prevAppliedToSGs)
  (ret,
    { r.advance with
      cloudResourceNPTrackerIndexer :=
        r.cloudResourceNPTrackerIndexer.adjust key fun tracker =>
          { tracker with prevAppliedToSGs := newPrevSgs } })

/-! ## Writing the status of the virtual machines -/

/-- The body of the loop of `vmNPStatusSetter`. -/
def setVMStatus (status : NPStatusMap) (vm : NamespacedName) (r : Reconciler) :
    Reconciler :=
  let own := status.get? vm.namespace
  let npStatus :=
    ((status.get? "").getD ∅).bindings.foldl
      (fun (npStatus : GoMap String String) entry => npStatus.set entry.1 entry.2)
      (own.getD ∅)
  let found := r.virtualMachinePolicyIndexer.get? vm.string
  if own.isNone && found.isNone then r
  else if own.isSome && sameStatus (found.getD ∅) npStatus then r
  else if npStatus.bindings = [] then
    { r with virtualMachinePolicyIndexer := r.virtualMachinePolicyIndexer.remove vm.string }
  else
    { r with
      virtualMachinePolicyIndexer :=
        r.virtualMachinePolicyIndexer.set vm.string npStatus }

/-- `vmNPStatusSetter`; the flag says whether it returns an error. -/
def vmNPStatusSetter (key : String) (tracker : CloudResourceNPTracker) (r : Reconciler) :
    Bool × Reconciler :=
  let (status, r) := r.computeNPStatus key tracker
  match r.env.listByCloudID tracker.cloudResource.name.name with
  | .error _ => (true, r)
  | .ok vms => (false, r.forEach vms (setVMStatus status))

/-- The body of the loop of `processCloudResourceNPTrackers`. -/
def processTracker (key : String) (r : Reconciler) : Reconciler :=
  match r.cloudResourceNPTrackerIndexer.get? key with
  | none => r
  | some tracker =>
    if !tracker.dirty then r
    else
      let (failed, r) := r.vmNPStatusSetter key tracker
      if failed then r
      else
        let trackers := r.cloudResourceNPTrackerIndexer
        match trackers.get? key with
        | none => r
        | some tracker =>
          if tracker.appliedToSGs.bindings = [] ∧ tracker.prevAppliedToSGs.bindings = []
          then { r with cloudResourceNPTrackerIndexer := trackers.remove key }
          else
            { r with
              cloudResourceNPTrackerIndexer :=
                trackers.set key { tracker with dirty := false } }

/-- `processCloudResourceNPTrackers`. -/
def processCloudResourceNPTrackers (r : Reconciler) : Reconciler :=
  r.forRange (r.cloudResourceNPTrackerIndexer.bindings.map (·.1)) processTracker

end Reconciler

end Nephe
