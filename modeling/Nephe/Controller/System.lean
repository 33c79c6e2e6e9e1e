import Nephe.Controller.Trackers
import Nephe.Library.Runs

/-!
# The reconciler, the plug-in and the cloud

The main loop of `NetworkPolicyReconciler.Start` handles one event at a time.
The calls it makes run in goroutines of the plug-in
(`securitygroup_impl.go`), which take a mutex before they touch the cloud: the
calls in flight are executed one at a time, in any order.
-/

namespace Nephe

open Library

/-! ## The cloud -/

/-- What the cloud holds for one security group. -/
structure CloudGroup where
  members : List CloudResource := []
  ingressRules : List IngressRule := []
  egressRules : List EgressRule := []

/-- The security groups of the cloud, by id and kind. -/
abbrev Cloud := CloudResourceID × Bool → Option CloudGroup

/--
What a call does when no cloud request fails: creation finds an existing
group, updates replace the whole set and need the group to exist, deletion of
an absent group succeeds.
-/
def Cloud.execute (cloud : Cloud) : CloudCall → Except String Cloud
  | .createSecurityGroup id membershipOnly =>
    match cloud (id, membershipOnly) with
    | some _ => .ok cloud
    | none => .ok (Function.update cloud (id, membershipOnly) (some {}))
  | .updateSecurityGroupMembers id members membershipOnly =>
    match cloud (id, membershipOnly) with
    | some group =>
      .ok (Function.update cloud (id, membershipOnly) (some { group with members }))
    | none => .error "failed to find cloud sg"
  | .updateSecurityGroupRules id ingressRules egressRules =>
    match cloud (id, false) with
    | some group =>
      .ok (Function.update cloud (id, false)
        (some { group with ingressRules, egressRules }))
    | none => .error "failed to find security groups"
  | .deleteSecurityGroup id membershipOnly =>
    .ok (Function.update cloud (id, membershipOnly) none)

/-! ## Events -/

/-- The three watches. -/
inductive Watch where
  | addrGroup
  | appliedToGroup
  | networkPolicy
deriving DecidableEq, Repr

/--
What can happen next.

The ticker case of the main loop runs `background`, `checkToRun` and, now and
then, `cloudSync`; here each of them is an event of its own.  Nothing calls
`LocalEvent`, so there are no local requests.
-/
inductive Event where
  | addrGroup (type : EventType) (object : GroupObject)
  | appliedToGroup (type : EventType) (object : GroupObject)
  | networkPolicy (type : EventType) (anp : AntreaNetworkPolicy)
  /-- A watch is closed; `resetWatchers` opens all three again. -/
  | watchClosed (watch : Watch)
  /-- The plug-in executes the call in flight at a position, perhaps with a fault. -/
  | execute (position : Nat) (fault : Option String)
  /-- The goroutine waiting for that call prepares the response. -/
  | answer (position : Nat)
  /-- The main loop receives the response. -/
  | respond (position : Nat)
  | background
  | checkToRun
  | cloudSync

/-- An event with the environment and the iteration orders it meets. -/
structure Label where
  event : Event
  env : Env := .empty
  order : Supply := fun _ => 0

/-- The reconciler and the cloud. -/
structure System where
  reconciler : Reconciler
  cloud : Cloud

/-- The controller has just started; the cloud may hold anything. -/
def System.initial (cloud : Cloud) : System :=
  ⟨.setup, cloud⟩

namespace Reconciler

/-- Change the stage of a call in flight. -/
def setStage (position : Nat) (stage : Stage) (r : Reconciler) : Reconciler :=
  { r with inFlight := r.inFlight.modify position fun m => { m with stage } }

/-- The operation a response is reported under. -/
def responseOp (m : Message) (r : Reconciler) : SecurityGroupOperation :=
  match m.op with
  | some op => op
  | none =>
    if (r.objects m.sg).members.length = 0 then .clearMembers else .updateMembers

/-- The response goroutine of `addImpl`, `deleteImpl`, `updateImpl` or `updateRules`. -/
def answer (position : Nat) (r : Reconciler) : Reconciler :=
  match r.inFlight[position]? with
  | some m =>
    match m.stage with
    | .executed err => r.setStage position (.answered (r.responseOp m) err)
    | _ => r
  | none => r

/-- The main loop receives from `cloudResponse`. -/
def respond (position : Nat) (r : Reconciler) : Reconciler :=
  match r.inFlight[position]? with
  | some m =>
    match m.stage with
    | .answered op err =>
      { r with inFlight := r.inFlight.eraseIdx position }.processCloudResponse m.sg op err
    | _ => r
  | none => r

/-- One case of the `select` of the main loop, or of a response goroutine. -/
def handle (event : Event) (r : Reconciler) : Reconciler :=
  match event with
  | .addrGroup type object => if type = .error then r else r.processAddrGrp type object
  | .appliedToGroup type object =>
    if type = .error then r else r.processAppliedToGrp type object
  | .networkPolicy type anp => if type = .error then r else r.processNetworkPolicy type anp
  | .watchClosed _ => r
  | .execute _ _ => r
  | .answer position => r.answer position
  | .respond position => r.respond position
  | .background => r.processCloudResourceNPTrackers
  | .checkToRun => r.retryQueueCheckToRun
  | .cloudSync => r.syncWithCloud

/-- The environment and the iteration orders of the next event. -/
def enter (label : Label) (r : Reconciler) : Reconciler :=
  { r with env := label.env, order := label.order }

end Reconciler

namespace System

/-- The plug-in executes a call. -/
def execute (position : Nat) (fault : Option String) (s : System) : System :=
  match s.reconciler.inFlight[position]? with
  | some m =>
    if m.stage = .issued then
      match fault with
      | some err => { s with reconciler := s.reconciler.setStage position (.executed (some err)) }
      | none =>
        match s.cloud.execute m.call with
        | .ok cloud => ⟨s.reconciler.setStage position (.executed none), cloud⟩
        | .error err =>
          { s with reconciler := s.reconciler.setStage position (.executed (some err)) }
    else s
  | none => s

/-- One step of the system; after a panic there are no more steps. -/
def step (s : System) (label : Label) : System :=
  if s.reconciler.panicked then s
  else
    let s := { s with reconciler := s.reconciler.enter label }
    match label.event with
    | .execute position fault => s.execute position fault
    | event => { s with reconciler := s.reconciler.handle event }

end System

end Nephe
