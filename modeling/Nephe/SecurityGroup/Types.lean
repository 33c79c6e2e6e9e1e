import Nephe.Library.GoMap
import Mathlib.Data.BitVec

/-!
# Cloud security groups and the objects the controller watches

The vocabulary shared by the controller and the cloud plug-in
(`pkg/cloud-provider/securitygroup/securitygroup.go`), and the parts of the
Antrea control-plane objects that the controller reads.

An optional pointer of the source is an `Option`.  A nil slice and an empty
slice are both the empty list, except for `Services`, whose nil-ness the
controller tests.
-/

namespace Nephe

/-! ## Cloud resources -/

/-- `CloudResourceID`: names a security group or a cloud resource in a VPC. -/
structure CloudResourceID where
  name : String
  vpc : String
deriving DecidableEq, Repr, Inhabited

/-- `CloudResourceID.String`. -/
def CloudResourceID.string (id : CloudResourceID) : String :=
  id.name ++ "/" ++ id.vpc

/-- `CloudResourceType`: the two Go type names it is built from. -/
inductive CloudResourceType where
  | virtualMachine
  | networkInterface
deriving DecidableEq, Repr

def CloudResourceType.string : CloudResourceType → String
  | .virtualMachine => "VirtualMachine"
  | .networkInterface => "NetworkInterface"

/-- `CloudResource`. -/
structure CloudResource where
  type : CloudResourceType
  name : CloudResourceID
deriving DecidableEq, Repr

/-- `CloudResource.String`. -/
def CloudResource.string (resource : CloudResource) : String :=
  resource.type.string ++ "/" ++ resource.name.string

/-- An IPv4 `net.IPNet`; host bits may be set. -/
structure IPNet where
  ip : BitVec 32
  ones : Fin 33
deriving DecidableEq, Repr

/-- The length of a mask can be written as a number. -/
instance IPNet.neZero : NeZero 33 :=
  ⟨by decide⟩

/-- `IPNet.Contains`: the address agrees with the block on its mask. -/
def IPNet.contains (block : IPNet) (ip : BitVec 32) : Bool :=
  block.ip >>> (32 - block.ones.val) == ip >>> (32 - block.ones.val)

/--
One rule of a cloud security group.

`IngressRule` and `EgressRule` have the same four fields: the port, the peer
address blocks, the peer security groups and the protocol.
-/
structure Rule where
  port : Option Int
  ips : List IPNet
  securityGroups : List CloudResourceID
  protocol : Option Nat
deriving DecidableEq, Repr

abbrev IngressRule := Rule
abbrev EgressRule := Rule

/-- `SynchronizationContent`: what the cloud reports about one group. -/
structure SynchronizationContent where
  resource : CloudResourceID
  membershipOnly : Bool
  members : List CloudResource
  membersWithOtherSGAttached : List CloudResource
  ingressRules : List IngressRule
  egressRules : List EgressRule
deriving DecidableEq, Repr

/-- The calls of `CloudSecurityGroupAPI` that are answered on a channel. -/
inductive CloudCall where
  | createSecurityGroup (id : CloudResourceID) (membershipOnly : Bool)
  | updateSecurityGroupMembers
      (id : CloudResourceID) (members : List CloudResource)
      (membershipOnly : Bool)
  | updateSecurityGroupRules
      (id : CloudResourceID) (ingress : List IngressRule)
      (egress : List EgressRule)
  | deleteSecurityGroup (id : CloudResourceID) (membershipOnly : Bool)
deriving DecidableEq, Repr

/-! ## Kubernetes and Antrea objects -/

/-- `types.NamespacedName`. -/
structure NamespacedName where
  «namespace» : String
  name : String
deriving DecidableEq, Repr

def NamespacedName.string (key : NamespacedName) : String :=
  key.namespace ++ "/" ++ key.name

/-- `watch.EventType`. -/
inductive EventType where
  | added
  | modified
  | deleted
  | bookmark
  | error
deriving DecidableEq, Repr

/-- `GroupMember`; the reference is nil for a Pod. -/
structure GroupMember where
  externalEntity : Option NamespacedName
deriving DecidableEq, Repr

/-- `AddressGroup` or `AppliedToGroup` (complete), or a patch of one. -/
inductive GroupObject where
  | complete (name : String) (groupMembers : List GroupMember)
  | patch (name : String) (addedGroupMembers removedGroupMembers : List GroupMember)

/-- `Protocol` of a service. -/
inductive Protocol where
  | tcp
  | udp
  | sctp
  | other (name : String)
deriving DecidableEq, Repr

/-- `intstr.IntOrString`. -/
inductive IntOrString where
  | int (value : Int)
  | string (value : String)
deriving DecidableEq, Repr

/-- `IntOrString.IntVal`, zero for a port given by name. -/
def IntOrString.intVal : IntOrString → Int
  | .int value => value
  | .string _ => 0

structure Service where
  protocol : Option Protocol
  port : Option IntOrString
  endPort : Option Int
deriving DecidableEq, Repr

/-- `IPBlock`: a CIDR with excluded sub-blocks. -/
structure IPBlock where
  cidr : IPNet
  except : List IPNet
deriving DecidableEq, Repr

/-- `NetworkPolicyPeer`. -/
structure NetworkPolicyPeer where
  addressGroups : List String
  ipBlocks : List IPBlock
deriving DecidableEq, Repr

inductive Direction where
  | «in»
  | out
deriving DecidableEq, Repr

inductive RuleAction where
  | allow
  | drop
  | reject
  | pass
deriving DecidableEq, Repr

/-- `NetworkPolicyRule`; the last three fields matter to equality only. -/
structure NetworkPolicyRule where
  direction : Direction
  fromPeer : NetworkPolicyPeer
  toPeer : NetworkPolicyPeer
  services : Option (List Service)
  action : Option RuleAction
  name : String
  priority : Int
  enableLogging : Bool
deriving DecidableEq, Repr

/-- `NetworkPolicyReference.Type`. -/
inductive NetworkPolicyType where
  | antreaNetworkPolicy
  | antreaClusterNetworkPolicy
  | k8sNetworkPolicy
deriving DecidableEq, Repr

structure NetworkPolicyReference where
  type : NetworkPolicyType
  «namespace» : String
  name : String
deriving DecidableEq, Repr

/-- The control-plane `NetworkPolicy` as it arrives on the watch. -/
structure AntreaNetworkPolicy where
  name : String
  «namespace» : String
  sourceRef : Option NetworkPolicyReference
  rules : List NetworkPolicyRule
  appliedToGroups : List String
deriving DecidableEq, Repr

/--
`ExternalEntity`: the value of its kind label, kind and name of its first owner
reference, and the addresses of its endpoints as `net.ParseCIDR` reads them.
-/
structure ExternalEntity where
  «namespace» : String
  kindLabel : Option String
  owner : Option (String × String)
  endpoints : List IPNet

/-- The annotations of a `VirtualMachine` the controller reads. -/
structure VirtualMachine where
  cloudAssignedVPCID : Option String
  cloudAssignedID : Option String

/-- The two kinds of failure of a client read. -/
inductive GetError where
  | notFound
  | other
deriving DecidableEq, Repr

/--
What the API server and the cloud answer while one event is processed.

Every event of a run comes with its own environment.
-/
structure Env where
  getExternalEntity : NamespacedName → Except GetError ExternalEntity
  getVirtualMachine : NamespacedName → Except GetError VirtualMachine
  /-- Virtual machines with a given cloud id. -/
  listByCloudID : String → Except GetError (List NamespacedName)
  /-- Interface names of the virtual machines with a given cloud name. -/
  listByCloudName : String → Except GetError (List (List String))
  /-- What `GetSecurityGroupSyncChan` delivers if it is called. -/
  syncContents : List SynchronizationContent

end Nephe
