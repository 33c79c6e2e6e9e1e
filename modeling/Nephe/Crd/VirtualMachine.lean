import Nephe.Library.GoMap

/-!
# Virtual machines

The `VirtualMachine` resource (`apis/crd/v1alpha1/virtualmachine_types.go`) with
the metadata that the controllers read.  Its address types, providers and
states are Go string types that the API server does not restrict.
-/

namespace Nephe.Crd

open Library

/-- `IPAddress`. -/
structure IPAddress where
  addressType : String
  address : String
deriving DecidableEq, Repr

/-- `NetworkInterface`. -/
structure NetworkInterface where
  name : String
  mac : String
  ips : List IPAddress
deriving DecidableEq, Repr

/-- `VirtualMachineStatus`: what a cloud reports about the machine. -/
structure VirtualMachineStatus where
  provider : String
  virtualPrivateCloud : String
  tags : GoMap String String
  networkInterfaces : List NetworkInterface
  state : String

/-- `metav1.OwnerReference`. -/
structure OwnerReference where
  kind : String
  name : String
deriving DecidableEq, Repr

/-- `VirtualMachine`. -/
structure VirtualMachine where
  «namespace» : String
  name : String
  generation : Int
  ownerReferences : List OwnerReference
  status : VirtualMachineStatus

/-- `GetVMIPAddresses`. -/
def getVMIPAddresses (vm : VirtualMachine) : List IPAddress :=
  vm.status.networkInterfaces.flatMap (·.ips)

end Nephe.Crd
