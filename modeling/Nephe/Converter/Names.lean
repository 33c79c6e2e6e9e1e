import Nephe.Library.Text

/-!
# Names of virtual machines

A plug-in names the `VirtualMachine` resource of a machine that it has discovered
and annotates it with the id of the machine.  The members of groups are named by
this annotation, the external entities by the name of the resource.
-/

namespace Nephe

open Library

/-! ## Short identifiers -/

namespace Azure

/-- `strings.Trim(id, " ")`. -/
def trimSpaces (id : List Char) : List Char :=
  ((id.dropWhile (· == ' ')).reverse.dropWhile (· == ' ')).reverse

/-- `GenerateShortResourceIdentifier`: the sum of the characters, as 32 bits. -/
def generateShortResourceIdentifier (id prefixToAdd : String) : String :=
  let idTrim := trimSpaces id.toList
  if idTrim.isEmpty then ""
  else
    let sum := (idTrim.map fun c => (lowerChar c).toNat).sum % 2 ^ 32
    toLower prefixToAdd ++ "-" ++ toString sum

end Azure

/-! ## Machines -/

/-- A virtual machine of Azure; its id is a path. -/
structure AzureMachine where
  id : String
  name : String
  isPath : '/' ∈ id.toList

/-- A virtual machine that a plug-in has discovered. -/
inductive CloudMachine where
  | aws (instanceID : String)
  | azure (machine : AzureMachine)

namespace CloudMachine

/-- The annotation with the id, which names the members of groups. -/
def cloudID : CloudMachine → String
  | .aws instanceID => instanceID
  | .azure machine => toLower machine.id

/-- The name that a plug-in gives the `VirtualMachine` resource. -/
def crdName : CloudMachine → String
  | .aws instanceID => instanceID
  | .azure machine =>
    Azure.generateShortResourceIdentifier (toLower machine.id) (toLower machine.name)

/-- `GetExternalEntityName` of the `VirtualMachine` resource. -/
def getExternalEntityName (machine : CloudMachine) : String :=
  "virtualmachine-" ++ machine.crdName

end CloudMachine

theorem AzureMachine.slash_mem_cloudID (machine : AzureMachine) :
    '/' ∈ (CloudMachine.azure machine).cloudID.toList := by
  rw [CloudMachine.cloudID, toLower, String.toList_ofList]
  exact List.mem_map.mpr ⟨'/', machine.isPath, by decide⟩

end Nephe
