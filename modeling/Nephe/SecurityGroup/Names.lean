import Nephe.SecurityGroup.Types

/-!
# Names of groups

A security group is known to the indexers and to the cloud by the text of its
id, the name of the group and the VPC with a slash between them.  Kubernetes
names contain neither a slash nor an underscore, and for such names the texts
tell the groups apart.
-/

namespace Nephe

/-- A name without a slash and without an underscore. -/
def PlainName (name : String) : Prop :=
  '/' ∉ name.toList ∧ '_' ∉ name.toList

instance : DecidablePred PlainName :=
  fun _ => inferInstanceAs (Decidable (_ ∧ _))

/-! ## Strings -/

/-- Splitting at the first separator is unique. -/
theorem append_separator_inj {α : Type} {separator : α} {left left' right right' : List α}
    (fresh : separator ∉ left) (fresh' : separator ∉ left')
    (same : left ++ separator :: right = left' ++ separator :: right') :
    left = left' ∧ right = right' := by
  induction left generalizing left' with
  | nil =>
    cases left' with
    | nil => exact ⟨rfl, List.tail_eq_of_cons_eq same⟩
    | cons head tail =>
      exact absurd (List.head_eq_of_cons_eq same ▸ List.mem_cons_self) fresh'
  | cons head tail induction =>
    cases left' with
    | nil => exact absurd (List.head_eq_of_cons_eq same ▸ List.mem_cons_self) fresh
    | cons head' tail' =>
      obtain ⟨sameTail, sameRight⟩ := induction
        (fun member => fresh (List.mem_cons_of_mem _ member))
        (fun member => fresh' (List.mem_cons_of_mem _ member))
        (List.tail_eq_of_cons_eq same)
      exact ⟨by rw [List.head_eq_of_cons_eq same, sameTail], sameRight⟩

theorem toList_string (id : CloudResourceID) :
    id.string.toList = id.name.toList ++ '/' :: id.vpc.toList := by
  simp [CloudResourceID.string]

/-- Ids with plain names are told apart by their strings. -/
theorem CloudResourceID.string_inj {id id' : CloudResourceID} (plain : PlainName id.name)
    (plain' : PlainName id'.name) (same : id.string = id'.string) : id = id' := by
  have lists := congrArg String.toList same
  rw [toList_string, toList_string] at lists
  obtain ⟨sameName, sameVpc⟩ := append_separator_inj plain.1 plain'.1 lists
  cases id
  cases id'
  simp only [String.toList_inj] at sameName sameVpc
  rw [sameName, sameVpc]

end Nephe
