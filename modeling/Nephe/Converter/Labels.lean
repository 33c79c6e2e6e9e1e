import Nephe.Converter.VMConverter

/-!
# Labels of external entities

The API server accepts a label when its name and its value are short texts of
certain characters that begin and end with a letter or a digit.  The tags of a
machine are any texts: what is left of a key, with the postfix, and of a value is
cut to one character more than a label may have, and different keys may leave the
same text.
-/

namespace Nephe.Converter

open Library Crd

/-! ## What the API server accepts -/

/-- A label value: at most 63 characters, which begin and end with a letter or a digit. -/
def IsLabelValue (text : String) : Prop :=
  text.toList.length ≤ 63 ∧ (∀ c ∈ text.toList, c.isAlphanum ∨ c ∈ ['-', '_', '.']) ∧
    (∀ c ∈ text.toList.head?, c.isAlphanum) ∧ ∀ c ∈ text.toList.getLast?, c.isAlphanum

/-- The name of a label: a label value that is not empty. -/
def IsLabelName (text : String) : Prop :=
  text.toList ≠ [] ∧ IsLabelValue text

theorem isLabelValue_iff (text : String) : IsLabelValue text ↔ text.toList.length ≤ 63 ∧
    text.toList.all (fun c => c.isAlphanum || ['-', '_', '.'].contains c) = true ∧
    text.toList.head?.all Char.isAlphanum = true ∧
    text.toList.getLast?.all Char.isAlphanum = true := by
  simp only [IsLabelValue, List.all_eq_true, Option.all_eq_true, Bool.or_eq_true,
    List.contains_iff_mem, Option.mem_def]

instance (text : String) : Decidable (IsLabelValue text) :=
  decidable_of_iff' _ (isLabelValue_iff text)

instance (text : String) : Decidable (IsLabelName text) :=
  inferInstanceAs (Decidable (_ ∧ _))

variable {text key : String} {tag : String × String} {vm : VirtualMachine}

theorem IsLabelValue.toLower (valid : IsLabelValue text) : IsLabelValue (toLower text) := by
  obtain ⟨short, plain, first, last⟩ := valid
  unfold IsLabelValue Library.toLower
  rw [String.toList_ofList, List.length_map, List.head?_map, List.getLast?_map]
  refine ⟨short, fun c member => ?_, fun c member => ?_, fun c member => ?_⟩
  · obtain ⟨d, inText, rfl⟩ := List.mem_map.mp member
    rcases plain d inText with letter | other
    · exact .inl (isAlphanum_lowerChar letter)
    · simp only [List.mem_cons, List.not_mem_nil, or_false] at other
      obtain rfl | rfl | rfl := other <;> exact .inr (by decide)
  · obtain ⟨d, isFirst, rfl⟩ := Option.map_eq_some_iff.mp member
    exact isAlphanum_lowerChar (first d isFirst)
  · obtain ⟨d, isLast, rfl⟩ := Option.map_eq_some_iff.mp member
    exact isAlphanum_lowerChar (last d isLast)

/-! ## What is left of a tag -/

/-- The characters that are left of a text, in lower case. -/
def remains (text : String) : List Char :=
  (withoutOtherCharacters text).toList.map lowerChar

theorem plain_of_mem_remains {c : Char} (member : c ∈ remains text) :
    c.isAlphanum ∨ c ∈ ['-', '_'] := by
  obtain ⟨d, kept, rfl⟩ := List.mem_map.mp member
  rw [withoutOtherCharacters, String.toList_ofList, List.mem_filter] at kept
  simp only [Bool.or_eq_true, beq_iff_eq] at kept
  rcases kept.2 with (letter | rfl) | rfl
  · exact .inl (isAlphanum_lowerChar letter)
  · exact .inr (by decide)
  · exact .inr (by decide)

theorem dot_not_mem_remains (text : String) : '.' ∉ remains text := fun member =>
  absurd (plain_of_mem_remains member) (by decide)

theorem toList_labelKey (tag : String × String) : (labelOfTag tag).1.toList =
    (remains tag.1 ++ externalEntityLabelKeyTagPostfix.toList).take labelSizeLimit := by
  have lower : externalEntityLabelKeyTagPostfix.toList.map lowerChar =
    externalEntityLabelKeyTagPostfix.toList := by decide
  rw [labelOfTag, toLower, limited, String.toList_ofList, String.toList_ofList, List.map_take,
    String.toList_append, List.map_append, lower, remains]

theorem toList_labelValue (tag : String × String) :
    (labelOfTag tag).2.toList = (remains tag.2).take labelSizeLimit := by
  change (toLower (limited _)).toList = _
  rw [toLower, limited, String.toList_ofList, String.toList_ofList, List.map_take, remains]

/-- A key that has not been cut ends in the postfix. -/
theorem postfix_suffix (short : (labelOfTag tag).1.toList.length < labelSizeLimit) :
    (labelOfTag tag).1.toList = remains tag.1 ++ externalEntityLabelKeyTagPostfix.toList := by
  rw [toList_labelKey, List.length_take] at short
  rw [toList_labelKey, List.take_of_length_le (by omega)]

/-! ## Labels that are accepted -/

/-- The key leaves between 1 and 53 characters that begin with a letter or a digit. -/
def KeyFits (key : String) : Prop :=
  (remains key).length ≤ 53 ∧ (remains key).head?.any Char.isAlphanum = true

instance (key : String) : Decidable (KeyFits key) :=
  inferInstanceAs (Decidable (_ ∧ _))

theorem isLabelName_labelKey_iff (tag : String × String) :
    IsLabelName (labelOfTag tag).1 ∧
        externalEntityLabelKeyTagPostfix.toList <:+ (labelOfTag tag).1.toList ↔
      KeyFits tag.1 := by
  have ten : externalEntityLabelKeyTagPostfix.toList.length = 10 := by decide
  have accepted : IsLabelValue ("a" ++ externalEntityLabelKeyTagPostfix) := by decide
  have ending : externalEntityLabelKeyTagPostfix.toList.getLast? = some 'e' := by decide
  constructor
  · rintro ⟨⟨_, short, _, first, _⟩, _⟩
    have whole := postfix_suffix (Nat.lt_succ_of_le short)
    rw [whole] at short first
    rw [List.length_append, ten] at short
    refine ⟨by omega, ?_⟩
    cases left : remains tag.1 with
    | nil =>
      rw [left] at first
      exact absurd (first '.' (by decide)) (by decide)
    | cons c rest => exact first c (by rw [left]; rfl)
  · rintro ⟨short, begins⟩
    obtain ⟨c, isFirst, letter⟩ := (Option.any_eq_true _ _).mp begins
    have whole : (labelOfTag tag).1.toList =
        remains tag.1 ++ externalEntityLabelKeyTagPostfix.toList := by
      refine (toList_labelKey tag).trans (List.take_of_length_le ?_)
      rw [List.length_append, ten, labelSizeLimit]
      omega
    rw [IsLabelName, IsLabelValue, whole, List.length_append, ten]
    refine ⟨⟨by simp [externalEntityLabelKeyTagPostfix], by omega, fun d member => ?_,
      fun d head => ?_, fun d last => ?_⟩, List.suffix_append _ _⟩
    · rcases List.mem_append.mp member with left | added
      · exact (plain_of_mem_remains left).imp_right fun other =>
          List.mem_append_left ['.'] other
      · exact accepted.2.1 d (by simp [added])
    · rw [List.head?_append, isFirst] at head
      cases head
      exact letter
    · rw [List.getLast?_append, ending] at last
      cases last
      decide

theorem isLabelValue_labelValue_iff (tag : String × String) :
    IsLabelValue (labelOfTag tag).2 ↔ IsLabelValue (String.ofList (remains tag.2)) := by
  rw [IsLabelValue, IsLabelValue, toList_labelValue, String.toList_ofList]
  by_cases short : (remains tag.2).length ≤ 63
  · rw [List.take_of_length_le (show _ ≤ labelSizeLimit from Nat.le_succ_of_le short)]
  · refine iff_of_false (fun valid => ?_) fun valid => short valid.1
    have short' := valid.1
    rw [List.length_take, labelSizeLimit] at short'
    omega

/-- The label of a key tells as much of what is left of the key as it has room for. -/
theorem labelKey_eq_iff (tag tag' : String × String) :
    (labelOfTag tag).1 = (labelOfTag tag').1 ↔
      (remains tag.1).take labelSizeLimit = (remains tag'.1).take labelSizeLimit := by
  have stop (room : Nat) (rest : List Char) :
      (('.' :: rest).take room).takeWhile (· ≠ '.') = [] := by
    cases room <;> simp
  -- What is left of a key has no dot in it, and the postfix begins with one.
  have cut (key : String) : ((remains key ++ externalEntityLabelKeyTagPostfix.toList).take
      labelSizeLimit).takeWhile (· ≠ '.') = (remains key).take labelSizeLimit := by
    have undotted : ∀ c ∈ (remains key).take labelSizeLimit, decide (c ≠ '.') = true :=
      fun c member => decide_eq_true fun isDot =>
        dot_not_mem_remains key (isDot ▸ List.mem_of_mem_take member)
    have dotted : externalEntityLabelKeyTagPostfix.toList = '.' :: "tag.nephe".toList := by decide
    rw [List.take_append, List.takeWhile_append_of_pos undotted, dotted, stop, List.append_nil]
  rw [← String.toList_inj, toList_labelKey, toList_labelKey]
  constructor
  · intro same
    rw [← cut, same, cut]
  · intro same
    have lengths := congrArg List.length same
    rw [List.length_take, List.length_take] at lengths
    have room : labelSizeLimit - (remains tag.1).length =
      labelSizeLimit - (remains tag'.1).length := by omega
    rw [List.take_append, List.take_append, same, room]

/-! ## The labels of a machine -/

/-- The labels that do not depend on tags. -/
def wellKnown (vm : VirtualMachine) : GoMap String String :=
  (((GoMap.set ∅ externalEntityLabelKeyKind "virtualmachine").set externalEntityLabelKeyName
    (toLower vm.name)).set externalEntityLabelKeyNamespace (toLower vm.namespace)).set
    externalEntityLabelCloudVPCKey vm.status.virtualPrivateCloud

/-- Of the tags with a label the one that the loop comes to last. -/
def lastTag (code : Nat) (vm : VirtualMachine) (key : String) : Option (String × String) :=
  (arrange code vm.status.tags.bindings).reverse.find? fun tag => (labelOfTag tag).1 = key

theorem get?_labels (code : Nat) (vm : VirtualMachine) (key : String) :
    (populateExternalEntityFrom code vm).labels.get? key =
      ((lastTag code vm key).map fun tag => (labelOfTag tag).2).or ((wellKnown vm).get? key) :=
  GoMap.get?_foldl_set (fun tag => (labelOfTag tag).1) (fun tag => (labelOfTag tag).2) _ _ _

theorem mem_lastTag {code : Nat} (last : lastTag code vm key = some tag) :
    tag ∈ vm.status.tags.bindings ∧ (labelOfTag tag).1 = key := by
  have listed := List.mem_of_find?_eq_some last
  rw [List.mem_reverse, mem_arrange] at listed
  exact ⟨listed, by simpa using List.find?_some last⟩

theorem isSome_lastTag (code : Nat) (listed : tag ∈ vm.status.tags.bindings) :
    ∃ last, lastTag code vm (labelOfTag tag).1 = some last := by
  refine Option.isSome_iff_exists.mp (List.find?_isSome.mpr ⟨tag, ?_, by simp⟩)
  rwa [List.mem_reverse, mem_arrange]

/-- Of the tags whose keys leave the text the one that the loop comes to last. -/
def lastLeaving (code : Nat) (vm : VirtualMachine) (left : List Char) :
    Option (String × String) :=
  (arrange code vm.status.tags.bindings).reverse.find? fun tag => remains tag.1 = left

/-- Keys that fit have the same label when they leave the same text. -/
theorem lastTag_eq_lastLeaving {code : Nat}
    (fits : ∀ tag ∈ vm.status.tags.bindings, KeyFits tag.1)
    (listed : tag ∈ vm.status.tags.bindings) :
    lastTag code vm (labelOfTag tag).1 = lastLeaving code vm (remains tag.1) := by
  have whole (other : String × String) (inTags : other ∈ vm.status.tags.bindings) :
      (remains other.1).take labelSizeLimit = remains other.1 :=
    List.take_of_length_le ((fits other inTags).1.trans (by decide))
  rw [lastTag, lastLeaving, ← List.head?_filter, ← List.head?_filter]
  refine congrArg List.head? (List.filter_congr fun other member => ?_)
  rw [List.mem_reverse, mem_arrange] at member
  rw [decide_eq_decide, labelKey_eq_iff, whole other member, whole tag listed]

theorem wellKnown_cases {value : String} (found : (wellKnown vm).get? key = some value) :
    (key = externalEntityLabelCloudVPCKey ∧ value = vm.status.virtualPrivateCloud) ∨
      (key = externalEntityLabelKeyNamespace ∧ value = toLower vm.namespace) ∨
      (key = externalEntityLabelKeyName ∧ value = toLower vm.name) ∨
      (key = externalEntityLabelKeyKind ∧ value = "virtualmachine") := by
  simp only [wellKnown, GoMap.get?_set, GoMap.get?_empty] at found
  split_ifs at found with vpc space name kind <;> cases found
  · exact .inl ⟨vpc, rfl⟩
  · exact .inr (.inl ⟨space, rfl⟩)
  · exact .inr (.inr (.inl ⟨name, rfl⟩))
  · exact .inr (.inr (.inr ⟨kind, rfl⟩))

/--
All labels of a machine are accepted, and the labels of its tags have the postfix, if
and only if every tag leaves a key that fits, and of the tags whose keys leave the same
text the last one leaves a label value.
-/
theorem labels_are_accepted_iff (code : Nat) (vm : VirtualMachine) (name : IsLabelValue vm.name)
    (space : IsLabelValue vm.namespace) (vpc : IsLabelValue vm.status.virtualPrivateCloud) :
    ((∀ key value, (populateExternalEntityFrom code vm).labels.get? key = some value →
          IsLabelName key ∧ IsLabelValue value) ∧
        ∀ tag ∈ vm.status.tags.bindings,
          externalEntityLabelKeyTagPostfix.toList <:+ (labelOfTag tag).1.toList) ↔
      ∀ tag ∈ vm.status.tags.bindings, KeyFits tag.1 ∧
        ∀ last ∈ lastLeaving code vm (remains tag.1),
          IsLabelValue (String.ofList (remains last.2)) := by
  constructor
  · rintro ⟨accepted, ending⟩
    have valid (tag : String × String) (listed : tag ∈ vm.status.tags.bindings) :
        ∃ last, lastTag code vm (labelOfTag tag).1 = some last ∧
          IsLabelName (labelOfTag tag).1 ∧ IsLabelValue (labelOfTag last).2 := by
      obtain ⟨last, isLast⟩ := isSome_lastTag code listed
      exact ⟨last, isLast, accepted _ _ (by rw [get?_labels, isLast]; rfl)⟩
    have fits (tag : String × String) (listed : tag ∈ vm.status.tags.bindings) :
        KeyFits tag.1 := by
      obtain ⟨_, _, validKey, _⟩ := valid tag listed
      exact (isLabelName_labelKey_iff tag).mp ⟨validKey, ending tag listed⟩
    refine fun tag listed => ⟨fits tag listed, fun last isLast => ?_⟩
    obtain ⟨_, isLast', _, validValue⟩ := valid tag listed
    rw [lastTag_eq_lastLeaving fits listed] at isLast'
    cases isLast'.symm.trans isLast
    exact (isLabelValue_labelValue_iff last).mp validValue
  · intro fits
    refine ⟨fun key value found => ?_, fun tag listed =>
      ((isLabelName_labelKey_iff tag).mpr (fits tag listed).1).2⟩
    rw [get?_labels, Option.or_eq_some_iff] at found
    rcases found with ofTag | ⟨_, known⟩
    · obtain ⟨tag, isLast, rfl⟩ := Option.map_eq_some_iff.mp ofTag
      obtain ⟨listed, rfl⟩ := mem_lastTag isLast
      refine ⟨((isLabelName_labelKey_iff tag).mpr (fits tag listed).1).1,
        (isLabelValue_labelValue_iff tag).mpr ((fits tag listed).2 tag ?_)⟩
      rw [← lastTag_eq_lastLeaving (fun tag listed => (fits tag listed).1) listed]
      exact isLast
    · rcases wellKnown_cases known with ⟨rfl, rfl⟩ | ⟨rfl, rfl⟩ | ⟨rfl, rfl⟩ | ⟨rfl, rfl⟩
      · exact ⟨by decide, vpc⟩
      · exact ⟨by decide, space.toLower⟩
      · exact ⟨by decide, name.toLower⟩
      · exact ⟨by decide, by decide⟩

/-- A machine with tags. -/
def taggedMachine (tags : GoMap String String) : VirtualMachine :=
  ⟨"ns", "vm", 1, [], ⟨"AWS", "vpc", tags, [], "running"⟩⟩

theorem labels_of_role_are_accepted :
    IsLabelValue "vm" ∧
      (∀ key value, (populateExternalEntityFrom 0
            (taggedMachine (GoMap.set ∅ "Role" "db"))).labels.get? key = some value →
          IsLabelName key ∧ IsLabelValue value) :=
  ⟨by decide, ((labels_are_accepted_iff 0 (taggedMachine (GoMap.set ∅ "Role" "db")) (by decide)
    (by decide) (by decide)).mpr (by decide +kernel)).1⟩

/-- A key of 60 letters leaves a label that is too long and has lost its postfix. -/
theorem long_key_is_not_accepted :
    let label := String.ofList (List.replicate 60 'a') ++ ".tag"
    (populateExternalEntityFrom 0 (taggedMachine
        (GoMap.set ∅ (String.ofList (List.replicate 60 'a')) "v"))).labels.get? label = some "v" ∧
      ¬ IsLabelName label := by
  decide +kernel

/-! ## Labels of different tags -/

/--
The labels do not depend on the order of the tags, no two tags have the same label, and
no tag has a well-known one, if and only if different keys leave different texts.
-/
theorem labels_are_determined_iff (vm : VirtualMachine) :
    ((∀ code code' key, (populateExternalEntityFrom code vm).labels.get? key =
          (populateExternalEntityFrom code' vm).labels.get? key) ∧
        ∀ tag ∈ vm.status.tags.bindings,
          (∀ tag' ∈ vm.status.tags.bindings, tag.1 ≠ tag'.1 →
            (labelOfTag tag).1 ≠ (labelOfTag tag').1) ∧
          (wellKnown vm).get? (labelOfTag tag).1 = none) ↔
      ∀ tag ∈ vm.status.tags.bindings, ∀ tag' ∈ vm.status.tags.bindings, tag.1 ≠ tag'.1 →
        (remains tag.1).take labelSizeLimit ≠ (remains tag'.1).take labelSizeLimit := by
  simp only [ne_eq, ← labelKey_eq_iff]
  refine ⟨fun determined tag listed => (determined.2 tag listed).1, fun distinct => ?_⟩
  refine ⟨fun code code' key => ?_, fun tag listed => ⟨distinct tag listed, ?_⟩⟩
  · -- At most one tag has the label, so it is found in every order.
    have found (code : Nat) (tag : String × String) : lastTag code vm key = some tag ↔
        tag ∈ vm.status.tags.bindings ∧ (labelOfTag tag).1 = key := by
      refine ⟨mem_lastTag, ?_⟩
      rintro ⟨listed, rfl⟩
      obtain ⟨last, isLast⟩ := isSome_lastTag code listed
      obtain ⟨listed', same⟩ := mem_lastTag isLast
      have sameKey : last.1 = tag.1 := by
        by_contra other
        exact distinct last listed' tag listed other same
      have sameValue : some last.2 = some tag.2 := by
        rw [← (GoMap.mem_bindings _ _ _).mp listed,
          ← (GoMap.mem_bindings _ _ _).mp listed', sameKey]
      rw [isLast, Prod.ext sameKey (Option.some.inj sameValue)]
    have same : lastTag code vm key = lastTag code' vm key :=
      Option.ext fun tag => (found code tag).trans (found code' tag).symm
    rw [get?_labels, get?_labels, same]
  · cases known : (wellKnown vm).get? (labelOfTag tag).1 with
    | none => rfl
    | some value =>
      have texts : (labelOfTag tag).1 ∈ [externalEntityLabelCloudVPCKey,
          externalEntityLabelKeyNamespace, externalEntityLabelKeyName,
          externalEntityLabelKeyKind] := by
        rcases wellKnown_cases known with ⟨same, _⟩ | ⟨same, _⟩ | ⟨same, _⟩ | ⟨same, _⟩ <;>
          simp [same]
      have short : ∀ key ∈ [externalEntityLabelCloudVPCKey, externalEntityLabelKeyNamespace,
          externalEntityLabelKeyName, externalEntityLabelKeyKind],
          key.toList.length < labelSizeLimit ∧
            ¬ externalEntityLabelKeyTagPostfix.toList <:+ key.toList := by decide
      obtain ⟨uncut, other⟩ := short _ texts
      rw [postfix_suffix uncut] at other
      exact absurd (List.suffix_append _ _) other

/-- Keys that differ in case have one label, with the value of the tag that comes last. -/
theorem labels_depend_on_the_order :
    let vm := taggedMachine ((GoMap.set ∅ "Role" "db").set "role" "web")
    (populateExternalEntityFrom 0 vm).labels.get? "role.tag.nephe" ≠
      (populateExternalEntityFrom 1 vm).labels.get? "role.tag.nephe" := by
  decide +kernel

end Nephe.Converter
