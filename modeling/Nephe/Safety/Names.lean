import Nephe.SecurityGroup.Names
import Nephe.Safety.Rules

/-!
# Names

The queues are keyed by strings that are put together from the kind, the name
and the VPC of a group.  Kubernetes names contain neither a slash nor an
underscore, and for such names the strings tell the groups apart.
-/

namespace Nephe

open Library

/-! ## Strings -/

theorem toList_getGroupUniqueName (name : String) (memberOnly : Bool) :
    (getGroupUniqueName name memberOnly).toList =
      if memberOnly then ['m', 'm', '_'] ++ name.toList else name.toList := by
  cases memberOnly <;> simp [getGroupUniqueName, uniqueGroupNameMemberPrefix]

/-- The string does not begin like the unique name of an address group. -/
def Unprefixed (name : String) : Prop :=
  ∀ rest, name.toList ≠ ['m', 'm', '_'] ++ rest

variable {name : String} {o : Origin}

theorem unprefixed_append (plain : PlainName name) {rest : List Char}
    (after : rest = [] ∨ ∃ vpc, rest = '/' :: vpc) (list : List Char) :
    name.toList ++ rest ≠ ['m', 'm', '_'] ++ list := by
  intro same
  obtain ⟨_, noUnderscore⟩ := plain
  -- The underscore is the third character: the name is too short for it or contains it.
  match there : name.toList, same with
  | [], same => rcases after with rfl | ⟨vpc, rfl⟩ <;> simp at same
  | [first], same => rcases after with rfl | ⟨vpc, rfl⟩ <;> simp at same
  | [first, second], same => rcases after with rfl | ⟨vpc, rfl⟩ <;> simp at same
  | first :: second :: third :: others, same =>
    simp only [List.cons_append, List.cons.injEq] at same
    rw [there, same.2.2.1] at noUnderscore
    exact noUnderscore (by simp)

theorem PlainName.unprefixed (plain : PlainName name) : Unprefixed name :=
  fun rest same => unprefixed_append plain (.inl rfl) rest (by simpa using same)

theorem getGroupIDFromUniqueName_uniqueName (plain : PlainName name) (kind : Bool) :
    getGroupIDFromUniqueName (getGroupUniqueName name kind) = (name, kind) := by
  have isPrefix (rest : List Char) :
      (uniqueGroupNameMemberPrefix.toList.isPrefixOf rest = true) ↔
        ∃ list, rest = ['m', 'm', '_'] ++ list := by
    rw [List.isPrefixOf_iff_prefix]
    exact ⟨fun ⟨list, same⟩ => ⟨list, same.symm⟩, fun ⟨list, same⟩ => ⟨list, same.symm⟩⟩
  unfold getGroupIDFromUniqueName
  cases kind with
  | true =>
    rw [if_pos ((isPrefix _).mpr ⟨_, toList_getGroupUniqueName name true⟩)]
    simp [getGroupUniqueName, uniqueGroupNameMemberPrefix]
  | false =>
    rw [if_neg fun starts => ?_]
    · rfl
    · obtain ⟨list, same⟩ := (isPrefix _).mp starts
      exact plain.unprefixed list same

/-! ## The invariant -/

/-- The origin is about a group with a plain name, if it is about one. -/
def Origin.Plain : Origin → Prop
  | .event name _ => PlainName name
  | .deleted name _ _ => PlainName name
  | _ => True

/-- All names in the state are plain. -/
structure PlainNames (core : Core) : Prop where
  objects : ∀ c < core.nextRef, PlainName (core.objects c).id.name
  events : ∀ key group count,
    core.retryQueue.items.get? key = some ⟨.pendingGroup group, count⟩ →
    ∃ name kind, PlainName name ∧ key = getGroupUniqueName name kind
  contents : ∀ content ∈ core.env.syncContents, PlainName content.resource.name

namespace PlainNames

variable {o : Origin} {r r' : Reconciler}

/-- An effect for a plain name leaves all names plain. -/
theorem effect (names : PlainNames r.toCore) (base : Base r.toCore) (plain : o.Plain)
    (inside : o ≠ .start) (effect : Effect o r r') : PlainNames r'.toCore where
  objects c allocated := by
    by_cases old : c < r.nextRef
    · rw [(effect.static old).2]
      exact names.objects c old
    · cases effect with
      | allocate group clean fresh =>
        obtain rfl : c = r.nextRef :=
          Nat.le_antisymm (Nat.lt_succ_iff.mp allocated) (Nat.not_lt.mp old)
        have here : ((r.allocate group).objects r.nextRef) = group := by
          rw [r.objects_allocate, if_pos rfl]
        rw [here]
        rcases fresh with ⟨_, rfl⟩ | ⟨_, _, _, _, content, reported, _, same⟩
        · exact plain
        · exact same ▸ names.contents content reported
      | _ => exact absurd allocated old
  events key group count found := by
    have slot := effect.slot base key
    rw [found] at slot
    generalize there : (some ⟨.pendingGroup group, count⟩ :
      Option (CountingPendingItem PendingItem)) = item at slot
    cases slot with
    | same => exact names.events key group count there.symm
    | event name kind group' count' origin named =>
      subst origin
      exact ⟨name, kind, plain, named.symm⟩
    | spent item' count' origin found' =>
      cases there
      exact names.events key group _ found'
    | deleted | dropped | retired | expired | queued => cases there
  contents := by
    rw [effect.env inside]
    exact names.contents

theorem effects {allowed : Origin → Prop} (names : PlainNames r.toCore) (base : Base r.toCore)
    (effects : Effects allowed r r') (plain : ∀ o, allowed o → o.Plain ∧ o ≠ .start) :
    PlainNames r'.toCore :=
  (effects.invariant (fun r => Base r.toCore ∧ PlainNames r.toCore)
    (fun o _ _ permitted effect before => ⟨effect.base before.1,
      before.2.effect before.1 (plain o permitted).1 (plain o permitted).2 effect⟩)
    ⟨base, names⟩).2

/-- A queued event is about a group with a plain name. -/
theorem runs {core : Core} {pass : Reconciler.Pass} {key : String} (names : PlainNames core)
    (runs : Reconciler.Runs pass core key o) : o.Plain ∧ o ≠ .start := by
  cases runs with
  | event group count found =>
    obtain ⟨name, kind, plain, rfl⟩ := names.events key group count found
    refine ⟨?_, by simp⟩
    rw [getGroupIDFromUniqueName_uniqueName plain]
    exact plain
  | _ => exact ⟨trivial, by simp⟩

/-- The event that the end of a deletion releases is about a group with a plain name. -/
theorem releases {core : Core} {c : Ref} (names : PlainNames core)
    (allocated : c < core.nextRef) (releases : Reconciler.Releases core c o) :
    o.Plain ∧ o ≠ .start := by
  rcases releases with rfl | rfl
  · exact ⟨trivial, by simp⟩
  · refine ⟨?_, by simp⟩
    rw [SecurityGroup.guName, getGroupIDFromUniqueName_uniqueName (names.objects c allocated)]
    exact names.objects c allocated

end PlainNames

theorem plainNames_setup : PlainNames Reconciler.setup.toCore where
  objects c allocated := absurd allocated (Nat.not_lt_zero c)
  events _ _ _ found := by simp [Reconciler.setup, PendingItemQueue.new] at found
  contents _ member := absurd member List.not_mem_nil

/-! ## Steps -/

/-- The event is about a group with a plain name, if it is a group event. -/
def Event.Plain : Event → Prop
  | .addrGroup _ object => PlainName object.name
  | .appliedToGroup _ object => PlainName object.name
  | _ => True

/-- The group of the event and the groups that the cloud reports have plain names. -/
def Label.Plain (label : Label) : Prop :=
  label.event.Plain ∧ ∀ content ∈ label.env.syncContents, PlainName content.resource.name

instance : DecidablePred Event.Plain
  | .addrGroup _ _ => inferInstanceAs (Decidable (PlainName _))
  | .appliedToGroup _ _ => inferInstanceAs (Decidable (PlainName _))
  | .networkPolicy _ _ | .watchClosed _ | .execute _ _ | .answer _ | .respond _ | .background
  | .checkToRun | .cloudSync => isTrue trivial

instance : DecidablePred Label.Plain :=
  fun _ => inferInstanceAs (Decidable (_ ∧ _))

/-- The event does not run what is queued. -/
def Event.Direct : Event → Prop
  | .checkToRun => False
  | .respond _ => False
  | _ => True

theorem Origin.IsGroup.plain {membershipOnly : Bool} {type : EventType}
    (isGroup : o.IsGroup name membershipOnly type) (plain : PlainName name) : o.Plain := by
  unfold Origin.IsGroup at isGroup
  split at isGroup
  · obtain ⟨_, rfl⟩ := isGroup
    exact plain
  · rw [isGroup]
    exact plain

theorem Origin.IsBookmark.plain (isBookmark : o.IsBookmark) : o.Plain := by
  rcases isBookmark with rfl | rfl | ⟨_, rfl⟩ <;> trivial

/-- The origins of an event that does not run what is queued. -/
theorem Event.Direct.plain {event : Event} (direct : event.Direct) (plain : event.Plain)
    {core : Core} (origin : o.OfEvent core event) : o.Plain := by
  cases event with
  | addrGroup type object | appliedToGroup type object =>
    rcases origin with ⟨_, isBookmark⟩ | isGroup | ⟨rfl, _⟩
    · exact isBookmark.plain
    · exact isGroup.plain plain
    · trivial
  | networkPolicy type anp =>
    rcases origin with ⟨_, isBookmark⟩ | ⟨_, rfl⟩
    · exact isBookmark.plain
    · trivial
  | watchClosed => exact origin.elim
  | execute | answer | background =>
    cases origin
    trivial
  | cloudSync => exact Origin.IsBookmark.plain (.inr origin)
  | checkToRun | respond => exact direct.elim

/-- The reconciler with the base invariants and plain names. -/
structure Named (core : Core) : Prop where
  base : Base core
  names : PlainNames core

namespace Named

variable {o : Origin} {r r' : Reconciler}

theorem effect (named : Named r.toCore) (plain : o.Plain) (inside : o ≠ .start)
    (effect : Effect o r r') : Named r'.toCore :=
  ⟨effect.base named.base, named.names.effect named.base plain inside effect⟩

theorem effects {allowed : Origin → Prop} (named : Named r.toCore)
    (effects : Effects allowed r r') (plain : ∀ o, allowed o → o.Plain ∧ o ≠ .start) :
    Named r'.toCore :=
  ⟨named.base.effects effects, named.names.effects named.base effects plain⟩

end Named

end Nephe
