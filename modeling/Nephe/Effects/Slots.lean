import Nephe.Effects.Flight

/-!
# How the retry queue changes

An effect changes the item under at most one name.  `Slot` lists what can be
found under a name afterwards.
-/

namespace Nephe

open Library

variable {o : Origin} {r r' : Reconciler} {c : Ref}

/-- An object waits under a name: it did so before, or its operation has just failed. -/
theorem Slot.securityGroup {key : String} {count : Option Int}
    (slot : Slot o r r' key (some ⟨.securityGroup c, count⟩)) :
    (∃ before, r.retryQueue.items.get? key = some ⟨.securityGroup c, before⟩ ∧
        (count = before ∨ ∃ n, before = some n ∧ count = some (n - 1))) ∨
      (count = some operationCount ∧ (r.objects c).uName = key ∧
        r.retryQueue.items.get? key = none ∧
        ∃ op message, o = .response c op (some message) ∧ r' = r.enqueue c op ∧
          ((r.objects c).state ≠ .garbageCollectState ∨ op = .delete)) := by
  generalize there : (some ⟨.securityGroup c, count⟩ : Option (CountingPendingItem PendingItem)) =
    found at slot
  cases slot with
  | same => exact .inl ⟨count, there.symm, .inl rfl⟩
  | queued d op message origin named free after current =>
    cases there
    exact .inr ⟨rfl, named, free, op, message, origin, after, current⟩
  | spent item n origin found =>
    cases there
    exact .inl ⟨some n, found, .inr ⟨n, rfl, rfl⟩⟩
  | event | deleted | dropped | retired | expired => cases there

/-- A queued object is still queued after an effect, or its item has been removed. -/
theorem Unindexes.unqueued (base : Base r.toCore) (unindexes : Unindexes r r' c)
    (queued : r.Queued c) : ¬ r'.Queued c := by
  rintro ⟨count, found⟩
  rcases unindexes with ⟨_, plain⟩ | ⟨rfl | rfl, _⟩
  · exact plain (base.networked_of_queued queued)
  · have named : ((r.forget c).objects c).uName = (r.objects c).uName := by
      rw [r.objects_forget, if_pos rfl]
      rfl
    rw [named] at found
    exact absurd ((PendingItemQueue.get?_remove r.retryQueue _ _).symm.trans found) (by simp)
  · have named : ((r.beginDelete c).objects c).uName = (r.objects c).uName := by
      rw [r.objects_beginDelete, if_pos rfl]
      rfl
    rw [named] at found
    exact absurd ((PendingItemQueue.get?_remove r.retryQueue _ _).symm.trans found) (by simp)

/-- Deleting an object takes it out of its indexer. -/
theorem not_indexed_deleted (after : r' = r.forget c ∨ r' = r.beginDelete c) : ¬ r'.Indexed c := by
  intro indexed
  have gone : ((r.indexerDelete c).indexer (r.objects c).membershipOnly).get?
      (r.objects c).id.string = some c := by
    rcases after with rfl | rfl
    · rw [Core.Indexed, r.objects_forget, if_pos rfl] at indexed
      exact indexed
    · rw [Core.Indexed, r.objects_beginDelete, if_pos rfl] at indexed
      exact indexed
  rw [r.get?_indexerDelete, if_pos ⟨rfl, rfl⟩] at gone
  cases gone

/-- An object that is indexed after an effect was so before, is new, or is created again. -/
theorem Effect.indexed_source (base : Base r.toCore) (effect : Effect o r r')
    (indexed : r'.Indexed c) :
    r.Indexed c ∨ (r.New c ∧ ∃ name, o = .event name (r.objects c).membershipOnly) ∨
      (o = .retry c (some .add) ∧ r.Queued c ∧ (r.objects c).retryOp = some .add) := by
  have put {d : Ref} (found : ((r.indexerAdd d).indexer (r'.objects c).membershipOnly).get?
      (r'.objects c).id.string = some c) : r.Indexed c ∨ c = d := by
    rw [Reconciler.get?_indexerAdd] at found
    split at found
    next => exact .inr (Option.some.inj found).symm
    next => exact .inl (base.indexed found)
  have taken {d : Ref} (found : ((r.indexerDelete d).indexer (r'.objects c).membershipOnly).get?
      (r'.objects c).id.string = some c) : r.Indexed c := by
    rw [Reconciler.get?_indexerDelete] at found
    split at found
    next => cases found
    next => exact base.indexed found
  cases effect with
  | index d new named kind =>
    refine (put indexed).imp_right fun same => ?_
    subst same
    exact .inl ⟨new, _, by rw [kind]⟩
  | reindex d listed =>
    rcases put indexed with old | rfl
    · exact .inl old
    · exact .inl listed
  | retryAdd d allocated queued retries =>
    rw [Core.Indexed, r.indexer_retryAdd] at indexed
    refine (put indexed).imp_right fun same => ?_
    subst same
    exact .inr ⟨rfl, queued, retries⟩
  | retryAddEarly d allocated queued retries =>
    rw [Core.Indexed, r.indexer_retryAddEarly] at indexed
    refine (put indexed).imp_right fun same => ?_
    subst same
    exact .inr ⟨rfl, queued, retries⟩
  | unindexAddresses d | forget d | beginDelete d => exact .inl (taken indexed)
  | _ => exact .inl (base.indexed indexed)

/-- An object is queued after an effect: it was before, or its operation has just failed. -/
theorem Effect.queued_source (base : Base r.toCore) (effect : Effect o r r')
    (queued : r'.Queued c) :
    r.Queued c ∨ ∃ op message, o = .response c op (some message) ∧ r' = r.enqueue c op ∧
      ((r.objects c).state ≠ .garbageCollectState ∨ op = .delete) := by
  obtain ⟨count, found⟩ := queued
  have named : (r'.objects c).uName = (r.objects c).uName := by
    obtain ⟨sameKind, sameId⟩ := effect.static (effect.queue_source base found).2.1
    rw [SecurityGroup.uName, SecurityGroup.uName, sameKind, sameId]
  rw [named] at found
  have slot := effect.slot base (r.objects c).uName
  rw [found] at slot
  rcases slot.securityGroup with ⟨before, there, _⟩ | ⟨_, _, _, failed⟩
  · exact .inl ⟨before, there⟩
  · exact .inr failed

end Nephe
