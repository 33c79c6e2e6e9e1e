import Nephe.Safety.RetryTags

/-!
# The first synchronization

`syncWithCloud` waits for three bookmarks.  It counts them without asking
which watch they come from.
-/

namespace Nephe

open Library

/-- The watch on which an event delivers a bookmark. -/
def Event.bookmark? : Event → Option Watch
  | .addrGroup .bookmark (.complete _ _) => some .addrGroup
  | .appliedToGroup .bookmark (.complete _ _) => some .appliedToGroup
  | .networkPolicy .bookmark _ => some .networkPolicy
  | _ => none

/-- The watches of the bookmarks of a run, in the order in which they arrive. -/
def bookmarked (labels : List Label) : List Watch :=
  labels.filterMap fun label => label.event.bookmark?

/-! ## Counting -/

variable {o : Origin} {r r' : Reconciler}

theorem Effect.bookmarkCnt (effect : Effect o r r') (other : o ≠ .bookmark) :
    r'.bookmarkCnt = r.bookmarkCnt := by
  cases effect with
  | bookmark => exact absurd rfl other
  | _ => rfl

theorem Effect.bookmarkCnt_le (effect : Effect o r r') : r.bookmarkCnt ≤ r'.bookmarkCnt := by
  cases effect with
  | bookmark => exact Nat.le_succ _
  | _ => exact Nat.le_refl _

theorem bookmarkCnt_effects {allowed : Origin → Prop} (effects : Effects allowed r r')
    (other : ¬ allowed .bookmark) : r'.bookmarkCnt = r.bookmarkCnt :=
  effects.invariant (fun r' => r'.bookmarkCnt = r.bookmarkCnt)
    (fun _ _ _ permitted effect before =>
      (effect.bookmarkCnt fun same => other (same ▸ permitted)).trans before) rfl

namespace Reconciler

variable {r : Reconciler}

theorem bookmarkCnt_syncWithCloud (base : Base r.toCore) :
    r.syncWithCloud.bookmarkCnt = r.bookmarkCnt :=
  bookmarkCnt_effects (syncWithCloud_effects base) (by simp [Origin.IsSync])

theorem bookmarkCnt_processBookMark (base : Base r.toCore) :
    r.processBookMark.bookmarkCnt ≤ r.bookmarkCnt + 1 := by
  simp only [processBookMark]
  split
  · exact Nat.le_succ _
  next early =>
    have counted : Base ({ r with bookmarkCnt := r.bookmarkCnt + 1 } : Reconciler).toCore :=
      (Effect.bookmark (by simpa using early)).base base
    exact (bookmarkCnt_syncWithCloud counted).le

theorem bookmarkCnt_processGrpEvent (base : Base r.toCore) (type : EventType)
    (object : GroupObject) (isAddrGrp : Bool)
    (other : ¬ ∃ name members, type = .bookmark ∧ object = .complete name members) :
    (r.processGrpEvent type object isAddrGrp).bookmarkCnt = r.bookmarkCnt := by
  by_cases bookmark : type = .bookmark
  · cases object with
    | complete name members => exact absurd ⟨name, members, bookmark, rfl⟩ other
    | patch name added removed => simp [processGrpEvent, bookmark]
  · refine bookmarkCnt_effects (processGrpEvent_effects base type object isAddrGrp) ?_
    rintro (⟨isBookmark, _⟩ | isGroup | ⟨stale, _⟩)
    · exact bookmark isBookmark
    · unfold Origin.IsGroup at isGroup
      split at isGroup <;> simp at isGroup
    · cases stale

/-- An event of the main loop counts at most the bookmark that it delivers. -/
theorem bookmarkCnt_handle (base : Base r.toCore) (event : Event) :
    (r.handle event).bookmarkCnt ≤ r.bookmarkCnt + event.bookmark?.toList.length := by
  have chained (quiet : ¬ Origin.OfEvent r.toCore event .bookmark) :
      (r.handle event).bookmarkCnt ≤ r.bookmarkCnt + event.bookmark?.toList.length :=
    (bookmarkCnt_effects (handle_effects base event) quiet).le.trans (Nat.le_add_right _ _)
  have grouped (type : EventType) (object : GroupObject) (isAddrGrp : Bool) (watch : Watch)
      (counted : ∀ name members, type = .bookmark → object = .complete name members →
        event.bookmark? = some watch) :
      (r.processGrpEvent type object isAddrGrp).bookmarkCnt ≤
        r.bookmarkCnt + event.bookmark?.toList.length := by
    by_cases bookmark : ∃ name members, type = .bookmark ∧ object = .complete name members
    · obtain ⟨name, members, rfl, rfl⟩ := bookmark
      rw [counted name members rfl rfl]
      exact bookmarkCnt_processBookMark base
    · exact (bookmarkCnt_processGrpEvent base type object isAddrGrp bookmark).le.trans
        (Nat.le_add_right _ _)
  cases event with
  | addrGroup type object =>
    simp only [handle]
    split
    · exact Nat.le_add_right _ _
    · refine grouped type object true .addrGroup ?_
      rintro name members rfl rfl
      rfl
  | appliedToGroup type object =>
    simp only [handle]
    split
    · exact Nat.le_add_right _ _
    · refine grouped type object false .appliedToGroup ?_
      rintro name members rfl rfl
      rfl
  | networkPolicy type anp =>
    by_cases bookmark : type = .bookmark
    · subst bookmark
      exact bookmarkCnt_processBookMark base
    · exact chained (by simp [Origin.OfEvent, Origin.IsPolicy, bookmark])
  | watchClosed | execute | answer | background => exact chained (by simp [Origin.OfEvent])
  | respond =>
    exact chained (by simp [Origin.OfEvent, Origin.IsResponse, Origin.IsTick])
  | checkToRun => exact chained (by simp [Origin.OfEvent, Origin.IsTick])
  | cloudSync => exact chained (by simp [Origin.OfEvent, Origin.IsSync])

end Reconciler

theorem System.step_bookmarkCnt (s : System) (label : Label) (base : Base s.reconciler.toCore) :
    (s.step label).reconciler.bookmarkCnt ≤
      s.reconciler.bookmarkCnt + label.event.bookmark?.toList.length := by
  cases running : s.reconciler.panicked with
  | true =>
    rw [s.step_panicked label running]
    exact Nat.le_add_right _ _
  | false =>
    have entered : Base (s.reconciler.enter label).toCore :=
      (Effect.enter label.env label.order).base base
    have handled := Reconciler.bookmarkCnt_handle entered label.event
    simp only [System.step, running, Bool.false_eq_true, if_false]
    cases there : label.event with
    | execute position fault =>
      exact (bookmarkCnt_effects
        (System.execute_effects ⟨s.reconciler.enter label, s.cloud⟩ position fault)
        (by simp)).le.trans (Nat.le_add_right _ _)
    | _ =>
      rw [there] at handled
      exact handled

/-- No run counts more bookmarks than it delivers. -/
theorem run_bookmarkCnt (labels : List Label) {s : System} (base : Base s.reconciler.toCore) :
    (run System.step s labels).reconciler.bookmarkCnt ≤
      s.reconciler.bookmarkCnt + (bookmarked labels).length := by
  induction labels generalizing s with
  | nil => exact Nat.le_refl _
  | cons label rest induction =>
    have counted := s.step_bookmarkCnt label base
    have after := induction (s.base_step label base)
    have delivered : (bookmarked (label :: rest)).length =
        label.event.bookmark?.toList.length + (bookmarked rest).length := by
      cases there : label.event.bookmark? <;> simp [bookmarked, there, Nat.add_comm]
    simp only [run, List.foldl_cons] at after ⊢
    omega

/-! ## The first sync -/

/-- A sync has only been started after three bookmarks. -/
def SyncsCounted (r : Reconciler) : Prop :=
  ∀ x ∈ r.observed, x.action = .getSecurityGroupSyncChan →
    npSyncReadyBookMarkCnt ≤ r.bookmarkCnt

theorem Effect.syncsCounted (effect : Effect o r r') (before : SyncsCounted r) :
    SyncsCounted r' := by
  intro x member action
  refine le_trans ?_ effect.bookmarkCnt_le
  exact (effect.listen_source member action).elim (before x · action) id

/-- Three bookmarks of different watches are one of each watch. -/
theorem mem_of_distinct {watches : List Watch}
    (distinct : (watches.take npSyncReadyBookMarkCnt).Nodup)
    (enough : npSyncReadyBookMarkCnt ≤ watches.length) (watch : Watch) : watch ∈ watches := by
  match watches, enough with
  | first :: second :: third :: rest, _ =>
    simp only [npSyncReadyBookMarkCnt, List.take_succ_cons, List.take_zero] at distinct
    revert distinct
    cases first <;> cases second <;> cases third <;> cases watch <;> simp

/--
If the first three bookmarks come from different watches, no sync is started
before every watch has delivered one.
-/
theorem sync_after_all_watches (cloud : Cloud) (labels : List Label)
    (distinct : ((bookmarked labels).take npSyncReadyBookMarkCnt).Nodup) :
    ∀ before, before <+: labels →
      (∃ x ∈ (run System.step (System.initial cloud) before).reconciler.observed,
        x.action = .getSecurityGroupSyncChan) →
      ∀ watch, watch ∈ bookmarked before := by
  rintro before ⟨rest, rfl⟩ ⟨x, member, action⟩ watch
  have first : ((bookmarked before).take npSyncReadyBookMarkCnt).Nodup := by
    have order : bookmarked before <+: bookmarked (before ++ rest) :=
      ⟨bookmarked rest, (List.filterMap_append ..).symm⟩
    exact distinct.sublist (order.take _).sublist
  have counted : SyncsCounted (run System.step (System.initial cloud) before).reconciler :=
    (run_unconditional SyncsCounted (fun _ _ _ _ effect => effect.syncsCounted)
      (fun _ member => absurd member List.not_mem_nil) cloud before).2
  have delivered := run_bookmarkCnt before (s := System.initial cloud) base_setup
  have enough := counted x member action
  refine mem_of_distinct first (enough.trans (delivered.trans ?_)) watch
  exact (Nat.zero_add _).le

/-- The three watches deliver one bookmark each. -/
theorem sync_after_sample_watches :
    (∃ x ∈ (Sample.after Sample.bookmarks).reconciler.observed,
        x.action = .getSecurityGroupSyncChan) ∧
      ∀ watch, watch ∈ bookmarked (Sample.steps Sample.bookmarks) :=
  have synced : ∃ x ∈ (Sample.after Sample.bookmarks).reconciler.observed,
      x.action = .getSecurityGroupSyncChan := by decide +kernel
  ⟨synced, sync_after_all_watches _ (Sample.steps Sample.bookmarks) (by decide) _
    (List.prefix_refl _) synced⟩

/-- One watch is opened again and again and repeats its bookmark. -/
def Sample.repeatedBookmark : List Event :=
  [.addrGroup .bookmark (.complete "" []), .watchClosed .addrGroup,
    .addrGroup .bookmark (.complete "" []), .watchClosed .addrGroup,
    .addrGroup .bookmark (.complete "" [])]

/-- Three bookmarks of one watch start a sync before the other two deliver any. -/
theorem sync_before_other_watches :
    ¬ ∀ before, before <+: Sample.steps Sample.repeatedBookmark →
      (∃ x ∈ (run System.step (System.initial fun _ => none) before).reconciler.observed,
        x.action = .getSecurityGroupSyncChan) →
      ∀ watch, watch ∈ bookmarked before := by
  intro after
  have all := after _ (List.prefix_refl _) (by decide +kernel) .networkPolicy
  exact absurd all (by decide)

end Nephe
