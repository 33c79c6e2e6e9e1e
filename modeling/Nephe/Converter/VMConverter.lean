import Nephe.Crd.VirtualMachine
import Nephe.Library.Runs
import Nephe.Library.Text

/-!
# Converting virtual machines into external entities

`VMConverter` (`pkg/converter/source/virtualmachine_converter.go`) keeps an
`ExternalEntity` for every virtual machine.  An event that fails is tried again
when its timer fires; one record for each entity counts the failures and holds
the event they belong to.

Whether an event is newer than the one in the record is decided by comparing
generations.  Events that share their generation share the record, and an older
one that waits for its timer can be retried in place of a newer one that fails.
Otherwise older events never undo newer ones.
-/

namespace Nephe.Converter

open Library Crd

/-! ## External entities -/

def externalEntityLabelKeyNamespace : String := "namespace.nephe"
def externalEntityLabelKeyKind : String := "kind.nephe"
def externalEntityLabelKeyName : String := "name.nephe"
def externalEntityLabelKeyTagPostfix : String := ".tag.nephe"
def externalEntityLabelCloudVPCKey : String := "vpc.nephe"
def anpNepheController : String := "nephe-controller"

def labelSizeLimit : Nat := 64

/-- The part of an `ExternalEntity` that the converter writes. -/
structure ExternalEntity where
  labels : GoMap String String
  endpoints : List String
  externalNode : String

/-- `ReplaceAllString(text, "")` for `LabelExpression`. -/
def withoutOtherCharacters (text : String) : String :=
  String.ofList (text.toList.filter fun c => c.isAlphanum || c == '_' || c == '-')

/-- The slice of a text up to `LabelSizeLimit`. -/
def limited (text : String) : String :=
  String.ofList (text.toList.take labelSizeLimit)

/-- The label of a tag. -/
def labelOfTag (tag : String × String) : String × String :=
  (toLower (limited (withoutOtherCharacters tag.1 ++ externalEntityLabelKeyTagPostfix)),
    toLower (limited (withoutOtherCharacters tag.2)))

/-- `GetEndPointAddresses`; it never fails. -/
def getEndPointAddresses (vm : VirtualMachine) : List String :=
  (getVMIPAddresses vm).map (·.address)

/-- `PopulateExternalEntityFrom`; the code orders the loop over the tags. -/
def populateExternalEntityFrom (code : Nat) (vm : VirtualMachine) : ExternalEntity :=
  let labels : GoMap String String := ∅
  let labels := labels.set externalEntityLabelKeyKind "virtualmachine"
  let labels := labels.set externalEntityLabelKeyName (toLower vm.name)
  let labels := labels.set externalEntityLabelKeyNamespace (toLower vm.namespace)
  let labels := labels.set externalEntityLabelCloudVPCKey vm.status.virtualPrivateCloud
  { labels := (arrange code vm.status.tags.bindings).foldl
      (fun labels tag => labels.set (labelOfTag tag).1 (labelOfTag tag).2) labels
    endpoints := getEndPointAddresses vm
    externalNode := anpNepheController }

/-- `GetObjectKeyFromSource`, as the string that the records are kept under. -/
def fetchKey (vm : VirtualMachine) : String :=
  vm.namespace ++ "/" ++ ("virtualmachine-" ++ vm.name)

/-! ## The converter -/

def maxRetry : Nat := 5

/-- `retryRecord`. -/
structure RetryRecord where
  retryCount : Nat
  item : VirtualMachine

/--
The converter and the API server: the records of failures, the events whose
timers have not been served, and the entities that exist.
-/
structure VMConverter where
  failedUpdates : GoMap String RetryRecord
  timers : List VirtualMachine
  entities : GoMap String ExternalEntity

/-- `Start` makes an empty map; the API server may hold anything. -/
def VMConverter.start (entities : GoMap String ExternalEntity) : VMConverter :=
  ⟨∅, [], entities⟩

/-- How the API server answers the calls of one event: with an error, or not. -/
structure Answers where
  get : Option String := none
  write : Option String := none
  /-- The order of a loop over tags. -/
  code : Nat := 0

/-- What becomes of an event. -/
inductive Outcome where
  | ignored
  | applied
  | retried
  | abandoned
deriving DecidableEq, Repr

/-- `isNewEvent`. -/
def isNewEvent (cur record : VirtualMachine) : Bool :=
  cur.generation != record.generation

namespace VMConverter

/-- The API calls of `processEvent`: the error, and the entities afterwards. -/
def convert (answers : Answers) (vm : VirtualMachine) (entities : GoMap String ExternalEntity) :
    Option String × GoMap String ExternalEntity :=
  let isDelete := (getEndPointAddresses vm).isEmpty
  match answers.get with
  | some err => (some err, entities)
  | none =>
    let isNotFound := (entities.get? (fetchKey vm)).isNone
    if isDelete && isNotFound then (none, entities)
    else
      match answers.write with
      | some err => (some err, entities)
      | none =>
        if isDelete then (none, entities.remove (fetchKey vm))
        else (none, entities.set (fetchKey vm) (populateExternalEntityFrom answers.code vm))

/-- The record that a failure of the event is counted in. -/
def recordOf (vm : VirtualMachine) (v : VMConverter) : RetryRecord :=
  match v.failedUpdates.get? (fetchKey vm) with
  | none => ⟨0, vm⟩
  | some record => if isNewEvent vm record.item then ⟨0, vm⟩ else record

/-- The deferred function of `processEvent`. -/
def settle (vm : VirtualMachine) (err : Option String) (v : VMConverter) :
    Outcome × VMConverter :=
  match err with
  | none => (.applied, { v with failedUpdates := v.failedUpdates.remove (fetchKey vm) })
  | some _ =>
    let record := v.recordOf vm
    let record := { record with retryCount := record.retryCount + 1 }
    if maxRetry ≤ record.retryCount then
      (.abandoned, { v with failedUpdates := v.failedUpdates.remove (fetchKey vm) })
    else
      (.retried,
        { v with
          failedUpdates := v.failedUpdates.set (fetchKey vm) record
          timers := v.timers ++ [vm] })

/-- A retry is ignored if a newer event has succeeded or is being retried. -/
def ignoresRetry (vm : VirtualMachine) (v : VMConverter) : Bool :=
  match v.failedUpdates.get? (fetchKey vm) with
  | none => true
  | some retry => isNewEvent retry.item vm

/-- `processEvent`. -/
def processEvent (answers : Answers) (vm : VirtualMachine) (isRetry : Bool) (v : VMConverter) :
    Outcome × VMConverter :=
  if isRetry && v.ignoresRetry vm then (.ignored, v)
  else
    let (err, entities) := convert answers vm v.entities
    settle vm err { v with entities }

end VMConverter

/-- What the loop of `Start` can receive: a new event, or one whose timer has fired. -/
inductive Label where
  | receive (vm : VirtualMachine) (answers : Answers)
  | retry (position : Nat) (answers : Answers)

namespace VMConverter

/-- The event that an iteration of the loop handles, and what becomes of it. -/
def handle (v : VMConverter) (label : Label) : Option (VirtualMachine × Outcome) × VMConverter :=
  match label with
  | .receive vm answers =>
    let (outcome, v) := v.processEvent answers vm false
    (some (vm, outcome), v)
  | .retry position answers =>
    match v.timers[position]? with
    | none => (none, v)
    | some vm =>
      let (outcome, v) :=
        { v with timers := v.timers.eraseIdx position }.processEvent answers vm true
      (some (vm, outcome), v)

/-- One iteration of the loop. -/
def step (v : VMConverter) (label : Label) : VMConverter :=
  (v.handle label).2

/-- The event that the iteration treats that way. -/
def Treats (v : VMConverter) (label : Label) (vm : VirtualMachine) (outcome : Outcome) : Prop :=
  (v.handle label).1 = some (vm, outcome)

end VMConverter

/-! ## What one event can do -/

/-- The entity is what the event asks for. -/
def Reflects (entities : GoMap String ExternalEntity) (vm : VirtualMachine) : Prop :=
  if (getEndPointAddresses vm).isEmpty then entities.get? (fetchKey vm) = none
  else ∃ code, entities.get? (fetchKey vm) = some (populateExternalEntityFrom code vm)

/-- An event that is not ignored, with its outcome and the state afterwards. -/
inductive Processed (v : VMConverter) (vm : VirtualMachine) : Outcome → VMConverter → Prop where
  | applied (entities : GoMap String ExternalEntity) (reflects : Reflects entities vm)
      (others : ∀ key ≠ fetchKey vm, entities.get? key = v.entities.get? key) :
      Processed v vm .applied
        { v with entities, failedUpdates := v.failedUpdates.remove (fetchKey vm) }
  | retried (retryCount : Nat) :
      Processed v vm .retried
        { v with
          failedUpdates := v.failedUpdates.set (fetchKey vm) ⟨retryCount, (v.recordOf vm).item⟩
          timers := v.timers ++ [vm] }
  | abandoned :
      Processed v vm .abandoned { v with failedUpdates := v.failedUpdates.remove (fetchKey vm) }

namespace VMConverter

variable {v : VMConverter} {vm : VirtualMachine}

/-- The API calls fail and change nothing, or make the entity what the event asks for. -/
theorem convert_cases (answers : Answers) (vm : VirtualMachine)
    (entities : GoMap String ExternalEntity) :
    (∃ err, convert answers vm entities = (some err, entities)) ∨
      ∃ entities', convert answers vm entities = (none, entities') ∧ Reflects entities' vm ∧
        ∀ key ≠ fetchKey vm, entities'.get? key = entities.get? key := by
  unfold convert
  cases answers.get with
  | some err => exact .inl ⟨err, rfl⟩
  | none =>
    cases isDelete : (getEndPointAddresses vm).isEmpty with
    | true =>
      have asked (entities' : GoMap String ExternalEntity)
          (gone : entities'.get? (fetchKey vm) = none) : Reflects entities' vm := by
        rw [Reflects, isDelete, if_pos rfl]
        exact gone
      cases found : entities.get? (fetchKey vm) with
      | none => exact .inr ⟨entities, rfl, asked entities found, fun _ _ => rfl⟩
      | some entity =>
        cases answers.write with
        | some err => exact .inl ⟨err, rfl⟩
        | none =>
          exact .inr ⟨_, rfl, asked _ (GoMap.get?_remove_self _ _), fun key other =>
            GoMap.get?_remove_of_ne _ other⟩
    | false =>
      cases answers.write with
      | some err => exact .inl ⟨err, rfl⟩
      | none =>
        refine .inr ⟨_, rfl, ?_, fun key other => GoMap.get?_set_of_ne _ _ other⟩
        rw [Reflects, isDelete, if_neg Bool.false_ne_true]
        exact ⟨answers.code, GoMap.get?_set_self _ _ _⟩

theorem processEvent_ignored (answers : Answers) (ignored : v.ignoresRetry vm = true) :
    v.processEvent answers vm true = (.ignored, v) := by
  rw [processEvent, ignored]
  rfl

theorem processEvent_processed (answers : Answers) (isRetry : Bool)
    (due : isRetry = true → v.ignoresRetry vm = false) :
    Processed v vm (v.processEvent answers vm isRetry).1 (v.processEvent answers vm isRetry).2 := by
  have runs : (isRetry && v.ignoresRetry vm) = false := by
    cases isRetry with
    | false => rfl
    | true => exact due rfl
  rw [processEvent, runs, if_neg Bool.false_ne_true]
  rcases convert_cases answers vm v.entities with ⟨err, failed⟩ | ⟨entities, done, reflects, others⟩
  · rw [failed]
    simp only [settle]
    split
    · exact .abandoned
    · exact .retried _
  · rw [done]
    exact .applied entities reflects others

end VMConverter

/-! ## Runs -/

/-- The event of a key that an iteration receives. -/
def Label.received? (key : String) : Label → Option VirtualMachine
  | .receive vm _ => if fetchKey vm = key then some vm else none
  | .retry _ _ => none

/-- The events of a key that are received, in order. -/
def received (key : String) (labels : List Label) : List VirtualMachine :=
  labels.filterMap (Label.received? key)

theorem received_append (key : String) (first second : List Label) :
    received key (first ++ second) = received key first ++ received key second :=
  List.filterMap_append

theorem received_cons (key : String) (label : Label) (rest : List Label) :
    received key (label :: rest) = (label.received? key).toList ++ received key rest := by
  cases here : label.received? key with
  | none => rw [received, List.filterMap_cons_none here]; rfl
  | some vm => rw [received, List.filterMap_cons_some here]; rfl

/--
Events of a key do not undo newer ones, and without a pending timer the entity
is up to date.
-/
structure KeepsNewest (v : VMConverter) (key : String) (labels : List Label) : Prop where
  /-- Whatever is applied is the newest event that has been received. -/
  applied : ∀ before label after, labels = before ++ label :: after →
    ∀ vm, (run VMConverter.step v before).Treats label vm .applied → fetchKey vm = key →
      (received key (before ++ [label])).getLast? = some vm
  /-- The newest event is reflected, unless it has been abandoned or its timer is pending. -/
  reflected : ∀ before vm answers after, labels = before ++ .receive vm answers :: after →
    fetchKey vm = key → received key after = [] →
    (∀ first label rest, .receive vm answers :: after = first ++ label :: rest →
      ¬ (run VMConverter.step v (before ++ first)).Treats label vm .abandoned) →
    (∀ timer ∈ (run VMConverter.step v labels).timers, fetchKey timer ≠ key) →
    Reflects (run VMConverter.step v labels).entities vm

/--
A new event that is to be tried again finds no timer of another event with its key and
generation.
-/
def VMConverter.Undisturbed (key : String) (v : VMConverter) : Label → Prop
  | .receive vm answers => fetchKey vm = key →
      (v.processEvent answers vm false).1 = .retried →
      ∀ timer ∈ v.timers, fetchKey timer = key → timer.generation = vm.generation → timer = vm
  | .retry _ _ => True

/-- So it is in all iterations of a run. -/
def Undisturbed (key : String) (v : VMConverter) : List Label → Prop
  | [] => True
  | label :: rest => v.Undisturbed key label ∧ Undisturbed key (v.step label) rest

theorem undisturbed_append {key : String} {v : VMConverter} {first second : List Label} :
    Undisturbed key v (first ++ second) ↔
      Undisturbed key v first ∧ Undisturbed key (run VMConverter.step v first) second := by
  induction first generalizing v with
  | nil => exact (and_iff_right trivial).symm
  | cons label rest induction =>
    rw [List.cons_append, Undisturbed, Undisturbed, induction, and_assoc]
    rfl

/--
What holds between two iterations, given the events of a key received so far:
a record is about the newest of them, whose timer is pending, but no other timer
of its generation.  Without a record the newest event has been applied or abandoned.
-/
structure Newest (key : String) (events : List VirtualMachine) (gaveUp : Prop)
    (v : VMConverter) : Prop where
  record : ∀ record, v.failedUpdates.get? key = some record →
    events.getLast? = some record.item ∧ record.item ∈ v.timers
  alone : ∀ record, v.failedUpdates.get? key = some record → ∀ timer ∈ v.timers,
    fetchKey timer = key → timer.generation = record.item.generation → timer = record.item
  settled : v.failedUpdates.get? key = none → ∀ vm, events.getLast? = some vm →
    gaveUp ∨ Reflects v.entities vm
  keyed : ∀ vm ∈ events, fetchKey vm = key

namespace Newest

variable {key : String} {events : List VirtualMachine} {gaveUp : Prop} {v v' : VMConverter}
  {vm : VirtualMachine} {outcome : Outcome}

theorem mono {gaveUp' : Prop} (newest : Newest key events gaveUp v)
    (implies : gaveUp → gaveUp') : Newest key events gaveUp' v where
  record := newest.record
  alone := newest.alone
  settled absent latest last := (newest.settled absent latest last).imp_left implies
  keyed := newest.keyed

/-- A record is about an event of the key. -/
theorem keyed_record (newest : Newest key events gaveUp v) {record : RetryRecord}
    (there : v.failedUpdates.get? key = some record) : fetchKey record.item = key :=
  newest.keyed _ (List.mem_of_getLast? (newest.record record there).1)

/-- Nothing of the key has changed. -/
theorem congr (newest : Newest key events gaveUp v)
    (record : v'.failedUpdates.get? key = v.failedUpdates.get? key)
    (timers : ∀ vm, fetchKey vm = key → (vm ∈ v'.timers ↔ vm ∈ v.timers))
    (entity : v'.entities.get? key = v.entities.get? key) : Newest key events gaveUp v' where
  record found there := by
    rw [record] at there
    exact (newest.record found there).imp_right (timers _ (newest.keyed_record there)).mpr
  alone found there timer member mine :=
    newest.alone found (record ▸ there) timer ((timers timer mine).mp member) mine
  settled absent latest last := by
    have mine := newest.keyed latest (List.mem_of_getLast? last)
    simpa only [Reflects, mine, entity] using newest.settled (record ▸ absent) latest last
  keyed := newest.keyed

/-- Without a record only the newest event counts. -/
theorem of_absent (absent : v.failedUpdates.get? key = none)
    (settled : ∀ vm, events.getLast? = some vm → gaveUp ∨ Reflects v.entities vm)
    (keyed : ∀ vm ∈ events, fetchKey vm = key) : Newest key events gaveUp v where
  record _ there := by cases absent.symm.trans there
  alone _ there := by cases absent.symm.trans there
  settled _ := settled
  keyed := keyed

theorem other (newest : Newest key events gaveUp v) (different : fetchKey vm ≠ key)
    (processed : Processed v vm outcome v') : Newest key events gaveUp v' := by
  cases processed with
  | applied entities reflects others =>
    exact newest.congr (GoMap.get?_remove_of_ne _ different.symm) (fun _ _ => Iff.rfl)
      (others key different.symm)
  | retried retryCount =>
    refine newest.congr (GoMap.get?_set_of_ne _ _ different.symm) (fun timer mine => ?_) rfl
    refine List.mem_append.trans (or_iff_left fun new => different ?_)
    rw [← List.mem_singleton.mp new, mine]
  | abandoned =>
    exact newest.congr (GoMap.get?_remove_of_ne _ different.symm) (fun _ _ => Iff.rfl) rfl

/-- The newest event is processed; its failures are counted in a record of its own. -/
theorem processed (keyed : ∀ vm ∈ events, fetchKey vm = key) (last : events.getLast? = some vm)
    (own : outcome = .retried → (v.recordOf vm).item = vm ∧ ∀ timer ∈ v.timers,
      fetchKey timer = key → timer.generation = vm.generation → timer = vm)
    (processed : Processed v vm outcome v') :
    Newest key events (outcome = .abandoned) v' := by
  obtain rfl := keyed vm (List.mem_of_getLast? last)
  cases processed with
  | applied entities reflects others =>
    refine of_absent (GoMap.get?_remove_self _ _) (fun latest last' => .inr ?_) keyed
    obtain rfl := Option.some.inj (last.symm.trans last')
    exact reflects
  | retried retryCount =>
    obtain ⟨itsOwn, alone⟩ := own rfl
    have stored := GoMap.get?_set_self v.failedUpdates (fetchKey vm)
      ⟨retryCount, (v.recordOf vm).item⟩
    refine ⟨fun found there => ?_, fun found there timer member mine same => ?_,
      fun absent => ?_, keyed⟩
    · cases stored.symm.trans there
      rw [itsOwn]
      exact ⟨last, List.mem_append_right _ List.mem_cons_self⟩
    · cases stored.symm.trans there
      rw [itsOwn] at same ⊢
      rcases List.mem_append.mp member with old | new
      · exact alone timer old mine same
      · exact List.mem_singleton.mp new
    · cases absent.symm.trans stored
  | abandoned =>
    exact of_absent (GoMap.get?_remove_self _ _) (fun _ _ => .inl rfl) keyed

/-- A new event that fails finds no record that it shares with another one. -/
theorem receive (newest : Newest key events gaveUp v) (answers : Answers)
    (undisturbed : v.Undisturbed key (.receive vm answers)) (mine : fetchKey vm = key) :
    Newest key (events ++ [vm]) (v.Treats (.receive vm answers) vm .abandoned)
      (v.step (.receive vm answers)) := by
  have result : Newest key (events ++ [vm]) ((v.processEvent answers vm false).1 = .abandoned)
      (v.processEvent answers vm false).2 := by
    refine processed ?_ List.getLast?_concat (fun retried => ?_)
      (VMConverter.processEvent_processed answers false (by simp))
    · intro event member
      rcases List.mem_append.mp member with old | new
      · exact newest.keyed event old
      · rw [List.mem_singleton.mp new]
        exact mine
    · have alone := undisturbed mine retried
      refine ⟨?_, alone⟩
      rw [VMConverter.recordOf]
      cases found : v.failedUpdates.get? (fetchKey vm) with
      | none => rfl
      | some record =>
        rw [mine] at found
        dsimp only
        split
        · rfl
        · -- The timer of the record's event is pending, so this is the same event.
          next old =>
            have same : vm.generation = record.item.generation := by
              simpa [isNewEvent] using old
            exact alone _ (newest.record record found).2 (newest.keyed_record found) same.symm
  simpa only [VMConverter.Treats, VMConverter.step, VMConverter.handle, Option.some.injEq,
    Prod.mk.injEq, true_and] using result

theorem erase (newest : Newest key events gaveUp v) {position : Nat}
    (found : v.timers[position]? = some vm)
    (different : ∀ record, v.failedUpdates.get? key = some record → record.item ≠ vm) :
    Newest key events gaveUp { v with timers := v.timers.eraseIdx position } := by
  refine ⟨fun record there => ?_, fun record there timer member => ?_, newest.settled,
    newest.keyed⟩
  · obtain ⟨last, pending⟩ := newest.record record there
    refine ⟨last, List.mem_eraseIdx_iff_getElem?.mpr ?_⟩
    obtain ⟨index, here⟩ := List.mem_iff_getElem?.mp pending
    refine ⟨index, ?_, here⟩
    rintro rfl
    exact different record there (Option.some.inj (here.symm.trans found))
  · exact newest.alone record there timer (List.mem_of_mem_eraseIdx member)

/-- An event that is tried again is the newest one, or of another key. -/
theorem retry (newest : Newest key events gaveUp v) {position : Nat}
    (found : v.timers[position]? = some vm) (answers : Answers) :
    ((v.handle (.retry position answers)).1 = some (vm, .ignored) ∨ fetchKey vm ≠ key ∨
        events.getLast? = some vm) ∧
      Newest key events
        (gaveUp ∨ events.getLast? = some vm ∧
          v.Treats (.retry position answers) vm .abandoned)
        (v.step (.retry position answers)) := by
  let waiting : VMConverter := { v with timers := v.timers.eraseIdx position }
  have handled : v.handle (.retry position answers) =
      (some (vm, (waiting.processEvent answers vm true).1),
        (waiting.processEvent answers vm true).2) := by
    simp only [VMConverter.handle, found, waiting]
  rw [VMConverter.step, handled]
  cases ignored : waiting.ignoresRetry vm with
  | true =>
    rw [VMConverter.processEvent_ignored answers ignored]
    refine ⟨.inl rfl, (newest.erase found fun record there => ?_).mono .inl⟩
    rintro rfl
    rw [VMConverter.ignoresRetry, newest.keyed_record there] at ignored
    simp [waiting, there, isNewEvent] at ignored
  | false =>
    have processed : Processed waiting vm _ _ :=
      VMConverter.processEvent_processed answers true fun _ => ignored
    by_cases mine : fetchKey vm = key
    · subst mine
      -- The record is about an event of the same generation, which is this one.
      rw [VMConverter.ignoresRetry] at ignored
      cases there : waiting.failedUpdates.get? (fetchKey vm) with
      | none =>
        rw [there] at ignored
        cases ignored
      | some record =>
        simp only [there, isNewEvent, bne_eq_false_iff_eq] at ignored
        have same := newest.alone record there vm (List.mem_of_getElem? found) rfl ignored.symm
        obtain ⟨last, -⟩ := newest.record record there
        rw [← same] at last
        have own : (waiting.recordOf vm).item = vm := by
          simp [VMConverter.recordOf, there, isNewEvent, ← same]
        refine ⟨.inr (.inr last), (Newest.processed newest.keyed last (fun _ => ⟨own,
          fun timer member => ?_⟩) processed).mono fun abandoned => .inr ⟨last, ?_⟩⟩
        · have only := newest.alone record there timer (List.mem_of_mem_eraseIdx member)
          rwa [← same] at only
        · rw [VMConverter.Treats, handled, abandoned]
    · refine ⟨.inr (.inl mine), ((newest.erase found fun record there => ?_).other mine
        processed).mono .inl⟩
      rintro rfl
      exact mine (newest.keyed_record there)

theorem step (newest : Newest key events gaveUp v) (label : Label)
    (undisturbed : v.Undisturbed key label) :
    (∀ vm, v.Treats label vm .applied → fetchKey vm = key →
        (events ++ (label.received? key).toList).getLast? = some vm) ∧
      Newest key (events ++ (label.received? key).toList)
        ((label.received? key = none ∧ gaveUp) ∨
          ∃ vm, (events ++ (label.received? key).toList).getLast? = some vm ∧
            v.Treats label vm .abandoned)
        (v.step label) := by
  cases label with
  | receive vm answers =>
    have treated {vm' : VirtualMachine} {outcome : Outcome}
        (treats : v.Treats (.receive vm answers) vm' outcome) : vm' = vm := by
      simp only [VMConverter.Treats, VMConverter.handle, Option.some.injEq, Prod.mk.injEq]
        at treats
      exact treats.1.symm
    by_cases mine : fetchKey vm = key
    · simp only [Label.received?, mine, if_true, Option.toList_some]
      refine ⟨fun vm' treats _ => ?_, (newest.receive answers undisturbed mine).mono
        fun abandoned => .inr ⟨vm, List.getLast?_concat, abandoned⟩⟩
      rw [treated treats]
      exact List.getLast?_concat
    · simp only [Label.received?, mine, if_false, Option.toList_none, List.append_nil]
      exact ⟨fun vm' treats same => absurd (treated treats ▸ same) mine,
        (newest.other mine (VMConverter.processEvent_processed answers false (by simp))).mono
          fun before => .inl ⟨trivial, before⟩⟩
  | retry position answers =>
    simp only [Label.received?, Option.toList_none, List.append_nil]
    cases found : v.timers[position]? with
    | none =>
      have idle : v.handle (.retry position answers) = (none, v) := by
        simp only [VMConverter.handle, found]
      rw [VMConverter.step, idle]
      refine ⟨fun vm treats => ?_, newest.mono fun before => .inl ⟨trivial, before⟩⟩
      rw [VMConverter.Treats, idle] at treats
      cases treats
    | some vm =>
      obtain ⟨due, kept⟩ := newest.retry found answers
      have treated {vm' : VirtualMachine} {outcome : Outcome}
          (treats : v.Treats (.retry position answers) vm' outcome) : vm' = vm := by
        simp only [VMConverter.Treats, VMConverter.handle, found, Option.some.injEq,
          Prod.mk.injEq] at treats
        exact treats.1.symm
      refine ⟨fun vm' treats same => ?_, kept.mono ?_⟩
      · obtain rfl := treated treats
        rcases due with ignored | other | last
        · rw [VMConverter.Treats, ignored] at treats
          cases treats
        · exact absurd same other
        · exact last
      · rintro (before | ⟨last, abandoned⟩)
        · exact .inl ⟨trivial, before⟩
        · exact .inr ⟨vm, last, abandoned⟩

theorem run (newest : Newest key events gaveUp v) (labels : List Label)
    (undisturbed : Undisturbed key v labels) :
    ∃ gaveUp', Newest key (events ++ received key labels) gaveUp'
      (run VMConverter.step v labels) := by
  induction labels generalizing events gaveUp v with
  | nil =>
    rw [received, List.filterMap_nil, List.append_nil]
    exact ⟨gaveUp, newest⟩
  | cons label rest induction =>
    rw [received_cons, ← List.append_assoc]
    exact induction (newest.step label undisturbed.1).2 undisturbed.2

/-- While the newest event is not given up, it is applied or its timer is pending. -/
theorem kept (newest : Newest key events False v) (last : events.getLast? = some vm)
    (labels : List Label) (undisturbed : Undisturbed key v labels)
    (none : received key labels = [])
    (tried : ∀ first label rest, labels = first ++ label :: rest →
      ¬ (Library.run VMConverter.step v first).Treats label vm .abandoned) :
    Newest key events False (Library.run VMConverter.step v labels) := by
  induction labels generalizing v with
  | nil => exact newest
  | cons label rest induction =>
    obtain ⟨first, later⟩ := List.append_eq_nil_iff.mp (received_cons key label rest ▸ none)
    have silent : label.received? key = .none := Option.toList_eq_nil_iff.mp first
    have after := (newest.step label undisturbed.1).2
    simp only [silent, Option.toList_none, List.append_nil, and_false, false_or] at after
    refine induction (after.mono ?_) undisturbed.2 later fun first later rest' parts => ?_
    · rintro ⟨vm', isLast, abandoned⟩
      obtain rfl := Option.some.inj (last.symm.trans isLast)
      exact tried [] label rest rfl abandoned
    · exact tried (label :: first) later rest' (by rw [parts]; rfl)

end Newest

theorem newest_start (key : String) (entities : GoMap String ExternalEntity) :
    Newest key [] False (VMConverter.start entities) :=
  .of_absent rfl (by rintro _ ⟨⟩) (by rintro _ ⟨⟩)

/--
If no new event of a key fails while the timer of another one with its generation is pending,
older events never undo newer ones, and the entity is up to date when no timer is pending and
the newest event has not been abandoned.
-/
theorem newer_events_are_kept (entities : GoMap String ExternalEntity) (key : String)
    (labels : List Label) (undisturbed : Undisturbed key (VMConverter.start entities) labels) :
    KeepsNewest (VMConverter.start entities) key labels := by
  have start := newest_start key entities
  constructor
  · rintro before label after rfl vm applied mine
    have parts : received key (before ++ [label]) =
        received key before ++ (label.received? key).toList := by
      rw [received_append, received_cons]
      exact congrArg _ (List.append_nil _)
    obtain ⟨early, here, _⟩ := undisturbed_append.mp undisturbed
    obtain ⟨gaveUp, newest⟩ := start.run before early
    rw [List.nil_append] at newest
    rw [parts]
    exact (newest.step label here).1 vm applied mine
  · rintro before vm answers after rfl mine silent tried idle
    obtain ⟨early, here, late⟩ := undisturbed_append.mp undisturbed
    obtain ⟨gaveUp, newest⟩ := start.run before early
    rw [List.nil_append] at newest
    have first : Newest key (received key before ++ [vm]) False _ :=
      (newest.receive answers here mine).mono fun abandoned =>
        tried [] _ after rfl (by simpa using abandoned)
    have end_ := first.kept List.getLast?_concat after late silent
      fun steps label rest parts abandoned =>
        tried (.receive vm answers :: steps) label rest (by rw [parts]; rfl) (by
          simpa [run, List.foldl_append] using abandoned)
    have whole : run VMConverter.step (VMConverter.start entities)
        (before ++ .receive vm answers :: after) =
      run VMConverter.step ((run VMConverter.step (VMConverter.start entities) before).step
        (.receive vm answers)) after := by
      simp [run, List.foldl_append]
    rw [whole] at idle ⊢
    refine (end_.settled ?_ vm List.getLast?_concat).resolve_left id
    refine Option.eq_none_iff_forall_not_mem.mpr fun record there => ?_
    exact idle record.item (end_.record record there).2 (end_.keyed_record there)

namespace Sample

/-- A machine with one address. -/
def machine (generation : Int) (address : String) : VirtualMachine where
  «namespace» := "default"
  name := "web"
  generation := generation
  ownerReferences := []
  status := ⟨"AWS", "vpc-1", ∅, [⟨"eth0", "", [⟨"InternalIP", address⟩]⟩], "running"⟩

/-- An event that fails. -/
def failing (address : String) : Label :=
  .receive (machine 1 address) { write := some "conflict" }

/-- Two events of one generation fail, and then their timers fire in order. -/
def twoFailures : List Label :=
  [failing "10.0.0.1", failing "10.0.0.2", .retry 0 {}, .retry 0 {}]

/-- Two events of one generation fail, and each timer fires before the next event comes. -/
def inTurn : List Label :=
  [failing "10.0.0.1", .retry 0 {}, failing "10.0.0.2", .retry 0 {}]

end Sample

theorem sample_newer_events_are_kept :
    Undisturbed "default/virtualmachine-web" (VMConverter.start ∅) Sample.inTurn ∧
      KeepsNewest (VMConverter.start ∅) "default/virtualmachine-web" Sample.inTurn := by
  have undisturbed :
      Undisturbed "default/virtualmachine-web" (VMConverter.start ∅) Sample.inTurn :=
    ⟨fun _ _ => List.forall_mem_nil _, trivial, fun _ _ => List.forall_mem_nil _, trivial, trivial⟩
  exact ⟨undisturbed, newer_events_are_kept ∅ _ _ undisturbed⟩

/--
Two events of one generation fail.  The older one is retried first and succeeds,
which removes the record that the newer one would have been retried by.
-/
theorem older_event_undoes_newer :
    (run VMConverter.step (VMConverter.start ∅) Sample.twoFailures).timers = [] ∧
      ((run VMConverter.step (VMConverter.start ∅) Sample.twoFailures).entities.get?
        "default/virtualmachine-web").map (·.endpoints) = some ["10.0.0.1"] ∧
      ¬ KeepsNewest (VMConverter.start ∅) "default/virtualmachine-web" Sample.twoFailures := by
  refine ⟨rfl, by decide +kernel, fun keeps => ?_⟩
  have newest := keeps.applied (Sample.twoFailures.take 2) (.retry 0 {}) [.retry 0 {}] rfl
    (Sample.machine 1 "10.0.0.1") (by rw [VMConverter.Treats]; rfl) (by decide +kernel)
  have same := congrArg (Option.map getEndPointAddresses) newest
  revert same
  decide +kernel

end Nephe.Converter
