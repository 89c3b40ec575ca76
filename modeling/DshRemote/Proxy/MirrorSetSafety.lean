import DshRemote.Proxy.MirrorSet

/-! # One mirror per session

Where the undisposed mirrors are: registered, on the way from their bootstrap into the map,
or about to be disposed by `RemoteProxy.dispose`. A teardown that deletes the entry of
another mirror, and a bootstrap that ends after the proxy was disposed, leave a mirror in
none of these places. -/

namespace DshRemote.Proxy.MirrorSet

/-! ## What breaks the set -/

/-- The map has another mirror under this id. -/
def hasOther (set : MirrorSet) (sessionId : SessionId) (mirror : MirrorId) : Bool :=
  (set.mirrors.get sessionId).any (· ≠ mirror)

/-- A bootstrap has made its mirror, which `mirrorSession` has not registered yet. -/
def hasUnregistered (set : MirrorSet) : Bool :=
  set.inflight.values.any fun bootstrap => match bootstrap.state with
    | .created _ => true
    | .running | .failed => false

/-- The next entry of its snapshot that a run of `reconcile` tears down. -/
def nextTorn (active : List SessionId) (rest : List (SessionId × MirrorId)) :
    Option (SessionId × MirrorId) :=
  rest.find? fun entry => entry.1 ∉ active

/-- The event unregisters a mirror that it does not dispose, or makes one, or leaves one
behind, that `RemoteProxy.dispose` does not dispose. -/
def strands (set : MirrorSet) : MirrorSetEvent → Bool
  | .bootstrapped _ succeeded => succeeded && set.disposed
  | .dispose => !set.disposed && set.hasUnregistered
  | .toreDown active rest => (nextTorn active rest).any fun entry => set.hasOther entry.1 entry.2
  | .disposedOwned mirror _ succeeded =>
      succeeded && (set.sessionOf mirror).any fun sessionId => set.hasOther sessionId mirror
  | _ => false

/-- A handle of the factory is disposed while its mirror is registered. -/
def disposesRegistered (set : MirrorSet) : MirrorSetEvent → Bool
  | .disposeOwned mirror => mirror ∈ set.mirrors.values
  | _ => false

/-! ## What holds throughout -/

/-- The mirror has left its bootstrap: the callers of `mirrorSession` may know it. -/
def Known (set : MirrorSet) (mirror : MirrorId) : Prop :=
  ∃ object, set.objects[mirror]? = some object ∧
    ∀ bootstrap, set.inflight.get object.sessionId = some bootstrap →
      bootstrap.state ≠ .created mirror

end MirrorSet

theorem getElem?_single {item found : Item} {place : Nat} (isFound : [item][place]? = some found) :
    place = 0 ∧ item = found := by
  cases place with
  | zero => exact ⟨rfl, Option.some.inj isFound⟩
  | succ place => cases isFound

/-- The mirrors that a waiting function will come back to. -/
def MirrorTask.mirrors : MirrorTask → List MirrorId
  | .answered _ mirror => mirror.toList
  | .tearing _ rest => rest.map Prod.snd
  | .disposingOwned mirror _ => [mirror]
  | .disposingAll rest => rest
  | .listing | .attaching .. | .resuming _ | .forking => []

namespace MirrorSet

structure Kept (set : MirrorSet) : Prop where
  entry : ∀ {sessionId mirror}, set.mirrors.get sessionId = some mirror →
    set.sessionOf mirror = some sessionId
  entryKnown : ∀ {sessionId mirror}, set.mirrors.get sessionId = some mirror →
    set.Known mirror
  ownedKnown : ∀ mirror ∈ set.owned, set.Known mirror
  taskKnown : ∀ task ∈ set.tasks, ∀ mirror ∈ task.mirrors, set.Known mirror
  /-- A mirror on the way into the map is undisposed. -/
  created : ∀ {sessionId bootstrap mirror}, set.inflight.get sessionId = some bootstrap →
    bootstrap.state = .created mirror → set.objects[mirror]? = some ⟨sessionId, false⟩
  /-- While a bootstrap is in flight nothing else is registered under its id. -/
  vacant : ∀ {sessionId bootstrap}, set.inflight.get sessionId = some bootstrap →
    set.mirrors.get sessionId = none
  placed : ∀ {sessionId mirror}, set.objects[mirror]? = some ⟨sessionId, false⟩ →
    set.mirrors.get sessionId = some mirror ∨
      (∃ bootstrap, set.inflight.get sessionId = some bootstrap ∧
        bootstrap.state = .created mirror) ∨
      ∃ rest, .disposingAll rest ∈ set.tasks ∧ mirror ∈ rest
  unique : ∀ {sessionId : SessionId} {first second : MirrorId},
    set.objects[first]? = some ⟨sessionId, false⟩ →
      set.objects[second]? = some ⟨sessionId, false⟩ → first = second
  closed : set.disposed = true → (∀ sessionId, set.mirrors.get sessionId = none) ∧
    ∀ sessionId bootstrap, set.inflight.get sessionId = some bootstrap →
      ∀ mirror, bootstrap.state ≠ .created mirror
  unwinding : ∀ rest, .disposingAll rest ∈ set.tasks → set.disposed = true
  begun : ∀ mirror first, .disposingOwned mirror first ∈ set.tasks → set.isDisposed mirror = true

namespace Kept

variable {set : MirrorSet}

theorem empty : Kept {} where
  entry := nofun
  entryKnown := nofun
  ownedKnown := nofun
  taskKnown := nofun
  created := nofun
  vacant := nofun
  placed := nofun
  unique := nofun
  closed := nofun
  unwinding := nofun
  begun := nofun

theorem withTasks (kept : set.Kept) {tasks : List MirrorTask}
    (known : ∀ task ∈ tasks, ∀ mirror ∈ task.mirrors, set.Known mirror)
    (unwinds : ∀ rest, .disposingAll rest ∈ tasks → set.disposed = true)
    (keeps : ∀ rest mirror, .disposingAll rest ∈ set.tasks → mirror ∈ rest →
      set.isDisposed mirror = false → ∃ others, .disposingAll others ∈ tasks ∧ mirror ∈ others)
    (begun : ∀ mirror first, .disposingOwned mirror first ∈ tasks → set.isDisposed mirror = true) :
    Kept { set with tasks := tasks } :=
  { kept with
    taskKnown := known
    placed := fun found => by
      rcases kept.placed found with registered | building | ⟨rest, waits, member⟩
      · exact Or.inl registered
      · exact Or.inr (Or.inl building)
      · exact Or.inr (Or.inr (keeps rest _ waits member (by simp [isDisposed, found])))
    unwinding := unwinds
    begun := begun }

/-- A function starts to wait that neither disposes mirrors itself nor knows new ones. -/
theorem await (kept : set.Kept) {task : MirrorTask}
    (known : ∀ mirror ∈ task.mirrors, set.Known mirror)
    (unwinds : ∀ rest, task = .disposingAll rest → set.disposed = true)
    (begun : ∀ mirror first, task = .disposingOwned mirror first →
      set.isDisposed mirror = true) : (set.await task).Kept := by
  refine kept.withTasks ?_ ?_
    (fun rest mirror waits member _ => ⟨rest, List.mem_cons_of_mem _ waits, member⟩) ?_
  · intro other member
    rcases List.mem_cons.mp member with rfl | old
    · exact known
    · exact kept.taskKnown other old
  · intro rest member
    rcases List.mem_cons.mp member with same | old
    · exact unwinds rest same.symm
    · exact kept.unwinding rest old
  · intro mirror first member
    rcases List.mem_cons.mp member with same | old
    · exact begun mirror first same.symm
    · exact kept.begun mirror first old

theorem erase (kept : set.Kept) (task : MirrorTask)
    (other : ∀ rest, task ≠ .disposingAll rest) :
    Kept { set with tasks := set.tasks.erase task } :=
  kept.withTasks (fun other member => kept.taskKnown other (List.mem_of_mem_erase member))
    (fun rest member => kept.unwinding rest (List.mem_of_mem_erase member))
    (fun rest _ waits member _ =>
      ⟨rest, (List.mem_erase_of_ne (other rest).symm).mpr waits, member⟩)
    (fun mirror first member => kept.begun mirror first (List.mem_of_mem_erase member))

end Kept

/-! ## Disposing and unregistering -/

theorem getElem?_disposeMirror (set : MirrorSet) (mirror other : MirrorId) :
    (set.disposeMirror mirror).objects[other]? =
      if mirror = other then (set.objects[other]?).map fun object => { object with disposed := true }
      else set.objects[other]? := by
  simp only [disposeMirror, List.getElem?_modify]
  split
  · rfl
  · cases set.objects[other]? <;> rfl

theorem sessionOf_disposeMirror (set : MirrorSet) (mirror other : MirrorId) :
    (set.disposeMirror mirror).sessionOf other = set.sessionOf other := by
  simp only [sessionOf, getElem?_disposeMirror]
  split
  · cases set.objects[other]? <;> rfl
  · rfl

theorem known_disposeMirror {set : MirrorSet} {mirror other : MirrorId} :
    (set.disposeMirror mirror).Known other ↔ set.Known other := by
  simp only [Known, getElem?_disposeMirror]
  split
  · cases set.objects[other]? with
    | none => simp
    | some object => simp [disposeMirror]
  · rfl

theorem undisposed_disposeMirror {set : MirrorSet} {mirror other : MirrorId}
    {sessionId : SessionId} :
    (set.disposeMirror mirror).objects[other]? = some ⟨sessionId, false⟩ ↔
      mirror ≠ other ∧ set.objects[other]? = some ⟨sessionId, false⟩ := by
  rw [getElem?_disposeMirror]
  split
  · next same =>
      cases set.objects[other]? <;> simp [same]
  · next different => simp [different]

theorem isDisposed_disposeMirror {set : MirrorSet} {mirror : MirrorId} (known : set.Known mirror) :
    (set.disposeMirror mirror).isDisposed mirror = true := by
  rcases known with ⟨object, found, _⟩
  simp [isDisposed, getElem?_disposeMirror, found]

theorem isDisposed_disposeMirror_of {set : MirrorSet} {mirror other : MirrorId}
    (disposed : set.isDisposed other = true) :
    (set.disposeMirror mirror).isDisposed other = true := by
  simp only [isDisposed, getElem?_disposeMirror]
  split
  · simp only [isDisposed] at disposed
    cases found : set.objects[other]? with
    | none => simp [found] at disposed
    | some object => rfl
  · exact disposed

namespace Kept

variable {set : MirrorSet}

theorem disposeMirror (kept : set.Kept) {mirror : MirrorId} (known : set.Known mirror) :
    (set.disposeMirror mirror).Kept where
  entry := fun found => (sessionOf_disposeMirror _ _ _).trans (kept.entry found)
  entryKnown := fun found => known_disposeMirror.mpr (kept.entryKnown found)
  ownedKnown := fun other member => known_disposeMirror.mpr (kept.ownedKnown other member)
  taskKnown := fun task member other mentioned =>
    known_disposeMirror.mpr (kept.taskKnown task member other mentioned)
  created := by
    intro sessionId bootstrap other found isCreated
    have building := kept.created found isCreated
    refine undisposed_disposeMirror.mpr ⟨?_, building⟩
    rintro rfl
    rcases known with ⟨object, isObject, unbuilt⟩
    cases building.symm.trans isObject
    exact unbuilt bootstrap found isCreated
  vacant := kept.vacant
  placed := fun found => kept.placed (undisposed_disposeMirror.mp found).2
  unique := fun first second => kept.unique (undisposed_disposeMirror.mp first).2
    (undisposed_disposeMirror.mp second).2
  closed := kept.closed
  unwinding := kept.unwinding
  begun := fun other first member => isDisposed_disposeMirror_of (kept.begun other first member)

theorem unregister (kept : set.Kept) {sessionId : SessionId} {mirror : MirrorId}
    (disposed : set.isDisposed mirror = true) (own : set.hasOther sessionId mirror = false) :
    Kept { set with mirrors := set.mirrors.delete sessionId } := by
  have remains : ∀ {other entry}, (set.mirrors.delete sessionId).get other = some entry →
      set.mirrors.get other = some entry := by
    intro other entry found
    exact (OrderedMap.of_get_delete found).2
  exact {
    entry := fun found => kept.entry (remains found)
    entryKnown := fun found => kept.entryKnown (remains found)
    ownedKnown := kept.ownedKnown
    taskKnown := kept.taskKnown
    created := kept.created
    vacant := by
      intro other bootstrap found
      have none := kept.vacant found
      rw [OrderedMap.get_delete]
      split
      · rfl
      · exact none
    placed := by
      intro other entry found
      rcases kept.placed found with registered | building | waits
      · refine Or.inl ?_
        rw [OrderedMap.get_delete]
        split
        · next same =>
            -- The only entry there could be is the disposed one.
            subst same
            simp only [hasOther, registered, Option.any_some, decide_eq_false_iff_not,
              not_not] at own
            subst own
            simp [isDisposed, found] at disposed
        · exact registered
      · exact Or.inr (Or.inl building)
      · exact Or.inr (Or.inr waits)
    unique := kept.unique
    closed := by
      intro isDisposed
      refine ⟨fun other => ?_, (kept.closed isDisposed).2⟩
      rw [OrderedMap.get_delete]
      split
      · rfl
      · exact (kept.closed isDisposed).1 other
    unwinding := kept.unwinding
    begun := kept.begun }

/-! ## One function after the other -/

/-- The bootstraps change, but none of them makes a mirror or gives one up. -/
theorem withInflight (kept : set.Kept) {inflight : OrderedMap SessionId Bootstrap}
    (sameCreated : ∀ {sessionId : SessionId} {mirror : MirrorId},
      (∃ bootstrap, inflight.get sessionId = some bootstrap ∧
          bootstrap.state = .created mirror) ↔
        ∃ bootstrap, set.inflight.get sessionId = some bootstrap ∧
          bootstrap.state = .created mirror)
    (vacant : ∀ {sessionId bootstrap}, inflight.get sessionId = some bootstrap →
      set.mirrors.get sessionId = none) : Kept { set with inflight := inflight } := by
  have known : ∀ {mirror}, set.Known mirror → Known { set with inflight := inflight } mirror := by
    rintro mirror ⟨object, isObject, unbuilt⟩
    refine ⟨object, isObject, fun after found isCreated => ?_⟩
    rcases sameCreated.mp ⟨after, found, isCreated⟩ with ⟨before, foundBefore, wasCreated⟩
    exact unbuilt before foundBefore wasCreated
  exact { kept with
    entryKnown := fun found => known (kept.entryKnown found)
    ownedKnown := fun mirror member => known (kept.ownedKnown mirror member)
    taskKnown := fun task member mirror mentioned =>
      known (kept.taskKnown task member mirror mentioned)
    created := by
      intro sessionId after mirror found isCreated
      rcases sameCreated.mp ⟨after, found, isCreated⟩ with ⟨before, foundBefore, wasCreated⟩
      exact kept.created foundBefore wasCreated
    vacant := vacant
    placed := fun found => (kept.placed found).imp_right (Or.imp_left sameCreated.mpr)
    closed := by
      intro isDisposed
      refine ⟨(kept.closed isDisposed).1, fun sessionId after found mirror isCreated => ?_⟩
      rcases sameCreated.mp ⟨after, found, isCreated⟩ with ⟨before, foundBefore, wasCreated⟩
      exact (kept.closed isDisposed).2 sessionId before foundBefore mirror wasCreated }

theorem inflight (kept : set.Kept) {sessionId : SessionId}
    (absent : set.mirrors.get sessionId = none) {bootstrap : Bootstrap}
    (sameState : ∀ {mirror : MirrorId}, bootstrap.state = .created mirror ↔
      ∃ before, set.inflight.get sessionId = some before ∧ before.state = .created mirror) :
    Kept { set with inflight := set.inflight.set sessionId bootstrap } := by
  refine kept.withInflight ?_ ?_
  · intro other mirror
    rw [OrderedMap.get_set]
    split
    · next same =>
        rw [same, ← sameState]
        simp
    · exact Iff.rfl
  · intro other after found
    rw [OrderedMap.get_set] at found
    split at found
    · next same => exact same ▸ absent
    · exact kept.vacant found

/-- All who wait for a bootstrap are to go on with its mirror, if it has made one. -/
theorem answers (kept : set.Kept) (callers : List MirrorCaller) {mirror : Option MirrorId}
    (known : ∀ made, mirror = some made → set.Known made) :
    Kept { set with tasks := callers.map (MirrorTask.answered · mirror) ++ set.tasks } := by
  refine kept.withTasks ?_ (fun rest member => kept.unwinding rest (by simpa using member))
    (fun rest _ waits member _ => ⟨rest, List.mem_append_right _ waits, member⟩)
    (fun other first member => kept.begun other first (by simpa using member))
  intro task member other mentioned
  rcases List.mem_append.mp member with answers | old
  · rcases List.mem_map.mp answers with ⟨caller, _, rfl⟩
    exact known other (Option.mem_toList.mp mentioned)
  · exact kept.taskKnown task old other mentioned

theorem mirrorSession (kept : set.Kept) (sessionId : SessionId) (caller : MirrorCaller) :
    (set.mirrorSession sessionId caller).Kept := by
  unfold MirrorSet.mirrorSession
  split
  · next existing found =>
      refine kept.await ?_ nofun nofun
      intro mirror mentioned
      rcases List.mem_singleton.mp mentioned with rfl
      exact kept.entryKnown found
  · next absent =>
      refine kept.inflight absent ?_
      intro mirror
      cases set.inflight.get sessionId <;> simp

theorem tearDown (kept : set.Kept) (active : List SessionId)
    {rest : List (SessionId × MirrorId)} (known : ∀ entry ∈ rest, set.Known entry.2)
    (own : ∀ entry, nextTorn active rest = some entry → set.hasOther entry.1 entry.2 = false) :
    (set.tearDown active rest).Kept := by
  induction rest with
  | nil => exact kept
  | cons entry rest induction =>
      rcases entry with ⟨sessionId, mirror⟩
      have knownRest : ∀ entry ∈ rest, set.Known entry.2 := fun entry member =>
        known entry (List.mem_cons_of_mem _ member)
      simp only [MirrorSet.tearDown]
      split
      · next isActive =>
          refine induction knownRest fun entry next => own entry ?_
          rw [nextTorn, List.find?_cons_of_neg (by simpa using isActive)]
          exact next
      · next ended =>
          have knownMirror : set.Known mirror := known (sessionId, mirror) (by simp)
          have ownEntry := own (sessionId, mirror)
            (List.find?_cons_of_pos (by simpa using ended))
          have disposed := kept.disposeMirror knownMirror
          have unregistered := disposed.unregister (isDisposed_disposeMirror knownMirror) ownEntry
          refine unregistered.await ?_ nofun nofun
          intro other mentioned
          rcases List.mem_map.mp mentioned with ⟨entry, member, rfl⟩
          exact known_disposeMirror.mpr (knownRest entry member)

/-- A snapshot of the map is as good as the map. -/
theorem sweep (kept : set.Kept) (active : List SessionId) (summaries : List ListedSession) :
    (set.sweep active summaries).Kept := by
  induction summaries with
  | nil =>
      have listed : ∀ entry ∈ set.mirrors.entries, set.mirrors.get entry.1 = some entry.2 :=
        fun entry member => (OrderedMap.get_eq_some_iff _ _ _).mpr member
      refine kept.tearDown active (fun entry member => kept.entryKnown (listed entry member)) ?_
      intro entry next
      simp [hasOther, listed entry (List.mem_of_find?_eq_some next)]
  | cons summary rest induction =>
      simp only [MirrorSet.sweep]
      split
      · exact induction
      · split
        · exact induction
        · exact kept.await nofun nofun nofun

theorem answer (kept : set.Kept) (caller : MirrorCaller) {mirror : Option MirrorId}
    (known : ∀ answered, mirror = some answered → set.Known answered) :
    (set.answer caller mirror).Kept := by
  have owning : ∀ answered, set.Known answered →
      Kept { set with owned := answered :: set.owned } := by
    intro answered isKnown
    refine { kept with ownedKnown := ?_ }
    intro other member
    rcases List.mem_cons.mp member with rfl | old
    · exact isKnown
    · exact kept.ownedKnown other old
  cases caller with
  | createAgent | resume =>
      cases mirror with
      | some answered => exact owning answered (known answered rfl)
      | none => exact kept
  | forkRemote => exact kept
  | reconcile active rest => exact kept.sweep active rest

theorem registered (kept : set.Kept) {sessionId : SessionId} {bootstrap : Bootstrap}
    (found : set.inflight.get sessionId = some bootstrap) {mirror : MirrorId}
    (isCreated : bootstrap.state = .created mirror) :
    Kept { set with
        mirrors := set.mirrors.set sessionId mirror
        inflight := set.inflight.delete sessionId } ∧
      Known { set with
        mirrors := set.mirrors.set sessionId mirror
        inflight := set.inflight.delete sessionId } mirror := by
  have remains : ∀ {other after}, (set.inflight.delete sessionId).get other = some after →
      other ≠ sessionId ∧ set.inflight.get other = some after := by
    intro other after isFound
    exact OrderedMap.of_get_delete isFound
  have known : ∀ {other}, set.Known other → Known { set with
      mirrors := set.mirrors.set sessionId mirror
      inflight := set.inflight.delete sessionId } other := by
    rintro other ⟨object, isObject, unbuilt⟩
    exact ⟨object, isObject, fun after isFound => unbuilt after (remains isFound).2⟩
  have building := kept.created found isCreated
  have registered : Known { set with
      mirrors := set.mirrors.set sessionId mirror
      inflight := set.inflight.delete sessionId } mirror :=
    ⟨_, building, fun after isFound => absurd rfl (remains isFound).1⟩
  refine ⟨{ kept with
    entry := ?_
    entryKnown := ?_
    ownedKnown := fun other member => known (kept.ownedKnown other member)
    taskKnown := fun task member other mentioned =>
      known (kept.taskKnown task member other mentioned)
    created := fun isFound => kept.created (remains isFound).2
    vacant := ?_
    placed := ?_
    closed := fun isDisposed => absurd isCreated ((kept.closed isDisposed).2 _ _ found mirror) },
    registered⟩
  · intro other entry isFound
    rcases OrderedMap.of_get_set isFound with ⟨same, rfl⟩ | ⟨_, isFound⟩
    · simp [sessionOf, building, same]
    · exact kept.entry isFound
  · intro other entry isFound
    rw [OrderedMap.get_set] at isFound
    split at isFound
    · cases isFound
      exact registered
    · exact known (kept.entryKnown isFound)
  · intro other after isFound
    rw [OrderedMap.get_set_other _ _ (remains isFound).1]
    exact kept.vacant (remains isFound).2
  · intro other entry isObject
    by_cases same : other = sessionId
    · subst same
      refine Or.inl ((OrderedMap.get_set_self _ _ _).trans ?_)
      rcases kept.placed isObject with isRegistered | ⟨before, inflight, wasCreated⟩ |
        ⟨rest, waits, _⟩
      · rw [kept.vacant found] at isRegistered
        cases isRegistered
      · cases found.symm.trans inflight
        cases isCreated.symm.trans wasCreated
        rfl
      · exact absurd isCreated ((kept.closed (kept.unwinding rest waits)).2 _ _ found mirror)
    · rcases kept.placed isObject with isRegistered | ⟨before, inflight, wasCreated⟩ | waits
      · exact Or.inl ((OrderedMap.get_set_other _ _ same).trans isRegistered)
      · refine Or.inr (Or.inl ⟨before, ?_, wasCreated⟩)
        exact (OrderedMap.get_delete_other _ same).trans inflight
      · exact Or.inr (Or.inr waits)

theorem settle (kept : set.Kept) {sessionId : SessionId} {bootstrap : Bootstrap}
    (found : set.inflight.get sessionId = some bootstrap) {next : MirrorSet}
    (settled : set.settle sessionId bootstrap = some next) : next.Kept := by
  simp only [MirrorSet.settle] at settled
  split at settled
  · cases settled
  · next mirror isCreated =>
      cases settled
      rcases kept.registered found isCreated with ⟨keeps, known⟩
      exact keeps.answers bootstrap.callers fun made same => Option.some.inj same ▸ known
  · next isFailed =>
      cases settled
      have keeps : Kept { set with inflight := set.inflight.delete sessionId } := by
        refine kept.withInflight ?_ ?_
        · intro other mirror
          rw [OrderedMap.get_delete]
          split
          · next same => simp [same, found, isFailed]
          · exact Iff.rfl
        · intro other after isFound
          exact kept.vacant (OrderedMap.of_get_delete isFound).2
      exact keeps.answers bootstrap.callers nofun

theorem bootstrapFailed (kept : set.Kept) {sessionId : SessionId} {callers : List MirrorCaller}
    (found : set.inflight.get sessionId = some ⟨.running, callers⟩) :
    Kept { set with inflight := set.inflight.set sessionId ⟨.failed, callers⟩ } :=
  kept.inflight (kept.vacant found) (by simp [found])

theorem bootstrapped (kept : set.Kept) {sessionId : SessionId} {callers : List MirrorCaller}
    (found : set.inflight.get sessionId = some ⟨.running, callers⟩)
    (alive : set.disposed = false) :
    Kept { set with
      objects := set.objects ++ [{ sessionId := sessionId }]
      inflight := set.inflight.set sessionId ⟨.created set.objects.length, callers⟩ } := by
  have old : ∀ {mirror : MirrorId} {object}, set.objects[mirror]? = some object →
      (set.objects ++ [({ sessionId := sessionId } : MirrorObject)])[mirror]? = some object := by
    intro mirror object isObject
    rw [List.getElem?_append_left (List.getElem?_eq_some_iff.mp isObject).1]
    exact isObject
  have states : ∀ {other after} {mirror : MirrorId},
      (set.inflight.set sessionId ⟨.created set.objects.length, callers⟩).get other = some after →
        after.state = .created mirror →
          other = sessionId ∧ mirror = set.objects.length ∨
            other ≠ sessionId ∧ set.inflight.get other = some after := by
    intro other after mirror isFound isCreated
    rcases OrderedMap.of_get_set isFound with ⟨same, rfl⟩ | ⟨different, isFound⟩
    · cases isCreated
      exact Or.inl ⟨same, rfl⟩
    · exact Or.inr ⟨different, isFound⟩
  have known : ∀ {mirror}, set.Known mirror → Known { set with
      objects := set.objects ++ [{ sessionId := sessionId }]
      inflight := set.inflight.set sessionId ⟨.created set.objects.length, callers⟩ } mirror := by
    rintro mirror ⟨object, isObject, unbuilt⟩
    refine ⟨object, old isObject, fun after isFound isCreated => ?_⟩
    rcases states isFound isCreated with ⟨_, rfl⟩ | ⟨_, before⟩
    · exact Nat.lt_irrefl _ (List.getElem?_eq_some_iff.mp isObject).1
    · exact unbuilt after before isCreated
  have sessions : ∀ {mirror other}, set.sessionOf mirror = some other →
      sessionOf { set with objects := set.objects ++ [{ sessionId := sessionId }] } mirror =
        some other := by
    intro mirror other isSession
    rcases Option.map_eq_some_iff.mp isSession with ⟨object, isObject, rfl⟩
    exact Option.map_eq_some_iff.mpr ⟨object, old isObject, rfl⟩
  exact {
    entry := fun isFound => sessions (kept.entry isFound)
    entryKnown := fun isFound => known (kept.entryKnown isFound)
    ownedKnown := fun mirror member => known (kept.ownedKnown mirror member)
    taskKnown := fun task member mirror mentioned =>
      known (kept.taskKnown task member mirror mentioned)
    created := by
      intro other after mirror isFound isCreated
      rcases states isFound isCreated with ⟨rfl, rfl⟩ | ⟨_, before⟩
      · exact List.getElem?_concat_length ..
      · exact old (kept.created before isCreated)
    vacant := by
      intro other after isFound
      rw [OrderedMap.get_set] at isFound
      split at isFound
      · next same =>
          rw [same]
          exact kept.vacant found
      · exact kept.vacant isFound
    placed := by
      intro other mirror isObject
      rw [List.getElem?_append] at isObject
      split at isObject
      · rcases kept.placed isObject with registered | ⟨before, inflight, wasCreated⟩ | waits
        · exact Or.inl registered
        · refine Or.inr (Or.inl ⟨before, ?_, wasCreated⟩)
          by_cases same : other = sessionId
          · subst same
            cases found.symm.trans inflight
            cases wasCreated
          · exact (OrderedMap.get_set_other _ _ same).trans inflight
        · exact Or.inr (Or.inr waits)
      · next beyond =>
          -- The new mirror is the one behind the others.
          rcases getElem?_single isObject with ⟨atEnd, isNew⟩
          have place : mirror = set.objects.length :=
            Nat.le_antisymm (Nat.sub_eq_zero_iff_le.mp atEnd) (Nat.not_lt.mp beyond)
          cases isNew
          subst place
          exact Or.inr (Or.inl ⟨_, OrderedMap.get_set_self _ _ _, rfl⟩)
    unique := by
      -- Nothing undisposed is left under an id whose bootstrap still runs.
      have first : ∀ {mirror : MirrorId}, set.objects[mirror]? ≠ some ⟨sessionId, false⟩ := by
        intro mirror isObject
        rcases kept.placed isObject with registered | ⟨before, inflight, wasCreated⟩ |
          ⟨rest, waits, _⟩
        · cases (kept.vacant found).symm.trans registered
        · cases found.symm.trans inflight
          cases wasCreated
        · cases alive.symm.trans (kept.unwinding rest waits)
      intro other left right isLeft isRight
      rw [List.getElem?_append] at isLeft isRight
      split at isLeft <;> split at isRight
      · exact kept.unique isLeft isRight
      · cases (getElem?_single isRight).2
        exact absurd isLeft first
      · cases (getElem?_single isLeft).2
        exact absurd isRight first
      · next beyondLeft beyondRight =>
          have atLeft := (getElem?_single isLeft).1
          have atRight := (getElem?_single isRight).1
          exact Nat.le_antisymm
            (Nat.le_trans (Nat.sub_eq_zero_iff_le.mp atLeft) (Nat.not_lt.mp beyondRight))
            (Nat.le_trans (Nat.sub_eq_zero_iff_le.mp atRight) (Nat.not_lt.mp beyondLeft))
    closed := fun isDisposed => by
      rw [alive] at isDisposed
      cases isDisposed
    unwinding := kept.unwinding
    begun := by
      intro mirror first member
      have disposed := kept.begun mirror first member
      simp only [isDisposed] at disposed ⊢
      cases isObject : set.objects[mirror]? with
      | none => simp [isObject] at disposed
      | some object =>
          rw [old isObject]
          rwa [isObject] at disposed }

theorem disposeAll (kept : set.Kept) {rest : List MirrorId}
    (waits : .disposingAll rest ∈ set.tasks) :
    (MirrorSet.disposeAll { set with tasks := set.tasks.erase (.disposingAll rest) } rest).Kept := by
  have known := kept.taskKnown _ waits
  have remains : ∀ {others}, .disposingAll others ∈ set.tasks → others ≠ rest →
      .disposingAll others ∈ set.tasks.erase (.disposingAll rest) := by
    intro others member different
    refine (List.mem_erase_of_ne fun same => different ?_).mpr member
    cases same
    rfl
  cases rest with
  | nil =>
      refine kept.withTasks
        (fun task member => kept.taskKnown task (List.mem_of_mem_erase member))
        (fun others member => kept.unwinding others (List.mem_of_mem_erase member)) ?_
        (fun mirror first member => kept.begun mirror first (List.mem_of_mem_erase member))
      intro others mirror member inOthers _
      exact ⟨others, remains member (List.ne_nil_of_mem inOthers), inOthers⟩
  | cons mirror rest =>
      have disposed := kept.disposeMirror (known mirror (by simp [MirrorTask.mirrors]))
      refine disposed.withTasks ?_ ?_ ?_ ?_
      · intro task member other mentioned
        refine known_disposeMirror.mpr ?_
        rcases List.mem_cons.mp member with rfl | old
        · exact known other (List.mem_cons_of_mem _ mentioned)
        · exact kept.taskKnown task (List.mem_of_mem_erase old) other mentioned
      · exact fun _ _ => kept.unwinding _ waits
      · intro others other member inOthers undisposed
        by_cases same : others = mirror :: rest
        · subst same
          refine ⟨rest, List.mem_cons_self, (List.mem_cons.mp inOthers).resolve_left ?_⟩
          rintro rfl
          rw [isDisposed_disposeMirror (known other List.mem_cons_self)] at undisposed
          cases undisposed
        · exact ⟨others, List.mem_cons_of_mem _ (remains member same), inOthers⟩
      · intro other first member
        rcases List.mem_cons.mp member with same | old
        · cases same
        · exact isDisposed_disposeMirror_of (kept.begun other first (List.mem_of_mem_erase old))

theorem dispose (kept : set.Kept) (registered : set.hasUnregistered = false) :
    (MirrorSet.disposeAll { set with disposed := true, mirrors := .empty }
      set.mirrors.values).Kept := by
  have unbuilt : ∀ sessionId bootstrap, set.inflight.get sessionId = some bootstrap →
      ∀ mirror, bootstrap.state ≠ .created mirror := by
    intro sessionId bootstrap found mirror isCreated
    have listed := List.any_eq_false.mp registered bootstrap (OrderedMap.mem_values_of_get found)
    simp [isCreated] at listed
  have waiting : Kept { set with
      disposed := true, mirrors := .empty
      tasks := .disposingAll set.mirrors.values :: set.tasks } := {
    entry := nofun
    entryKnown := nofun
    ownedKnown := kept.ownedKnown
    taskKnown := by
      intro task member mirror mentioned
      rcases List.mem_cons.mp member with rfl | old
      · rcases OrderedMap.exists_get_of_mem_values mentioned with ⟨sessionId, found⟩
        exact kept.entryKnown found
      · exact kept.taskKnown task old mirror mentioned
    created := kept.created
    vacant := fun _ => rfl
    placed := by
      intro sessionId mirror found
      rcases kept.placed found with registered | building | ⟨rest, waits, member⟩
      · exact Or.inr (Or.inr ⟨_, List.mem_cons_self, OrderedMap.mem_values_of_get registered⟩)
      · exact Or.inr (Or.inl building)
      · exact Or.inr (Or.inr ⟨rest, List.mem_cons_of_mem _ waits, member⟩)
    unique := kept.unique
    closed := fun _ => ⟨fun _ => rfl, unbuilt⟩
    unwinding := fun _ _ => rfl
    begun := by
      intro mirror first member
      rcases List.mem_cons.mp member with same | old
      · cases same
      · exact kept.begun mirror first old }
  have started := waiting.disposeAll List.mem_cons_self
  rwa [List.erase_cons_head] at started

theorem forget (kept : set.Kept) {mirror : MirrorId} (begun : set.isDisposed mirror = true)
    (succeeded : Bool)
    (own : (succeeded && (set.sessionOf mirror).any fun sessionId =>
      set.hasOther sessionId mirror) = false) : (set.forget mirror succeeded).Kept := by
  unfold MirrorSet.forget
  split
  · next sessionId isSession =>
      split
      · next isTrue =>
          rw [isSession, isTrue] at own
          exact kept.unregister begun (by simpa using own)
      · exact kept
  · exact kept

end Kept

theorem resume_eq_some_iff {set next : MirrorSet} {task : MirrorTask} :
    set.resume task = some next ↔
      task ∈ set.tasks ∧ { set with tasks := set.tasks.erase task } = next := by
  simp [resume]

theorem resume_map {set next : MirrorSet} {task : MirrorTask} {goesOn : MirrorSet → MirrorSet}
    (stepped : (set.resume task).map goesOn = some next) :
    task ∈ set.tasks ∧ goesOn { set with tasks := set.tasks.erase task } = next := by
  rcases Option.map_eq_some_iff.mp stepped with ⟨resumed, isResumed, rfl⟩
  rcases resume_eq_some_iff.mp isResumed with ⟨waits, rfl⟩
  exact ⟨waits, rfl⟩

theorem Kept.step {set next : MirrorSet} (kept : set.Kept) {event : MirrorSetEvent}
    (calm : set.strands event = false) (stepped : set.step event = some next) : next.Kept := by
  cases event with
  | reconcile | resume =>
      cases stepped
      split
      · exact kept
      · exact kept.await nofun nofun nofun
  | createAgent sessionId =>
      cases stepped
      exact kept.mirrorSession sessionId .createAgent
  | forkRemote source =>
      cases stepped
      split
      · exact kept.await nofun nofun nofun
      · exact kept
  | disposeOwned mirror =>
      simp only [MirrorSet.step] at stepped
      split at stepped
      · next member =>
          cases stepped
          have known := kept.ownedKnown mirror member
          refine (kept.disposeMirror known).await ?_ nofun ?_
          · intro other mentioned
            rcases List.mem_singleton.mp mentioned with rfl
            exact known_disposeMirror.mpr known
          · intro other first same
            cases same
            exact isDisposed_disposeMirror known
      · cases stepped
  | dispose =>
      cases stepped
      split
      · exact kept
      · next alive =>
          refine kept.dispose ?_
          simpa [strands, alive] using calm
  | listed summaries =>
      rcases resume_map stepped with ⟨_, rfl⟩
      have erased := kept.erase .listing nofun
      cases summaries with
      | none => exact erased
      | some summaries => exact erased.sweep _ _
  | attached active sessionId rest succeeded =>
      rcases resume_map stepped with ⟨_, rfl⟩
      have erased := kept.erase (.attaching active sessionId rest) nofun
      cases succeeded with
      | true => exact erased.mirrorSession _ _
      | false => exact erased.sweep _ _
  | resumed sessionId succeeded =>
      rcases resume_map stepped with ⟨_, rfl⟩
      have erased := kept.erase (.resuming sessionId) nofun
      cases succeeded with
      | true => exact erased.mirrorSession _ _
      | false => exact erased
  | forked child =>
      rcases resume_map stepped with ⟨_, rfl⟩
      have erased := kept.erase .forking nofun
      cases child with
      | some sessionId => exact erased.mirrorSession _ _
      | none => exact erased
  | bootstrapped sessionId succeeded =>
      simp only [MirrorSet.step] at stepped
      split at stepped
      · next callers found =>
          cases succeeded with
          | true =>
              cases stepped
              exact kept.bootstrapped found (by simpa [strands] using calm)
          | false =>
              cases stepped
              exact kept.bootstrapFailed found
      · cases stepped
  | settled sessionId =>
      rcases Option.bind_eq_some_iff.mp stepped with ⟨bootstrap, found, settled⟩
      exact kept.settle found settled
  | answered caller mirror =>
      rcases resume_map stepped with ⟨waits, rfl⟩
      have erased := kept.erase (.answered caller mirror) nofun
      refine erased.answer caller fun answered isAnswered => ?_
      exact kept.taskKnown _ waits answered (by simp [MirrorTask.mirrors, isAnswered])
  | toreDown active rest =>
      rcases resume_map stepped with ⟨waits, rfl⟩
      have erased := kept.erase (.tearing active rest) nofun
      refine erased.tearDown active (fun entry member => ?_) fun entry next => ?_
      · exact kept.taskKnown _ waits entry.2 (List.mem_map_of_mem member)
      · have own : set.hasOther entry.1 entry.2 = false := by simpa [strands, next] using calm
        exact own
  | disposedOwned mirror first succeeded =>
      simp only [MirrorSet.step] at stepped
      split at stepped
      · cases stepped
      · rcases resume_map stepped with ⟨waits, rfl⟩
        have erased := kept.erase (.disposingOwned mirror first) nofun
        exact erased.forget (kept.begun mirror first waits) succeeded calm
  | disposedOne rest =>
      rcases resume_map stepped with ⟨waits, rfl⟩
      exact kept.disposeAll waits

/-! ## Entries of the map -/

/-- Every entry of the map is undisposed; a torn down entry was its mirror's own. -/
structure Live (set : MirrorSet) : Prop where
  undisposed : ∀ {sessionId mirror}, set.mirrors.get sessionId = some mirror →
    set.isDisposed mirror = false
  torn : ∀ active rest, .tearing active rest ∈ set.tasks → ∀ entry ∈ rest,
    set.sessionOf entry.2 = some entry.1

namespace Live

variable {set next : MirrorSet}

/-- Entries only leave the map, and no run of `reconcile` starts to tear down. -/
theorem frame (live : set.Live) (objects : next.objects = set.objects)
    (entries : ∀ sessionId mirror, next.mirrors.get sessionId = some mirror →
      set.mirrors.get sessionId = some mirror)
    (tasks : ∀ active rest, .tearing active rest ∈ next.tasks →
      .tearing active rest ∈ set.tasks) : next.Live where
  undisposed := fun found => by
    have undisposed := live.undisposed (entries _ _ found)
    rwa [isDisposed, objects]
  torn := fun active rest member entry inRest => by
    have torn := live.torn active rest (tasks active rest member) entry inRest
    rwa [sessionOf, objects]

theorem await (live : set.Live) {task : MirrorTask}
    (other : ∀ active rest, task ≠ .tearing active rest) : (set.await task).Live := by
  refine live.frame rfl (fun _ _ found => found) fun active rest member => ?_
  exact (List.mem_cons.mp member).resolve_left fun same => other active rest same.symm

theorem erase (live : set.Live) (task : MirrorTask) :
    Live { set with tasks := set.tasks.erase task } :=
  live.frame rfl (fun _ _ found => found) fun _ _ member => List.mem_of_mem_erase member

theorem mirrorSession (live : set.Live) (sessionId : SessionId) (caller : MirrorCaller) :
    (set.mirrorSession sessionId caller).Live := by
  unfold MirrorSet.mirrorSession
  split
  · exact live.await nofun
  · exact live.frame rfl (fun _ _ found => found) fun _ _ member => member

theorem tearDown (live : set.Live) (kept : set.Kept) (active : List SessionId)
    {rest : List (SessionId × MirrorId)}
    (own : ∀ entry ∈ rest, set.sessionOf entry.2 = some entry.1) :
    (set.tearDown active rest).Live := by
  induction rest with
  | nil => exact live
  | cons entry rest induction =>
      rcases entry with ⟨sessionId, mirror⟩
      have ownRest : ∀ entry ∈ rest, set.sessionOf entry.2 = some entry.1 := fun entry member =>
        own entry (List.mem_cons_of_mem _ member)
      simp only [MirrorSet.tearDown]
      split
      · exact induction ownRest
      · constructor
        · intro other entry found
          have remains : other ≠ sessionId ∧ set.mirrors.get other = some entry := by
            change (set.mirrors.delete sessionId).get other = some entry at found
            exact OrderedMap.of_get_delete found
          have different : mirror ≠ entry := by
            rintro rfl
            have session := kept.entry remains.2
            rw [own (sessionId, mirror) (by simp)] at session
            exact remains.1 (Option.some.inj session).symm
          have same : ((set.disposeMirror mirror).isDisposed entry) = set.isDisposed entry := by
            rw [isDisposed, getElem?_disposeMirror, if_neg different, isDisposed]
          exact same.trans (live.undisposed remains.2)
        · intro others left member entry inLeft
          refine (sessionOf_disposeMirror set mirror entry.2).trans ?_
          rcases List.mem_cons.mp member with isNew | old
          · cases isNew
            exact ownRest entry inLeft
          · exact live.torn others left old entry inLeft

theorem sweep (live : set.Live) (kept : set.Kept) (active : List SessionId)
    (summaries : List ListedSession) : (set.sweep active summaries).Live := by
  induction summaries with
  | nil =>
      refine live.tearDown kept active fun entry member => kept.entry ?_
      exact (OrderedMap.get_eq_some_iff _ _ _).mpr member
  | cons summary rest induction =>
      simp only [MirrorSet.sweep]
      split
      · exact induction
      · split
        · exact induction
        · exact live.await nofun

theorem answer (live : set.Live) (kept : set.Kept) (caller : MirrorCaller)
    (mirror : Option MirrorId) : (set.answer caller mirror).Live := by
  cases caller with
  | createAgent | resume =>
      cases mirror <;> exact live.frame rfl (fun _ _ found => found) fun _ _ member => member
  | forkRemote => exact live
  | reconcile active rest => exact live.sweep kept active rest

theorem settle (live : set.Live) (kept : set.Kept) {sessionId : SessionId}
    {bootstrap : Bootstrap} (found : set.inflight.get sessionId = some bootstrap)
    (settled : set.settle sessionId bootstrap = some next) : next.Live := by
  have waiting : ∀ {mirror active rest}, .tearing active rest ∈
      bootstrap.callers.map (MirrorTask.answered · mirror) ++ set.tasks →
        .tearing active rest ∈ set.tasks := by
    intro mirror active rest member
    simpa using member
  simp only [MirrorSet.settle] at settled
  split at settled
  · cases settled
  · next mirror isCreated =>
      cases settled
      constructor
      · intro other entry isFound
        change (set.mirrors.set sessionId mirror).get other = some entry at isFound
        rw [OrderedMap.get_set] at isFound
        split at isFound
        · cases isFound
          simp [isDisposed, kept.created found isCreated]
        · exact live.undisposed isFound
      · exact fun active rest member => live.torn active rest (waiting member)
  · cases settled
    exact live.frame rfl (fun _ _ isFound => isFound) fun _ _ member => waiting member

theorem bootstrapped (live : set.Live) (kept : set.Kept) (sessionId : SessionId)
    (inflight : OrderedMap SessionId Bootstrap) :
    Live { set with
      objects := set.objects ++ [{ sessionId := sessionId }], inflight := inflight } := by
  have same : ∀ {mirror : MirrorId} {object}, set.objects[mirror]? = some object →
      (set.objects ++ [({ sessionId := sessionId } : MirrorObject)])[mirror]? = some object := by
    intro mirror object isObject
    rw [List.getElem?_append_left (List.getElem?_eq_some_iff.mp isObject).1]
    exact isObject
  constructor
  · intro other entry found
    have undisposed := live.undisposed found
    rcases kept.entryKnown found with ⟨object, isObject, _⟩
    simp only [isDisposed, isObject] at undisposed
    simp only [isDisposed, same isObject, undisposed]
  · intro active rest member entry inRest
    rcases Option.map_eq_some_iff.mp (live.torn active rest member entry inRest) with
      ⟨object, isObject, isSession⟩
    exact Option.map_eq_some_iff.mpr ⟨object, same isObject, isSession⟩

theorem disposeOwned (live : set.Live) {mirror : MirrorId} {task : MirrorTask}
    (unregistered : mirror ∉ set.mirrors.values)
    (other : ∀ active rest, task ≠ .tearing active rest) :
    ((set.disposeMirror mirror).await task).Live := by
  refine await ⟨?_, ?_⟩ other
  · intro sessionId entry found
    have different : mirror ≠ entry := fun same =>
      unregistered (same ▸ OrderedMap.mem_values_of_get found)
    rw [isDisposed, getElem?_disposeMirror, if_neg different]
    exact live.undisposed found
  · intro active rest member entry inRest
    exact (sessionOf_disposeMirror _ _ _).trans (live.torn active rest member entry inRest)

theorem disposeAll (live : set.Live) (rest : List MirrorId)
    (vacated : ∀ sessionId, set.mirrors.get sessionId = none) : (set.disposeAll rest).Live := by
  cases rest with
  | nil => exact live
  | cons mirror rest =>
      refine await ⟨?_, ?_⟩ nofun
      · intro sessionId entry found
        cases (vacated sessionId).symm.trans found
      · intro active left member entry inLeft
        exact (sessionOf_disposeMirror _ _ _).trans (live.torn active left member entry inLeft)

theorem step (live : set.Live) (kept : set.Kept) {event : MirrorSetEvent}
    (leaves : set.disposesRegistered event = false) (stepped : set.step event = some next) :
    next.Live := by
  cases event with
  | reconcile | resume =>
      cases stepped
      split
      · exact live
      · exact live.await nofun
  | createAgent sessionId =>
      cases stepped
      exact live.mirrorSession _ _
  | forkRemote source =>
      cases stepped
      split
      · exact live.await nofun
      · exact live
  | disposeOwned mirror =>
      simp only [MirrorSet.step] at stepped
      split at stepped
      · cases stepped
        exact live.disposeOwned (by simpa [disposesRegistered] using leaves) nofun
      · cases stepped
  | dispose =>
      cases stepped
      split
      · exact live
      · have vacated : Live { set with disposed := true, mirrors := .empty } :=
          live.frame rfl nofun fun _ _ member => member
        exact vacated.disposeAll _ fun _ => rfl
  | listed summaries =>
      rcases resume_map stepped with ⟨_, rfl⟩
      cases summaries with
      | none => exact live.erase .listing
      | some summaries => exact (live.erase .listing).sweep (kept.erase .listing nofun) _ _
  | attached active sessionId rest succeeded =>
      rcases resume_map stepped with ⟨_, rfl⟩
      have erased := live.erase (.attaching active sessionId rest)
      cases succeeded with
      | true => exact erased.mirrorSession _ _
      | false => exact erased.sweep (kept.erase (.attaching active sessionId rest) nofun) _ _
  | resumed sessionId succeeded =>
      rcases resume_map stepped with ⟨_, rfl⟩
      have erased := live.erase (.resuming sessionId)
      cases succeeded with
      | true => exact erased.mirrorSession _ _
      | false => exact erased
  | forked child =>
      rcases resume_map stepped with ⟨_, rfl⟩
      have erased := live.erase .forking
      cases child with
      | some sessionId => exact erased.mirrorSession _ _
      | none => exact erased
  | bootstrapped sessionId succeeded =>
      simp only [MirrorSet.step] at stepped
      split at stepped
      · cases succeeded with
        | true =>
            cases stepped
            exact live.bootstrapped kept sessionId _
        | false =>
            cases stepped
            exact live.frame rfl (fun _ _ found => found) fun _ _ member => member
      · cases stepped
  | settled sessionId =>
      rcases Option.bind_eq_some_iff.mp stepped with ⟨bootstrap, found, settled⟩
      exact live.settle kept found settled
  | answered caller mirror =>
      rcases resume_map stepped with ⟨_, rfl⟩
      exact (live.erase _).answer (kept.erase (.answered caller mirror) nofun) caller mirror
  | toreDown active rest =>
      rcases resume_map stepped with ⟨waits, rfl⟩
      exact (live.erase _).tearDown (kept.erase (.tearing active rest) nofun) active
        (live.torn active rest waits)
  | disposedOwned mirror first succeeded =>
      simp only [MirrorSet.step] at stepped
      split at stepped
      · cases stepped
      · rcases resume_map stepped with ⟨_, rfl⟩
        have erased := live.erase (.disposingOwned mirror first)
        unfold forget
        split
        · next sessionId isSession =>
            split
            · refine erased.frame rfl ?_ fun _ _ member => member
              intro other entry found
              change (set.mirrors.delete sessionId).get other = some entry at found
              exact (OrderedMap.of_get_delete found).2
            · exact erased
        · exact erased
  | disposedOne rest =>
      rcases resume_map stepped with ⟨waits, rfl⟩
      exact (live.erase _).disposeAll rest (kept.closed (kept.unwinding rest waits)).1

end Live

/-! ## Runs -/

/-- What the orchestrator promises of its mirrors. -/
structure WellKept (set : MirrorSet) : Prop where
  /-- At most one undisposed mirror per session id. -/
  onePerSession : ∀ (sessionId : SessionId) (first second : MirrorId),
    set.objects[first]? = some ⟨sessionId, false⟩ →
      set.objects[second]? = some ⟨sessionId, false⟩ → first = second
  /-- No teardown has unregistered an undisposed mirror: it is in the map, on its way there
  or taken out by `RemoteProxy.dispose` itself. -/
  registered : ∀ (sessionId : SessionId) (mirror : MirrorId),
    set.objects[mirror]? = some ⟨sessionId, false⟩ →
      set.mirrors.get sessionId = some mirror ∨
        (∃ bootstrap, set.inflight.get sessionId = some bootstrap ∧
          bootstrap.state = .created mirror) ∨
        ∃ rest, .disposingAll rest ∈ set.tasks ∧ mirror ∈ rest
  /-- When `RemoteProxy.dispose` has completed, every mirror is disposed. -/
  noneLeft : set.disposed = true → (∀ rest, .disposingAll rest ∉ set.tasks) →
    ∀ object ∈ set.objects, object.disposed = true

/-- Every entry of the map is an undisposed mirror of its session. -/
def EntriesUndisposed (set : MirrorSet) : Prop :=
  ∀ (sessionId : SessionId) (mirror : MirrorId), set.mirrors.get sessionId = some mirror →
    set.objects[mirror]? = some ⟨sessionId, false⟩

theorem Kept.wellKept {set : MirrorSet} (kept : set.Kept) : set.WellKept where
  onePerSession := fun _ _ _ => kept.unique
  registered := fun _ _ => kept.placed
  noneLeft := by
    intro disposed completed object member
    by_contra undisposed
    rcases List.mem_iff_getElem?.mp member with ⟨mirror, found⟩
    have isUndisposed : object = ⟨object.sessionId, false⟩ := by
      cases object
      simpa using undisposed
    rw [isUndisposed] at found
    rcases kept.placed found with registered | ⟨bootstrap, inflight, created⟩ | ⟨rest, waits, _⟩
    · cases ((kept.closed disposed).1 _).symm.trans registered
    · exact (kept.closed disposed).2 _ _ inflight mirror created
    · exact completed rest waits

theorem Live.entriesUndisposed {set : MirrorSet} (live : set.Live) (kept : set.Kept) :
    set.EntriesUndisposed := by
  intro sessionId mirror found
  rcases Option.map_eq_some_iff.mp (kept.entry found) with ⟨object, isObject, rfl⟩
  have undisposed := live.undisposed found
  simp only [isDisposed, isObject, Option.any_some] at undisposed
  rw [isObject, ← undisposed]

/-- In every run of `reconcile`, `mirrorSession` and its callers, the disposal of the
factory's handles and `RemoteProxy.dispose`, in which no teardown meets the entry of another
mirror and no bootstrap ends behind `RemoteProxy.dispose`: there is one undisposed mirror per
session, none is unregistered by another's teardown, and none is left in the end. As long as
no handle of a registered mirror is disposed, every entry of the map is undisposed, too. -/
theorem mirrors_wellKept (events : List MirrorSetEvent) (set : MirrorSet)
    (reached : Execution.run step {} events = some set)
    (calm : Execution.AllSteps step (fun set event => set.strands event = false) {} events) :
    set.WellKept ∧
      (Execution.AllSteps step (fun set event => set.disposesRegistered event = false) {} events →
        set.EntriesUndisposed) := by
  have kept : set.Kept := Execution.run_invariant Kept
    (fun kept calm stepped => kept.step calm stepped) .empty calm reached
  refine ⟨kept.wellKept, fun leaves => ?_⟩
  have both := Execution.AllSteps.and calm leaves
  have live : set.Kept ∧ set.Live := Execution.run_invariant (fun set => set.Kept ∧ set.Live)
    (fun both taken stepped =>
      ⟨both.1.step taken.1 stepped, both.2.step both.1 taken.2 stepped⟩)
    ⟨.empty, ⟨nofun, nofun⟩⟩ both reached
  exact live.2.entriesUndisposed live.1

/-- `reconcile` mirrors one session; an agent that waits for the same bootstrap shares the
mirror. The session ends and is torn down, then the owner disposes the handle, and the proxy
goes. -/
def sharedMirror : List MirrorSetEvent :=
  [.reconcile, .listed (some [⟨"s", true⟩]), .attached ["s"] "s" [] true, .resume "s",
    .resumed "s" true, .bootstrapped "s" true, .settled "s",
    .answered (.reconcile ["s"] []) (some 0), .answered .resume (some 0),
    .reconcile, .listed (some []), .toreDown [] [], .disposeOwned 0,
    .disposedOwned 0 false true, .dispose]

theorem mirrors_wellKept_shared :
    ∃ set, Execution.run step {} sharedMirror = some set ∧ set.WellKept ∧
      set.EntriesUndisposed := by
  have kept := mirrors_wellKept sharedMirror _ rfl (by decide)
  exact ⟨_, rfl, kept.1, kept.2 (by decide)⟩

/-- The proxy is disposed while a bootstrap of `reconcile` is in flight. -/
def disposedTooEarly : List MirrorSetEvent :=
  [.reconcile, .listed (some [⟨"s", true⟩]), .attached ["s"] "s" [] true, .dispose,
    .bootstrapped "s" true, .settled "s", .answered (.reconcile ["s"] []) (some 0)]

/-- The mirror is registered all the same, and nothing is left that would dispose it. -/
theorem mirror_left :
    Execution.run step {} disposedTooEarly = some {
      mirrors := OrderedMap.empty.set "s" 0
      disposed := true
      objects := [⟨"s", false⟩] } ∧
    ¬WellKept {
      mirrors := OrderedMap.empty.set "s" 0
      disposed := true
      objects := [⟨"s", false⟩] } := by
  refine ⟨rfl, fun wellKept => ?_⟩
  have disposed := wellKept.noneLeft rfl nofun ⟨"s", false⟩ (by decide)
  cases disposed

end MirrorSet

end DshRemote.Proxy
