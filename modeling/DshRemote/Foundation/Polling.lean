import DshRemote.Foundation.OrderedMap
import DshRemote.Foundation.Execution
import Mathlib.Data.List.Pairwise

/-! # Polls

A poll of a key starts one sample after another, each of which lands later and is then
published. Polls are stopped and started again, samples overlap and land in any order. The marks
of what happened say which runs are orderly; a sample that lands can be told from the samples
still in flight. -/

namespace DshRemote.Polling

/-- What happened, in order; samples are numbered as they are started. -/
inductive Mark (Key : Type u) (Sample : Type v) where
  | started (key : Key) (number : Nat)
  | stopped (key : Key)
  | published (key : Key) (number : Nat) (sample : Sample)
deriving DecidableEq

/-- A sample that was started for a key, by one of its polls. -/
structure Flight (Key : Type u) where
  key : Key
  poll : Nat
deriving DecidableEq

structure Polls (Key : Type u) (Sample : Type v) where
  running : OrderedMap Key Nat := .empty
  nextPoll : Nat := 0
  flights : OrderedMap Nat (Flight Key) := .empty
  nextNumber : Nat := 0
  marks : List (Mark Key Sample) := []

/-! ## Orderly marks -/

section Marks

variable {Key : Type u} {Sample : Type v}

/-- The key was stopped after the sample had been started for it. -/
def StoppedSince (marks : List (Mark Key Sample)) (key : Key) (number : Nat) : Prop :=
  ∃ before after, marks = before ++ .stopped key :: after ∧ .started key number ∈ before

/-- No sample is published that was started before a stop of its key. -/
def Silent (marks : List (Mark Key Sample)) : Prop :=
  ∀ before key number sample after,
    marks = before ++ .published key number sample :: after → ¬StoppedSince before key number

section Splits

variable {marks : List (Mark Key Sample)} {key : Key}

theorem stoppedSince_append (mark : Mark Key Sample) (number : Nat) :
    StoppedSince (marks ++ [mark]) key number ↔
      StoppedSince marks key number ∨ mark = .stopped key ∧ .started key number ∈ marks := by
  constructor
  · intro since
    rcases since with ⟨before, after, split, isStarted⟩
    rcases snoc_split split with ⟨_, isStop, rfl⟩ | ⟨others, _, rfl⟩
    · exact Or.inr ⟨isStop, isStarted⟩
    · exact Or.inl ⟨before, others, rfl, isStarted⟩
  · intro since
    rcases since with ⟨before, after, rfl, isStarted⟩ | ⟨rfl, isStarted⟩
    · exact ⟨before, after ++ [mark], by simp, isStarted⟩
    · exact ⟨marks, [], rfl, isStarted⟩

theorem not_stoppedSince_of_notMem {number : Nat} (fresh : .started key number ∉ marks) :
    ¬StoppedSince marks key number := by
  intro since
  rcases since with ⟨before, after, rfl, isStarted⟩
  exact fresh (List.mem_append_left _ isStarted)

theorem silent_append_iff (mark : Mark Key Sample) :
    Silent (marks ++ [mark]) ↔ Silent marks ∧
      ∀ key number sample, mark = .published key number sample →
        ¬StoppedSince marks key number := by
  constructor
  · intro silent
    constructor
    · intro before key number sample after split
      apply silent before key number sample (after ++ [mark])
      simp [split]
    · intro key number sample isPublished
      exact silent marks key number sample [] (by rw [isPublished])
  · intro both before key number sample after split
    rcases snoc_split split with ⟨_, isPublished, rfl⟩ | ⟨others, _, isSplit⟩
    · exact both.2 key number sample isPublished
    · exact both.1 before key number sample others isSplit

end Splits

variable [DecidableEq Key]

/-- The samples started for a key, in order. -/
def startsOf (key : Key) (marks : List (Mark Key Sample)) : List Nat :=
  marks.filterMap fun
    | .started other number => if other = key then some number else none
    | _ => none

/-- The samples published for a key, in order. -/
def publishedOf (key : Key) (marks : List (Mark Key Sample)) : List Nat :=
  marks.filterMap fun
    | .published other number _ => if other = key then some number else none
    | _ => none

/-- The sample of a key that was published last. -/
def latestOf (key : Key) (marks : List (Mark Key Sample)) : Option Sample :=
  (marks.filterMap fun
    | .published other _ sample => if other = key then some sample else none
    | _ => none).getLast?

/-- The samples of every key are published in the order in which they were started. -/
def InOrder (marks : List (Mark Key Sample)) : Prop :=
  ∀ key, (publishedOf key marks).Sublist (startsOf key marks)

structure Orderly (marks : List (Mark Key Sample)) : Prop where
  silent : Silent marks
  inOrder : InOrder marks

variable (marks : List (Mark Key Sample)) (key : Key)

theorem startsOf_append (more : List (Mark Key Sample)) :
    startsOf key (marks ++ more) = startsOf key marks ++ startsOf key more :=
  List.filterMap_append

theorem publishedOf_append (more : List (Mark Key Sample)) :
    publishedOf key (marks ++ more) = publishedOf key marks ++ publishedOf key more :=
  List.filterMap_append

theorem latestOf_append_published (number : Nat) (sample : Sample) (other : Key) :
    latestOf other (marks ++ [.published key number sample]) =
      if other = key then some sample else latestOf other marks := by
  by_cases same : other = key
  · simp [latestOf, List.filterMap_append, same]
  · simp [latestOf, List.filterMap_append, same, Ne.symm same]

@[simp] theorem startsOf_started (number : Nat) :
    startsOf key [(.started key number : Mark Key Sample)] = [number] := by
  simp [startsOf]

@[simp] theorem startsOf_started_other {other : Key} (different : other ≠ key) (number : Nat) :
    startsOf key [(.started other number : Mark Key Sample)] = [] := by
  simp [startsOf, different]

@[simp] theorem publishedOf_published (number : Nat) (sample : Sample) :
    publishedOf key [.published key number sample] = [number] := by
  simp [publishedOf]

@[simp] theorem publishedOf_published_other {other : Key} (different : other ≠ key)
    (number : Nat) (sample : Sample) :
    publishedOf key [.published other number sample] = [] := by
  simp [publishedOf, different]

@[simp] theorem startsOf_stopped (other : Key) :
    startsOf key [(.stopped other : Mark Key Sample)] = [] := rfl

@[simp] theorem startsOf_published (other : Key) (number : Nat) (sample : Sample) :
    startsOf key [.published other number sample] = [] := rfl

@[simp] theorem publishedOf_started (other : Key) (number : Nat) :
    publishedOf key [(.started other number : Mark Key Sample)] = [] := rfl

@[simp] theorem publishedOf_stopped (other : Key) :
    publishedOf key [(.stopped other : Mark Key Sample)] = [] := rfl

variable {marks key}

theorem mem_startsOf {number : Nat} :
    number ∈ startsOf key marks ↔ .started key number ∈ marks := by
  constructor
  · intro member
    rcases List.mem_filterMap.mp member with ⟨mark, inMarks, isNumber⟩
    cases mark with
    | started other found =>
        by_cases same : other = key
        · simp only [same, if_true, Option.some.injEq] at isNumber
          rw [← same, ← isNumber]
          exact inMarks
        · simp [same] at isNumber
    | stopped other => cases isNumber
    | published other found sample => cases isNumber
  · intro member
    apply List.mem_filterMap.mpr
    exact ⟨_, member, by simp⟩

/-- A published sample is the last of its key exactly when the ones before it are smaller. -/
theorem sublist_snoc_iff {numbers starts : List Nat} {number : Nat}
    (sorted : starts.Pairwise (· < ·)) (isStarted : number ∈ starts) :
    (numbers ++ [number]).Sublist starts ↔
      numbers.Sublist starts ∧ ∀ earlier ∈ numbers, earlier < number := by
  constructor
  · intro sub
    have increasing := List.pairwise_append.mp (sorted.sublist sub)
    constructor
    · exact (List.sublist_append_left numbers [number]).trans sub
    · intro earlier member
      exact increasing.2.2 earlier member number (List.mem_singleton_self number)
  · intro both
    rcases both with ⟨sub, smaller⟩
    rcases List.append_of_mem isStarted with ⟨before, after, rfl⟩
    rcases List.sublist_append_iff.mp sub with ⟨first, second, rfl, inBefore, inAfter⟩
    have increasing := (List.pairwise_append.mp sorted).2.1
    have noSecond : second = [] := by
      apply List.eq_nil_iff_forall_not_mem.mpr
      intro other member
      have small := smaller other (List.mem_append_right _ member)
      rcases List.mem_cons.mp (inAfter.subset member) with rfl | later
      · exact Nat.lt_irrefl _ small
      · exact Nat.lt_asymm small ((List.pairwise_cons.mp increasing).1 other later)
    rw [noSecond, List.append_nil]
    apply List.Sublist.append inBefore
    exact List.cons_sublist_cons.mpr (List.nil_sublist after)

theorem sublist_of_sublist_snoc {numbers starts : List Nat} {number : Nat}
    (sub : numbers.Sublist (starts ++ [number])) (absent : number ∉ numbers) :
    numbers.Sublist starts := by
  rcases List.sublist_append_iff.mp sub with ⟨first, second, rfl, inStarts, inLast⟩
  have noSecond : second = [] := by
    apply List.eq_nil_iff_forall_not_mem.mpr
    intro other member
    rw [List.mem_singleton.mp (inLast.subset member)] at member
    exact absent (List.mem_append_right _ member)
  rw [noSecond, List.append_nil]
  exact inStarts

theorem orderly_stop_iff (stopped : Key) :
    Orderly (marks ++ [.stopped stopped]) ↔ Orderly marks := by
  have sameOrder : InOrder (marks ++ [.stopped stopped]) ↔ InOrder marks := by
    simp [InOrder, startsOf_append, publishedOf_append]
  have sameSilence : Silent (marks ++ [.stopped stopped]) ↔ Silent marks := by
    simp [silent_append_iff]
  exact ⟨fun orderly => ⟨sameSilence.mp orderly.silent, sameOrder.mp orderly.inOrder⟩,
    fun orderly => ⟨sameSilence.mpr orderly.silent, sameOrder.mpr orderly.inOrder⟩⟩

theorem orderly_start_iff {key : Key} {number : Nat} (fresh : number ∉ publishedOf key marks) :
    Orderly (marks ++ [.started key number]) ↔ Orderly marks := by
  have sameSilence : Silent (marks ++ [.started key number]) ↔ Silent marks := by
    simp [silent_append_iff]
  have sameOrder : InOrder (marks ++ [.started key number]) ↔ InOrder marks := by
    apply forall_congr'
    intro other
    rw [startsOf_append, publishedOf_append, publishedOf_started, List.append_nil]
    by_cases same : key = other
    · subst same
      rw [startsOf_started]
      constructor
      · intro sub
        exact sublist_of_sublist_snoc sub fresh
      · intro sub
        exact sub.trans (List.sublist_append_left _ _)
    · rw [startsOf_started_other other same, List.append_nil]
  exact ⟨fun orderly => ⟨sameSilence.mp orderly.silent, sameOrder.mp orderly.inOrder⟩,
    fun orderly => ⟨sameSilence.mpr orderly.silent, sameOrder.mpr orderly.inOrder⟩⟩

theorem orderly_publish_iff {key : Key} {number : Nat} (sample : Sample)
    (sorted : (startsOf key marks).Pairwise (· < ·)) (isStarted : number ∈ startsOf key marks) :
    Orderly (marks ++ [.published key number sample]) ↔
      Orderly marks ∧ ¬StoppedSince marks key number ∧
        ∀ earlier ∈ publishedOf key marks, earlier < number := by
  have silence : Silent (marks ++ [.published key number sample]) ↔
      Silent marks ∧ ¬StoppedSince marks key number := by
    rw [silent_append_iff]
    constructor
    · intro both
      exact ⟨both.1, both.2 key number sample rfl⟩
    · intro both
      constructor
      · exact both.1
      · intro _ _ _ isMark
        cases isMark
        exact both.2
  have order : InOrder (marks ++ [.published key number sample]) ↔
      InOrder marks ∧ ∀ earlier ∈ publishedOf key marks, earlier < number := by
    have last : (publishedOf key marks ++ [number]).Sublist (startsOf key marks) ↔
        (publishedOf key marks).Sublist (startsOf key marks) ∧
          ∀ earlier ∈ publishedOf key marks, earlier < number :=
      sublist_snoc_iff sorted isStarted
    constructor
    · intro inOrder
      have ofKey := inOrder key
      simp only [startsOf_append, publishedOf_append, publishedOf_published, startsOf_published,
        List.append_nil] at ofKey
      constructor
      · intro other
        by_cases same : key = other
        · rw [← same]
          exact (last.mp ofKey).1
        · have ofOther := inOrder other
          simpa [startsOf_append, publishedOf_append, same] using ofOther
      · exact (last.mp ofKey).2
    · intro both other
      simp only [startsOf_append, publishedOf_append, startsOf_published, List.append_nil]
      by_cases same : key = other
      · rw [← same, publishedOf_published]
        exact last.mpr ⟨both.1 key, both.2⟩
      · rw [publishedOf_published_other other same, List.append_nil]
        exact both.1 other
  constructor
  · intro orderly
    have silent := silence.mp orderly.silent
    have inOrder := order.mp orderly.inOrder
    exact ⟨⟨silent.1, inOrder.1⟩, silent.2, inOrder.2⟩
  · intro conditions
    rcases conditions with ⟨orderly, current, newest⟩
    exact ⟨silence.mpr ⟨orderly.silent, current⟩, order.mpr ⟨orderly.inOrder, newest⟩⟩

end Marks

variable {Key : Type u} {Sample : Type v} [DecidableEq Key]

namespace Polls

/-! ## Operations -/

/-- Start polling a key, unless it is polled. -/
def start (self : Polls Key Sample) (key : Key) : Polls Key Sample :=
  if self.running.has key then self
  else { self with
    running := self.running.set key self.nextPoll, nextPoll := self.nextPoll + 1 }

/-- Stop polling a key; what is in flight stays there. -/
def stop (self : Polls Key Sample) (key : Key) : Polls Key Sample :=
  { self with running := self.running.delete key, marks := self.marks ++ [.stopped key] }

/-- Start a sample of a running poll. -/
def launch (self : Polls Key Sample) (key : Key) (poll : Nat) : Polls Key Sample :=
  { self with
    flights := self.flights.set self.nextNumber { key := key, poll := poll }
    nextNumber := self.nextNumber + 1
    marks := self.marks ++ [.started key self.nextNumber] }

/-- A sample lands and is published. -/
def land (self : Polls Key Sample) (number : Nat) (key : Key) (sample : Sample) :
    Polls Key Sample :=
  { self with
    flights := self.flights.delete number
    marks := self.marks ++ [.published key number sample] }

/-- A sample in time: the poll that started it still runs, and all samples started for its key
after it are still in flight. -/
structure Timely (polls : Polls Key Sample) (number : Nat) (flight : Flight Key) : Prop where
  runs : polls.running.get flight.key = some flight.poll
  isOldest : ∀ later ∈ startsOf flight.key polls.marks, number < later →
    later ∈ polls.flights.keys

instance (polls : Polls Key Sample) (number : Nat) (flight : Flight Key) :
    Decidable (polls.Timely number flight) :=
  decidable_of_iff
    (polls.running.get flight.key = some flight.poll ∧
      ∀ later ∈ startsOf flight.key polls.marks, number < later → later ∈ polls.flights.keys)
    ⟨fun both => ⟨both.1, both.2⟩, fun timely => ⟨timely.runs, timely.isOldest⟩⟩

/-! ## What holds of polls -/

/-- Every started sample is in flight or published, and a flight's poll runs as long as its key
has not been stopped. -/
structure Sound (polls : Polls Key Sample) : Prop where
  startedBelow : ∀ {key number}, number ∈ startsOf key polls.marks → number < polls.nextNumber
  sorted : ∀ key, (startsOf key polls.marks).Pairwise (· < ·)
  accounted : ∀ {key number}, number ∈ startsOf key polls.marks →
    (∃ poll, polls.flights.get number = some ⟨key, poll⟩) ∨
      number ∈ publishedOf key polls.marks
  published : ∀ {key number}, number ∈ publishedOf key polls.marks →
    number ∈ startsOf key polls.marks ∧ number ∉ polls.flights.keys
  flightStarted : ∀ {number flight}, polls.flights.get number = some flight →
    number ∈ startsOf flight.key polls.marks
  flightPoll : ∀ {number flight}, polls.flights.get number = some flight →
    flight.poll < polls.nextPoll
  runningPoll : ∀ {key poll}, polls.running.get key = some poll → poll < polls.nextPoll
  runs_iff : ∀ {number flight}, polls.flights.get number = some flight →
    (polls.running.get flight.key = some flight.poll ↔
      ¬StoppedSince polls.marks flight.key number)

theorem sound_empty : ({} : Polls Key Sample).Sound where
  startedBelow member := nomatch member
  sorted _ := List.Pairwise.nil
  accounted member := nomatch member
  published member := nomatch member
  flightStarted found := nomatch found
  flightPoll found := nomatch found
  runningPoll found := nomatch found
  runs_iff found := nomatch found

theorem orderly_nil : Orderly ([] : List (Mark Key Sample)) where
  silent _ _ _ _ _ split := absurd split (by simp)
  inOrder _ := List.nil_sublist _

variable {polls : Polls Key Sample} {key : Key}

@[simp] theorem start_marks (polls : Polls Key Sample) (key : Key) :
    (polls.start key).marks = polls.marks := by
  unfold start
  split <;> rfl

theorem Sound.start (sound : polls.Sound) (key : Key) : (polls.start key).Sound := by
  unfold Polls.start
  split
  · exact sound
  · next idle =>
      have absent : polls.running.get key = none := by simpa [OrderedMap.has] using idle
      exact {
        startedBelow := sound.startedBelow
        sorted := sound.sorted
        accounted := sound.accounted
        published := sound.published
        flightStarted := sound.flightStarted
        flightPoll := fun found => Nat.lt_succ_of_lt (sound.flightPoll found)
        runningPoll := by
          intro other poll found
          rw [OrderedMap.get_set] at found
          split at found
          · cases found
            exact Nat.lt_succ_self _
          · exact Nat.lt_succ_of_lt (sound.runningPoll found)
        runs_iff := by
          intro number flight found
          rw [← sound.runs_iff found, OrderedMap.get_set]
          split
          · next same =>
              -- The new poll is none that started a sample.
              rw [same, absent]
              have older := Nat.ne_of_gt (sound.flightPoll found)
              simp [older]
          · rfl }

theorem Sound.stop (sound : polls.Sound) (key : Key) : (polls.stop key).Sound where
  startedBelow := by
    intro other number member
    simp only [Polls.stop, startsOf_append, startsOf_stopped, List.append_nil] at member
    exact sound.startedBelow member
  sorted other := by
    simpa [Polls.stop, startsOf_append] using sound.sorted other
  accounted := by
    intro other number member
    simp only [Polls.stop, startsOf_append, publishedOf_append, startsOf_stopped,
      publishedOf_stopped, List.append_nil] at member ⊢
    exact sound.accounted member
  published := by
    intro other number member
    simp only [Polls.stop, startsOf_append, publishedOf_append, startsOf_stopped,
      publishedOf_stopped, List.append_nil] at member ⊢
    exact sound.published member
  flightStarted := by
    intro number flight found
    simp only [Polls.stop, startsOf_append, startsOf_stopped, List.append_nil]
    exact sound.flightStarted found
  flightPoll found := sound.flightPoll found
  runningPoll := by
    intro other poll found
    exact sound.runningPoll (OrderedMap.of_get_delete found).2
  runs_iff := by
    intro number flight found
    have isStarted := mem_startsOf.mp (sound.flightStarted found)
    simp only [Polls.stop, OrderedMap.get_delete, stoppedSince_append, Mark.stopped.injEq]
    by_cases same : flight.key = key
    · subst same
      simp [isStarted]
    · simp only [if_neg same, sound.runs_iff found, Ne.symm same, false_and, or_false]

theorem orderly_stop (polls : Polls Key Sample) (key : Key) :
    Orderly (polls.stop key).marks ↔ Orderly polls.marks := orderly_stop_iff key

theorem Sound.nextNumber_fresh (sound : polls.Sound) :
    polls.nextNumber ∉ polls.flights.keys ∧
      ∀ key, polls.nextNumber ∉ publishedOf key polls.marks := by
  constructor
  · intro member
    rcases (polls.flights.mem_keys_iff _).mp member with ⟨flight, found⟩
    exact Nat.lt_irrefl _ (sound.startedBelow (sound.flightStarted found))
  · intro key member
    exact Nat.lt_irrefl _ (sound.startedBelow (sound.published member).1)

theorem mem_startsOf_launch {other : Key} {poll number : Nat} :
    number ∈ startsOf other (polls.launch key poll).marks ↔
      number ∈ startsOf other polls.marks ∨ other = key ∧ number = polls.nextNumber := by
  simp only [launch, startsOf_append, List.mem_append]
  by_cases same : key = other
  · subst same
    simp
  · simp [same, Ne.symm same]

@[simp] theorem publishedOf_launch (other : Key) (poll : Nat) :
    publishedOf other (polls.launch key poll).marks = publishedOf other polls.marks := by
  simp [launch, publishedOf_append]

theorem Sound.launch (sound : polls.Sound) {poll : Nat}
    (runs : polls.running.get key = some poll) : (polls.launch key poll).Sound where
  startedBelow := by
    intro other number member
    rcases mem_startsOf_launch.mp member with earlier | ⟨_, rfl⟩
    · exact Nat.lt_succ_of_lt (sound.startedBelow earlier)
    · exact Nat.lt_succ_self _
  sorted other := by
    simp only [Polls.launch, startsOf_append]
    by_cases same : key = other
    · rw [same, startsOf_started]
      apply List.pairwise_append.mpr
      refine ⟨sound.sorted other, List.pairwise_singleton _ _, ?_⟩
      intro earlier member number isNumber
      rw [List.mem_singleton.mp isNumber]
      exact sound.startedBelow member
    · rw [startsOf_started_other other same, List.append_nil]
      exact sound.sorted other
  accounted := by
    intro other number member
    rw [publishedOf_launch]
    simp only [Polls.launch, OrderedMap.get_set]
    rcases mem_startsOf_launch.mp member with earlier | ⟨rfl, isNumber⟩
    · rw [if_neg (Nat.ne_of_lt (sound.startedBelow earlier))]
      exact sound.accounted earlier
    · rw [if_pos isNumber]
      exact Or.inl ⟨poll, rfl⟩
  published := by
    intro other number member
    rw [publishedOf_launch] at member
    have before := sound.published member
    constructor
    · exact mem_startsOf_launch.mpr (Or.inl before.1)
    · show number ∉ (polls.flights.set polls.nextNumber _).keys
      rw [OrderedMap.mem_keys_set_iff, not_or]
      exact ⟨Nat.ne_of_lt (sound.startedBelow before.1), before.2⟩
  flightStarted := by
    intro number flight found
    simp only [Polls.launch, OrderedMap.get_set] at found
    apply mem_startsOf_launch.mpr
    split at found
    · next isNumber =>
        cases found
        exact Or.inr ⟨rfl, isNumber⟩
    · exact Or.inl (sound.flightStarted found)
  flightPoll := by
    intro number flight found
    simp only [Polls.launch, OrderedMap.get_set] at found
    split at found
    · cases found
      exact sound.runningPoll runs
    · exact sound.flightPoll found
  runningPoll found := sound.runningPoll found
  runs_iff := by
    intro number flight found
    simp only [Polls.launch, OrderedMap.get_set] at found
    simp only [Polls.launch, stoppedSince_append, reduceCtorEq, false_and, or_false]
    split at found
    · next isNumber =>
        cases found
        apply iff_of_true runs
        apply not_stoppedSince_of_notMem
        intro isStarted
        have below := sound.startedBelow (mem_startsOf.mpr isStarted)
        rw [isNumber] at below
        exact Nat.lt_irrefl _ below
    · exact sound.runs_iff found

theorem Sound.orderly_launch (sound : polls.Sound) (key : Key) (poll : Nat) :
    Orderly (polls.launch key poll).marks ↔ Orderly polls.marks :=
  orderly_start_iff (sound.nextNumber_fresh.2 key)

theorem mem_publishedOf_land {other : Key} {number landed : Nat} {sample : Sample} :
    number ∈ publishedOf other (polls.land landed key sample).marks ↔
      number ∈ publishedOf other polls.marks ∨ other = key ∧ number = landed := by
  simp only [land, publishedOf_append, List.mem_append]
  by_cases same : key = other
  · subst same
    simp
  · simp [same, Ne.symm same]

@[simp] theorem startsOf_land (other : Key) (number : Nat) (sample : Sample) :
    startsOf other (polls.land number key sample).marks = startsOf other polls.marks := by
  simp [land, startsOf_append]

theorem Sound.land (sound : polls.Sound) {number : Nat} {flight : Flight Key}
    (found : polls.flights.get number = some flight) (sample : Sample) :
    (polls.land number flight.key sample).Sound where
  startedBelow := by
    intro other earlier member
    rw [startsOf_land] at member
    exact sound.startedBelow member
  sorted other := by
    rw [startsOf_land]
    exact sound.sorted other
  accounted := by
    intro other earlier member
    rw [startsOf_land] at member
    rw [mem_publishedOf_land]
    simp only [Polls.land, OrderedMap.get_delete]
    rcases sound.accounted member with ⟨poll, flies⟩ | isPublished
    · by_cases same : earlier = number
      · rw [same, found] at flies
        cases flies
        exact Or.inr (Or.inr ⟨rfl, same⟩)
      · rw [if_neg same]
        exact Or.inl ⟨poll, flies⟩
    · exact Or.inr (Or.inl isPublished)
  published := by
    intro other earlier member
    rw [startsOf_land]
    show _ ∧ earlier ∉ (polls.flights.delete number).keys
    rw [OrderedMap.mem_keys_delete_iff, not_and]
    rcases mem_publishedOf_land.mp member with before | ⟨rfl, rfl⟩
    · exact ⟨(sound.published before).1, fun _ => (sound.published before).2⟩
    · exact ⟨sound.flightStarted found, fun different => absurd rfl different⟩
  flightStarted := by
    intro other another isFlight
    rw [startsOf_land]
    exact sound.flightStarted (OrderedMap.of_get_delete isFlight).2
  flightPoll := by
    intro other another isFlight
    exact sound.flightPoll (OrderedMap.of_get_delete isFlight).2
  runningPoll isRunning := sound.runningPoll isRunning
  runs_iff := by
    intro other another isFlight
    simp only [Polls.land, OrderedMap.get_delete] at isFlight
    simp only [Polls.land, stoppedSince_append, reduceCtorEq, false_and, or_false]
    split at isFlight
    · cases isFlight
    · exact sound.runs_iff isFlight

/-- Landing keeps the marks orderly exactly when the sample is in time. -/
theorem Sound.orderly_land_iff (sound : polls.Sound) {number : Nat} {flight : Flight Key}
    (found : polls.flights.get number = some flight) (sample : Sample) :
    Orderly (polls.land number flight.key sample).marks ↔
      Orderly polls.marks ∧ polls.Timely number flight := by
  have isStarted := sound.flightStarted found
  have inFlight : number ∈ polls.flights.keys := (polls.flights.mem_keys_iff _).mpr ⟨_, found⟩
  have newest : (∀ earlier ∈ publishedOf flight.key polls.marks, earlier < number) ↔
      ∀ later ∈ startsOf flight.key polls.marks, number < later → later ∈ polls.flights.keys := by
    constructor
    · intro smaller later member isLater
      rcases sound.accounted member with ⟨poll, flies⟩ | isPublished
      · exact (polls.flights.mem_keys_iff _).mpr ⟨_, flies⟩
      · exact absurd isLater (Nat.lt_asymm (smaller later isPublished))
    · intro flying earlier member
      rcases sound.published member with ⟨earlierStarted, landed⟩
      rcases Nat.lt_trichotomy earlier number with isEarlier | rfl | isLater
      · exact isEarlier
      · exact absurd inFlight landed
      · exact absurd (flying earlier earlierStarted isLater) landed
  have published := orderly_publish_iff sample (sound.sorted flight.key) isStarted
  rw [show (polls.land number flight.key sample).marks =
    polls.marks ++ [.published flight.key number sample] from rfl, published, newest,
    ← sound.runs_iff found]
  constructor
  · intro conditions
    exact ⟨conditions.1, conditions.2.1, conditions.2.2⟩
  · intro conditions
    exact ⟨conditions.1, conditions.2.runs, conditions.2.isOldest⟩

/-- A sample that lands as soon as it was started is in time. -/
theorem Sound.timely_launch (sound : polls.Sound) {poll : Nat}
    (runs : polls.running.get key = some poll) :
    (polls.launch key poll).Timely polls.nextNumber ⟨key, poll⟩ where
  runs := runs
  isOldest later member isLater := by
    have below := (sound.launch runs).startedBelow member
    exact absurd (Nat.lt_of_lt_of_le isLater (Nat.le_of_lt_succ below)) (Nat.lt_irrefl _)

end Polls

end DshRemote.Polling
