import DshRemote.Proxy.Mirror

/-! # The seam between history and live feed

The history covers the remote log up to its end when the first page was served, the
feed what was appended after the attach. The mirror drops nothing of the overlap, so
one event on both sides freezes it. -/

namespace DshRemote.Proxy

open Backend

/-- The local log that mirrors a stretch of the remote one. -/
def SessionLibrary.mirrored (library : SessionLibrary) (events : List MirroredWireEvent) :
    List LocalEvent :=
  events.map fun event => library.localEvent event.seq event

/-- The library accepts, in order, what the remote runtime has logged. -/
def SessionLibrary.Accepts (library : SessionLibrary) (remote : List MirroredWireEvent) : Prop :=
  ∀ before event after, remote = before ++ event :: after →
    library.rejects (library.mirrored before) (library.localEvent event.seq event) = none

variable {library : SessionLibrary}

theorem SessionLibrary.Accepts.of_append {remote more : List MirroredWireEvent}
    (accepts : library.Accepts (remote ++ more)) : library.Accepts remote := by
  intro before event after split
  exact accepts before event (after ++ more) (by rw [split, List.append_assoc, List.cons_append])

theorem length_mirrored (events : List MirroredWireEvent) :
    (library.mirrored events).length = events.length := List.length_map _

theorem mirrored_append (left right : List MirroredWireEvent) :
    library.mirrored (left ++ right) = library.mirrored left ++ library.mirrored right :=
  List.map_append

theorem appendMirroredEvent_next {before after : List MirroredWireEvent}
    {event : MirroredWireEvent}
    (contiguous : Contiguous MirrorRun.seqOf (before ++ event :: after))
    (accepts : library.Accepts (before ++ event :: after)) :
    event.seq = (library.mirrored before).length ∧
      appendMirroredEvent library (library.mirrored before) event =
        .ok (library.mirrored (before ++ [event])) := by
  have atEnd : event.seq = (library.mirrored before).length := by
    rw [length_mirrored]
    exact contiguous.seq_of_split
  refine ⟨atEnd, ?_⟩
  simp only [appendMirroredEvent, ← atEnd, accepts before event after rfl, mirrored_append]
  rfl

theorem replayHistory_stretch (sessionId : SessionId)
    {before stretch after : List MirroredWireEvent}
    (contiguous : Contiguous MirrorRun.seqOf (before ++ stretch ++ after))
    (accepts : library.Accepts (before ++ stretch ++ after)) :
    replayHistory library sessionId (library.mirrored before) stretch =
      .ok (library.mirrored (before ++ stretch)) := by
  induction stretch generalizing before with
  | nil => rw [List.append_nil, replayHistory]
  | cons event rest induction =>
      have regroup : before ++ event :: rest ++ after = before ++ event :: (rest ++ after) := by
        rw [List.append_assoc, List.cons_append]
      rcases appendMirroredEvent_next (regroup ▸ contiguous) (regroup ▸ accepts) with
        ⟨atEnd, appended⟩
      have shift : before ++ event :: rest = before ++ [event] ++ rest := by simp
      rw [replayHistory, if_neg (not_not.mpr atEnd), appended, shift]
      exact induction (by rwa [← shift]) (by rwa [← shift])

theorem appendEvents_stretch (sessionId : SessionId) {before stretch after : List MirroredWireEvent}
    (contiguous : Contiguous MirrorRun.seqOf (before ++ stretch ++ after))
    (accepts : library.Accepts (before ++ stretch ++ after)) {mirror : Mirror}
    (intact : mirror.failed = none) (session : mirror.session = library.mirrored before) :
    (stretch.foldl (Mirror.appendEvent library sessionId) mirror).failed = none ∧
      (stretch.foldl (Mirror.appendEvent library sessionId) mirror).session =
        library.mirrored (before ++ stretch) := by
  induction stretch generalizing before mirror with
  | nil => exact ⟨intact, by rw [List.append_nil]; exact session⟩
  | cons event rest induction =>
      have regroup : before ++ event :: rest ++ after = before ++ event :: (rest ++ after) := by
        rw [List.append_assoc, List.cons_append]
      rcases appendMirroredEvent_next (regroup ▸ contiguous) (regroup ▸ accepts) with
        ⟨atEnd, appended⟩
      have shift : before ++ event :: rest = before ++ [event] ++ rest := by simp
      rw [shift, List.foldl_cons]
      refine induction (by rwa [← shift]) (by rwa [← shift]) ?_ ?_
      · simp only [Mirror.appendEvent, intact, session, Option.isSome_none, atEnd, appended]
        simp
      · simp only [Mirror.appendEvent, intact, session, Option.isSome_none, atEnd, appended]
        simp

theorem appendEvents_failed (sessionId : SessionId) (events : List MirroredWireEvent)
    {mirror : Mirror} (failed : mirror.failed.isSome = true) :
    events.foldl (Mirror.appendEvent library sessionId) mirror = mirror := by
  induction events with
  | nil => rfl
  | cons event rest induction =>
      rw [List.foldl_cons, Mirror.appendEvent, if_pos failed]
      exact induction

theorem appendEvent_covered (sessionId : SessionId) {mirror : Mirror} {event : MirroredWireEvent}
    (intact : mirror.failed = none) (covered : event.seq < mirror.session.length) :
    (mirror.appendEvent library sessionId event).failed.isSome = true ∧
      (mirror.appendEvent library sessionId event).session = mirror.session := by
  have different : event.seq ≠ mirror.session.length := Nat.ne_of_lt covered
  rw [Mirror.appendEvent, if_neg (by simp [intact]), if_pos different]
  exact ⟨rfl, rfl⟩

namespace MirrorRun

/-! ## The invariant -/

/-- The mirror after history up to `upper` and feed up to `position`. -/
structure Seam (library : SessionLibrary) (run : MirrorRun) (upper : Nat) (mirror : Mirror) :
    Prop where
  apart : upper = run.attachedAt ∨ run.position = run.attachedAt →
    mirror.failed = none ∧
      mirror.session = library.mirrored (run.remote.take (max upper run.position))
  overlap : ¬(upper = run.attachedAt ∨ run.position = run.attachedAt) →
    mirror.failed.isSome = true ∧ mirror.session = library.mirrored (run.remote.take upper)

/-- How far the history reaches: at least up to where the feed begins. -/
structure Bounds (run : MirrorRun) (upper : Nat) : Prop where
  served : run.snapshot = some upper
  fromAttach : run.attachedAt ≤ upper
  within : upper ≤ run.remote.length

/-- What holds of the phase. -/
def PhaseSound (library : SessionLibrary) (run : MirrorRun) : Prop :=
  match run.phase with
  | .reading read =>
      run.buffered = slice run.remote run.attachedAt run.position ∧
        (read = {} ∧ run.snapshot = none ∨
          ∃ upper, run.Bounds upper ∧ read.Covers pageSize run.fromSeq upper run.remote ∧
            ∀ result, read.phase ≠ .done result)
  | .composing session =>
      run.buffered = slice run.remote run.attachedAt run.position ∧
        ∃ upper, run.Bounds upper ∧ session = library.mirrored (run.remote.take upper)
  | .live mirror => ∃ upper, run.Bounds upper ∧ run.Seam library upper mirror
  | .rejected _ => False

structure Sound (library : SessionLibrary) (run : MirrorRun) : Prop where
  contiguous : Contiguous seqOf run.remote
  attached : run.attachedAt ≤ run.position
  delivered : run.position ≤ run.remote.length
  low : run.fromSeq ≤ run.attachedAt
  seeded : run.seedSession.getD [] = library.mirrored (run.remote.take run.fromSeq)
  phase : run.PhaseSound library

theorem Bounds.grow {run : MirrorRun} {upper : Nat} (bounds : run.Bounds upper)
    (more : List MirroredWireEvent) : Bounds { run with remote := run.remote ++ more } upper :=
  ⟨bounds.served, bounds.fromAttach,
    Nat.le_trans bounds.within (by rw [List.length_append]; exact Nat.le_add_right _ _)⟩

theorem Sound.remoteAppended {run : MirrorRun} (sound : run.Sound library)
    {event : MirroredWireEvent} (atEnd : event.seq = run.remote.length) :
    Sound library { run with remote := run.remote ++ [event] } := by
  have low := Nat.le_trans sound.low (Nat.le_trans sound.attached sound.delivered)
  have feed : slice (run.remote ++ [event]) run.attachedAt run.position =
      slice run.remote run.attachedAt run.position := slice_grow _ _ sound.delivered
  have taken : ∀ {upper}, upper ≤ run.remote.length →
      (run.remote ++ [event]).take upper = run.remote.take upper :=
    fun within => List.take_append_of_le_length within
  refine ⟨sound.contiguous.snoc atEnd, sound.attached, ?_, sound.low, ?_, ?_⟩
  · exact Nat.le_trans sound.delivered (by simp)
  · rw [sound.seeded]
    exact congrArg library.mirrored (taken low).symm
  · have phase := sound.phase
    simp only [PhaseSound] at phase ⊢
    split at phase
    · rcases phase with ⟨buffered, fresh | ⟨upper, bounds, covers, notDone⟩⟩
      · exact ⟨by rw [feed]; exact buffered, Or.inl fresh⟩
      · exact ⟨by rw [feed]; exact buffered,
          Or.inr ⟨upper, bounds.grow _, covers.grow bounds.within _, notDone⟩⟩
    · rcases phase with ⟨buffered, upper, bounds, session⟩
      exact ⟨by rw [feed]; exact buffered, upper, bounds.grow _,
        by rw [taken bounds.within]; exact session⟩
    · rcases phase with ⟨upper, bounds, seam⟩
      have reach : max upper run.position ≤ run.remote.length :=
        Nat.max_le.mpr ⟨bounds.within, sound.delivered⟩
      refine ⟨upper, bounds.grow _, ?_, ?_⟩
      · intro apart
        rw [taken reach]
        exact seam.apart apart
      · intro overlap
        rw [taken bounds.within]
        exact seam.overlap overlap
    · exact phase

theorem Seam.deliver {run : MirrorRun} (sound : run.Sound library)
    (accepts : library.Accepts run.remote) {upper : Nat} (bounds : run.Bounds upper)
    {mirror : Mirror} (seam : run.Seam library upper mirror) {event : MirroredWireEvent}
    (found : run.remote[run.position]? = some event) {after : MirrorRun}
    (remote : after.remote = run.remote) (attachedAt : after.attachedAt = run.attachedAt)
    (position : after.position = run.position + 1) :
    after.Seam library upper (mirror.appendEvent library run.sessionId event) := by
  have seq : event.seq = run.position := sound.contiguous.seq_of_getElem? found
  have begun : after.position ≠ after.attachedAt := by
    have attached := sound.attached
    omega
  rcases List.getElem?_eq_some_iff.mp found with ⟨within, isEvent⟩
  have next : run.remote.take (run.position + 1) = run.remote.take run.position ++ [event] := by
    rw [List.take_add_one, found]
    rfl
  have split : run.remote.take run.position ++ [event] ++ run.remote.drop (run.position + 1) =
      run.remote := by
    rw [← next]
    exact List.take_append_drop _ _
  constructor
  · intro apart
    have same : upper = run.attachedAt := by
      rcases apart with upperIs | none
      · exact upperIs.trans attachedAt
      · exact absurd none begun
    rcases seam.apart (Or.inl same) with ⟨intact, session⟩
    have reach : max upper run.position = run.position := by
      have attached := sound.attached
      omega
    rw [reach] at session
    have splitContiguous : Contiguous seqOf (run.remote.take run.position ++ [event] ++
        run.remote.drop (run.position + 1)) := by
      rw [split]
      exact sound.contiguous
    have appended := appendEvents_stretch run.sessionId splitContiguous
      (by rw [split]; exact accepts) intact session
    have reachAfter : max upper after.position = run.position + 1 := by omega
    rw [reachAfter, remote, next]
    exact appended
  · intro overlap
    have beyond : upper ≠ run.attachedAt := fun same =>
      overlap (Or.inl (same.trans attachedAt.symm))
    rw [remote]
    by_cases first : run.position = run.attachedAt
    · rcases seam.apart (Or.inr first) with ⟨intact, session⟩
      have reach : max upper run.position = upper := by
        have fromAttach := bounds.fromAttach
        omega
      rw [reach] at session
      have covered : event.seq < mirror.session.length := by
        rw [session, length_mirrored, List.length_take, Nat.min_eq_left bounds.within, seq, first]
        exact Nat.lt_of_le_of_ne bounds.fromAttach (Ne.symm beyond)
      rcases appendEvent_covered run.sessionId intact covered with ⟨failed, kept⟩
      exact ⟨failed, kept.trans session⟩
    · have frozen := seam.overlap (by
        rintro (same | none)
        · exact beyond same
        · exact first none)
      have kept : mirror.appendEvent library run.sessionId event = mirror :=
        appendEvents_failed run.sessionId [event] frozen.1
      rw [kept]
      exact frozen

theorem Seam.drain {run : MirrorRun} (sound : run.Sound library)
    (accepts : library.Accepts run.remote) {upper : Nat} (bounds : run.Bounds upper)
    (buffered : run.buffered = slice run.remote run.attachedAt run.position)
    {after : MirrorRun} (remote : after.remote = run.remote)
    (attachedAt : after.attachedAt = run.attachedAt) (position : after.position = run.position) :
    after.Seam library upper (run.buffered.foldl (Mirror.appendEvent library run.sessionId)
      { session := library.mirrored (run.remote.take upper) }) := by
  have attached := sound.attached
  have delivered := sound.delivered
  have fromAttach := bounds.fromAttach
  rw [buffered]
  constructor
  · intro apart
    rw [attachedAt, position] at apart
    rw [remote, position]
    by_cases quiet : run.position = run.attachedAt
    · have reach : max upper run.position = upper := by omega
      rw [quiet, slice_self, ← quiet, reach]
      exact ⟨rfl, rfl⟩
    · have same : upper = run.attachedAt := by
        rcases apart with upperIs | noFeed
        · exact upperIs
        · exact absurd noFeed quiet
      have split : run.remote.take run.attachedAt ++
          slice run.remote run.attachedAt run.position ++ run.remote.drop run.position =
            run.remote := by
        rw [take_append_slice _ attached, List.take_append_drop]
      have splitContiguous : Contiguous seqOf (run.remote.take run.attachedAt ++
          slice run.remote run.attachedAt run.position ++ run.remote.drop run.position) := by
        rw [split]
        exact sound.contiguous
      have intact : (Mirror.mk (library.mirrored (run.remote.take run.attachedAt)) none []).failed =
        none := rfl
      have appended := appendEvents_stretch run.sessionId splitContiguous
        (by rw [split]; exact accepts) intact rfl
      have reach : max upper run.position = run.position := by omega
      rw [reach, same]
      rw [take_append_slice _ attached] at appended
      exact appended
  · intro overlap
    rw [attachedAt, position] at overlap
    rw [remote]
    have begun : run.attachedAt < run.remote.length := by omega
    have head : slice run.remote run.attachedAt run.position =
        run.remote[run.attachedAt] :: slice run.remote (run.attachedAt + 1) run.position := by
      have single := slice_succ (Nat.le_refl run.attachedAt) (List.getElem?_eq_getElem begun)
      rw [← slice_append run.remote (Nat.le_succ run.attachedAt)
        (by omega : run.attachedAt + 1 ≤ run.position), single, slice_self]
      rfl
    have seq : run.remote[run.attachedAt].seq = run.attachedAt :=
      sound.contiguous.seq_of_getElem? (List.getElem?_eq_getElem begun)
    have covered : run.remote[run.attachedAt].seq <
        (library.mirrored (run.remote.take upper)).length := by
      rw [length_mirrored, List.length_take, Nat.min_eq_left bounds.within, seq]
      omega
    rw [head, List.foldl_cons]
    have intact : (Mirror.mk (library.mirrored (run.remote.take upper)) none []).failed = none :=
      rfl
    rcases appendEvent_covered run.sessionId intact covered with ⟨failed, kept⟩
    rw [appendEvents_failed run.sessionId _ failed]
    exact ⟨failed, kept⟩

theorem Sound.deliver {run : MirrorRun} (sound : run.Sound library)
    (accepts : library.Accepts run.remote) {event : MirroredWireEvent}
    (found : run.remote[run.position]? = some event) :
    Sound library { run.deliver library event with position := run.position + 1 } := by
  have within : run.position + 1 ≤ run.remote.length :=
    (List.getElem?_eq_some_iff.mp found).1
  have phase := sound.phase
  have feed : slice run.remote run.attachedAt (run.position + 1) =
      slice run.remote run.attachedAt run.position ++ [event] := slice_succ sound.attached found
  rcases run with ⟨sessionId, remote, position, seedSession, buffered, current, attachedAt,
    snapshot⟩
  cases current with
  | reading read =>
      rcases phase with ⟨isBuffered, rest⟩
      refine ⟨sound.contiguous, Nat.le_succ_of_le sound.attached, within, sound.low, sound.seeded,
        ?_, ?_⟩
      · exact (congrArg (· ++ [event]) isBuffered).trans feed.symm
      · rcases rest with fresh | ⟨upper, bounds, covers, notDone⟩
        · exact Or.inl fresh
        · exact Or.inr ⟨upper, ⟨bounds.served, bounds.fromAttach, bounds.within⟩, covers, notDone⟩
  | composing session =>
      rcases phase with ⟨isBuffered, upper, bounds, isSession⟩
      refine ⟨sound.contiguous, Nat.le_succ_of_le sound.attached, within, sound.low, sound.seeded,
        ?_, ?_⟩
      · exact (congrArg (· ++ [event]) isBuffered).trans feed.symm
      · exact ⟨upper, ⟨bounds.served, bounds.fromAttach, bounds.within⟩, isSession⟩
  | live mirror =>
      rcases phase with ⟨upper, bounds, seam⟩
      refine ⟨sound.contiguous, Nat.le_succ_of_le sound.attached, within, sound.low, sound.seeded,
        upper, ⟨bounds.served, bounds.fromAttach, bounds.within⟩, ?_⟩
      exact seam.deliver sound accepts bounds found rfl rfl rfl
  | rejected thrown => cases phase

theorem Sound.pageServed {run : MirrorRun} (sound : run.Sound library)
    {read next : HistoryRead MirroredWireEvent} (isReading : run.phase = .reading read)
    (served : read.serve seqOf pageSize run.remote = some next) :
    Sound library { run with
      phase := .reading next, snapshot := some (run.snapshot.getD run.remote.length) } := by
  have phase := sound.phase
  have answered : ∀ result, next.phase ≠ .done result := by
    intro result done
    simp only [HistoryRead.serve] at served
    split at served
    · cases served
      cases done
    · cases served
  refine ⟨sound.contiguous, sound.attached, sound.delivered, sound.low, sound.seeded, ?_⟩
  simp only [PhaseSound, isReading] at phase ⊢
  rcases phase with ⟨buffered, ⟨rfl, none⟩ | ⟨upper, bounds, covers, _⟩⟩
  · refine ⟨buffered, Or.inr ⟨run.remote.length, ⟨?_, ?_, Nat.le_refl _⟩, ?_, answered⟩⟩
    · rw [none]
      rfl
    · exact Nat.le_trans sound.attached sound.delivered
    · exact HistoryRead.covers_first sound.contiguous served
  · refine ⟨buffered, Or.inr ⟨upper, ⟨?_, bounds.fromAttach, bounds.within⟩, ?_, answered⟩⟩
    · rw [bounds.served]
      rfl
    · exact covers.serve sound.contiguous bounds.within served

theorem Sound.historyRead {run : MirrorRun} (sound : run.Sound library)
    (accepts : library.Accepts run.remote) {upper : Nat} (bounds : run.Bounds upper)
    (buffered : run.buffered = slice run.remote run.attachedAt run.position) :
    run.historyRead library (.ok (slice run.remote run.fromSeq upper)) =
        { run with phase := .composing (library.mirrored (run.remote.take upper)) } ∧
      Sound library
        { run with phase := .composing (library.mirrored (run.remote.take upper)) } := by
  have ordered : run.fromSeq ≤ upper := Nat.le_trans sound.low bounds.fromAttach
  have split : run.remote.take run.fromSeq ++ slice run.remote run.fromSeq upper ++
      run.remote.drop upper = run.remote := by
    rw [take_append_slice _ ordered, List.take_append_drop]
  have splitContiguous : Contiguous seqOf (run.remote.take run.fromSeq ++
      slice run.remote run.fromSeq upper ++ run.remote.drop upper) := by
    rw [split]
    exact sound.contiguous
  have splitAccepts : library.Accepts (run.remote.take run.fromSeq ++
      slice run.remote run.fromSeq upper ++ run.remote.drop upper) := by
    rw [split]
    exact accepts
  have replayed := replayHistory_stretch run.sessionId splitContiguous splitAccepts
  rw [take_append_slice _ ordered, ← sound.seeded] at replayed
  refine ⟨by simp only [MirrorRun.historyRead, replayed], ?_⟩
  exact ⟨sound.contiguous, sound.attached, sound.delivered, sound.low, sound.seeded, buffered,
    upper, ⟨bounds.served, bounds.fromAttach, bounds.within⟩, rfl⟩

theorem Sound.pageReceived {run next : MirrorRun} (sound : run.Sound library)
    (accepts : library.Accepts run.remote) (stepped : run.step library .pageReceived = some next) :
    next.Sound library := by
  have phase := sound.phase
  simp only [MirrorRun.step] at stepped
  split at stepped
  · next read isReading =>
      simp only [PhaseSound, isReading] at phase
      rcases phase with ⟨buffered, ⟨rfl, _⟩ | ⟨upper, bounds, covers, _⟩⟩
      · cases stepped
      · split at stepped
        · cases stepped
        · next after received =>
            have coversNext := covers.receive sound.contiguous bounds.within
              (Nat.le_trans sound.low bounds.fromAttach) received
            split at stepped
            · next result isDone =>
                cases stepped
                simp only [HistoryRead.Covers, isDone] at coversNext
                rw [coversNext, (sound.historyRead accepts bounds buffered).1]
                exact (sound.historyRead accepts bounds buffered).2
            · next notDone =>
                cases stepped
                exact ⟨sound.contiguous, sound.attached, sound.delivered, sound.low, sound.seeded,
                  buffered, Or.inr ⟨upper, ⟨bounds.served, bounds.fromAttach, bounds.within⟩,
                    coversNext, notDone⟩⟩
  · cases stepped

theorem Sound.composed {run next : MirrorRun} (sound : run.Sound library)
    (accepts : library.Accepts run.remote) (stepped : run.step library .composed = some next) :
    next.Sound library := by
  have phase := sound.phase
  simp only [MirrorRun.step] at stepped
  split at stepped
  · next session isComposing =>
      cases stepped
      simp only [PhaseSound, isComposing] at phase
      rcases phase with ⟨buffered, upper, bounds, rfl⟩
      refine ⟨sound.contiguous, sound.attached, sound.delivered, sound.low, sound.seeded, upper,
        ⟨bounds.served, bounds.fromAttach, bounds.within⟩, ?_⟩
      exact Seam.drain sound accepts bounds buffered rfl rfl rfl
  · cases stepped

theorem remote_step {run next : MirrorRun} {event : MirrorEvent}
    (stepped : run.step library event = some next) :
    ∃ more, next.remote = run.remote ++ more := by
  cases event with
  | remoteAppended wire =>
      cases stepped
      exact ⟨_, rfl⟩
  | delivered =>
      simp only [step] at stepped
      split at stepped
      · cases stepped
      · cases stepped
        refine ⟨[], ?_⟩
        simp only [deliver]
        split <;> exact (List.append_nil _).symm
  | pageServed =>
      simp only [step] at stepped
      repeat' split at stepped
      all_goals cases stepped
      exact ⟨[], (List.append_nil _).symm⟩
  | pageReceived =>
      refine ⟨[], ?_⟩
      rw [List.append_nil]
      simp only [step] at stepped
      repeat' split at stepped
      all_goals cases stepped
      · simp only [historyRead]
        split
        · rfl
        · split <;> rfl
      · rfl
  | composed =>
      simp only [step] at stepped
      split at stepped <;> cases stepped
      exact ⟨[], (List.append_nil _).symm⟩

theorem Sound.step {run next : MirrorRun} {event : MirrorEvent} (sound : run.Sound library)
    (stepped : run.step library event = some next) (accepts : library.Accepts next.remote) :
    next.Sound library := by
  have acceptsBefore : library.Accepts run.remote := by
    rcases remote_step stepped with ⟨more, grown⟩
    rw [grown] at accepts
    exact accepts.of_append
  cases event with
  | remoteAppended wire =>
      cases stepped
      exact sound.remoteAppended rfl
  | delivered =>
      simp only [MirrorRun.step] at stepped
      split at stepped
      · cases stepped
      · next wire found =>
          cases stepped
          exact sound.deliver acceptsBefore found
  | pageServed =>
      simp only [MirrorRun.step] at stepped
      split at stepped
      · next read isReading =>
          split at stepped
          · cases stepped
          · next after served =>
              cases stepped
              exact sound.pageServed isReading served
      · cases stepped
  | pageReceived => exact sound.pageReceived acceptsBefore stepped
  | composed => exact sound.composed acceptsBefore stepped

/-- The seed of a resumed session holds the events before it, as they were mirrored. -/
def Seeds (library : SessionLibrary) (remote : List MirroredWireEvent)
    (seedSession : Option (List LocalEvent)) : Prop :=
  ∀ session, seedSession = some session →
    session.length ≤ remote.length ∧ session = library.mirrored (remote.take session.length)

theorem sound_start {remote : List MirroredWireEvent} {seedSession : Option (List LocalEvent)}
    (sessionId : SessionId) (contiguous : Contiguous seqOf remote)
    (seeds : Seeds library remote seedSession) :
    (start sessionId remote seedSession).Sound library := by
  refine ⟨contiguous, Nat.le_refl _, Nat.le_refl _, ?_, ?_, ?_, Or.inl ⟨rfl, rfl⟩⟩
  · cases seedSession with
    | none => exact Nat.zero_le _
    | some session => exact (seeds session rfl).1
  · cases seedSession with
    | none => rfl
    | some session => exact (seeds session rfl).2
  · exact (slice_self _ _).symm

theorem sound_reachable {sessionId : SessionId} {remote : List MirroredWireEvent}
    {seedSession : Option (List LocalEvent)} (contiguous : Contiguous seqOf remote)
    (seeds : Seeds library remote seedSession) {events : List MirrorEvent} {run : MirrorRun}
    (reached : Execution.run (step library) (start sessionId remote seedSession) events = some run)
    (accepts : library.Accepts run.remote) : run.Sound library := by
  have sound : library.Accepts run.remote → run.Sound library := by
    refine Execution.reachable_invariant (fun run => library.Accepts run.remote → run.Sound library)
      ?_ (fun _ => sound_start sessionId contiguous seeds) reached
    intro before event after holds stepped acceptsAfter
    rcases remote_step stepped with ⟨more, grown⟩
    refine (holds ?_).step stepped acceptsAfter
    rw [grown] at acceptsAfter
    exact acceptsAfter.of_append
  exact sound accepts

/-! ## The bootstrap comes to its end -/

/-- What is left of the bootstrap: pages below the bound, then the publication. -/
def left (run : MirrorRun) : Nat :=
  match run.phase with
  | .reading ⟨_, .asking none⟩ => 2 * run.remote.length + 5
  | .reading ⟨_, .asking (some bound)⟩ => 2 * bound + 3
  | .reading ⟨_, .answered page⟩ =>
      if page.hasMore then 2 * (page.entries.head?.map SessionHistoryEntry.seq).getD 0 + 4 else 4
  | .reading ⟨_, .done _⟩ => 2
  | .composing _ => 1
  | .live _ | .rejected _ => 0

theorem left_page {run : MirrorRun} (contiguous : Contiguous seqOf run.remote)
    {beforeSeq : Option Nat} {bound : Nat} (isBound : beforeSeq.getD run.remote.length = bound)
    (within : bound ≤ run.remote.length) (pages : List (List MirroredWireEvent))
    (snapshot : Option Nat) :
    left { run with
      phase := .reading ⟨pages, .answered (historyPage seqOf run.remote
        ⟨beforeSeq, some (pageSize : Nat)⟩)⟩
      snapshot := snapshot } ≤ 2 * (bound - 1) + 4 := by
  let params : SessionHistoryParams := ⟨beforeSeq, some (pageSize : Nat)⟩
  have isParams : params.beforeSeq.getD run.remote.length = bound := isBound
  have positive := historyLimit_pos params.maxMessages
  simp only [left]
  split
  · next more =>
      rcases historyPage_head contiguous isParams within more with ⟨first, isFirst, seq⟩
      rw [isFirst, Option.map_some, Option.getD_some, seq]
      omega
  · omega

theorem Sound.progress_answered {run : MirrorRun} (sound : run.Sound library)
    (accepts : library.Accepts run.remote) {pages : List (List MirroredWireEvent)}
    {page : SessionHistoryResult MirroredWireEvent}
    (isReading : run.phase = .reading ⟨pages, .answered page⟩) :
    ∃ next, run.step library .pageReceived = some next ∧ next.remote = run.remote ∧
      next.left < run.left := by
  have phase := sound.phase
  simp only [PhaseSound, isReading] at phase
  rcases phase with ⟨isBuffered, ⟨fresh, _⟩ | ⟨upper, bounds, covers, _⟩⟩
  · cases fresh
  · rcases HistoryRead.receive_answered seqOf run.fromSeq pages page with
      ⟨result, received⟩ | ⟨first, more, isFirst, received⟩
    · have isResult : result = .ok (slice run.remote run.fromSeq upper) :=
        covers.receive sound.contiguous bounds.within
          (Nat.le_trans sound.low bounds.fromAttach) received
      have stepped : run.step library .pageReceived =
          some { run with phase := .composing (library.mirrored (run.remote.take upper)) } := by
        simp only [MirrorRun.step, isReading, received]
        rw [isResult, (sound.historyRead accepts bounds isBuffered).1]
      refine ⟨_, stepped, rfl, ?_⟩
      simp only [left, isReading]
      split <;> omega
    · have stepped : run.step library .pageReceived =
          some { run with
            phase := .reading ⟨page.entries.map SessionHistoryEntry.event :: pages,
              .asking (some first.seq)⟩ } := by
        simp only [MirrorRun.step, isReading, received]
      refine ⟨_, stepped, rfl, ?_⟩
      simp only [left, isReading, more, isFirst, if_true, Option.map_some, Option.getD_some]
      omega

/-- As long as the mirror is not live, the bootstrap can go on and has less left. -/
theorem Sound.progress {run : MirrorRun} (sound : run.Sound library)
    (accepts : library.Accepts run.remote) (notLive : ∀ mirror, run.phase ≠ .live mirror) :
    ∃ event next, run.step library event = some next ∧ next.remote = run.remote ∧
      next.left < run.left := by
  have phase := sound.phase
  cases current : run.phase with
  | live mirror => exact absurd current (notLive mirror)
  | rejected thrown =>
      simp only [PhaseSound, current] at phase
  | composing session =>
      have stepped : run.step library .composed = some { run with
          phase := .live (run.buffered.foldl (Mirror.appendEvent library run.sessionId)
            { session := session }) } := by
        simp only [MirrorRun.step, current]
      refine ⟨.composed, _, stepped, rfl, ?_⟩
      simp only [left, current]
      exact Nat.zero_lt_one
  | reading read =>
      simp only [PhaseSound, current] at phase
      rcases read with ⟨pages, readPhase⟩
      cases readPhase with
      | asking beforeSeq =>
          have stepped : run.step library .pageServed = some { run with
              phase := .reading ⟨pages, .answered (historyPage seqOf run.remote
                ⟨beforeSeq, some (pageSize : Nat)⟩)⟩
              snapshot := some (run.snapshot.getD run.remote.length) } := by
            simp only [MirrorRun.step, current, HistoryRead.serve]
          refine ⟨.pageServed, _, stepped, rfl, ?_⟩
          cases beforeSeq with
          | none =>
              have atEnd : (none : Option Nat).getD run.remote.length = run.remote.length := rfl
              refine Nat.lt_of_le_of_lt
                (left_page sound.contiguous atEnd (Nat.le_refl _) pages _) ?_
              simp only [left, current]
              omega
          | some bound =>
              rcases phase with ⟨_, ⟨fresh, _⟩ | ⟨upper, bounds, covers, _⟩⟩
              · cases fresh
              · have atBound : (some bound).getD run.remote.length = bound := rfl
                have above : run.fromSeq < bound := covers.1
                have below : bound ≤ run.remote.length :=
                  Nat.le_trans covers.2.1 bounds.within
                refine Nat.lt_of_le_of_lt
                  (left_page sound.contiguous atBound below pages _) ?_
                simp only [left, current]
                omega
      | done result =>
          rcases phase with ⟨_, ⟨fresh, _⟩ | ⟨upper, bounds, covers, notDone⟩⟩
          · cases fresh
          · exact absurd rfl (notDone result)
      | answered page =>
          rcases sound.progress_answered accepts current with ⟨next, stepped, remote, less⟩
          exact ⟨.pageReceived, next, stepped, remote, less⟩

/-- From every sound state the bootstrap can be run to its end. -/
theorem Sound.completes {run : MirrorRun} (sound : run.Sound library)
    (accepts : library.Accepts run.remote) :
    ∃ rest last mirror, Execution.run (MirrorRun.step library) run rest = some last ∧
      last.phase = .live mirror := by
  induction distance : run.left using Nat.strong_induction_on generalizing run with
  | _ distance induction =>
      by_cases live : ∃ mirror, run.phase = .live mirror
      · rcases live with ⟨mirror, isLive⟩
        exact ⟨[], run, mirror, rfl, isLive⟩
      · rcases sound.progress accepts (fun mirror isLive => live ⟨mirror, isLive⟩) with
          ⟨event, next, stepped, remote, less⟩
        have acceptsNext : library.Accepts next.remote := by rwa [remote]
        rcases induction next.left (distance ▸ less) (sound.step stepped acceptsNext) acceptsNext
          rfl with ⟨rest, last, mirror, reached, isLive⟩
        refine ⟨event :: rest, last, mirror, ?_, isLive⟩
        rw [Execution.run_cons, stepped]
        exact reached

/-- The mirror follows: it is not failed, and its log is the remote log up to the last
event it got, from the history or from the feed. -/
def Mirrors (library : SessionLibrary) (run : MirrorRun) (upper : Nat) (mirror : Mirror) : Prop :=
  mirror.failed = none ∧
    mirror.session = library.mirrored (run.remote.take (max upper run.position))

theorem Seam.mirrors_iff {run : MirrorRun} {upper : Nat} {mirror : Mirror}
    (seam : run.Seam library upper mirror) :
    run.Mirrors library upper mirror ↔
      upper = run.attachedAt ∨ run.position = run.attachedAt := by
  constructor
  · intro mirrors
    by_contra overlap
    have failed := (seam.overlap overlap).1
    rw [mirrors.1] at failed
    cases failed
  · exact seam.apart

/-- The bootstrap never rejects and can always be run to its end, where the history
reaches as far as the remote log did when its first page was served. From then on the
mirror follows the remote log exactly if nothing was appended between the attach and
that page, or nothing has been delivered yet. -/
theorem mirrors_iff_noOverlap (library : SessionLibrary) (sessionId : SessionId)
    (remote : List MirroredWireEvent) (seedSession : Option (List LocalEvent))
    (contiguous : Contiguous seqOf remote) (seeds : Seeds library remote seedSession)
    (events : List MirrorEvent) (run : MirrorRun)
    (reached : Execution.run (step library) (start sessionId remote seedSession) events = some run)
    (accepts : library.Accepts run.remote) :
    (∀ thrown, run.phase ≠ .rejected thrown) ∧
    (∃ rest last mirror, Execution.run (step library) run rest = some last ∧
      last.phase = .live mirror) ∧
    ∀ mirror, run.phase = .live mirror →
      ∃ upper, run.snapshot = some upper ∧
        (run.Mirrors library upper mirror ↔
          upper = run.attachedAt ∨ run.position = run.attachedAt) := by
  have sound : run.Sound library := sound_reachable contiguous seeds reached accepts
  have phase := sound.phase
  refine ⟨?_, sound.completes accepts, ?_⟩
  · intro thrown rejected
    simp only [PhaseSound, rejected] at phase
  · intro mirror isLive
    simp only [PhaseSound, isLive] at phase
    rcases phase with ⟨upper, bounds, seam⟩
    exact ⟨upper, bounds.served, seam.mirrors_iff⟩

/-- A library that knows user messages as surface events and rejects nothing. -/
def plainLibrary : SessionLibrary where
  isSurfaceEligibleType := fun type => type = "user/message"
  rejects := fun _ _ => none

def plainEvent (seq : Nat) (type : String) : MirroredWireEvent :=
  { seq := seq, type := type, time := 0, data := none }

/-- The page is served first, then the remote log grows and the feed delivers. -/
def fedAfterPage : List MirrorEvent :=
  [.pageServed, .remoteAppended (plainEvent 0 "turn/start"), .delivered, .pageReceived, .composed]

theorem mirrors_fedAfterPage :
    ∃ run mirror,
      Execution.run (step plainLibrary) (start "s" [plainEvent 0 "user/message"] none)
        fedAfterPage = some run ∧
      run.phase = .live mirror ∧ run.Mirrors plainLibrary 1 mirror := by
  have facts := mirrors_iff_noOverlap plainLibrary "s" [plainEvent 0 "user/message"] none
    (by decide) (fun _ none => nomatch none) fedAfterPage _ rfl (fun _ _ _ _ => rfl)
  rcases facts.2.2 _ rfl with ⟨upper, served, mirrors⟩
  cases served
  exact ⟨_, _, rfl, rfl, mirrors.mpr (Or.inl rfl)⟩

/-- The remote log grows between the attach and the page: the event is buffered and
covered by the history as well. -/
def fedBeforePage : List MirrorEvent :=
  [.remoteAppended (plainEvent 0 "turn/start"), .delivered, .pageServed, .pageReceived, .composed]

/-- The overlap freezes the mirror: the next remote event is not appended any more. -/
theorem frozen_fedBeforePage :
    ∃ run mirror next after,
      Execution.run (step plainLibrary) (start "s" [plainEvent 0 "user/message"] none)
        fedBeforePage = some run ∧
      run.phase = .live mirror ∧ mirror.failed.isSome = true ∧
      Execution.run (step plainLibrary) run
        [.remoteAppended (plainEvent 0 "turn/end"), .delivered] = some next ∧
      next.phase = .live after ∧ after.session.length = 2 ∧ next.remote.length = 3 ∧
      next.position = 3 :=
  ⟨_, _, _, _, rfl, rfl, rfl, rfl, rfl, rfl, rfl, rfl⟩

end MirrorRun

end DshRemote.Proxy
