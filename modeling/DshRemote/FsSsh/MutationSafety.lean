import DshRemote.FsSsh.Publishing

/-! # Guards of writes and edits

What a call may do to its target, whatever other writers do in between. -/

namespace DshRemote.FsSsh

open Execution

/-! ## What a call knows -/

/-- An error that a guard throws. -/
def CallError.IsGuard : CallError → Prop
  | .fs error => error.code = .notObserved ∨ error.code = .staleVersion
  | .transport _ => False

namespace MutationPhase

/-- Nothing was staged yet. -/
def IsLocal : MutationPhase → Prop
  | .starting | .connecting | .statting | .acquiring _ | .reading _ _ _ => True
  | _ => False

/-- The attributes of the target that the call goes by. -/
def known : MutationPhase → Option (Option SftpAttrs)
  | .acquiring attrs => some (some attrs)
  | .reading attrs _ _ => some (some attrs)
  | .uploading staging _ => some staging.attrs
  | .publishing staging _ => some staging.attrs
  | _ => none

/-- The call has not touched its target, or fails by its guard, and the script is through. -/
def Untouched : MutationPhase → Prop
  | .publishing _ (some status) => status = 3 ∨ status = 4
  | .confirming _ => False
  | .discarding error => error.IsGuard
  | .settled (.error error) => error.IsGuard
  | .settled (.ok _) => False
  | _ => True

theorem IsLocal.untouched {phase : MutationPhase} (isLocal : phase.IsLocal) :
    phase.Untouched := by
  cases phase with
  | starting => trivial
  | connecting => trivial
  | statting => trivial
  | acquiring attrs => trivial
  | reading attrs probe bytes => trivial
  | _ => exact isLocal.elim

end MutationPhase

theorem mapFsError_not_guard (error : TransportError) (what : Text) :
    ¬(CallError.fs (mapFsError error what)).IsGuard := by
  rcases error with ⟨message, code⟩
  cases code <;> simp [CallError.IsGuard, mapFsError]

namespace MutationCall

variable {call : MutationCall}

theorem publishError_guard {status : Option Nat} {stderr : Text}
    (isGuard : (CallError.fs (call.publishError status stderr)).IsGuard) :
    status = some 3 ∨ status = some 4 := by
  unfold publishError at isGuard
  split at isGuard
  · exact Or.inl rfl
  · exact Or.inr rfl
  · simp [CallError.IsGuard] at isGuard

theorem editedText_attrs {edit : FsEditRequest} {attrs : SftpAttrs} {bytes : List Octet}
    {staging : Staging} (edited : call.editedText edit attrs bytes = .ok staging) :
    staging.attrs = some attrs := by
  unfold editedText at edited
  dsimp only at edited
  repeat' split at edited
  all_goals cases edited
  all_goals rfl

variable (digest : Text → Text)

theorem checkEdit_attrs {guard : Option Text} {attrs : Option SftpAttrs} {present : SftpAttrs}
    (checked : call.checkEdit digest guard attrs = .ok present) : attrs = some present := by
  unfold checkEdit at checked
  repeat' split at checked
  all_goals cases checked
  all_goals rfl

/-- The attributes have passed the checks that the call makes itself. -/
def Passed (call : MutationCall) (attrs : Option SftpAttrs) : Prop :=
  match call.request with
  | .write _ guard => call.checkWrite digest guard attrs = .ok ()
  | .edit _ guard => ∃ present, attrs = some present ∧
      call.checkEdit digest guard attrs = .ok present

/-- The call goes on with the given attributes, or has failed before it staged anything. -/
inductive Proceeds (attrs : Option SftpAttrs) : MutationPhase → Prop
  | acquiring {present : SftpAttrs} (isPresent : attrs = some present) :
      Proceeds attrs (.acquiring present)
  | reading {present : SftpAttrs} (isPresent : attrs = some present) (probe : BinaryProbe)
      (bytes : List Octet) : Proceeds attrs (.reading present probe bytes)
  | uploading {staging : Staging} (isStaged : staging.attrs = attrs) :
      Proceeds attrs (.uploading staging none)
  | failed (error : FsError) : Proceeds attrs (fails error)

namespace Proceeds

variable {attrs : Option SftpAttrs} {phase : MutationPhase}

theorem known (proceeds : Proceeds attrs phase) {other : Option SftpAttrs}
    (isKnown : phase.known = some other) : other = attrs := by
  cases proceeds with
  | acquiring isPresent =>
      cases isKnown
      exact isPresent.symm
  | reading isPresent probe bytes =>
      cases isKnown
      exact isPresent.symm
  | uploading isStaged =>
      cases isKnown
      exact isStaged
  | failed error => cases isKnown

theorem stage (aborted : Bool) {staging : Staging} (isStaged : staging.attrs = attrs) :
    Proceeds attrs (stage aborted staging) := by
  rw [MutationCall.stage]
  split
  · exact failed _
  · exact uploading isStaged

theorem readChunk (call : MutationCall) (aborted : Bool) (present : SftpAttrs)
    (probe : BinaryProbe) (bytes chunk : List Octet) :
    Proceeds (some present) (call.readChunk aborted present probe bytes chunk) := by
  unfold MutationCall.readChunk
  split
  · dsimp only
    split
    · exact stage aborted rfl
    · exact reading rfl _ _
  · split
    · exact failed _
    · exact reading rfl _ _

theorem readEnd (call : MutationCall) (aborted : Bool) (present : SftpAttrs)
    (bytes : List Octet) : Proceeds (some present) (call.readEnd aborted present bytes) := by
  rw [MutationCall.readEnd]
  split
  · exact stage aborted rfl
  · split
    · exact failed _
    · next staging edited => exact stage aborted (editedText_attrs edited)

theorem readFailure (call : MutationCall) (aborted : Bool) (present : SftpAttrs)
    (error : TransportError) :
    Proceeds (some present) (call.readFailure aborted present error) := by
  rw [MutationCall.readFailure]
  split
  · exact stage aborted rfl
  · exact failed _

theorem observe (call : MutationCall) (aborted : Bool) (attrs : Option SftpAttrs) :
    Proceeds attrs (call.observe digest aborted attrs) := by
  rw [MutationCall.observe]
  split
  · split
    · exact failed _
    · split
      · split
        · exact reading rfl _ _
        · exact stage aborted rfl
      · exact stage aborted rfl
  · split
    · exact failed _
    · next present checked =>
        exact acquiring (checkEdit_attrs digest checked)

end Proceeds

/-- Attributes that the call goes on with have passed its checks. -/
theorem observe_passed {aborted : Bool} {attrs other : Option SftpAttrs}
    (isKnown : (call.observe digest aborted attrs).known = some other) :
    call.Passed digest attrs := by
  rw [observe] at isKnown
  rw [Passed]
  split at isKnown
  · next content guard isRequest =>
      split at isKnown
      · cases isKnown
      · next checked => simpa only [isRequest] using checked
  · next edit guard isRequest =>
      split at isKnown
      · cases isKnown
      · next present checked =>
          have attrsPresent := checkEdit_attrs digest checked
          simpa only [isRequest] using ⟨present, attrsPresent, checked⟩

end MutationCall

/-! ## Steps -/

/-- The call does it, and not another writer. -/
def MutationEvent.IsOwn : MutationEvent → Prop
  | .others _ => False
  | _ => True

namespace Mutation

variable {digest : Text → Text} {call : MutationCall} {state next : Mutation}
  {event : MutationEvent}

variable (digest call) in
/-- What answers what in which phase, and how the call goes on. The remaining arguments are
the files and the abort signal then. -/
inductive Reply (files : RemoteFiles) (aborted : Bool) :
    MutationPhase → MutationEvent → MutationPhase → Prop
  | begun (connected : Bool) :
      Reply files aborted .starting (.begun connected) (call.begin aborted connected)
  | connected : Reply files aborted .connecting .acquired .statting
  | acquired (attrs : SftpAttrs) :
      Reply files aborted (.acquiring attrs) .acquired (.reading attrs {} [])
  | failed {phase : MutationPhase} {event : MutationEvent} {error : FsError}
      (isLocal : phase.IsLocal) (notGuard : ¬(CallError.fs error).IsGuard) :
      Reply files aborted phase event (MutationCall.fails error)
  | present {message : Text} {attrs : SftpAttrs} (told : files.stat call.targetKey = .ok attrs) :
      Reply files aborted .statting (.statted message) (call.observe digest aborted (some attrs))
  | missing {message : Text} (told : files.stat call.targetKey = .error .noSuchFile) :
      Reply files aborted .statting (.statted message) (call.observe digest aborted none)
  | unfound {error : TransportError} (isMissing : error.code = .noSuchFile) :
      Reply files aborted .statting (.statFailed error) (call.observe digest aborted none)
  | confirmed {message : Text} (staging : Staging) (attrs : SftpAttrs) :
      Reply files aborted (.confirming staging) (.statted message)
        (.settled (.ok (call.outcome digest staging attrs)))
  | unconfirmed {event : MutationEvent} (staging : Staging) (error : TransportError) :
      Reply files aborted (.confirming staging) event (call.confirmFailure error)
  | chunk (attrs : SftpAttrs) (probe : BinaryProbe) (earlier bytes : List Octet) :
      Reply files aborted (.reading attrs probe earlier) (.chunk bytes)
        (call.readChunk aborted attrs probe earlier bytes)
  | readEnded (attrs : SftpAttrs) (probe : BinaryProbe) (bytes : List Octet) :
      Reply files aborted (.reading attrs probe bytes) .readEnded
        (call.readEnd aborted attrs bytes)
  | readFailed (attrs : SftpAttrs) (probe : BinaryProbe) (bytes : List Octet)
      (error : TransportError) :
      Reply files aborted (.reading attrs probe bytes) (.readFailed error)
        (call.readFailure aborted attrs error)
  | answered (staging : Staging) (status : Nat) (stderr : Text) :
      Reply files aborted (.publishing staging (some status)) (.scriptAnswered stderr)
        (call.answer staging status stderr)
  | withdrawn {phase : MutationPhase} {event : MutationEvent} {error : CallError}
      (notGuard : ¬error.IsGuard) : Reply files aborted phase event (.discarding error)

theorem reply {phase : MutationPhase}
    (answered : state.answered digest call event = some phase) :
    Reply digest call state.files state.aborted state.phase event phase := by
  rcases state with ⟨files, current, aborted, script⟩
  unfold Mutation.answered at answered
  split at answered
  all_goals dsimp only at answered ⊢
  · -- begun
    split at answered
    · cases answered
      exact .begun _
    · cases answered
  · -- acquired
    split at answered
    · cases answered
      exact .connected
    · cases answered
      exact .acquired _
    · cases answered
  · -- acquireFailed
    split at answered
    · cases answered
      exact .failed trivial (mapFsError_not_guard _ _)
    · cases answered
      exact .failed trivial (mapFsError_not_guard _ _)
    · cases answered
  · -- disconnected
    split at answered
    · cases answered
      exact .failed trivial (by rintro (impossible | impossible) <;> cases impossible)
    · cases answered
  · -- statted
    split at answered
    · next told =>
        cases answered
        exact .present told
    · next told =>
        cases answered
        exact .missing told
    · cases answered
      exact .failed trivial (mapFsError_not_guard _ _)
    · cases answered
      exact .confirmed _ _
    · cases answered
      exact .unconfirmed _ _
    · cases answered
  · -- statFailed
    split at answered
    · split at answered
      · next isMissing =>
          cases answered
          exact .unfound isMissing
      · cases answered
        exact .failed trivial (mapFsError_not_guard _ _)
    · cases answered
      exact .unconfirmed _ _
    · cases answered
  · -- chunk
    split at answered
    · cases answered
      exact .chunk _ _ _ _
    · cases answered
  · -- readEnded
    split at answered
    · cases answered
      exact .readEnded _ _ _
    · cases answered
  · -- readFailed
    split at answered
    · cases answered
      exact .readFailed _ _ _ _
    · cases answered
  · -- uploadFailed
    split at answered
    · cases answered
      exact .withdrawn (mapFsError_not_guard _ _)
    · cases answered
  · -- scriptAnswered
    split at answered
    · cases answered
      exact .answered _ _ _
    · cases answered
  · -- scriptKilled
    split at answered
    · cases answered
      exact .withdrawn fun isGuard => by simpa using MutationCall.publishError_guard isGuard
    · cases answered
  · -- execFailed
    split at answered
    · cases answered
      exact .withdrawn (mapFsError_not_guard _ _)
    · cases answered
  · -- outputFailed
    split at answered
    · cases answered
      exact .withdrawn fun isGuard => isGuard
    · cases answered
  · cases answered

/-- `stat` has just told the attributes of the target, for the call to go by. -/
def Observes (call : MutationCall) (state : Mutation) (event : MutationEvent)
    (attrs : SftpAttrs) : Prop :=
  state.phase = .statting ∧ (∃ message, event = .statted message) ∧
    state.files.stat call.targetKey = .ok attrs

variable (digest call state event) in
/-- How an answer takes a call from one phase to another. -/
inductive Answers : MutationPhase → Prop
  | begins {phase : MutationPhase} (isLocal : state.phase.IsLocal)
      (goesOn : phase = .connecting ∨ phase = .statting ∨
        ∃ error, phase = MutationCall.fails error) : Answers phase
  | observes {attrs : Option SftpAttrs} (isLocal : state.phase.IsLocal)
      (seen : ∀ present, attrs = some present → Observes call state event present) :
      Answers (call.observe digest state.aborted attrs)
  | reads {attrs : Option SftpAttrs} {phase : MutationPhase} (isLocal : state.phase.IsLocal)
      (isKnown : state.phase.known = some attrs)
      (proceeds : MutationCall.Proceeds attrs phase) : Answers phase
  | finishes {phase : MutationPhase} (unknown : phase.known = none) (notLocal : ¬phase.IsLocal)
      (notSettled : ∀ error, phase = .settled (.error error) → ¬error.IsGuard)
      (refused : phase.Untouched → ∃ staging status,
        state.phase = .publishing staging (some status) ∧ (status = 3 ∨ status = 4)) :
      Answers phase

theorem Answers.failed (state : Mutation) (event : MutationEvent) (isLocal : state.phase.IsLocal)
    (error : FsError) : Answers digest call state event (MutationCall.fails error) :=
  .begins isLocal (Or.inr (Or.inr ⟨error, rfl⟩))

theorem Answers.confirmed (state : Mutation) (event : MutationEvent) {phase : MutationPhase}
    {result : Except CallError MutationOutcome} (isSettled : phase = .settled result)
    (notGuard : ∀ error, result = .error error → ¬error.IsGuard) :
    Answers digest call state event phase := by
  subst isSettled
  refine .finishes rfl (fun isLocal => isLocal) ?_ ?_
  · rintro error isError
    cases isError
    exact notGuard error rfl
  · intro untouched
    cases result with
    | error error => exact absurd untouched (notGuard error rfl)
    | ok outcome => exact untouched.elim

theorem Answers.withdrawn (state : Mutation) (event : MutationEvent) {error : CallError}
    (refused : error.IsGuard → ∃ staging status,
      state.phase = .publishing staging (some status) ∧ (status = 3 ∨ status = 4)) :
    Answers digest call state event (.discarding error) :=
  .finishes rfl (fun isLocal => isLocal) (fun _ isSettled => by cases isSettled) refused

theorem confirmFailure_settled (call : MutationCall) (error : TransportError) :
    ∃ what, call.confirmFailure error =
      .settled (.error (.fs (mapFsError error what))) := by
  rw [MutationCall.confirmFailure]
  split
  · exact ⟨_, rfl⟩
  · exact ⟨_, rfl⟩

theorem Answers.confirmFailure (state : Mutation) (event : MutationEvent)
    (error : TransportError) :
    Answers digest call state event (call.confirmFailure error) := by
  rcases confirmFailure_settled call error with ⟨what, isSettled⟩
  refine confirmed state event isSettled ?_
  rintro other isOther
  cases isOther
  exact mapFsError_not_guard error what

theorem answers {phase : MutationPhase}
    (answered : state.answered digest call event = some phase) :
    Answers digest call state event phase := by
  have replies := reply answered
  rcases state with ⟨files, current, aborted, script⟩
  cases replies with
  | begun connected =>
      refine .begins trivial ?_
      rw [MutationCall.begin]
      repeat' split
      all_goals first
        | exact Or.inl rfl
        | exact Or.inr (Or.inr ⟨_, rfl⟩)
  | connected => exact .begins trivial (Or.inr (Or.inl rfl))
  | acquired attrs => exact .reads trivial rfl (.reading rfl _ _)
  | failed isLocal notGuard => exact .failed _ _ isLocal _
  | present told =>
      refine .observes trivial fun attrs isPresent => ⟨rfl, ⟨_, rfl⟩, ?_⟩
      cases isPresent
      exact told
  | missing told => exact .observes trivial fun _ isPresent => by cases isPresent
  | unfound isMissing => exact .observes trivial fun _ isPresent => by cases isPresent
  | confirmed staging attrs => exact .confirmed _ _ rfl fun _ isError => by cases isError
  | unconfirmed staging error => exact .confirmFailure _ _ _
  | chunk attrs probe earlier bytes => exact .reads trivial rfl (.readChunk ..)
  | readEnded attrs probe bytes => exact .reads trivial rfl (.readEnd ..)
  | readFailed attrs probe bytes error => exact .reads trivial rfl (.readFailure ..)
  | answered staging status stderr =>
      rw [MutationCall.answer]
      split
      · exact .finishes rfl (fun isLocal => isLocal) (fun _ isSettled => by cases isSettled)
          fun untouched => untouched.elim
      · refine .withdrawn _ _ fun isGuard => ⟨staging, status, rfl, ?_⟩
        simpa using MutationCall.publishError_guard isGuard
  | withdrawn notGuard => exact .withdrawn _ _ fun isGuard => absurd isGuard notGuard

/-! ## Runs -/

section Runs

variable (digest call) (files : RemoteFiles) (events : List MutationEvent)

/-- The call itself leaves a path as it is. -/
def Keeps (path : Text) (state : Mutation) (event : MutationEvent) : Prop :=
  event.IsOwn → ∀ next, state.step digest call event = some next →
    next.files path = state.files path

/-- The call itself leaves all files as they are. -/
def KeepsAll (state : Mutation) (event : MutationEvent) : Prop :=
  event.IsOwn → ∀ next, state.step digest call event = some next → next.files = state.files

/-- In the run, `stat` told these attributes of the target before the call read it. -/
def Observed (attrs : SftpAttrs) : Prop :=
  ∃ first event rest state, events = first ++ event :: rest ∧
    run (step digest call) (start files) first = some state ∧ Observes call state event attrs

/-- Attributes that have passed the checks, and were seen in the run if the target was there. -/
def Grounded (attrs : Option SftpAttrs) : Prop :=
  call.Passed digest attrs ∧ ∀ present, attrs = some present →
    Observed digest call files events present

/-- The staged file was unlinked, and the call has touched nothing since. -/
def Discarded : Prop :=
  ∃ first refused rest middle, events = first ++ .unlinked refused :: rest ∧
    run (step digest call) (start files) (first ++ [.unlinked refused]) = some middle ∧
    (refused = false → ∀ entry, middle.files call.tempPathFor = some entry →
      entry.type = .directory) ∧
    AllSteps (step digest call) (KeepsAll digest call) middle rest

structure Tracks (state : Mutation) : Prop where
  reached : run (step digest call) (start files) events = some state
  known : ∀ attrs, state.phase.known = some attrs → Grounded digest call files events attrs
  script : ∀ command, state.script = some command →
    ∃ attrs, command = call.publishCommand attrs ∧ Grounded digest call files events attrs
  sent : state.script.isSome →
    (∃ staging, state.phase = .publishing staging none) ∨ ¬state.phase.Untouched
  quiet : state.phase.IsLocal →
    AllSteps (step digest call) (KeepsAll digest call) (start files) events
  kept : state.phase.Untouched →
    AllSteps (step digest call) (Keeps digest call call.targetKey) (start files) events
  settled : ∀ error, state.phase = .settled (.error error) → error.IsGuard →
    AllSteps (step digest call) (KeepsAll digest call) (start files) events ∨
      Discarded digest call files events

end Runs

variable {files : RemoteFiles} {events : List MutationEvent}

theorem Observed.snoc {attrs : SftpAttrs} (observed : Observed digest call files events attrs)
    (event : MutationEvent) : Observed digest call files (events ++ [event]) attrs := by
  rcases observed with ⟨first, other, rest, state, rfl, reached, observes⟩
  exact ⟨first, other, rest ++ [event], state, by simp, reached, observes⟩

theorem Grounded.snoc {attrs : Option SftpAttrs}
    (grounded : Grounded digest call files events attrs) (event : MutationEvent) :
    Grounded digest call files (events ++ [event]) attrs :=
  ⟨grounded.1, fun present isPresent => (grounded.2 present isPresent).snoc event⟩

theorem KeepsAll.keeps (keepsAll : KeepsAll digest call state event) (path : Text) :
    Keeps digest call path state event :=
  fun isOwn next stepped => congrFun (keepsAll isOwn next stepped) path

theorem allSteps_snoc {allowed : Mutation → MutationEvent → Prop} {first : Mutation}
    (all : AllSteps (step digest call) allowed first events)
    (reached : run (step digest call) first events = some state) (now : allowed state event) :
    AllSteps (step digest call) allowed first (events ++ [event]) := by
  refine (AllSteps.append_iff reached).mpr ⟨all, now, ?_⟩
  cases step digest call state event with
  | none => trivial
  | some next => trivial

theorem Discarded.snoc (discarded : Discarded digest call files events)
    (reached : run (step digest call) (start files) events = some state)
    (now : KeepsAll digest call state event) :
    Discarded digest call files (events ++ [event]) := by
  rcases discarded with ⟨first, refused, rest, middle, rfl, unlinked, removed, all⟩
  refine ⟨first, refused, rest ++ [event], middle, by simp, unlinked, removed, ?_⟩
  rw [List.append_cons, run_append, unlinked] at reached
  exact allSteps_snoc all reached now

theorem keepsAll_others (edit : RemoteFiles → RemoteFiles) :
    KeepsAll digest call state (.others edit) :=
  fun isOwn => isOwn.elim

theorem keepsAll_of_eq (stepped : state.step digest call event = some next)
    (same : next.files = state.files) : KeepsAll digest call state event := by
  intro _ other isOther
  rw [stepped] at isOther
  cases isOther
  exact same

theorem keeps_of_eq {path : Text} (stepped : state.step digest call event = some next)
    (same : next.files path = state.files path) : Keeps digest call path state event := by
  intro _ other isOther
  rw [stepped] at isOther
  cases isOther
  exact same

namespace Tracks

theorem idle (tracks : Tracks digest call files events state)
    (stepped : state.step digest call event = some next)
    (keepsAll : KeepsAll digest call state event) (samePhase : next.phase = state.phase)
    (sameScript : next.script = state.script) :
    Tracks digest call files (events ++ [event]) next where
  reached := run_snoc tracks.reached stepped
  known attrs isKnown := (tracks.known attrs (samePhase ▸ isKnown)).snoc event
  script command isSent := by
    rcases tracks.script command (sameScript ▸ isSent) with ⟨attrs, isCommand, grounded⟩
    exact ⟨attrs, isCommand, grounded.snoc event⟩
  sent isSent := by
    rw [samePhase]
    exact tracks.sent (sameScript ▸ isSent)
  quiet isLocal := allSteps_snoc (tracks.quiet (samePhase ▸ isLocal)) tracks.reached keepsAll
  kept untouched := allSteps_snoc (tracks.kept (samePhase ▸ untouched)) tracks.reached
    (keepsAll.keeps _)
  settled error isSettled isGuard := by
    rcases tracks.settled error (samePhase ▸ isSettled) isGuard with all | discarded
    · exact Or.inl (allSteps_snoc all tracks.reached keepsAll)
    · exact Or.inr (discarded.snoc tracks.reached keepsAll)

theorem unsent (tracks : Tracks digest call files events state)
    (untouched : state.phase.Untouched)
    (notSent : ∀ staging, state.phase ≠ .publishing staging none) : state.script = none := by
  cases isSent : state.script with
  | none => rfl
  | some command =>
      rcases tracks.sent (by rw [isSent]; rfl) with ⟨staging, isPublishing⟩ | touched
      · exact absurd isPublishing (notSent staging)
      · exact absurd untouched touched

theorem unsent_local (tracks : Tracks digest call files events state)
    (isLocal : state.phase.IsLocal) : state.script = none := by
  refine tracks.unsent isLocal.untouched ?_
  rintro staging isPublishing
  rw [isPublishing] at isLocal
  exact isLocal

theorem goOn (tracks : Tracks digest call files events state) {phase : MutationPhase}
    (isLocal : state.phase.IsLocal)
    (stepped : state.step digest call event = some { state with phase := phase })
    (grounded : ∀ attrs, phase.known = some attrs →
      Grounded digest call files (events ++ [event]) attrs) :
    Tracks digest call files (events ++ [event]) { state with phase := phase } := by
  have noScript := tracks.unsent_local isLocal
  have keepsAll : KeepsAll digest call state event := keepsAll_of_eq stepped rfl
  have all : AllSteps (step digest call) (KeepsAll digest call) (start files)
      (events ++ [event]) := allSteps_snoc (tracks.quiet isLocal) tracks.reached keepsAll
  have kept : AllSteps (step digest call) (Keeps digest call call.targetKey) (start files)
      (events ++ [event]) :=
    allSteps_snoc (tracks.kept isLocal.untouched) tracks.reached (keepsAll.keeps _)
  exact {
    reached := run_snoc tracks.reached stepped
    known := grounded
    script := fun command isSent => by simp [noScript] at isSent
    sent := fun isSent => by simp [noScript] at isSent
    quiet := fun _ => all
    kept := fun _ => kept
    settled := fun _ _ _ => Or.inl all }

theorem answer (tracks : Tracks digest call files events state) {phase : MutationPhase}
    (answered : Answers digest call state event phase)
    (stepped : state.step digest call event = some { state with phase := phase }) :
    Tracks digest call files (events ++ [event]) { state with phase := phase } := by
  have keepsAll : KeepsAll digest call state event := keepsAll_of_eq stepped rfl
  cases answered with
  | begins isLocal goesOn =>
      refine tracks.goOn isLocal stepped fun attrs isKnown => ?_
      rcases goesOn with rfl | rfl | ⟨error, rfl⟩
      · cases isKnown
      · cases isKnown
      · cases isKnown
  | @observes attrs isLocal seen =>
      refine tracks.goOn isLocal stepped fun other isKnown => ?_
      rw [(MutationCall.Proceeds.observe digest call state.aborted attrs).known isKnown]
      refine ⟨MutationCall.observe_passed digest isKnown, fun present isPresent => ?_⟩
      exact ⟨events, event, [], state, rfl, tracks.reached, seen present isPresent⟩
  | @reads attrs phase isLocal isKnown proceeds =>
      refine tracks.goOn isLocal stepped fun other otherKnown => ?_
      rw [proceeds.known otherKnown]
      exact (tracks.known attrs isKnown).snoc event
  | finishes unknown notLocal notSettled refused =>
      exact {
        reached := run_snoc tracks.reached stepped
        known := fun attrs isKnown => by
          rw [unknown] at isKnown
          cases isKnown
        script := fun command isSent => by
          rcases tracks.script command isSent with ⟨attrs, isCommand, grounded⟩
          exact ⟨attrs, isCommand, grounded.snoc event⟩
        sent := fun isSent => by
          refine Or.inr fun untouched => ?_
          rcases refused untouched with ⟨staging, status, isPublishing, isGuard⟩
          rcases tracks.sent isSent with ⟨other, isOther⟩ | touched
          · rw [isPublishing] at isOther
            cases isOther
          · rw [isPublishing] at touched
            exact touched isGuard
        quiet := fun isLocal => absurd isLocal notLocal
        kept := fun untouched => by
          rcases refused untouched with ⟨staging, status, isPublishing, isGuard⟩
          have before : state.phase.Untouched := by
            rw [isPublishing]
            exact isGuard
          exact allSteps_snoc (tracks.kept before) tracks.reached (keepsAll.keeps _)
        settled := fun error isSettled isGuard =>
          absurd isGuard (notSettled error isSettled) }

theorem upload (tracks : Tracks digest call files events state) {staging : Staging}
    {progress count : Option Nat} {changed : RemoteFiles}
    (isUploading : state.phase = .uploading staging progress)
    (stepped : state.step digest call event =
      some { state with files := changed, phase := .uploading staging count })
    (same : changed call.targetKey = state.files call.targetKey) :
    Tracks digest call files (events ++ [event])
      { state with files := changed, phase := .uploading staging count } := by
  have untouched : state.phase.Untouched := by
    rw [isUploading]
    trivial
  have noScript : state.script = none :=
    tracks.unsent untouched fun other isPublishing => by
      rw [isUploading] at isPublishing
      cases isPublishing
  exact {
    reached := run_snoc tracks.reached stepped
    known := fun attrs isKnown => by
      cases isKnown
      exact (tracks.known staging.attrs (by rw [isUploading]; rfl)).snoc event
    script := fun command isSent => by simp [noScript] at isSent
    sent := fun isSent => by simp [noScript] at isSent
    quiet := fun isLocal => isLocal.elim
    kept := fun _ => allSteps_snoc (tracks.kept untouched) tracks.reached
      (keeps_of_eq stepped same)
    settled := fun error isSettled => by cases isSettled }

theorem send (tracks : Tracks digest call files events state) {staging : Staging}
    {progress : Option Nat} (isUploading : state.phase = .uploading staging progress)
    (stepped : state.step digest call event =
      some { state with
        phase := .publishing staging none, script := some (call.publishCommand staging.attrs) }) :
    Tracks digest call files (events ++ [event])
      { state with
        phase := .publishing staging none, script := some (call.publishCommand staging.attrs) } := by
  have untouched : state.phase.Untouched := by
    rw [isUploading]
    trivial
  have grounded : Grounded digest call files (events ++ [event]) staging.attrs :=
    (tracks.known staging.attrs (by rw [isUploading]; rfl)).snoc event
  exact {
    reached := run_snoc tracks.reached stepped
    known := fun attrs isKnown => by
      cases isKnown
      exact grounded
    script := fun command isSent => by
      cases isSent
      exact ⟨staging.attrs, rfl, grounded⟩
    sent := fun _ => Or.inl ⟨staging, rfl⟩
    quiet := fun isLocal => isLocal.elim
    kept := fun _ => allSteps_snoc (tracks.kept untouched) tracks.reached
      (keeps_of_eq stepped rfl)
    settled := fun error isSettled => by cases isSettled }

theorem ranInTime (tracks : Tracks digest call files events state) {staging : Staging}
    {command : PublishCommand} {stats moves : Bool}
    (isPublishing : state.phase = .publishing staging none)
    (stepped : state.step digest call event = some { state with
      files := (command.run state.files stats moves).1
      phase := .publishing staging (some (command.run state.files stats moves).2)
      script := none }) :
    Tracks digest call files (events ++ [event]) { state with
      files := (command.run state.files stats moves).1
      phase := .publishing staging (some (command.run state.files stats moves).2)
      script := none } where
  reached := run_snoc tracks.reached stepped
  known attrs isKnown := by
    cases isKnown
    exact (tracks.known staging.attrs (by rw [isPublishing]; rfl)).snoc event
  script command isSent := by cases isSent
  sent isSent := by cases isSent
  quiet isLocal := isLocal.elim
  kept untouched := by
    have before : state.phase.Untouched := by
      rw [isPublishing]
      trivial
    have keepsAll := keepsAll_of_eq stepped (PublishCommand.run_refused untouched)
    exact allSteps_snoc (tracks.kept before) tracks.reached (keepsAll.keeps _)
  settled error isSettled := by cases isSettled

theorem ranLate (tracks : Tracks digest call files events state) {changed : RemoteFiles}
    (touched : ¬state.phase.Untouched)
    (stepped : state.step digest call event =
      some { state with files := changed, script := none }) :
    Tracks digest call files (events ++ [event])
      { state with files := changed, script := none } where
  reached := run_snoc tracks.reached stepped
  known attrs isKnown := (tracks.known attrs isKnown).snoc event
  script command isSent := by cases isSent
  sent isSent := by cases isSent
  quiet isLocal := absurd isLocal.untouched touched
  kept untouched := absurd untouched touched
  settled error isSettled isGuard := by
    refine absurd ?_ touched
    rw [show state.phase = _ from isSettled]
    exact isGuard

theorem discard (tracks : Tracks digest call files events state) {error : CallError}
    {refused : Bool} (isDiscarding : state.phase = .discarding error)
    (stepped : state.step digest call (.unlinked refused) = some { state with
      files := if refused then state.files else state.files.unlink call.tempPathFor
      phase := .settled (.error error) }) :
    Tracks digest call files (events ++ [.unlinked refused]) { state with
      files := if refused then state.files else state.files.unlink call.tempPathFor
      phase := .settled (.error error) } where
  reached := run_snoc tracks.reached stepped
  known attrs isKnown := by cases isKnown
  script command isSent := by
    rcases tracks.script command isSent with ⟨attrs, isCommand, grounded⟩
    exact ⟨attrs, isCommand, grounded.snoc _⟩
  sent isSent := by
    refine Or.inr fun untouched => ?_
    rcases tracks.sent isSent with ⟨staging, isPublishing⟩ | touched
    · rw [isDiscarding] at isPublishing
      cases isPublishing
    · rw [isDiscarding] at touched
      exact touched untouched
  quiet isLocal := isLocal.elim
  kept untouched := by
    have before : state.phase.Untouched := by
      rw [isDiscarding]
      exact untouched
    refine allSteps_snoc (tracks.kept before) tracks.reached (keeps_of_eq stepped ?_)
    cases refused with
    | false => exact RemoteFiles.unlink_other call.tempPathFor_ne.symm
    | true => rfl
  settled other isSettled isGuard := by
    refine Or.inr ⟨events, refused, [], _, rfl, run_snoc tracks.reached stepped, ?_, trivial⟩
    rintro rfl entry remains
    exact RemoteFiles.unlink_directory remains

theorem step (tracks : Tracks digest call files events state)
    (stepped : state.step digest call event = some next) :
    Tracks digest call files (events ++ [event]) next := by
  have result := stepped
  unfold Mutation.step at result
  split at result
  · -- others
    cases result
    exact tracks.idle stepped (keepsAll_others _) rfl rfl
  · -- abort
    cases result
    exact tracks.idle stepped (keepsAll_of_eq stepped rfl) rfl rfl
  · -- opened
    split at result
    · next staging opened isUploading isOpened =>
        cases result
        exact tracks.upload isUploading stepped
          (RemoteFiles.openStaged_other call.tempPathFor_ne.symm isOpened)
    · cases result
  · -- wrote
    split at result
    · next staging progress isUploading =>
        split at result
        · cases result
          exact tracks.upload isUploading stepped
            (RemoteFiles.writeStaged_other call.tempPathFor_ne.symm)
        · cases result
    · cases result
  · -- uploaded
    split at result
    · next staging progress isUploading =>
        split at result
        · cases result
          exact tracks.send isUploading stepped
        · cases result
    · cases result
  · -- scriptRan
    split at result
    · cases result
    · next command isSent =>
        dsimp only at result
        split at result
        · next staging isPublishing =>
            cases result
            exact tracks.ranInTime isPublishing stepped
        · next other =>
            cases result
            rcases tracks.sent (by rw [isSent]; rfl) with ⟨staging, isPublishing⟩ | touched
            · exact absurd isPublishing (other staging)
            · exact tracks.ranLate touched stepped
  · -- unlinked
    split at result
    · next error isDiscarding =>
        cases result
        exact tracks.discard isDiscarding stepped
    · cases result
  · rcases Option.map_eq_some_iff.mp result with ⟨phase, answered, rfl⟩
    exact tracks.answer (answers answered) stepped

theorem start (digest : Text → Text) (call : MutationCall) (files : RemoteFiles) :
    Tracks digest call files [] (Mutation.start files) where
  reached := rfl
  known attrs isKnown := by cases isKnown
  script command isSent := by cases isSent
  sent isSent := by cases isSent
  quiet _ := trivial
  kept _ := trivial
  settled error isSettled := by cases isSettled

theorem run (reached : Execution.run (Mutation.step digest call) (Mutation.start files) events =
    some state) : Tracks digest call files events state :=
  history_invariant (fun past state => Tracks digest call files past state) (start ..)
    (fun tracks stepped => tracks.step stepped) reached

end Tracks

/-- The call changes its target only by the script, and only as its guard allows. -/
theorem changed_script (isOwn : event.IsOwn) (stepped : state.step digest call event = some next)
    (changed : next.files call.targetKey ≠ state.files call.targetKey) :
    ∃ command, state.script = some command ∧ command.Allows state.files := by
  unfold Mutation.step at stepped
  split at stepped
  · exact isOwn.elim
  · cases stepped
    exact absurd rfl changed
  · -- opened
    split at stepped
    · next staging opened isUploading isOpened =>
        cases stepped
        exact absurd (RemoteFiles.openStaged_other call.tempPathFor_ne.symm isOpened) changed
    · cases stepped
  · -- wrote
    split at stepped
    · split at stepped
      · cases stepped
        exact absurd (RemoteFiles.writeStaged_other call.tempPathFor_ne.symm) changed
      · cases stepped
    · cases stepped
  · -- uploaded
    split at stepped
    · split at stepped
      · cases stepped
        exact absurd rfl changed
      · cases stepped
    · cases stepped
  · -- scriptRan
    split at stepped
    · cases stepped
    · next command isSent =>
        cases stepped
        rcases PublishCommand.run_cases command state.files _ _ with same | ⟨-, allowed⟩
        · exact absurd (congrFun same _) changed
        · exact ⟨command, isSent, allowed⟩
  · -- unlinked
    split at stepped
    · cases stepped
      refine absurd ?_ changed
      dsimp only
      split
      · rfl
      · exact RemoteFiles.unlink_other call.tempPathFor_ne.symm
    · cases stepped
  · rcases Option.map_eq_some_iff.mp stepped with ⟨phase, -, rfl⟩
    exact absurd rfl changed

end Mutation

namespace MutationCall

open Json (readNat_printNat readInt_printInt)

variable {digest : Text → Text} {call : MutationCall}

theorem allows_create {attrs : Option SftpAttrs} {files : RemoteFiles}
    (isCreate : call.publishMode = .create) (allowed : (call.publishCommand attrs).Allows files) :
    files call.targetKey = none := by
  simp only [publishCommand, isCreate] at allowed
  exact allowed

/-- The script in replace mode finds the size, the time and the bits it was given. -/
theorem allows_replace {attrs : SftpAttrs} {files : RemoteFiles}
    (isReplace : call.publishMode = .replace)
    (allowed : (call.publishCommand (some attrs)).Allows files) :
    ∃ entry, files call.targetKey = some entry ∧ entry.elements = versionElementsOf attrs := by
  simp only [publishCommand, isReplace] at allowed
  rcases allowed with ⟨entry, found, sameSize, sameTime, sameBits⟩
  refine ⟨entry, found, ?_⟩
  have size := congrArg Json.readNat sameSize
  have mtime := congrArg Json.readInt sameTime
  rw [readNat_printNat, readNat_printNat] at size
  rw [readInt_printInt, readInt_printInt] at mtime
  rw [VersionElements.mk.injEq]
  exact ⟨size, mtime, sameBits⟩

/-- What a call may do to its target where it finds the given entry, after a run. -/
def MayReplace (digest : Text → Text) (call : MutationCall) (files : RemoteFiles)
    (events : List MutationEvent) (target : Option Entry) : Prop :=
  match call.request with
  | .write _ none => True
  | .write _ (some .createIfAbsent) => target = none
  | .write _ (some (.replaceIfVersion version)) =>
      ∃ entry, target = some entry ∧ versionTokenOf digest entry.elements = version ∧
        ∀ elements, versionTokenOf digest elements = version → entry.elements = elements
  | .edit _ _ =>
      ∃ entry attrs, target = some entry ∧ entry.elements = versionElementsOf attrs ∧
        Mutation.Observed digest call files events attrs

theorem mayReplace (distinct : Function.Injective (versionTokenOf digest))
    {start files : RemoteFiles} {events : List MutationEvent} {attrs : Option SftpAttrs}
    (grounded : Mutation.Grounded digest call start events attrs)
    (allowed : (call.publishCommand attrs).Allows files) :
    call.MayReplace digest start events (files call.targetKey) := by
  rcases grounded with ⟨passed, observed⟩
  rw [MayReplace]
  rw [Passed] at passed
  split
  · trivial
  · next content isRequest => exact allows_create (by rw [publishMode, isRequest]) allowed
  · next content version isRequest =>
      rw [isRequest] at passed
      cases attrs with
      | none => cases passed
      | some present =>
          have sameVersion : versionOfAttrs digest present = version := by
            by_contra different
            simp only [checkWrite, if_pos different] at passed
            cases passed
          rcases allows_replace (by rw [publishMode, isRequest]) allowed with
            ⟨entry, found, sameElements⟩
          have token : versionTokenOf digest entry.elements = version := by
            rw [sameElements]
            exact sameVersion
          exact ⟨entry, found, token, fun elements behind => distinct (token.trans behind.symm)⟩
  · next edit guard isRequest =>
      rw [isRequest] at passed
      rcases passed with ⟨present, isPresent, -⟩
      rw [isPresent] at allowed
      rcases allows_replace (by rw [publishMode, isRequest]) allowed with
        ⟨entry, found, sameElements⟩
      exact ⟨entry, present, found, sameElements, observed present isPresent⟩

end MutationCall

open Mutation in
/-- Whatever other writers do and whenever: the call replaces its target only as its guard
allows, and where it fails by its guard, the target is as the others left it, and at most a
directory is at the path of the staged file when the call has done its last. -/
theorem guardedMutation_safe {digest : Text → Text}
    (distinct : Function.Injective (versionTokenOf digest)) (call : MutationCall)
    (files : RemoteFiles) {events : List MutationEvent} {state : Mutation}
    (reached : run (Mutation.step digest call) (start files) events = some state) :
    (∀ event next, event.IsOwn → state.step digest call event = some next →
      next.files call.targetKey ≠ state.files call.targetKey →
        call.MayReplace digest files events (state.files call.targetKey)) ∧
    ∀ error, state.phase = .settled (.error error) → error.IsGuard →
      AllSteps (Mutation.step digest call) (Keeps digest call call.targetKey) (start files)
        events ∧
      ((∀ event ∈ events, event ≠ .unlinked true) →
        AllSteps (Mutation.step digest call) (KeepsAll digest call) (start files) events ∨
          ∃ first rest middle, events = first ++ rest ∧
            run (Mutation.step digest call) (start files) first = some middle ∧
            (∀ entry, middle.files call.tempPathFor = some entry → entry.type = .directory) ∧
            AllSteps (Mutation.step digest call) (KeepsAll digest call) middle rest) := by
  have tracks := Tracks.run reached
  constructor
  · intro event next isOwn stepped changed
    rcases changed_script isOwn stepped changed with ⟨command, isSent, allowed⟩
    rcases tracks.script command isSent with ⟨attrs, rfl, grounded⟩
    exact MutationCall.mayReplace distinct grounded allowed
  · intro error isSettled isGuard
    refine ⟨tracks.kept (by rw [isSettled]; exact isGuard), fun works => ?_⟩
    rcases tracks.settled error isSettled isGuard with all | discarded
    · exact Or.inl all
    · rcases discarded with ⟨first, refused, rest, middle, split, unlinked, removed, all⟩
      have notRefused : refused = false := by
        cases refused with
        | false => rfl
        | true => exact absurd rfl (works (.unlinked true) (by rw [split]; simp))
      exact Or.inr ⟨first ++ [.unlinked refused], rest, middle, by rw [split]; simp, unlinked,
        removed notRefused, all⟩

def raceFile : Entry where
  body := .file [0x31, 0x32]
  mtime := 7
  permissions := 0o644

def raceCall : MutationCall where
  targetKey := Json.asciiText "/work/race"
  displayPath := Json.asciiText "/work/race"
  request := .write (Json.asciiText "3")
    (some (.replaceIfVersion (versionTokenOf id raceFile.elements)))
  random := [0, 1, 2, 3, 4, 5]

def raceFiles : RemoteFiles := fun path =>
  if path = raceCall.targetKey then some raceFile else none

/-- Another writer changes the file between the staging and the script. -/
def raceEvents : List MutationEvent :=
  [.begun true, .acquired, .statted [], .chunk [0x31, 0x32], .readEnded, .opened 8, .wrote 1 8,
    .uploaded,
    .others fun files => Function.update files raceCall.targetKey
      (some { raceFile with body := .file [0x34] }),
    .scriptRan true true, .scriptAnswered [], .unlinked false]

open Mutation in
theorem guardedMutation_race : ∃ state,
    run (Mutation.step id raceCall) (start raceFiles) raceEvents = some state ∧
      state.phase = .settled (.error (.fs
        (raceCall.error "target changed underneath the write: " .staleVersion))) ∧
      AllSteps (Mutation.step id raceCall) (Keeps id raceCall raceCall.targetKey)
        (start raceFiles) raceEvents := by
  have isGuard : (CallError.fs
      (raceCall.error "target changed underneath the write: " .staleVersion)).IsGuard :=
    Or.inr rfl
  refine ⟨_, rfl, rfl, ?_⟩
  exact ((guardedMutation_safe (versionTokenOf_injective Function.injective_id) raceCall raceFiles
    rfl).2 _ rfl isGuard).1

end DshRemote.FsSsh
