import DshRemote.FsSsh.EditRuns
import DshRemote.FsSsh.MutationSafety

/-! # What a call changes

A call that succeeds while nobody else writes: the staged file is in the place of the target,
with the permissions it was made with. -/

namespace DshRemote.FsSsh

open Execution

namespace RemoteFiles

/-- Only the contents and the time of a file have changed. -/
structure OnlyContentsChange (before after : RemoteFiles) (target : Text) : Prop where
  others : ∀ path, path ≠ target → after path = before path
  kept : ∃ old contents mtime, before target = some old ∧
    after target = some { old with body := .file contents, mtime := mtime }

/-- The permissions of a staged file: a new one is private, an old one keeps its own. -/
def stagedPermissions (files : RemoteFiles) (path : Text) : Nat :=
  match files path with
  | none => 0o600
  | some entry => entry.permissions

/-- The files with a staged one among them. -/
def Stages (files current : RemoteFiles) (path : Text) : Prop :=
  ∃ contents mtime, current = Function.update files path
    (some { body := .file contents, mtime := mtime, permissions := files.stagedPermissions path })

/-- The files after the staged one has replaced the target. -/
def Replaces (files current : RemoteFiles) (path target : Text) : Prop :=
  ∃ contents mtime, current = Function.update (Function.update files path none) target
    (some { body := .file contents, mtime := mtime, permissions := files.stagedPermissions path })

variable {files current : RemoteFiles} {path target : Text}

theorem stages_openStaged {mtime : Int} (isOpened : files.openStaged path mtime = some current) :
    files.Stages current path := by
  rw [openStaged] at isOpened
  split at isOpened
  · next absent =>
      cases isOpened
      exact ⟨[], mtime, by simp only [stagedPermissions, absent]⟩
  · next entry found =>
      split at isOpened
      · cases isOpened
        exact ⟨[], mtime, by simp only [stagedPermissions, found]⟩
      · cases isOpened

theorem Stages.writeStaged (stages : files.Stages current path) (contents : List Octet)
    (mtime : Int) : files.Stages (current.writeStaged path contents mtime) path := by
  rcases stages with ⟨earlier, time, rfl⟩
  refine ⟨contents, mtime, ?_⟩
  rw [RemoteFiles.writeStaged, Function.update_self]
  simp only [Function.update_idem]

/-- A script that reports no error has put the staged file in the place of the target. -/
theorem Stages.run {command : PublishCommand} {old : Entry} {stats moves : Bool}
    (stages : files.Stages current command.tmp) (different : command.file ≠ command.tmp)
    (found : files command.file = some old) (isFile : old.type = .file)
    (success : (command.run current stats moves).2 = 0) :
    files.Replaces (command.run current stats moves).1 command.tmp command.file := by
  rcases stages with ⟨contents, mtime, rfl⟩
  rcases PublishCommand.run_success success with ⟨moved, isMoved, isRun⟩
  have target : Function.update files command.tmp (some
      { body := .file contents, mtime := mtime
        permissions := files.stagedPermissions command.tmp }) command.file = some old := by
    rw [Function.update_of_ne different, found]
  rw [isRun, move_eq (Function.update_self ..) rfl target isFile isMoved]
  exact ⟨contents, mtime, by rw [Function.update_idem]⟩

/-- Nothing else has changed exactly when nothing was at the staging path, and the permissions
were those of a new staged file. -/
theorem Replaces.onlyContentsChange_iff {old : Entry} (replaces : files.Replaces current path target)
    (different : path ≠ target) (found : files target = some old) :
    files.OnlyContentsChange current target ↔
      files path = none ∧ old.permissions = 0o600 := by
  rcases replaces with ⟨contents, mtime, rfl⟩
  have isRemoved : Function.update (Function.update files path none) target
      (some { body := .file contents, mtime := mtime
              permissions := files.stagedPermissions path }) path = none := by
    rw [Function.update_of_ne different, Function.update_self]
  constructor
  · intro only
    have absent : files path = none := by
      rw [← only.others path different, isRemoved]
    rcases only.kept with ⟨same, others, time, isOld, kept⟩
    rw [found] at isOld
    cases isOld
    rw [Function.update_self, Option.some.injEq] at kept
    have permissions := congrArg Entry.permissions kept
    simp only [stagedPermissions, absent] at permissions
    exact ⟨absent, permissions.symm⟩
  · intro both
    rcases both with ⟨absent, isPrivate⟩
    constructor
    · intro other notTarget
      rw [Function.update_of_ne notTarget]
      by_cases isPath : other = path
      · rw [isPath, Function.update_self, absent]
      · rw [Function.update_of_ne isPath]
    · refine ⟨old, contents, mtime, found, ?_⟩
      rw [Function.update_self]
      simp only [stagedPermissions, absent, isPrivate]

end RemoteFiles

/-! ## Phases -/

namespace MutationPhase

/-- Nothing was staged yet. -/
def IsEarly : MutationPhase → Prop
  | .starting | .connecting | .statting | .acquiring _ | .reading _ _ _ | .uploading _ none => True
  | _ => False

/-- The call fails. -/
def IsFailing : MutationPhase → Prop
  | .discarding _ | .settled (.error _) => True
  | _ => False

/-- The script has succeeded. -/
def IsDone : MutationPhase → Prop
  | .publishing _ (some status) => status = 0
  | .confirming _ | .settled (.ok _) => True
  | _ => False

end MutationPhase

theorem MutationCall.Proceeds.early_or_failing {attrs : Option SftpAttrs} {phase : MutationPhase}
    (proceeds : Proceeds attrs phase) : phase.IsEarly ∨ phase.IsFailing := by
  cases proceeds with
  | acquiring _ => exact Or.inl trivial
  | reading _ _ _ => exact Or.inl trivial
  | uploading _ => exact Or.inl trivial
  | failed error => exact Or.inr trivial

namespace Mutation

variable {digest : Text → Text} {call : MutationCall} {files : RemoteFiles}
  {state next : Mutation} {event : MutationEvent} {old : Entry}

theorem begin_early_or_failing (call : MutationCall) (aborted connected : Bool) :
    (call.begin aborted connected).IsEarly ∨ (call.begin aborted connected).IsFailing := by
  rw [MutationCall.begin]
  repeat' split
  all_goals first
    | exact Or.inl trivial
    | exact Or.inr trivial

/-- An answer takes an early phase to an early one, and one after the script to one after it,
or the call fails. -/
theorem answered_cases {phase : MutationPhase}
    (answered : state.answered digest call event = some phase) :
    phase.IsFailing ∨ (state.phase.IsEarly ∧ phase.IsEarly) ∨
      (state.phase.IsDone ∧ phase.IsDone) := by
  have proceed (isEarly : state.phase.IsEarly) (either : phase.IsEarly ∨ phase.IsFailing) :
      phase.IsFailing ∨ (state.phase.IsEarly ∧ phase.IsEarly) ∨
        (state.phase.IsDone ∧ phase.IsDone) := by
    rcases either with early | failing
    · exact Or.inr (Or.inl ⟨isEarly, early⟩)
    · exact Or.inl failing
  have replies := reply answered
  rcases state with ⟨files, current, aborted, script⟩
  cases replies with
  | begun connected => exact proceed trivial (begin_early_or_failing call aborted _)
  | connected => exact proceed trivial (Or.inl trivial)
  | acquired attrs => exact proceed trivial (Or.inl trivial)
  | failed isLocal notGuard => exact Or.inl trivial
  | present told =>
      exact proceed trivial (MutationCall.Proceeds.observe digest call aborted _).early_or_failing
  | missing told =>
      exact proceed trivial (MutationCall.Proceeds.observe digest call aborted _).early_or_failing
  | unfound isMissing =>
      exact proceed trivial (MutationCall.Proceeds.observe digest call aborted _).early_or_failing
  | confirmed staging attrs => exact Or.inr (Or.inr ⟨trivial, trivial⟩)
  | unconfirmed staging error =>
      rcases confirmFailure_settled call error with ⟨what, isSettled⟩
      rw [isSettled]
      exact Or.inl trivial
  | chunk attrs probe earlier bytes =>
      exact proceed trivial
        (MutationCall.Proceeds.readChunk call aborted _ _ _ _).early_or_failing
  | readEnded attrs probe bytes =>
      exact proceed trivial (MutationCall.Proceeds.readEnd call aborted _ _).early_or_failing
  | readFailed attrs probe bytes error =>
      exact proceed trivial (MutationCall.Proceeds.readFailure call aborted _ _).early_or_failing
  | answered staging status stderr =>
      rw [MutationCall.answer]
      split
      · next success => exact Or.inr (Or.inr ⟨success, trivial⟩)
      · exact Or.inl trivial
  | withdrawn notGuard => exact Or.inl trivial

/-! ## The files in each phase -/

variable (call files) in
/-- The files before the staging, with the staged file, and after the script. -/
structure Progress (state : Mutation) : Prop where
  early : state.phase.IsEarly → state.script = none ∧ state.files = files
  uploading : ∀ staging count, state.phase = .uploading staging (some count) →
    state.script = none ∧ files.Stages state.files call.tempPathFor
  sent : ∀ staging, state.phase = .publishing staging none →
    state.script = some (call.publishCommand staging.attrs) ∧
      files.Stages state.files call.tempPathFor
  done : state.phase.IsDone → state.script = none ∧
    files.Replaces state.files call.tempPathFor call.targetKey

namespace Progress

theorem of_failing (failing : state.phase.IsFailing) : Progress call files state := by
  rcases state with ⟨current, phase, aborted, script⟩
  cases phase with
  | discarding error => exact ⟨nofun, nofun, nofun, nofun⟩
  | settled result =>
      cases result with
      | error error => exact ⟨nofun, nofun, nofun, nofun⟩
      | ok outcome => exact failing.elim
  | _ => exact failing.elim

theorem of_early (isEarly : state.phase.IsEarly)
    (holds : state.script = none ∧ state.files = files) : Progress call files state := by
  rcases state with ⟨current, phase, aborted, script⟩
  cases phase with
  | uploading staging progress =>
      cases progress with
      | none => exact ⟨fun _ => holds, nofun, nofun, nofun⟩
      | some count => exact isEarly.elim
  | publishing staging status => exact isEarly.elim
  | confirming staging => exact isEarly.elim
  | discarding error => exact isEarly.elim
  | settled result => exact isEarly.elim
  | _ => exact ⟨fun _ => holds, nofun, nofun, nofun⟩

theorem of_done (isDone : state.phase.IsDone)
    (holds : state.script = none ∧
      files.Replaces state.files call.tempPathFor call.targetKey) :
    Progress call files state := by
  rcases state with ⟨current, phase, aborted, script⟩
  cases phase with
  | publishing staging status =>
      cases status with
      | none => exact isDone.elim
      | some status => exact ⟨nofun, nofun, nofun, fun _ => holds⟩
  | confirming staging => exact ⟨nofun, nofun, nofun, fun _ => holds⟩
  | settled result =>
      cases result with
      | error error => exact isDone.elim
      | ok outcome => exact ⟨nofun, nofun, nofun, fun _ => holds⟩
  | _ => exact isDone.elim

theorem answered (progress : Progress call files state) {phase : MutationPhase}
    (answered : state.answered digest call event = some phase) :
    Progress call files { state with phase := phase } := by
  rcases answered_cases answered with failing | ⟨before, after⟩ | ⟨before, after⟩
  · exact of_failing failing
  · exact of_early after (progress.early before)
  · exact of_done after (progress.done before)

theorem ran (progress : Progress call files state) (found : files call.targetKey = some old)
    (isFile : old.type = .file) {command : PublishCommand} (isSent : state.script = some command)
    (stats moves : Bool) :
    Progress call files
      { state with
        files := (command.run state.files stats moves).1
        phase := match state.phase with
          | .publishing staging none =>
              .publishing staging (some (command.run state.files stats moves).2)
          | phase => phase
        script := none } := by
  rcases state with ⟨current, phase, aborted, script⟩
  dsimp only at isSent ⊢
  cases phase with
  | publishing staging status =>
      cases status with
      | none =>
          have sent := progress.sent staging rfl
          rw [isSent, Option.some.injEq] at sent
          rcases sent with ⟨isCommand, stages⟩
          have stagesTmp : files.Stages current command.tmp := by
            rw [isCommand, MutationCall.publishCommand_tmp]
            exact stages
          have different : command.file ≠ command.tmp := by
            rw [isCommand, MutationCall.publishCommand_tmp, MutationCall.publishCommand_file]
            exact call.tempPathFor_ne.symm
          have foundFile : files command.file = some old := by
            rw [isCommand, MutationCall.publishCommand_file]
            exact found
          refine ⟨nofun, nofun, nofun, fun success => ⟨rfl, ?_⟩⟩
          have replaces := stagesTmp.run different foundFile isFile success
          rwa [isCommand, MutationCall.publishCommand_tmp, MutationCall.publishCommand_file,
            ← isCommand] at replaces
      | some status =>
          refine ⟨nofun, nofun, nofun, fun success => ?_⟩
          have unsent := (progress.done success).1
          rw [isSent] at unsent
          cases unsent
  | discarding error => exact of_failing trivial
  | settled result =>
      cases result with
      | error error => exact of_failing trivial
      | ok outcome =>
          have unsent := (progress.done trivial).1
          rw [isSent] at unsent
          cases unsent
  | confirming staging =>
      have unsent := (progress.done trivial).1
      rw [isSent] at unsent
      cases unsent
  | uploading staging count =>
      cases count with
      | none =>
          have unsent := (progress.early trivial).1
          rw [isSent] at unsent
          cases unsent
      | some count =>
          have unsent := (progress.uploading staging count rfl).1
          rw [isSent] at unsent
          cases unsent
  | _ =>
      have unsent := (progress.early trivial).1
      rw [isSent] at unsent
      cases unsent

theorem step (progress : Progress call files state) (found : files call.targetKey = some old)
    (isFile : old.type = .file) (isOwn : event.IsOwn)
    (stepped : state.step digest call event = some next) : Progress call files next := by
  unfold Mutation.step at stepped
  split at stepped
  · exact isOwn.elim
  · -- abort
    cases stepped
    exact ⟨progress.early, progress.uploading, progress.sent, progress.done⟩
  · -- opened
    split at stepped
    · next staging opened isUploading isOpened =>
        cases stepped
        rcases progress.early (by rw [isUploading]; trivial) with ⟨unsent, same⟩
        rw [same] at isOpened
        refine ⟨nofun, fun _ _ _ => ⟨unsent, RemoteFiles.stages_openStaged isOpened⟩, nofun, nofun⟩
    · cases stepped
  · -- wrote
    split at stepped
    · next staging count isUploading =>
        split at stepped
        · cases stepped
          rcases progress.uploading staging count isUploading with ⟨unsent, stages⟩
          exact ⟨nofun, fun _ _ _ => ⟨unsent, stages.writeStaged _ _⟩, nofun, nofun⟩
        · cases stepped
    · cases stepped
  · -- uploaded
    split at stepped
    · next staging count isUploading =>
        split at stepped
        · cases stepped
          have stages := (progress.uploading staging count isUploading).2
          refine ⟨nofun, nofun, ?_, nofun⟩
          intro other isOther
          cases isOther
          exact ⟨rfl, stages⟩
        · cases stepped
    · cases stepped
  · -- scriptRan
    split at stepped
    · cases stepped
    · next command isSent =>
        cases stepped
        exact progress.ran found isFile isSent _ _
  · -- unlinked
    split at stepped
    · cases stepped
      exact of_failing trivial
    · cases stepped
  · rcases Option.map_eq_some_iff.mp stepped with ⟨phase, isAnswered, rfl⟩
    exact progress.answered isAnswered

theorem run (found : files call.targetKey = some old) (isFile : old.type = .file)
    {events : List MutationEvent} (alone : ∀ event ∈ events, event.IsOwn)
    (reached : Execution.run (Mutation.step digest call) (start files) events = some state) :
    Progress call files state := by
  have initially : Progress call files (start files) := of_early trivial ⟨rfl, rfl⟩
  exact run_invariant (Progress call files)
    (fun progress isOwn stepped => progress.step found isFile isOwn stepped)
    initially (AllSteps.of_events alone (start files)) reached

end Progress

/-- A call that succeeds while nobody else writes changes only the contents and the time of its
target exactly when nothing was at its staging path and the permissions of the target were
those of a private file. -/
theorem mutation_onlyContentsChange_iff {digest : Text → Text} {call : MutationCall}
    {files : RemoteFiles} {old : Entry} (found : files call.targetKey = some old)
    (isFile : old.type = .file) {events : List MutationEvent} {state : Mutation}
    (alone : ∀ event ∈ events, event.IsOwn)
    (reached : Execution.run (step digest call) (start files) events = some state)
    {outcome : MutationOutcome} (succeeded : state.phase = .settled (.ok outcome)) :
    files.OnlyContentsChange state.files call.targetKey ↔
      files call.tempPathFor = none ∧ old.permissions = 0o600 := by
  have progress := Progress.run found isFile alone reached
  have isDone : state.phase.IsDone := by
    rw [succeeded]
    trivial
  exact (progress.done isDone).2.onlyContentsChange_iff call.tempPathFor_ne found

/-- One file, with these permissions. -/
def fileWith (permissions : Nat) : RemoteFiles := fun path =>
  if path = Json.asciiText "/work/lines" then
    some { body := .file longLines, mtime := 7, permissions := permissions }
  else none

theorem linesEvents_own (contents : List Octet) (staged : Nat) :
    ∀ event ∈ linesEvents contents staged, event.IsOwn := by
  simp [linesEvents, MutationEvent.IsOwn]

/-- A private file stays one. -/
theorem mutation_private_file : ∃ state,
    Execution.run (step id (linesCall letterEdit)) (start (fileWith 0o600))
        (linesEvents longLines 9) = some state ∧
      (fileWith 0o600).OnlyContentsChange state.files (Json.asciiText "/work/lines") := by
  have only := @mutation_onlyContentsChange_iff id (linesCall letterEdit) (fileWith 0o600)
    ⟨.file longLines, 7, 0o600⟩ (if_pos rfl) rfl (linesEvents longLines 9) _
    (linesEvents_own _ _) rfl _ rfl
  exact ⟨_, rfl, only.mpr ⟨by decide, rfl⟩⟩

/-- A script that is edited can no longer be executed. -/
theorem mutation_executable_file : ∃ state,
    Execution.run (step id (linesCall letterEdit)) (start (fileWith 0o755))
        (linesEvents longLines 9) = some state ∧
      (∃ outcome, state.phase = .settled (.ok outcome)) ∧
      (state.files (Json.asciiText "/work/lines")).map (fun entry => entry.permissions) =
        some 0o600 ∧
      ¬(fileWith 0o755).OnlyContentsChange state.files (Json.asciiText "/work/lines") := by
  obtain ⟨state, reached, succeeded, mode⟩ : ∃ state,
      Execution.run (step id (linesCall letterEdit)) (start (fileWith 0o755))
          (linesEvents longLines 9) = some state ∧
        (∃ outcome, state.phase = .settled (.ok outcome)) ∧
        (state.files (Json.asciiText "/work/lines")).map (fun entry => entry.permissions) =
          some 0o600 :=
    ⟨_, rfl, ⟨_, rfl⟩, rfl⟩
  refine ⟨state, reached, succeeded, mode, ?_⟩
  intro only
  rcases only.kept with ⟨before, contents, mtime, isOld, kept⟩
  have isEntry : before = ⟨.file longLines, 7, 0o755⟩ :=
    Option.some.inj (isOld.symm.trans (if_pos rfl))
  rw [kept, isEntry] at mode
  cases mode

end Mutation

end DshRemote.FsSsh
