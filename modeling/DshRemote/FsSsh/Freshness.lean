import DshRemote.FsSsh.MutationSafety

/-! # Freshness of an unchanged file

The elements that a call derives from the attributes that SFTP gives, and those that the
script gets from `stat -c '%s %Y %a'` for the same file. -/

namespace DshRemote.FsSsh

open Execution
open Json (digitUnit)

theorem digitUnit_injective {first second : Nat} (smallFirst : first < 10)
    (smallSecond : second < 10) (same : digitUnit first = digitUnit second) :
    first = second := by
  have values := congrArg Fin.val same
  rw [Json.digitUnit_val smallFirst, Json.digitUnit_val smallSecond] at values
  omega

theorem map_digitUnit_injective {first second : List Nat}
    (smallFirst : ∀ digit ∈ first, digit < 10) (smallSecond : ∀ digit ∈ second, digit < 10)
    (same : first.map digitUnit = second.map digitUnit) : first = second := by
  induction first generalizing second with
  | nil => exact (List.map_eq_nil_iff.mp same.symm).symm
  | cons digit rest induction =>
      cases second with
      | nil => cases same
      | cons other others =>
          rw [List.map_cons, List.map_cons, List.cons.injEq] at same
          rw [List.forall_mem_cons] at smallFirst smallSecond
          rw [digitUnit_injective smallFirst.1 smallSecond.1 same.1,
            induction smallFirst.2 smallSecond.2 same.2]

/-- The digits that are printed. A zero has one, too. -/
def octalDigits (value : Nat) : List Nat := if value = 0 then [0] else Nat.digits 8 value

theorem printOctal_eq (value : Nat) :
    printOctal value = ((octalDigits value).map digitUnit).reverse := by
  rw [printOctal, octalDigits]
  split
  · rfl
  · rw [List.map_reverse]

theorem octalDigits_small {value digit : Nat} (member : digit ∈ octalDigits value) :
    digit < 10 := by
  rw [octalDigits] at member
  split at member
  · rw [List.mem_singleton] at member
    omega
  · have small := Nat.digits_lt_base (by decide) member
    omega

theorem ofDigits_octalDigits (value : Nat) : Nat.ofDigits 8 (octalDigits value) = value := by
  rw [octalDigits]
  split
  · next zero => rw [zero, Nat.ofDigits_singleton]
  · exact Nat.ofDigits_digits 8 value

theorem printOctal_injective : Function.Injective printOctal := by
  intro first second same
  rw [printOctal_eq, printOctal_eq, List.reverse_inj] at same
  have sameDigits := map_digitUnit_injective (fun _ => octalDigits_small)
    (fun _ => octalDigits_small) same
  rw [← ofDigits_octalDigits first, sameDigits, ofDigits_octalDigits]

/-- A regular file, with twelve mode bits. -/
def regularFile (contents : List Octet) (mtime : Int) (bits : Fin 0o10000) : Entry where
  body := .file contents
  mtime := mtime
  permissions := bits.val

/-- The nine permission bits are all that the token has of the mode, and 32 bits are all that
SFTP has of the time. -/
theorem elements_eq_iff (contents : List Octet) (mtime : Int) (bits : Fin 0o10000) :
    versionElementsOf (regularFile contents mtime bits).attrs =
        (regularFile contents mtime bits).elements ↔
      bits.val < 0o1000 ∧ 0 ≤ mtime ∧ mtime < 2 ^ 32 := by
  have sameMode : printOctal (bits.val % 0o1000) = printOctal bits.val ↔ bits.val < 0o1000 := by
    rw [printOctal_injective.eq_iff]
    omega
  have sameTime : ((mtime % 2 ^ 32).toNat : Int) = mtime ↔ 0 ≤ mtime ∧ mtime < 2 ^ 32 := by
    omega
  rw [versionElementsOf, Entry.elements, VersionElements.mk.injEq]
  change _ = _ ∧ ((mtime % 2 ^ 32).toNat : Int) = mtime ∧
    printOctal (bits.val % 0o1000) = printOctal bits.val ↔ _
  rw [sameTime, sameMode]
  constructor
  · exact fun all => ⟨all.2.2, all.2.1⟩
  · exact fun all => ⟨rfl, all.2, all.1⟩

/-! ## A run -/

def CallError.IsStale : CallError → Prop
  | .fs error => error.code = .staleVersion
  | .transport _ => False

/-- A guard with the version of the file, or an edit without one. -/
def MutationCall.GoesBy (digest : Text → Text) (call : MutationCall) (entry : Entry) : Prop :=
  match call.request with
  | .write _ (some (.replaceIfVersion version)) => version = versionOfAttrs digest entry.attrs
  | .edit _ none => True
  | _ => False

/-- From `stat` on, no other writer changes the target. The file is there for `stat`, and for
the `stat` of the script. -/
def Undisturbed (call : MutationCall) (entry : Entry) (state : Mutation) :
    MutationEvent → Prop
  | .others edit => state.phase.known.isSome →
      edit state.files call.targetKey = state.files call.targetKey
  | .statted _ => state.phase = .statting → state.files call.targetKey = some entry
  | .statFailed error => error.code ≠ .noSuchFile
  | .scriptRan stats _ => stats = true
  | _ => True

/-- What a phase goes by is the file as it is. -/
def MutationCall.Current (call : MutationCall) (entry : Entry) (files : RemoteFiles)
    (script : Option PublishCommand) : MutationPhase → Prop
  | .starting | .connecting | .statting => script = none
  | .acquiring attrs => script = none ∧ attrs = entry.attrs ∧ files call.targetKey = some entry
  | .reading attrs _ _ =>
      script = none ∧ attrs = entry.attrs ∧ files call.targetKey = some entry
  | .uploading staging _ =>
      script = none ∧ staging.attrs = some entry.attrs ∧ files call.targetKey = some entry
  | .publishing staging none =>
      script = some (call.publishCommand (some entry.attrs)) ∧
        staging.attrs = some entry.attrs ∧ files call.targetKey = some entry
  | .publishing _ (some status) => status ≠ 4
  | .confirming _ => True
  | .discarding error => ¬error.IsStale
  | .settled (.error error) => ¬error.IsStale
  | .settled (.ok _) => True

theorem CallError.not_stale {error : CallError} (notGuard : ¬error.IsGuard) : ¬error.IsStale := by
  cases error with
  | fs error => exact fun isStale => notGuard (Or.inr isStale)
  | transport error => exact fun isStale => isStale

namespace MutationCall

variable {digest : Text → Text} {call : MutationCall} {entry : Entry} {files : RemoteFiles}

theorem publishError_stale {status : Option Nat} {stderr : Text}
    (stale : (CallError.fs (call.publishError status stderr)).IsStale) : status = some 4 := by
  unfold publishError at stale
  split at stale
  · cases stale
  · rfl
  · cases stale

theorem editedText_not_stale {edit : FsEditRequest} {attrs : SftpAttrs} {bytes : List Octet}
    {error : FsError} (failed : call.editedText edit attrs bytes = .error error) :
    ¬(CallError.fs error).IsStale := by
  unfold editedText at failed
  dsimp only at failed
  repeat' split at failed
  all_goals cases failed
  all_goals exact fun impossible => nomatch impossible

theorem current_stage (aborted : Bool) {staging : Staging}
    (isStaged : staging.attrs = some entry.attrs) (there : files call.targetKey = some entry) :
    call.Current entry files none (stage aborted staging) := by
  rw [stage]
  split
  · exact fun impossible => by cases impossible
  · exact ⟨rfl, isStaged, there⟩

theorem current_observe (goesBy : call.GoesBy digest entry) (isFile : entry.type = .file)
    (there : files call.targetKey = some entry) (aborted : Bool) :
    call.Current entry files none (call.observe digest aborted (some entry.attrs)) := by
  have fileType : entry.attrs.type = .file := isFile
  unfold GoesBy at goesBy
  rw [observe]
  split at goesBy
  · next content version isRequest =>
    rw [isRequest]
    simp only [checkWrite, goesBy, ne_eq, not_true_eq_false, if_false, fileType, if_true]
    exact ⟨rfl, rfl, there⟩
  · next edit isRequest =>
    rw [isRequest]
    simp only [checkEdit, ne_eq, fileType, not_true_eq_false, if_false]
    exact ⟨rfl, rfl, there⟩
  · exact goesBy.elim

theorem current_readChunk (there : files call.targetKey = some entry) (aborted : Bool)
    (probe : BinaryProbe) (bytes chunk : List Octet) :
    call.Current entry files none (call.readChunk aborted entry.attrs probe bytes chunk) := by
  unfold readChunk
  split
  · dsimp only
    split
    · exact current_stage aborted rfl there
    · exact ⟨rfl, rfl, there⟩
  · split
    · exact fun impossible => nomatch impossible
    · exact ⟨rfl, rfl, there⟩

theorem current_readEnd (there : files call.targetKey = some entry) (aborted : Bool)
    (bytes : List Octet) :
    call.Current entry files none (call.readEnd aborted entry.attrs bytes) := by
  rw [readEnd]
  split
  · exact current_stage aborted rfl there
  · split
    · next failed => exact editedText_not_stale failed
    · next staging edited => exact current_stage aborted (editedText_attrs edited) there

theorem current_readFailure (there : files call.targetKey = some entry) (aborted : Bool)
    (error : TransportError) :
    call.Current entry files none (call.readFailure aborted entry.attrs error) := by
  rw [readFailure]
  split
  · exact current_stage aborted rfl there
  · exact CallError.not_stale (mapFsError_not_guard _ _)

theorem current_begin (aborted connected : Bool) :
    call.Current entry files none (call.begin aborted connected) := by
  rw [begin]
  repeat' split
  all_goals first
    | exact rfl
    | exact fun impossible => by cases impossible

theorem run_current (goesBy : call.GoesBy digest entry) (isFile : entry.type = .file)
    (same : versionElementsOf entry.attrs = entry.elements)
    (there : files call.targetKey = some entry) (moves : Bool) :
    ((call.publishCommand (some entry.attrs)).run files true moves).2 ≠ 4 := by
  have isReplace : call.publishMode = .replace := by
    unfold GoesBy at goesBy
    rw [publishMode]
    split at goesBy
    · next isRequest => rw [isRequest]
    · next isRequest => rw [isRequest]
    · exact goesBy.elim
  have isThere : files.isThere call.targetKey = true := by
    rcases entry with ⟨body, mtime, permissions⟩
    cases body with
    | file contents => simp only [RemoteFiles.isThere, RemoteFiles.linkLimit,
        RemoteFiles.resolve, there]
    | directory size => cases isFile
    | link destination => cases isFile
    | other => cases isFile
  have published : (call.publishCommand (some entry.attrs)).run files true moves =
      (call.publishCommand (some entry.attrs)).publish files moves := by
    simp only [publishCommand, isReplace, PublishCommand.run, isThere, there, same, Bool.not_true,
      Bool.false_and, Bool.false_eq_true, if_false, if_true, ne_eq, not_true_eq_false, or_self]
  rw [published]
  rcases PublishCommand.publish_status (call.publishCommand (some entry.attrs)) files moves with
    success | failure
  · omega
  · omega

end MutationCall

namespace Mutation

variable {digest : Text → Text} {call : MutationCall} {entry : Entry} {state next : Mutation}
  {event : MutationEvent}

theorem stat_file {files : RemoteFiles} {path : Text} (isFile : entry.type = .file)
    (there : files path = some entry) : files.stat path = .ok entry.attrs := by
  rcases entry with ⟨body, mtime, permissions⟩
  cases body with
  | file contents =>
      simp only [RemoteFiles.stat, RemoteFiles.linkLimit, RemoteFiles.resolve, there]
      rfl
  | directory size => cases isFile
  | link destination => cases isFile
  | other => cases isFile

theorem current_confirmFailure {files : RemoteFiles} {script : Option PublishCommand}
    (error : TransportError) : call.Current entry files script (call.confirmFailure error) := by
  rcases confirmFailure_settled call error with ⟨what, isSettled⟩
  rw [isSettled]
  exact CallError.not_stale (mapFsError_not_guard error what)

theorem current_answered (goesBy : call.GoesBy digest entry) (isFile : entry.type = .file)
    (current : call.Current entry state.files state.script state.phase)
    (undisturbed : Undisturbed call entry state event) {phase : MutationPhase}
    (answered : state.answered digest call event = some phase) :
    call.Current entry state.files state.script phase := by
  have replies := reply answered
  rcases state with ⟨files, before, aborted, script⟩
  dsimp only at current replies ⊢
  cases replies with
  | begun connected =>
      cases current
      exact MutationCall.current_begin _ _
  | connected => exact current
  | acquired attrs => exact current
  | failed isLocal notGuard => exact CallError.not_stale notGuard
  | present told =>
      cases current
      have there : files call.targetKey = some entry := undisturbed rfl
      rw [stat_file isFile there] at told
      cases told
      exact MutationCall.current_observe goesBy isFile there _
  | missing told =>
      rw [stat_file isFile (undisturbed rfl)] at told
      cases told
  | unfound isMissing => exact absurd isMissing undisturbed
  | confirmed staging attrs => trivial
  | unconfirmed staging error => exact current_confirmFailure _
  | chunk attrs probe earlier bytes =>
      rcases current with ⟨rfl, rfl, there⟩
      exact MutationCall.current_readChunk there _ _ _ _
  | readEnded attrs probe bytes =>
      rcases current with ⟨rfl, rfl, there⟩
      exact MutationCall.current_readEnd there _ _
  | readFailed attrs probe bytes error =>
      rcases current with ⟨rfl, rfl, there⟩
      exact MutationCall.current_readFailure there _ _
  | answered staging status stderr =>
      rw [MutationCall.answer]
      split
      · trivial
      · intro stale
        exact current (Option.some.inj (MutationCall.publishError_stale stale))
  | withdrawn notGuard => exact CallError.not_stale notGuard

/-- What the call itself does to the files before the script runs is done to other files. -/
theorem current_files {files changed : RemoteFiles} {script : Option PublishCommand}
    {phase : MutationPhase} (current : call.Current entry files script phase)
    (same : phase.known.isSome → changed call.targetKey = files call.targetKey) :
    call.Current entry changed script phase := by
  cases phase with
  | acquiring attrs => exact ⟨current.1, current.2.1, (same rfl).trans current.2.2⟩
  | reading attrs probe bytes => exact ⟨current.1, current.2.1, (same rfl).trans current.2.2⟩
  | uploading staging progress => exact ⟨current.1, current.2.1, (same rfl).trans current.2.2⟩
  | publishing staging status =>
      cases status with
      | none => exact ⟨current.1, current.2.1, (same rfl).trans current.2.2⟩
      | some status => exact current
  | settled result =>
      cases result with
      | error error => exact current
      | ok outcome => exact current
  | _ => exact current

theorem current_step (goesBy : call.GoesBy digest entry) (isFile : entry.type = .file)
    (same : versionElementsOf entry.attrs = entry.elements)
    (current : call.Current entry state.files state.script state.phase)
    (undisturbed : Undisturbed call entry state event)
    (stepped : state.step digest call event = some next) :
    call.Current entry next.files next.script next.phase := by
  unfold Mutation.step at stepped
  split at stepped
  · cases stepped
    exact current_files current undisturbed
  · cases stepped
    exact current
  · -- opened
    split at stepped
    · next staging opened isUploading isOpened =>
      cases stepped
      rw [isUploading] at current
      exact ⟨current.1, current.2.1,
        (RemoteFiles.openStaged_other call.tempPathFor_ne.symm isOpened).trans current.2.2⟩
    · cases stepped
  · -- wrote
    split at stepped
    · next staging progress isUploading =>
      split at stepped
      · cases stepped
        rw [isUploading] at current
        exact ⟨current.1, current.2.1,
          (RemoteFiles.writeStaged_other call.tempPathFor_ne.symm).trans current.2.2⟩
      · cases stepped
    · cases stepped
  · -- uploaded
    split at stepped
    · next staging progress isUploading =>
      split at stepped
      · cases stepped
        rw [isUploading] at current
        exact ⟨by rw [current.2.1], current.2.1, current.2.2⟩
      · cases stepped
    · cases stepped
  · -- scriptRan
    next stats moves =>
    split at stepped
    · cases stepped
    · next command isSent =>
      cases stepped
      have works : stats = true := undisturbed
      subst works
      rw [isSent] at current
      dsimp only
      split
      · next staging isPublishing =>
        rw [isPublishing] at current
        cases current.1
        exact MutationCall.run_current goesBy isFile same current.2.2 moves
      · next other =>
        -- Only a call that waits for the script goes by it.
        cases phase : state.phase with
        | publishing staging status =>
            cases status with
            | none => exact absurd phase (other staging)
            | some status =>
                rw [phase] at current
                exact current
        | starting => rw [phase] at current; cases current
        | connecting => rw [phase] at current; cases current
        | statting => rw [phase] at current; cases current
        | acquiring attrs => rw [phase] at current; cases current.1
        | reading attrs probe bytes => rw [phase] at current; cases current.1
        | uploading staging progress => rw [phase] at current; cases current.1
        | confirming staging => trivial
        | discarding error => rw [phase] at current; exact current
        | settled result =>
            rw [phase] at current
            cases result with
            | error error => exact current
            | ok outcome => trivial
  · -- unlinked
    split at stepped
    · next error isDiscarding =>
      cases stepped
      rw [isDiscarding] at current
      exact current
    · cases stepped
  · rcases Option.map_eq_some_iff.mp stepped with ⟨phase, answered, rfl⟩
    exact current_answered goesBy isFile current undisturbed answered

theorem current_run (goesBy : call.GoesBy digest entry) (isFile : entry.type = .file)
    (same : versionElementsOf entry.attrs = entry.elements) {files : RemoteFiles}
    {events : List MutationEvent}
    (reached : run (step digest call) (start files) events = some state)
    (undisturbed : AllSteps (step digest call) (Undisturbed call entry) (start files) events) :
    call.Current entry state.files state.script state.phase := by
  have initially : call.Current entry (start files).files (start files).script
      (start files).phase := rfl
  refine run_invariant
    (fun state : Mutation => call.Current entry state.files state.script state.phase) ?_
    initially undisturbed reached
  intro state event next current undisturbed stepped
  exact current_step goesBy isFile same current undisturbed stepped

end Mutation

open Mutation in
/-- A regular file with any mode bits and any time: what a call derives from its attributes is
what the script gets, and a call with the version of the file, or an edit without one, does
not find it stale unless it is changed, exactly when the file has permission bits only and its
time fits in 32 bits. -/
theorem fresh_iff (digest : Text → Text) (contents : List Octet) (mtime : Int)
    (bits : Fin 0o10000) :
    let entry := regularFile contents mtime bits
    (versionElementsOf entry.attrs = entry.elements ∧
        ∀ (call : MutationCall) (files : RemoteFiles) (events : List MutationEvent)
          (state : Mutation), call.GoesBy digest entry →
          run (step digest call) (start files) events = some state →
          AllSteps (step digest call) (Undisturbed call entry) (start files) events →
          ∀ error, state.phase = .settled (.error error) → ¬error.IsStale) ↔
      bits.val < 0o1000 ∧ 0 ≤ mtime ∧ mtime < 2 ^ 32 := by
  constructor
  · exact fun both => (elements_eq_iff contents mtime bits).mp both.1
  · intro plain
    have same := (elements_eq_iff contents mtime bits).mpr plain
    refine ⟨same, fun call files events state goesBy reached undisturbed error isSettled => ?_⟩
    have current := current_run goesBy rfl same reached undisturbed
    rw [isSettled] at current
    exact current

def setuidCall : MutationCall where
  targetKey := Json.asciiText "/work/tool"
  displayPath := Json.asciiText "/work/tool"
  request := .edit ⟨Json.asciiText "1", Json.asciiText "2", false⟩ none
  random := [0, 1, 2, 3, 4, 5]

def setuidFiles : RemoteFiles := fun path =>
  if path = setuidCall.targetKey then some (regularFile [0x31] 7 0o4755) else none

def setuidEvents : List MutationEvent :=
  [.begun true, .acquired, .statted [], .acquired, .chunk [0x31], .readEnded, .opened 8,
    .wrote 1 8, .uploaded, .scriptRan true true, .scriptAnswered [], .unlinked false]

open Mutation in
/-- Nobody changes a file with the set-user-id bit, and an edit finds it changed. -/
theorem setuid_stale :
    versionElementsOf (regularFile [0x31] 7 0o4755).attrs ≠
        (regularFile [0x31] 7 0o4755).elements ∧
      setuidCall.GoesBy id (regularFile [0x31] 7 0o4755) ∧
      ∃ state, run (step id setuidCall) (start setuidFiles) setuidEvents = some state ∧
        AllSteps (step id setuidCall) (Undisturbed setuidCall (regularFile [0x31] 7 0o4755))
          (start setuidFiles) setuidEvents ∧
        state.phase = .settled (.error (.fs
          (setuidCall.error "target changed underneath the write: " .staleVersion))) := by
  refine ⟨by decide, trivial, _, rfl, ?_, rfl⟩
  refine ⟨trivial, trivial, fun _ => rfl, trivial, trivial, trivial, trivial, trivial, trivial,
    rfl, trivial, trivial, trivial⟩

end DshRemote.FsSsh
