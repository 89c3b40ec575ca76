import DshRemote.FsSsh.EditBytes
import DshRemote.FsSsh.MutationSafety

/-! # What an edit leaves behind

A run of an edit that succeeds, in which the reading gives what is in the file and no other
writer touches it: what is staged is made of these octets, and ends up in the target. -/

namespace DshRemote.FsSsh

open Execution

/-! ## Files -/

namespace RemoteFiles

variable {files : RemoteFiles} {path other : Text} {contents : List Octet}

/-- There is a file with these contents. -/
def Holds (files : RemoteFiles) (path : Text) (contents : List Octet) : Prop :=
  ∃ entry, files path = some entry ∧ entry.body = .file contents

theorem Holds.congr {changed : RemoteFiles} (holds : files.Holds path contents)
    (same : changed path = files path) : changed.Holds path contents := by
  rcases holds with ⟨entry, found, isFile⟩
  exact ⟨entry, same.trans found, isFile⟩

theorem openStaged_holds {mtime : Int} {opened : RemoteFiles}
    (isOpened : files.openStaged path mtime = some opened) : opened.Holds path [] := by
  rw [openStaged] at isOpened
  split at isOpened
  · cases isOpened
    exact ⟨_, Function.update_self .., rfl⟩
  · split at isOpened
    · cases isOpened
      exact ⟨_, Function.update_self .., rfl⟩
    · cases isOpened

theorem Holds.writeStaged {earlier : List Octet} (holds : files.Holds path earlier)
    (contents : List Octet) (mtime : Int) :
    (files.writeStaged path contents mtime).Holds path contents := by
  rcases holds with ⟨entry, found, isFile⟩
  rw [RemoteFiles.writeStaged, found]
  dsimp only
  rw [isFile]
  exact ⟨_, Function.update_self .., rfl⟩

theorem Holds.move {replaced : List Octet} {moved : RemoteFiles} (holds : files.Holds path contents)
    (target : files.Holds other replaced) (isMoved : files.move path other = some moved) :
    moved.Holds other contents := by
  rcases holds with ⟨entry, found, isFile⟩
  rcases target with ⟨old, foundOld, isOld⟩
  rw [move_eq found (by rw [Entry.type, isFile]) foundOld (by rw [Entry.type, isOld]) isMoved]
  exact ⟨entry, Function.update_self .., isFile⟩

end RemoteFiles

theorem PublishCommand.replaced {command : PublishCommand} {files : RemoteFiles}
    {stats moves : Bool} {contents old : List Octet} (staged : files.Holds command.tmp contents)
    (target : files.Holds command.file old)
    (success : (command.run files stats moves).2 = 0) :
    (command.run files stats moves).1.Holds command.file contents := by
  rcases PublishCommand.run_success success with ⟨moved, isMoved, isRun⟩
  rw [isRun]
  exact staged.move target isMoved

/-! ## The course of an edit -/

namespace MutationEvent

/-- What an event tells of the contents of the file. -/
def octets : MutationEvent → List Octet
  | .chunk bytes => bytes
  | _ => []

/-- Other writers leave the target and the staged file as they are. -/
def Spares (call : MutationCall) : MutationEvent → Prop
  | .others change => ∀ files : RemoteFiles,
      change files call.targetKey = files call.targetKey ∧
        change files call.tempPathFor = files call.tempPathFor
  | _ => True

end MutationEvent

namespace Mutation

section

variable (call : MutationCall) (edit : FsEditRequest)

/-- What is staged is made of these octets. -/
def Stages (octets : List Octet) (staging : Staging) : Prop :=
  ∃ attrs, call.editedText edit attrs octets = .ok staging

/-- The target is as it was, until the staged file is in its place. -/
def Course (original seen : List Octet) (state : Mutation) : Prop :=
  match state.phase with
  | .starting | .connecting | .statting | .acquiring _ =>
      seen = [] ∧ state.script = none ∧ state.files.Holds call.targetKey original
  | .reading _ _ bytes =>
      bytes = seen ∧ state.script = none ∧ state.files.Holds call.targetKey original
  | .uploading staging progress =>
      Stages call edit seen staging ∧ state.script = none ∧
        state.files.Holds call.targetKey original ∧
        ∀ count, progress = some count →
          state.files.Holds call.tempPathFor (staging.wire.take count)
  | .publishing staging none =>
      Stages call edit seen staging ∧ state.script = some (call.publishCommand staging.attrs) ∧
        state.files.Holds call.targetKey original ∧
        state.files.Holds call.tempPathFor staging.wire
  | .publishing staging (some status) =>
      Stages call edit seen staging ∧ state.script = none ∧
        (status = 0 → state.files.Holds call.targetKey staging.wire)
  | .confirming staging =>
      Stages call edit seen staging ∧ state.script = none ∧
        state.files.Holds call.targetKey staging.wire
  | .settled (.ok _) =>
      ∃ staging, Stages call edit seen staging ∧ state.script = none ∧
        state.files.Holds call.targetKey staging.wire
  | .discarding _ | .settled (.error _) => True

end

variable {digest : Text → Text} {call : MutationCall} {edit : FsEditRequest} {guard : Option Text}
  {original seen : List Octet} {state next : Mutation} {event : MutationEvent}

namespace Course

theorem congr (course : Course call edit original seen state) {changed : RemoteFiles}
    (target : changed call.targetKey = state.files call.targetKey)
    (staged : changed call.tempPathFor = state.files call.tempPathFor) :
    Course call edit original seen { state with files := changed } := by
  rcases state with ⟨files, phase, aborted, script⟩
  cases phase with
  | uploading staging progress =>
      rcases course with ⟨stages, unsent, holds, written⟩
      exact ⟨stages, unsent, holds.congr target, fun count isCount =>
        (written count isCount).congr staged⟩
  | publishing staging status =>
      cases status with
      | none =>
          rcases course with ⟨stages, sent, holds, written⟩
          exact ⟨stages, sent, holds.congr target, written.congr staged⟩
      | some status =>
          rcases course with ⟨stages, unsent, published⟩
          exact ⟨stages, unsent, fun success => (published success).congr target⟩
  | confirming staging => exact ⟨course.1, course.2.1, course.2.2.congr target⟩
  | settled result =>
      cases result with
      | error error => trivial
      | ok outcome =>
          rcases course with ⟨staging, stages, unsent, holds⟩
          exact ⟨staging, stages, unsent, holds.congr target⟩
  | discarding error => trivial
  | _ => exact ⟨course.1, course.2.1, course.2.2.congr target⟩

theorem stage {files : RemoteFiles} {staging : Staging} (stages : Stages call edit seen staging)
    (holds : files.Holds call.targetKey original) (aborted : Bool) :
    Course call edit original seen ⟨files, MutationCall.stage aborted staging, aborted, none⟩ := by
  cases aborted with
  | true => trivial
  | false => exact ⟨stages, rfl, holds, fun count isCount => by cases isCount⟩

theorem quiet (course : Course call edit original seen state) :
    Course call edit original (seen ++ []) state := by
  rwa [List.append_nil]

theorem observe (isEdit : call.request = .edit edit guard) {files : RemoteFiles}
    (holds : files.Holds call.targetKey original) (aborted : Bool) (attrs : Option SftpAttrs) :
    Course call edit original [] ⟨files, call.observe digest aborted attrs, aborted, none⟩ := by
  rw [MutationCall.observe, isEdit]
  dsimp only
  split
  · trivial
  · exact ⟨rfl, rfl, holds⟩

theorem readEnd (isEdit : call.request = .edit edit guard) {files : RemoteFiles}
    (holds : files.Holds call.targetKey original) (aborted : Bool) (attrs : SftpAttrs) :
    Course call edit original seen ⟨files, call.readEnd aborted attrs seen, aborted, none⟩ := by
  rw [MutationCall.readEnd, isEdit]
  dsimp only
  split
  · trivial
  · next staging edited => exact stage ⟨attrs, edited⟩ holds aborted

theorem answered (isEdit : call.request = .edit edit guard)
    (course : Course call edit original seen state) {phase : MutationPhase}
    (answered : state.answered digest call event = some phase) :
    Course call edit original (seen ++ event.octets) { state with phase := phase } := by
  have replies := Mutation.reply answered
  rcases state with ⟨files, current, aborted, script⟩
  cases replies with
  | begun connected =>
      refine quiet ?_
      rw [MutationCall.begin, isEdit]
      dsimp only
      repeat' split
      all_goals first
        | exact course
        | trivial
  | connected => exact quiet course
  | acquired attrs => exact quiet ⟨course.1.symm, course.2⟩
  | failed isLocal notGuard => trivial
  | present | missing | unfound =>
      rcases course with ⟨rfl, rfl, holds⟩
      exact quiet (observe isEdit holds aborted _)
  | confirmed staging attrs => exact quiet ⟨_, course⟩
  | unconfirmed staging error =>
      rw [MutationCall.confirmFailure, isEdit]
      trivial
  | chunk attrs probe earlier bytes =>
      rcases course with ⟨rfl, rfl, holds⟩
      rw [MutationCall.readChunk, isEdit]
      dsimp only
      split
      · trivial
      · exact ⟨rfl, rfl, holds⟩
  | readEnded attrs probe bytes =>
      rcases course with ⟨rfl, rfl, holds⟩
      exact quiet (readEnd isEdit holds aborted _)
  | readFailed attrs probe bytes error =>
      rw [MutationCall.readFailure, isEdit]
      trivial
  | answered staging status stderr =>
      refine quiet ?_
      rw [MutationCall.answer]
      split
      · next success => exact ⟨course.1, course.2.1, course.2.2 success⟩
      · trivial
  | withdrawn notGuard => trivial

theorem published (attrs : Option SftpAttrs) {files : RemoteFiles} {contents : List Octet}
    {stats moves : Bool} (holds : files.Holds call.targetKey original)
    (written : files.Holds call.tempPathFor contents)
    (success : ((call.publishCommand attrs).run files stats moves).2 = 0) :
    ((call.publishCommand attrs).run files stats moves).1.Holds call.targetKey contents := by
  rw [← call.publishCommand_tmp attrs] at written
  rw [← call.publishCommand_file attrs] at holds ⊢
  exact PublishCommand.replaced written holds success

theorem step (isEdit : call.request = .edit edit guard)
    (course : Course call edit original seen state) (spares : event.Spares call)
    (stepped : state.step digest call event = some next) :
    Course call edit original (seen ++ event.octets) next := by
  rcases state with ⟨files, phase, aborted, script⟩
  unfold Mutation.step at stepped
  split at stepped
  · -- others
    cases stepped
    exact quiet (course.congr (spares files).1 (spares files).2)
  · -- abort
    cases stepped
    exact quiet course
  · -- opened
    refine quiet ?_
    split at stepped
    · next staging opened isUploading isOpened =>
        cases stepped
        cases isUploading
        rcases course with ⟨stages, unsent, holds, -⟩
        refine ⟨stages, unsent, holds.congr
          (RemoteFiles.openStaged_other call.tempPathFor_ne.symm isOpened), ?_⟩
        intro count isCount
        cases isCount
        exact RemoteFiles.openStaged_holds isOpened
    · cases stepped
  · -- wrote
    refine quiet ?_
    split at stepped
    · next staging progress isUploading =>
        cases isUploading
        split at stepped
        · next count mtime within =>
            cases stepped
            rcases course with ⟨stages, unsent, holds, written⟩
            refine ⟨stages, unsent, holds.congr
              (RemoteFiles.writeStaged_other call.tempPathFor_ne.symm), ?_⟩
            intro other isCount
            cases isCount
            exact (written progress rfl).writeStaged _ _
        · cases stepped
    · cases stepped
  · -- uploaded
    refine quiet ?_
    split at stepped
    · next staging progress isUploading =>
        cases isUploading
        split at stepped
        · next whole =>
            cases stepped
            rcases course with ⟨stages, unsent, holds, written⟩
            refine ⟨stages, rfl, holds, ?_⟩
            have staged := written progress rfl
            rwa [whole, List.take_length] at staged
        · cases stepped
    · cases stepped
  · -- scriptRan
    refine quiet ?_
    split at stepped
    · cases stepped
    · next command isSent =>
        dsimp only at isSent stepped
        subst isSent
        cases phase with
        | publishing staging status =>
            cases status with
            | some status => cases course.2.1
            | none =>
                rcases course with ⟨stages, sent, holds, written⟩
                cases sent
                cases stepped
                exact ⟨stages, rfl, published staging.attrs holds written⟩
        | discarding error =>
            cases stepped
            trivial
        | settled result =>
            cases result with
            | error error =>
                cases stepped
                trivial
            | ok outcome =>
                rcases course with ⟨staging, stages, unsent, holds⟩
                cases unsent
        | _ => cases course.2.1
  · -- unlinked
    split at stepped
    · next error isDiscarding =>
        cases stepped
        trivial
    · cases stepped
  · rcases Option.map_eq_some_iff.mp stepped with ⟨phase, answered, rfl⟩
    exact course.answered isEdit answered

theorem run (isEdit : call.request = .edit edit guard) {files : RemoteFiles}
    (holds : files.Holds call.targetKey original) {events : List MutationEvent}
    (reached : Execution.run (Mutation.step digest call) (start files) events = some state)
    (spares : ∀ event ∈ events, event.Spares call) :
    Course call edit original (events.flatMap MutationEvent.octets) state := by
  refine history_invariant (fun past state => (∀ event ∈ past, event.Spares call) →
    Course call edit original (past.flatMap MutationEvent.octets) state) ?_ ?_ reached spares
  · exact fun _ => ⟨rfl, rfl, holds⟩
  · intro past state event next before stepped spared
    rw [List.flatMap_append, List.flatMap_singleton]
    have earlier := before fun other member => spared other (List.mem_append_left _ member)
    exact earlier.step isEdit (spared event (List.mem_append_right _ List.mem_cons_self)) stepped

end Course

/-- An edit that succeeds stores the original with the matches replaced by the new text, in the
line endings of the file, and with every other octet as it was, for exactly those files that
come back from their text. -/
theorem editText_preserves_iff {digest : Text → Text} {call : MutationCall}
    {edit : FsEditRequest} {guard : Option Text} (isEdit : call.request = .edit edit guard)
    {files : RemoteFiles} {original : List Octet} (isFile : files.Holds call.targetKey original)
    {events : List MutationEvent} {state : Mutation}
    (reached : run (step digest call) (start files) events = some state)
    (spares : ∀ event ∈ events, event.Spares call)
    (isRead : events.flatMap MutationEvent.octets = original)
    {outcome : MutationOutcome} (succeeded : state.phase = .settled (.ok outcome)) :
    ∃ stored, state.files.Holds call.targetKey stored ∧
      (Preserves edit original stored ↔ Restorable edit original) := by
  have course := Course.run isEdit isFile reached spares
  rw [isRead, Course, succeeded] at course
  rcases course with ⟨staging, ⟨attrs, edited⟩, -, holds⟩
  exact ⟨staging.wire, holds, editedText_preserves_iff edited⟩

def linesCall (edit : FsEditRequest) : MutationCall where
  targetKey := Json.asciiText "/work/lines"
  displayPath := Json.asciiText "/work/lines"
  request := .edit edit none
  random := [0, 1, 2, 3, 4, 5]

def linesFiles (contents : List Octet) : RemoteFiles := fun path =>
  if path = Json.asciiText "/work/lines" then
    some { body := .file contents, mtime := 7, permissions := 0o644 }
  else none

/-- An edit that nothing disturbs, and that stages so many octets. -/
def linesEvents (contents : List Octet) (staged : Nat) : List MutationEvent :=
  [.begun true, .acquired, .statted [], .acquired, .chunk contents, .readEnded, .opened 8,
    .wrote staged 8, .uploaded, .scriptRan true true, .scriptAnswered [], .statted []]

/-- One letter of a file with long line endings. -/
def letterEdit : FsEditRequest := ⟨Json.asciiText "b", Json.asciiText "B\n", false⟩

def longLines : List Octet := [0x61, 0x0D, 0x0A, 0x62, 0x63, 0x0D, 0x0A]

theorem restorable_longLines : Restorable letterEdit longLines := by
  refine ⟨by decide, by decide, [[0x61, 0x0D, 0x0A], [0x63, 0x0D, 0x0A]], [[0x62]],
    ⟨rfl, rfl, ?_, ?_, ?_⟩, ?_⟩
  · decide +kernel
  · decide +kernel
  · decide +kernel
  · have proper : ∀ part ∈ ([[0x61, 0x0D, 0x0A], [0x63, 0x0D, 0x0A]] : List (List Octet)),
        Utf8.encode (Utf8.bufferText part) = part ∧
          toCrlf (normalizeLf (Utf8.bufferText part)) = Utf8.bufferText part := by decide +kernel
    intro part member
    exact ⟨(proper part member).1, fun _ => (toCrlf_normalizeLf_iff _).mp (proper part member).2⟩

theorem linesFiles_holds (contents : List Octet) :
    (linesFiles contents).Holds (Json.asciiText "/work/lines") contents :=
  ⟨_, if_pos rfl, rfl⟩

theorem linesEvents_spares (call : MutationCall) (contents : List Octet) (staged : Nat) :
    ∀ event ∈ linesEvents contents staged, event.Spares call := by
  simp [linesEvents, MutationEvent.Spares]

/-- The line endings of a file that has only long ones. -/
theorem editText_preserves_long_lines : ∃ state stored,
    run (step id (linesCall letterEdit)) (start (linesFiles longLines))
        (linesEvents longLines 9) = some state ∧
      state.files.Holds (Json.asciiText "/work/lines") stored ∧
      Preserves letterEdit longLines stored := by
  rcases @editText_preserves_iff id (linesCall letterEdit) letterEdit none rfl
    (linesFiles longLines) longLines (linesFiles_holds longLines) (linesEvents longLines 9) _ rfl
    (linesEvents_spares _ _ _) rfl _ rfl with ⟨stored, holds, preserves⟩
  exact ⟨_, stored, rfl, holds, preserves.mpr restorable_longLines⟩

def lastLetterEdit : FsEditRequest := ⟨Json.asciiText "c", Json.asciiText "C", false⟩

def mixedLines : List Octet := [0x61, 0x0D, 0x0A, 0x62, 0x0A, 0x63]

/-- A short line ending far from the match becomes a long one. -/
theorem editText_mixed_lines :
    (∃ state, run (step id (linesCall lastLetterEdit)) (start (linesFiles mixedLines))
        (linesEvents mixedLines 7) = some state ∧
      (∃ outcome, state.phase = .settled (.ok outcome)) ∧
      state.files.Holds (Json.asciiText "/work/lines")
        [0x61, 0x0D, 0x0A, 0x62, 0x0D, 0x0A, 0x43]) ∧
      ¬Preserves lastLetterEdit mixedLines [0x61, 0x0D, 0x0A, 0x62, 0x0D, 0x0A, 0x43] := by
  constructor
  · refine ⟨_, rfl, ⟨_, rfl⟩, _, rfl, ?_⟩
    decide +kernel
  · obtain ⟨staging, edited, wire⟩ : ∃ staging,
        (linesCall lastLetterEdit).editedText lastLetterEdit ⟨6, 7, 0o644, .file⟩ mixedLines =
          .ok staging ∧ staging.wire = [0x61, 0x0D, 0x0A, 0x62, 0x0D, 0x0A, 0x43] :=
      ⟨_, rfl, by decide +kernel⟩
    rw [← wire, editedText_preserves_iff edited]
    rintro ⟨-, -, outside, matched, isMatch, proper⟩
    have text : cuts lastLetterEdit (normalizeLf (Utf8.bufferText mixedLines)) =
        [Json.asciiText "a\nb\n", []] := by decide +kernel
    have isOutside := isMatch.outside_eq
    rw [text] at isOutside
    cases outside with
    | nil => cases isOutside
    | cons first rest =>
        -- The first part would have long line endings only, and so one octet more.
        rcases proper first List.mem_cons_self with ⟨isProper, noBare⟩
        have crlf : hasCrlf (Utf8.bufferText mixedLines) = true := by decide +kernel
        have back := (toCrlf_normalizeLf_iff _).mpr (noBare crlf)
        have isFirst : normalizeLf (Utf8.bufferText first) = Json.asciiText "a\nb\n" :=
          (List.cons.inj isOutside).1
        rw [isFirst] at back
        rw [← back] at isProper
        have encoded : Utf8.encode (toCrlf (Json.asciiText "a\nb\n")) =
            [0x61, 0x0D, 0x0A, 0x62, 0x0D, 0x0A] := by decide +kernel
        rw [encoded] at isProper
        obtain ⟨behind, whole⟩ : ∃ behind, mixedLines = first ++ behind := by
          cases matched with
          | nil => exact ⟨_, isMatch.octets_eq⟩
          | cons here more => exact ⟨_, isMatch.octets_eq⟩
        rw [← isProper] at whole
        cases whole

end Mutation

end DshRemote.FsSsh
