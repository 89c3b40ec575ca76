import DshRemote.Core.Framing
import DshRemote.Foundation.Execution
import DshRemote.FsSsh.RemoteFiles
import DshRemote.FsSsh.Text

/-! # Writes and edits of remote files

`performWrite` and `performEdit` as one machine: what the call waits for, and what comes
back. The answers to `stat` and the effects of the staging and of the script are those on
the remote files at that moment. In between, other writers do anything with them; to a
call, the other calls of the same process are such writers. -/

namespace DshRemote.FsSsh

open Json (asciiText printNat printInt)

/-! ## Errors -/

inductive FsErrorCode
  | notFound
  | notDirectory
  | notText
  | notRegularFile
  | permissionDenied
  | ioError
  | staleVersion
  | notObserved
  | ambiguousEdit
  | editNotFound
  | aborted
deriving DecidableEq, Repr

structure FsError where
  message : Text
  code : FsErrorCode
deriving DecidableEq, Repr

def mapFsError (error : TransportError) (what : Text) : FsError :=
  match error.code with
  | .noSuchFile =>
      ⟨what ++ asciiText ": no such file (" ++ error.message ++ asciiText ")", .notFound⟩
  | .permissionDenied =>
      ⟨what ++ asciiText ": permission denied (" ++ error.message ++ asciiText ")",
        .permissionDenied⟩
  | .notDirectory =>
      ⟨what ++ asciiText ": not a directory (" ++ error.message ++ asciiText ")", .notDirectory⟩
  | _ => ⟨what ++ asciiText ": I/O failure (" ++ error.message ++ asciiText ")", .ioError⟩

def abortedError : FsError := ⟨asciiText "operation aborted", .aborted⟩

/-- What a call rejects with. An error of the output of the script is passed on as it is. -/
inductive CallError
  | fs (error : FsError)
  | transport (error : TransportError)
deriving DecidableEq, Repr

/-! ## Calls -/

inductive FsWriteIntent
  | createIfAbsent
  | replaceIfVersion (version : Text)
deriving DecidableEq, Repr

structure FsEditRequest where
  oldString : Text
  newString : Text
  replaceAll : Bool
deriving DecidableEq, Repr

inductive MutationRequest
  | write (content : Text) (guard : Option FsWriteIntent)
  | edit (edit : FsEditRequest) (guard : Option Text)
deriving DecidableEq, Repr

structure MutationCall where
  targetKey : Text
  displayPath : Text
  request : MutationRequest
  /-- What `randomBytes(6)` gives for the name of the staged file. -/
  random : List Octet
deriving DecidableEq, Repr

namespace MutationCall

def hex (octets : List Octet) : Text :=
  octets.flatMap fun octet => [Json.hexDigit (octet.val / 16), Json.hexDigit (octet.val % 16)]

def tempPathFor (self : MutationCall) : Text :=
  join (dirname self.targetKey)
    (basename self.targetKey ++ asciiText ".dsh-remote-tmp-" ++ hex self.random)

def error (self : MutationCall) (what : String) (code : FsErrorCode) : FsError :=
  ⟨asciiText what ++ self.displayPath, code⟩

/-- An operation and the path that is shown, as `mapFsError` takes them. -/
def what (self : MutationCall) (operation : String) : Text :=
  asciiText operation ++ self.displayPath

end MutationCall

structure MutationOutcome where
  /-- Of a write: there was something before. -/
  update : Option Bool
  version : Text
  before : Option Text
  after : Text
deriving DecidableEq, Repr

/-- What is known when the staging begins. -/
structure Staging where
  attrs : Option SftpAttrs
  before : Option Text
  after : Text
  /-- What the staged file is to have. -/
  wire : List Octet
deriving DecidableEq, Repr

section

variable (digest : Text → Text)

namespace MutationCall

/-- The checks of a write against the attributes that were just read. -/
def checkWrite (self : MutationCall) (guard : Option FsWriteIntent)
    (beforeAttrs : Option SftpAttrs) : Except FsError Unit :=
  match guard, beforeAttrs with
  | some .createIfAbsent, some _ => .error (self.error "target already exists: " .notObserved)
  | some (.replaceIfVersion _), none =>
      .error (self.error "target absent, cannot replace: " .staleVersion)
  | some (.replaceIfVersion version), some attrs =>
      if versionOfAttrs digest attrs ≠ version then
        .error (self.error "stale version for: " .staleVersion)
      else .ok ()
  | _, _ => .ok ()

/-- The checks of an edit against the attributes that were just read. -/
def checkEdit (self : MutationCall) (guard : Option Text) (attrs : Option SftpAttrs) :
    Except FsError SftpAttrs :=
  match attrs with
  | none => .error (self.error "no such file: " .notFound)
  | some attrs =>
      if attrs.type ≠ .file then .error (self.error "not a regular file: " .notRegularFile)
      else
        match guard with
        | some version =>
            if versionOfAttrs digest attrs ≠ version then
              .error (self.error "stale version for: " .staleVersion)
            else .ok attrs
        | none => .ok attrs

/-- The new text of an edited file, from the bytes that were read. -/
def editedText (self : MutationCall) (edit : FsEditRequest) (attrs : SftpAttrs)
    (bytes : List Octet) : Except FsError Staging :=
  if (BinaryProbe.push {} bytes).2 then
    .error (self.error "binary content rejected: " .notText)
  else
    let raw := (Utf8.TextDecoder.decode {} bytes false).2
    let before := normalizeLf raw
    let found := countLiteral before edit.oldString
    if found = 0 then .error (self.error "edit target text not found in: " .editNotFound)
    else if 1 < found ∧ !edit.replaceAll then
      .error ⟨asciiText "edit target text matches " ++ printNat found ++
        asciiText " times in: " ++ self.displayPath, .ambiguousEdit⟩
    else
      let text := replaceLiteral before edit.oldString edit.newString edit.replaceAll
      let wire := if hasCrlf raw then toCrlf text else text
      .ok { attrs := some attrs, before := some before, after := text
            wire := Utf8.encode wire }

/-- What a write stages, with the text that was there before if it is known. -/
def writtenText (content : Text) (beforeAttrs : Option SftpAttrs) (before : Option Text) :
    Staging where
  attrs := beforeAttrs
  before := before
  after := normalizeLf content
  wire := Utf8.encode content

def publishMode (self : MutationCall) : PublishMode :=
  match self.request with
  | .write _ none => .force
  | .write _ (some .createIfAbsent) => .create
  | .write _ (some (.replaceIfVersion _)) => .replace
  | .edit _ _ => .replace

/-- The words of the script, a hyphen for each that the mode does not use. -/
def publishCommand (self : MutationCall) (attrs : Option SftpAttrs) : PublishCommand :=
  match self.publishMode, attrs with
  | .replace, some attrs =>
      let elements := versionElementsOf attrs
      { mode := .replace, size := printNat elements.size, mtime := printInt elements.mtime
        bits := elements.modeOct, tmp := self.tempPathFor, file := self.targetKey }
  | mode, _ =>
      { mode := mode, size := asciiText "-", mtime := asciiText "-", bits := asciiText "-"
        tmp := self.tempPathFor, file := self.targetKey }

/-- What an exit status of the script means. -/
def publishError (self : MutationCall) (code : Option Nat) (stderr : Text) : FsError :=
  match code with
  | some 3 => self.error "target already exists: " .notObserved
  | some 4 => self.error "target changed underneath the write: " .staleVersion
  | _ =>
      let status := match code with
        | some status => printNat status
        | none => asciiText "null"
      let trimmed := ((stderr.dropWhile fun unit => Framing.IsTrimmed unit).reverse.dropWhile
        fun unit => Framing.IsTrimmed unit).reverse
      ⟨asciiText "remote publish failed for " ++ self.displayPath ++ asciiText " (exit " ++
        status ++ asciiText "): " ++ trimmed, .ioError⟩

end MutationCall

/-! ## The machine -/

inductive MutationPhase
  | starting
  | connecting
  | statting
  /-- `readAll` asks for the SFTP handle anew. -/
  | acquiring (attrs : SftpAttrs)
  | reading (attrs : SftpAttrs) (probe : BinaryProbe) (bytes : List Octet)
  /-- So many bytes are in the staged file, if it was opened. -/
  | uploading (staging : Staging) (progress : Option Nat)
  /-- `silentUnlink`, and then the error. -/
  | discarding (error : CallError)
  /-- The script was sent; its exit status is known on the remote host when it has run. -/
  | publishing (staging : Staging) (status : Option Nat)
  | confirming (staging : Staging)
  | settled (result : Except CallError MutationOutcome)

structure Mutation where
  files : RemoteFiles
  phase : MutationPhase := .starting
  aborted : Bool := false
  /-- A script that was sent and has not run. -/
  script : Option PublishCommand := none

inductive MutationEvent
  /-- Other writers. -/
  | others (edit : RemoteFiles → RemoteFiles)
  | abort
  | begun (connected : Bool)
  | acquired
  | acquireFailed (error : TransportError)
  | disconnected
  /-- The answer of `stat`, with the message of the server if there is no such file. -/
  | statted (message : Text)
  | statFailed (error : TransportError)
  | chunk (bytes : List Octet)
  | readEnded
  | readFailed (error : TransportError)
  | opened (mtime : Int)
  | wrote (count : Nat) (mtime : Int)
  | uploaded
  | uploadFailed (error : TransportError)
  | scriptRan (stats moves : Bool)
  | scriptAnswered (stderr : Text)
  /-- The channel of the script is closed without an exit status. -/
  | scriptKilled (stderr : Text)
  | execFailed (error : TransportError)
  | outputFailed (error : TransportError)
  | unlinked (refused : Bool)

namespace MutationCall

def fails (error : FsError) : MutationPhase := .settled (.error (.fs error))

def noConnection : FsError := ⟨asciiText "no live SSH connection", .ioError⟩

/-- The first part of a call, before it waits for anything. -/
def begin (self : MutationCall) (aborted connected : Bool) : MutationPhase :=
  if aborted then fails abortedError
  else
    match self.request with
    | .write _ _ => if connected then .connecting else fails noConnection
    | .edit edit _ =>
        if edit.oldString = [] then
          fails ⟨asciiText "oldString must be non-empty", .editNotFound⟩
        else if connected then .connecting
        else fails noConnection

/-- `checkAborted`, and then the staging. -/
def stage (aborted : Bool) (staging : Staging) : MutationPhase :=
  if aborted then fails abortedError else .uploading staging none

variable (digest : Text → Text)

/-- What follows on the first `stat`, if that did not fail. -/
def observe (self : MutationCall) (aborted : Bool) (attrs : Option SftpAttrs) : MutationPhase :=
  match self.request with
  | .write content guard =>
      match self.checkWrite digest guard attrs with
      | .error error => fails error
      | .ok () =>
          match attrs with
          | some attrs =>
              if attrs.type = .file then .reading attrs {} []
              else stage aborted (writtenText content (some attrs) none)
          | none => stage aborted (writtenText content none none)
  | .edit _ guard =>
      match self.checkEdit digest guard attrs with
      | .error error => fails error
      | .ok attrs => .acquiring attrs

/-- A chunk of the file. A binary basis is no basis; an edit looks at the whole file later. -/
def readChunk (self : MutationCall) (aborted : Bool) (attrs : SftpAttrs) (probe : BinaryProbe)
    (bytes chunk : List Octet) : MutationPhase :=
  match self.request with
  | .write content _ =>
      let pushed := probe.push chunk
      if pushed.2 then stage aborted (writtenText content (some attrs) none)
      else .reading attrs pushed.1 (bytes ++ chunk)
  | .edit _ _ =>
      if aborted then fails abortedError else .reading attrs probe (bytes ++ chunk)

def readEnd (self : MutationCall) (aborted : Bool) (attrs : SftpAttrs) (bytes : List Octet) :
    MutationPhase :=
  match self.request with
  | .write content _ =>
      stage aborted (writtenText content (some attrs)
        (some (normalizeLf (Utf8.TextDecoder.decode {} bytes false).2)))
  | .edit edit _ =>
      match self.editedText edit attrs bytes with
      | .error error => fails error
      | .ok staging => stage aborted staging

def readFailure (self : MutationCall) (aborted : Bool) (attrs : SftpAttrs)
    (error : TransportError) : MutationPhase :=
  match self.request with
  | .write content _ => stage aborted (writtenText content (some attrs) none)
  | .edit _ _ => fails (mapFsError error (self.what "read "))

/-- The exit status has come. -/
def answer (self : MutationCall) (staging : Staging) (status : Nat) (stderr : Text) :
    MutationPhase :=
  if status = 0 then .confirming staging
  else .discarding (.fs (self.publishError (some status) stderr))

def outcome (self : MutationCall) (staging : Staging) (attrs : SftpAttrs) : MutationOutcome where
  update := match self.request with
    | .write _ _ => some staging.attrs.isSome
    | .edit _ _ => none
  version := versionOfAttrs digest attrs
  before := staging.before
  after := staging.after

def confirmFailure (self : MutationCall) (error : TransportError) : MutationPhase :=
  match self.request with
  | .write _ _ => fails (mapFsError error (self.what "post-write stat "))
  | .edit _ _ => fails (mapFsError error (self.what "post-edit stat "))

end MutationCall

namespace Mutation

variable (digest : Text → Text) (call : MutationCall)

/-- An answer that changes nothing but what the call waits for. -/
def answered (self : Mutation) : MutationEvent → Option MutationPhase
  | .begun connected =>
      match self.phase with
      | .starting => some (call.begin self.aborted connected)
      | _ => none
  | .acquired =>
      match self.phase with
      | .connecting => some .statting
      | .acquiring attrs => some (.reading attrs {} [])
      | _ => none
  | .acquireFailed error =>
      match self.phase with
      | .connecting => some (MutationCall.fails (mapFsError error (asciiText "acquire sftp")))
      | .acquiring _ => some (MutationCall.fails (mapFsError error (asciiText "acquire sftp")))
      | _ => none
  | .disconnected =>
      match self.phase with
      | .acquiring _ => some (MutationCall.fails MutationCall.noConnection)
      | _ => none
  | .statted message =>
      match self.phase, self.files.stat call.targetKey with
      | .statting, .ok attrs => some (call.observe digest self.aborted (some attrs))
      | .statting, .error .noSuchFile => some (call.observe digest self.aborted none)
      | .statting, .error code =>
          some (MutationCall.fails (mapFsError ⟨message, code⟩ (call.what "stat ")))
      | .confirming staging, .ok attrs =>
          some (.settled (.ok (call.outcome digest staging attrs)))
      | .confirming _, .error code => some (call.confirmFailure ⟨message, code⟩)
      | _, _ => none
  | .statFailed error =>
      match self.phase with
      | .statting =>
          if error.code = .noSuchFile then some (call.observe digest self.aborted none)
          else some (MutationCall.fails (mapFsError error (call.what "stat ")))
      | .confirming _ => some (call.confirmFailure error)
      | _ => none
  | .chunk bytes =>
      match self.phase with
      | .reading attrs probe earlier =>
          some (call.readChunk self.aborted attrs probe earlier bytes)
      | _ => none
  | .readEnded =>
      match self.phase with
      | .reading attrs _ bytes => some (call.readEnd self.aborted attrs bytes)
      | _ => none
  | .readFailed error =>
      match self.phase with
      | .reading attrs _ _ => some (call.readFailure self.aborted attrs error)
      | _ => none
  | .uploadFailed error =>
      match self.phase with
      | .uploading _ _ => some (.discarding (.fs (mapFsError error (call.what "stage "))))
      | _ => none
  | .scriptAnswered stderr =>
      match self.phase with
      | .publishing staging (some status) => some (call.answer staging status stderr)
      | _ => none
  | .scriptKilled stderr =>
      match self.phase with
      | .publishing _ _ => some (.discarding (.fs (call.publishError none stderr)))
      | _ => none
  | .execFailed error =>
      match self.phase with
      | .publishing _ _ => some (.discarding (.fs (mapFsError error (asciiText "exec"))))
      | _ => none
  | .outputFailed error =>
      match self.phase with
      | .publishing _ _ => some (.discarding (.transport error))
      | _ => none
  | _ => none

def step (self : Mutation) : MutationEvent → Option Mutation
  | .others edit => some { self with files := edit self.files }
  | .abort => some { self with aborted := true }
  | .opened mtime =>
      match self.phase, self.files.openStaged call.tempPathFor mtime with
      | .uploading staging none, some files =>
          some { self with files := files, phase := .uploading staging (some 0) }
      | _, _ => none
  | .wrote count mtime =>
      match self.phase with
      | .uploading staging (some progress) =>
          if progress ≤ count ∧ count ≤ staging.wire.length then
            some { self with
              files := self.files.writeStaged call.tempPathFor (staging.wire.take count) mtime
              phase := .uploading staging (some count) }
          else none
      | _ => none
  | .uploaded =>
      -- `end` resolves when everything has been accepted: the stream does not close before.
      match self.phase with
      | .uploading staging (some progress) =>
          if progress = staging.wire.length then
            some { self with
              phase := .publishing staging none
              script := some (call.publishCommand staging.attrs) }
          else none
      | _ => none
  | .scriptRan stats moves =>
      match self.script with
      | none => none
      | some command =>
          let ran := command.run self.files stats moves
          let phase := match self.phase with
            | .publishing staging none => .publishing staging (some ran.2)
            | phase => phase
          some { self with files := ran.1, phase := phase, script := none }
  | .unlinked refused =>
      match self.phase with
      | .discarding error =>
          some { self with
            files := if refused then self.files else self.files.unlink call.tempPathFor
            phase := .settled (.error error) }
      | _ => none
  | event => (self.answered digest call event).map fun phase => { self with phase := phase }

def start (files : RemoteFiles) : Mutation where
  files := files

end Mutation

end

end DshRemote.FsSsh
