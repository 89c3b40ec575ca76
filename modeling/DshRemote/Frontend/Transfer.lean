import DshRemote.FsSsh.Mutation

/-! # Downloads

`copyRemoteToLocal` of `RemoteTransfer`, with everything it waits for. What it stages is a file
beside its destination, which no one else touches; the local files change by its own calls
only. -/

namespace DshRemote.Frontend

open FsSsh (FsError FsErrorCode TransportError)
open Json (asciiText)

/-! ## Local files -/

inductive LocalEntry where
  | file (contents : List Octet) (mode : Nat)
  | directory
  /-- A link, a device or the like. -/
  | other
deriving DecidableEq, Repr

abbrev LocalFiles := Text → Option LocalEntry

namespace LocalFiles

/-- `handle.write` of the file that is open under a path, at its end. -/
def append (files : LocalFiles) (path : Text) (bytes : List Octet) : LocalFiles :=
  match files path with
  | some (.file contents mode) =>
      Function.update files path (some (.file (contents ++ bytes) mode))
  | _ => files

/-- `handle.chmod`. -/
def chmod (files : LocalFiles) (path : Text) (mode : Nat) : LocalFiles :=
  match files path with
  | some (.file contents _) => Function.update files path (some (.file contents mode))
  | _ => files

/-- `rename` of a file, which does not replace a directory. -/
def rename (files : LocalFiles) (source destination : Text) : Option LocalFiles :=
  match files source, files destination with
  | none, _ => none
  | _, some .directory => none
  | some entry, _ =>
      some (Function.update (Function.update files source none) destination (some entry))

/-- `rm` with `force`, which does not remove a directory. -/
def remove (files : LocalFiles) (path : Text) : LocalFiles :=
  match files path with
  | some .directory => files
  | _ => Function.update files path none

end LocalFiles

/-! ## Errors -/

/-- What is thrown: an error of the file system seam, of the transport, of Node with its code, or
any other. -/
inductive TransferFailure where
  | fs (error : FsError)
  | transport (error : TransportError)
  | node (code message : Text)
  | other (message : Text)
deriving DecidableEq, Repr

namespace TransferFailure

def message : TransferFailure → Text
  | .fs error => error.message
  | .transport error => error.message
  | .node _ message | .other message => message

/-- Which of the codes of the seam a failure is mapped to. -/
def seamCode : TransferFailure → FsErrorCode
  | .fs error => error.code
  | .transport error =>
      match error.code with
      | .noSuchFile => .notFound
      | .permissionDenied => .permissionDenied
      | .notDirectory => .notDirectory
      | _ => .ioError
  | .node code _ =>
      if code = asciiText "ENOENT" then .notFound
      else if code = asciiText "EACCES" ∨ code = asciiText "EPERM" then .permissionDenied
      else if code = asciiText "ENOTDIR" then .notDirectory
      else .ioError
  | .other _ => .ioError

end TransferFailure

def reasonOf : FsErrorCode → Text
  | .notFound => asciiText ": no such file ("
  | .permissionDenied => asciiText ": permission denied ("
  | .notDirectory => asciiText ": not a directory ("
  | _ => asciiText ": I/O failure ("

def mapTransferError (failure : TransferFailure) (what : Text) : FsError :=
  match failure with
  | .fs error => error
  | failure =>
      ⟨what ++ reasonOf failure.seamCode ++ failure.message ++ asciiText ")", failure.seamCode⟩

def transferAborted : TransferFailure := .fs ⟨asciiText "transfer aborted", .aborted⟩

/-! ## Calls -/

structure CopyRequest where
  targetId : Text
  remotePath : Text
  localPath : Text
  overwrite : Bool := false
  /-- What `randomBytes(6)` gives for the name of the staged file. -/
  random : List Octet
deriving DecidableEq, Repr

namespace CopyRequest

def tmp (self : CopyRequest) : Text :=
  self.localPath ++ asciiText ".dsh-remote-tmp-" ++ FsSsh.MutationCall.hex self.random

def error (what shown : Text) (code : FsErrorCode) : TransferFailure := .fs ⟨what ++ shown, code⟩

end CopyRequest

structure TransferProgress where
  bytes : Nat
  total : Option Nat
deriving DecidableEq, Repr

structure TransferResult where
  bytes : Nat
  sourcePath : Text
  destPath : Text
deriving DecidableEq, Repr

inductive RemoteType where
  | file
  | directory
  | other
deriving DecidableEq, Repr

inductive DownloadPhase where
  | starting
  | resolving
  | statting
  | lookingUp (size : Option Nat)
  | acquiring (size : Option Nat)
  | opening (size : Option Nat)
  | pulling (size : Option Nat)
  /-- `writeFully`; so much of the chunk is in the file. -/
  | writing (size : Option Nat) (chunk : List Octet) (offset : Nat)
  | reporting (size : Option Nat) (chunk : List Octet)
  | changingMode
  /-- The `finally` of the staging, after a failure or without one. -/
  | closing (failure : Option TransferFailure)
  | renaming
  | removing (failure : TransferFailure)
  | settled (result : Except TransferFailure TransferResult)
deriving DecidableEq

structure Download where
  files : LocalFiles
  phase : DownloadPhase := .starting
  aborted : Bool := false
  bytes : Nat := 0
  /-- What the callback and the event have reported. -/
  progress : List TransferProgress := []

inductive DownloadEvent where
  | abort
  /-- The call; whether the target has a remote file system. -/
  | begun (available : Bool)
  | resolved
  | resolveFailed (failure : TransferFailure)
  | statted (info : Option (RemoteType × Option Nat))
  | statFailed (failure : TransferFailure)
  | lookedUp
  | lookUpFailed (failure : TransferFailure)
  | acquired
  /-- The target has no transport by now. -/
  | disconnected
  | acquireFailed (failure : TransferFailure)
  /-- `createReadStream` throws. -/
  | streamRefused (failure : TransferFailure)
  | opened
  | openFailed (failure : TransferFailure)
  | chunk (bytes : List Octet)
  | streamEnded
  | streamFailed (failure : TransferFailure)
  | wrote (bytesWritten : Nat)
  | writeFailed (failure : TransferFailure)
  /-- The chunk is reported; a listener may throw. -/
  | reported (thrown : Option TransferFailure)
  | modeChanged
  | modeFailed (failure : TransferFailure)
  | closed
  | closeFailed (failure : TransferFailure)
  | renamed
  | renameFailed (failure : TransferFailure)
  | removed
  | removeFailed

namespace Download

def rejects (failure : TransferFailure) : DownloadPhase := .settled (.error failure)

variable (request : CopyRequest)

/-- What follows on `fs.stat`. -/
def afterStat : Option (RemoteType × Option Nat) → DownloadPhase
  | none =>
      rejects (CopyRequest.error (asciiText "no such file: ") request.remotePath .notFound)
  | some (.file, size) => .lookingUp size
  | some _ =>
      rejects
        (CopyRequest.error (asciiText "not a regular file: ") request.remotePath .notRegularFile)

/-- `assertLocalDestination`, when `lstat` has answered. -/
def afterLookUp (size : Option Nat) : Option LocalEntry → DownloadPhase
  | none => .acquiring size
  | some .directory =>
      rejects
        (CopyRequest.error (asciiText "not a regular file: ") request.localPath .notRegularFile)
  | some _ =>
      if request.overwrite then .acquiring size
      else rejects (CopyRequest.error
        (asciiText "destination exists (pass overwrite to replace): ") request.localPath
        .notObserved)

/-- `assertLocalDestination`, when `lstat` fails. -/
def lookUpFailed (size : Option Nat) (failure : TransferFailure) : DownloadPhase :=
  match failure with
  | .node code message =>
      if code = asciiText "ENOENT" then .acquiring size
      else rejects (.fs (mapTransferError (.node code message)
        (asciiText "stat " ++ request.localPath)))
  | failure =>
      rejects (.fs (mapTransferError failure (asciiText "stat " ++ request.localPath)))

/-- The body of the loop, up to the first write. -/
def afterChunk (aborted : Bool) (size : Option Nat) (chunk : List Octet) : DownloadPhase :=
  if aborted then .closing (some transferAborted)
  else if chunk = [] then .reporting size chunk
  else .writing size chunk 0

def afterWrite (size : Option Nat) (chunk : List Octet) (offset bytesWritten : Nat) :
    DownloadPhase :=
  if bytesWritten = 0 then
    .closing (some (.fs ⟨asciiText "local write made no progress", .ioError⟩))
  else if offset + bytesWritten < chunk.length then .writing size chunk (offset + bytesWritten)
  else .reporting size chunk

/-- A step that changes nothing but the phase. -/
def answered (self : Download) (event : DownloadEvent) : Option DownloadPhase :=
  match self.phase, event with
  | .starting, .begun available =>
      some (if self.aborted then rejects transferAborted
        else if available then .resolving
        else rejects (CopyRequest.error (asciiText "no remote filesystem for target: ")
          request.targetId .ioError))
  | .resolving, .resolved => some .statting
  | .resolving, .resolveFailed failure => some (rejects failure)
  | .statting, .statted info => some (afterStat request info)
  | .statting, .statFailed failure => some (rejects failure)
  | .lookingUp size, .lookedUp => some (afterLookUp request size (self.files request.localPath))
  | .lookingUp size, .lookUpFailed failure => some (lookUpFailed request size failure)
  | .acquiring size, .acquired => some (.opening size)
  | .acquiring _, .disconnected =>
      some (rejects (CopyRequest.error (asciiText "no live connection for target: ")
        request.targetId .ioError))
  | .acquiring _, .acquireFailed failure =>
      some (rejects (.fs (mapTransferError failure (asciiText "acquire sftp"))))
  | .acquiring _, .streamRefused failure => some (rejects failure)
  | .opening _, .openFailed failure =>
      some (.removing (.fs (mapTransferError failure (asciiText "stage " ++ request.localPath))))
  | .pulling size, .chunk bytes => some (afterChunk self.aborted size bytes)
  | .pulling _, .streamEnded =>
      some (if self.aborted then .closing (some transferAborted) else .changingMode)
  | .pulling _, .streamFailed failure => some (.closing (some failure))
  | .writing .., .writeFailed failure => some (.closing (some failure))
  | .changingMode, .modeFailed failure => some (.closing (some failure))
  | .closing none, .closed => some .renaming
  | .closing (some failure), .closed => some (.removing failure)
  | .closing _, .closeFailed failure => some (.removing failure)
  | .renaming, .renameFailed failure =>
      some (.removing (.fs (mapTransferError failure
        (asciiText "publish " ++ request.localPath))))
  | .removing failure, .removeFailed =>
      some (rejects (.fs (mapTransferError failure (asciiText "copy " ++ request.remotePath))))
  | _, _ => none

def step (self : Download) (event : DownloadEvent) : Option Download :=
  match self.phase, event with
  | _, .abort => some { self with aborted := true }
  | .opening size, .opened =>
      -- `wx`: an entry that is there already is not opened.
      if self.files request.tmp = none then
        some { self with
          files := Function.update self.files request.tmp (some (.file [] 0o600))
          phase := .pulling size }
      else none
  | .writing size chunk offset, .wrote bytesWritten =>
      if bytesWritten ≤ chunk.length - offset then
        some { self with
          files := self.files.append request.tmp ((chunk.drop offset).take bytesWritten)
          phase := afterWrite size chunk offset bytesWritten }
      else none
  | .reporting size chunk, .reported thrown =>
      some { self with
        bytes := self.bytes + chunk.length
        progress := self.progress ++ [⟨self.bytes + chunk.length, size⟩]
        phase := match thrown with
          | none => .pulling size
          | some failure => .closing (some failure) }
  | .changingMode, .modeChanged =>
      some { self with files := self.files.chmod request.tmp 0o644, phase := .closing none }
  | .renaming, .renamed =>
      (self.files.rename request.tmp request.localPath).map fun files =>
        { self with
          files := files
          phase := .settled (.ok
            { bytes := self.bytes, sourcePath := request.remotePath
              destPath := request.localPath }) }
  | .removing failure, .removed =>
      some { self with
        files := self.files.remove request.tmp
        phase := rejects (.fs (mapTransferError failure
          (asciiText "copy " ++ request.remotePath))) }
  | _, event => (self.answered request event).map fun phase => { self with phase := phase }

def start (files : LocalFiles) : Download where
  files := files

end Download

end DshRemote.Frontend
