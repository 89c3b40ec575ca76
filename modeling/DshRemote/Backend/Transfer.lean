import DshRemote.Foundation.Execution
import DshRemote.Foundation.Utf8
import Mathlib.Logic.Function.Basic

/-! # Uploads

`TransferManager` without its downloads. An upload is opened by a call, bound to its
channel, and then run: what comes on the channel goes to a temporary file, which is renamed
over the target in the end. Each operation on the file system is a step of its own, and
takes effect when it does, whatever else happens in between. -/

namespace DshRemote.Backend

/-- The regular files of the remote host. -/
abbrev Files (Path : Type) := Path → Option (List Octet)

structure TransferOpenParams (Path : Type) where
  remotePath : Path
  size : Option Nat := none
  overwrite : Bool := false
deriving DecidableEq, Repr

/-! ## `#runUpload` -/

inductive UploadPhase
  | creating
  | streaming
  | syncing
  /-- The file is closed, after an error or without one. -/
  | closing (failure : Option String)
  | renaming
  | removing (failure : String)
  | published
  | failed (failure : String)
deriving DecidableEq, Repr

structure Upload (Path : Type) where
  params : TransferOpenParams Path
  tmp : Path
  written : Nat := 0
  phase : UploadPhase := .creating
deriving DecidableEq, Repr

/-- What the file system and the channel answer. -/
inductive UploadEvent
  | created
  | createFailed (message : String)
  /-- A chunk of the channel, and how much of it the file took. -/
  | chunk (bytes : List Octet) (bytesWritten : Nat)
  | writeFailed (bytes : List Octet) (message : String)
  /-- The channel has ended cleanly. -/
  | channelEnded
  /-- An error frame has come, or the connection is lost. -/
  | channelFailed (message : String)
  | synced
  | syncFailed (message : String)
  | closed
  | closeFailed (message : String)
  | renamed
  | renameFailed (message : String)
  | removed
  | removeFailed
deriving DecidableEq, Repr

def sizeMismatch (expected received : Nat) : String :=
  "size mismatch: expected " ++ toString expected ++ " bytes, received " ++ toString received

variable {Path : Type} [DecidableEq Path]

namespace Upload

/-- The check of a declared size, by the bytes that were counted. -/
def sizeFailure (self : Upload Path) : Option String :=
  match self.params.size with
  | none => none
  | some size => if size ≠ self.written then some (sizeMismatch size self.written) else none

/-- What follows on the closing of the file. -/
def afterClose (self : Upload Path) (failure : Option String) : UploadPhase :=
  match failure with
  | some message => .removing message
  | none =>
      match self.sizeFailure with
      | some message => .removing message
      | none => .renaming

def step (files : Files Path) (self : Upload Path) (event : UploadEvent) :
    Option (Files Path × Upload Path) :=
  match self.phase, event with
  | .creating, .created =>
      -- `O_EXCL`
      if files self.tmp = none then
        some (Function.update files self.tmp (some []), { self with phase := .streaming })
      else none
  | .creating, .createFailed message => some (files, { self with phase := .removing message })
  | .streaming, .chunk bytes bytesWritten =>
      if bytesWritten ≤ bytes.length then
        some (Function.update files self.tmp
            ((files self.tmp).map fun contents => contents ++ bytes.take bytesWritten),
          { self with written := self.written + bytes.length })
      else none
  | .streaming, .writeFailed _ message =>
      some (files, { self with phase := .closing (some message) })
  | .streaming, .channelEnded => some (files, { self with phase := .syncing })
  | .streaming, .channelFailed message =>
      some (files, { self with phase := .closing (some message) })
  | .syncing, .synced => some (files, { self with phase := .closing none })
  | .syncing, .syncFailed message => some (files, { self with phase := .closing (some message) })
  | .closing failure, .closed => some (files, { self with phase := self.afterClose failure })
  | .closing _, .closeFailed message => some (files, { self with phase := .removing message })
  | .renaming, .renamed =>
      match files self.tmp with
      | none => none
      | some contents =>
          some (Function.update (Function.update files self.tmp none) self.params.remotePath
              (some contents),
            { self with phase := .published })
  | .renaming, .renameFailed message => some (files, { self with phase := .removing message })
  | .removing failure, .removed =>
      some (Function.update files self.tmp none, { self with phase := .failed failure })
  | .removing failure, .removeFailed => some (files, { self with phase := .failed failure })
  | _, _ => none

/-- Neither the file system nor the channel is waited for any more. -/
def isOver (self : Upload Path) : Bool :=
  match self.phase with
  | .published => true
  | .failed _ => true
  | _ => false

end Upload

/-! ## The manager -/

inductive TransferPhase (Path : Type)
  /-- The target was looked at, and its directory is made. -/
  | opening
  | pending (channel : Nat)
  | running (upload : Upload Path)
  /-- The call has failed. -/
  | refused
deriving DecidableEq, Repr

structure Transfer (Path : Type) where
  params : TransferOpenParams Path
  phase : TransferPhase Path
deriving DecidableEq, Repr

structure TransferManager (Path : Type) where
  files : Files Path
  transfers : List (Transfer Path) := []
  nextChannel : Nat := 1000

inductive TransferEvent (Path : Type)
  /-- The call of `open`, up to the answer of `stat`, which may be an error. -/
  | opened (params : TransferOpenParams Path) (statFailed : Bool)
  | directoryMade (index : Nat)
  | directoryFailed (index : Nat)
  /-- A channel is bound to the transfer that waits for it, which makes up a fresh name. -/
  | bound (channel : Nat) (tmp : Path)
  | upload (index : Nat) (event : UploadEvent)
  /-- Another writer creates, replaces or removes a file. -/
  | outside (path : Path) (contents : Option (List Octet))

namespace TransferManager

/-- A name that nobody else uses. -/
def IsFresh (self : TransferManager Path) (tmp : Path) : Prop :=
  self.files tmp = none ∧ ∀ transfer ∈ self.transfers, transfer.params.remotePath ≠ tmp

instance (self : TransferManager Path) (tmp : Path) : Decidable (self.IsFresh tmp) :=
  instDecidableAnd

def setPhase (self : TransferManager Path) (index : Nat) (phase : TransferPhase Path) :
    TransferManager Path :=
  { self with transfers := self.transfers.modify index fun transfer =>
      { transfer with phase := phase } }

def step (self : TransferManager Path) : TransferEvent Path → Option (TransferManager Path)
  | .opened params statFailed =>
      let exists_ := !statFailed && (self.files params.remotePath).isSome
      some { self with
        transfers := self.transfers ++
          [⟨params, if exists_ && !params.overwrite then .refused else .opening⟩] }
  | .directoryMade index =>
      match self.transfers[index]? with
      | some ⟨_, .opening⟩ =>
          some { self.setPhase index (.pending self.nextChannel) with
            nextChannel := self.nextChannel + 1 }
      | _ => none
  | .directoryFailed index =>
      match self.transfers[index]? with
      | some ⟨_, .opening⟩ => some (self.setPhase index .refused)
      | _ => none
  | .bound channel tmp =>
      match self.transfers.findIdx? fun transfer => transfer.phase = .pending channel with
      | none => some self
      | some index =>
          match self.transfers[index]? with
          | none => none
          | some transfer =>
              if self.IsFresh tmp then
                some (self.setPhase index (.running { params := transfer.params, tmp := tmp }))
              else none
  | .upload index event =>
      match self.transfers[index]? with
      | some ⟨_, .running upload⟩ =>
          match upload.step self.files event with
          | none => none
          | some (files, next) => some { self.setPhase index (.running next) with files := files }
      | _ => none
  | .outside path contents =>
      some { self with files := Function.update self.files path contents }

end TransferManager

end DshRemote.Backend
