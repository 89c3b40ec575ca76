import DshRemote.Foundation.AsciiEncoding
import DshRemote.FsSsh.Version
import Mathlib.Logic.Function.Basic

/-! # Remote files

The entries of the remote host by their paths, what SFTP does to them, and the script that
publishes a staged file. A path is a canonical one, so that an entry has one path only. An
entry has no owner, no group and no access control list, and the times of a directory in which
something is renamed are left to the other writers. -/

namespace DshRemote.FsSsh

open Json (ascii asciiText printNat printInt)

/-! ## Paths -/

def slash : CodeUnit := ascii '/'

/-- What stands before the trailing slashes. -/
def trimSlashes (path : Text) : Text := (path.reverse.dropWhile (· = slash)).reverse

/-- `posix.basename`. -/
def basename (path : Text) : Text :=
  ((trimSlashes path).reverse.takeWhile (· ≠ slash)).reverse

/-- `posix.dirname`. -/
def dirname (path : Text) : Text :=
  match ((trimSlashes path).reverse.dropWhile (· ≠ slash)).tail.reverse with
  | [] => if path.head? = some slash then [slash] else [ascii '.']
  | [unit] => if unit = slash then [slash, slash] else [unit]
  | directory => directory

def join (directory name : Text) : Text :=
  (if directory = [slash] then [] else directory) ++ slash :: name

/-! ## Entries -/

inductive Body
  | file (contents : List Octet)
  | directory (size : Nat)
  /-- A link, with the path it leads to. -/
  | link (destination : Text)
  | other
deriving DecidableEq, Repr

structure Entry where
  body : Body
  mtime : Int
  permissions : Nat
deriving DecidableEq, Repr

namespace Entry

def size (self : Entry) : Nat :=
  match self.body with
  | .file contents => contents.length
  | .directory size => size
  | .link destination => (Utf8.encode destination).length
  | .other => 0

def type (self : Entry) : EntryType :=
  match self.body with
  | .file _ => .file
  | .directory _ => .directory
  | .link _ => .symlink
  | .other => .other

/-- What `stat -c '%s %Y %a'` prints of the entry itself, as numbers and bits. -/
def elements (self : Entry) : VersionElements where
  size := self.size
  mtime := self.mtime
  modeOct := printOctal self.permissions

/-- SFTP carries a time in 32 bits. -/
def attrs (self : Entry) : SftpAttrs where
  size := self.size
  mtime := (self.mtime % 2 ^ 32).toNat
  mode := self.permissions
  type := self.type

end Entry

abbrev RemoteFiles := Text → Option Entry

inductive TransportErrorCode
  | noSuchFile
  | permissionDenied
  | notDirectory
  | ioError
  | connLost
deriving DecidableEq, Repr

structure TransportError where
  message : Text
  code : TransportErrorCode
deriving DecidableEq, Repr

namespace RemoteFiles

/-- How many links are followed. -/
def linkLimit : Nat := 40

/-- The entry that a path leads to, over links, with its own path. -/
def resolve (files : RemoteFiles) : Nat → Text → Except TransportErrorCode (Text × Entry)
  | 0, _ => .error .ioError
  | fuel + 1, path =>
      match files path with
      | none => .error .noSuchFile
      | some entry =>
          match entry.body with
          | .link destination => resolve files fuel destination
          | _ => .ok (path, entry)

/-- `sftp.stat`. -/
def stat (files : RemoteFiles) (path : Text) : Except TransportErrorCode SftpAttrs :=
  (resolve files linkLimit path).map fun found => found.2.attrs

/-- `sftp.unlink`, which does not remove a directory. -/
def unlink (files : RemoteFiles) (path : Text) : RemoteFiles :=
  match files path with
  | none => files
  | some entry =>
      if entry.type = .directory then files else Function.update files path none

/-- Opening a staged file to write it: it is made, or cut to nothing. Its name is random, so
that no link is expected there, and none is followed. -/
def openStaged (files : RemoteFiles) (path : Text) (mtime : Int) : Option RemoteFiles :=
  match files path with
  | none =>
      some (Function.update files path
        (some { body := .file [], mtime := mtime, permissions := 0o600 }))
  | some entry =>
      match entry.body with
      | .file _ =>
          some (Function.update files path (some { entry with body := .file [], mtime := mtime }))
      | _ => none

/-- The file has the contents that were written so far, unless it is gone. The handle is
followed by its path: nobody else puts a file of his own under the random name. -/
def writeStaged (files : RemoteFiles) (path : Text) (contents : List Octet) (mtime : Int) :
    RemoteFiles :=
  match files path with
  | some entry =>
      match entry.body with
      | .file _ =>
          Function.update files path (some { entry with body := .file contents, mtime := mtime })
      | _ => files
  | none => files

/-! ## The script -/

/-- `[ -e path ]`. -/
def isThere (files : RemoteFiles) (path : Text) : Bool :=
  match resolve files linkLimit path with
  | .ok _ => true
  | .error _ => false

/-- `[ -L path ]`. -/
def isLink (files : RemoteFiles) (path : Text) : Bool :=
  match files path with
  | none => false
  | some entry => entry.type = .symlink

/-- `rename`, which fails over a directory, and moves nothing that is not there. -/
def rename (files : RemoteFiles) (source destination : Text) : Option RemoteFiles := do
  let entry ← files source
  match files destination with
  | none => pure ()
  | some replaced =>
      guard (replaced.type ≠ .directory ∧ entry.type ≠ .directory)
  return Function.update (Function.update files source none) destination (some entry)

/-- `mv -f -- source destination`: into a directory, or over anything else. -/
def move (files : RemoteFiles) (source destination : Text) : Option RemoteFiles :=
  match resolve files linkLimit destination with
  | .ok (path, entry) =>
      if entry.type = .directory then rename files source (join path (basename source))
      else rename files source destination
  | .error _ => rename files source destination

end RemoteFiles

inductive PublishMode
  | create
  | replace
  | force
deriving DecidableEq, Repr

/-- The words that `dsh_remote_publish` is called with. -/
structure PublishCommand where
  mode : PublishMode
  size : Text
  mtime : Text
  bits : Text
  tmp : Text
  file : Text
deriving DecidableEq, Repr

namespace PublishCommand

/-- `mv` and its exit status, when the operating system lets it or does not. -/
def publish (self : PublishCommand) (files : RemoteFiles) (moves : Bool) : RemoteFiles × Nat :=
  match if moves then files.move self.tmp self.file else none with
  | some moved => (moved, 0)
  | none => (files, 1)

/-- The script, and its exit status. `stats` is false when `stat` fails. -/
def run (self : PublishCommand) (files : RemoteFiles) (stats moves : Bool) : RemoteFiles × Nat :=
  match self.mode with
  | .create =>
      if files.isThere self.file || files.isLink self.file then (files, 3)
      else self.publish files moves
  | .replace =>
      if !files.isThere self.file && !files.isLink self.file then (files, 4)
      else
        match if stats then files self.file else none with
        | none => (files, 4)
        | some entry =>
            let elements := entry.elements
            if printNat elements.size ≠ self.size ∨ printInt elements.mtime ≠ self.mtime ∨
                elements.modeOct ≠ self.bits then (files, 4)
            else self.publish files moves
  | .force => self.publish files moves

end PublishCommand

end DshRemote.FsSsh
