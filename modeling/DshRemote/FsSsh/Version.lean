import DshRemote.Foundation.JsonIntegers
import DshRemote.Foundation.JsonRoundTrip

/-! # Version tokens of remote files

A token is the digest of the size, the modification time and the permission bits of a file,
the bits as `stat -c %a` prints them. The digest itself is a parameter. -/

namespace DshRemote.FsSsh

open Json (asciiText printNat digitUnit)

inductive EntryType
  | file
  | directory
  | symlink
  | other
deriving DecidableEq, Repr

/-- What SFTP says about a file. A size is exact, also one beyond `2 ^ 53`. -/
structure SftpAttrs where
  size : Nat
  mtime : Nat
  mode : Nat
  type : EntryType
deriving DecidableEq, Repr

/-- `toString(8)`, and how `%a` prints permissions. -/
def printOctal (value : Nat) : Text :=
  if value = 0 then asciiText "0" else (Nat.digits 8 value).reverse.map digitUnit

structure VersionElements where
  size : Nat
  mtime : Int
  modeOct : Text
deriving DecidableEq, Repr

def versionElementsOf (attrs : SftpAttrs) : VersionElements where
  size := attrs.size
  mtime := attrs.mtime
  modeOct := printOctal (attrs.mode % 0o1000)

def VersionElements.json (elements : VersionElements) : Json Int :=
  .array [.number elements.size, .number elements.mtime, .string elements.modeOct]

section

variable (digest : Text → Text)

def versionTokenOf (elements : VersionElements) : Text :=
  digest (Json.stringify Json.integers elements.json)

def versionOfAttrs (attrs : SftpAttrs) : Text :=
  versionTokenOf digest (versionElementsOf attrs)

end

/-- Only the digest may confuse two versions. -/
theorem versionTokenOf_injective {digest : Text → Text} (distinct : Function.Injective digest) :
    Function.Injective (versionTokenOf digest) := by
  intro elements others same
  have valid (each : VersionElements) : each.json.Valid := by
    simp [VersionElements.json, Json.Valid, Json.ValidItems]
  have sameJson : elements.json = others.json :=
    Json.stringify_injective Json.integers (valid elements) (valid others) (distinct same)
  simp only [VersionElements.json, Json.array.injEq, List.cons.injEq, Json.number.injEq,
    Json.string.injEq, Nat.cast_inj, and_true] at sameJson
  rcases elements with ⟨size, mtime, modeOct⟩
  rcases others with ⟨otherSize, otherMtime, otherModeOct⟩
  rcases sameJson with ⟨rfl, rfl, rfl⟩
  rfl

end DshRemote.FsSsh
