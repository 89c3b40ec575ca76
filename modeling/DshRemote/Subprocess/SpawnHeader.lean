import DshRemote.Foundation.JsonIntegers
import DshRemote.Subprocess.Environment

/-! # The spawn header and the wrapper that reads it

A spawn spec travels as a header on the standard input of the remote wrapper: base64 lines
that the wrapper's shell decodes, splits and hands to `env -i`. What the shell does with the
bytes is what decides which child is run. -/

namespace DshRemote.Subprocess

open Json (ascii asciiText)
open Utf8 (encode)

/-! ## The local side -/

inductive StdinMode
  | ignore
  | pipe
  | data (bytes : List Octet)
deriving DecidableEq, Repr

structure SpawnSpec where
  argv : List Text
  cwd : Text
  env : List (Text × Option Text) := []
  stdin : StdinMode := .ignore
  /-- The spill caps of the two output modes, where they have one. -/
  stdoutSpill : Option Nat := none
  stderrSpill : Option Nat := none
  /-- `none` is a number that is not finite. -/
  graceMs : Option Rat
deriving DecidableEq, Repr

/-- `Number.isFinite` and positive. -/
def isGrace (graceMs : Option Rat) : Bool := graceMs.any fun grace => 0 < grace

def validateSpawnSpec (spec : SpawnSpec) : Except String Unit :=
  if spec.argv.length = 0 then .error "subprocess-ssh: argv must be non-empty"
  else if spec.argv.any fun arg => decide (nulUnit ∈ arg) then
    .error "subprocess-ssh: argv entries must not contain NUL bytes"
  else if spec.cwd.length = 0 then .error "subprocess-ssh: cwd must be a non-empty string"
  else if !isGrace spec.graceMs then
    .error "subprocess-ssh: graceMs must be a positive finite number"
  else .ok ()

structure HeaderFields where
  argv : List Text
  env : List Text
  cwd : Text
  stdinIgnore : Bool
  stdoutSpillMax : Option Nat
  stderrSpillMax : Option Nat

/-- Header magic (first stdin line). -/
def headerMagic : Text := asciiText "DSHSSH1"

def lineFeedUnit : CodeUnit := 0x0A

def b64 (text : Text) : Text := Base64.encode (encode text)

/-- Every string with a NUL behind it. -/
def nulJoined (strings : List Text) : Text := strings.flatMap fun string => string ++ [nulUnit]

def spillText (cap : Option Nat) : Text :=
  match cap with
  | none => asciiText "-"
  | some bytes => Json.printNat bytes

def headerLines (fields : HeaderFields) : List Text :=
  [headerMagic, b64 (nulJoined fields.argv), b64 (nulJoined fields.env), b64 fields.cwd,
    if fields.stdinIgnore then asciiText "ignore" else asciiText "-",
    spillText fields.stdoutSpillMax, spillText fields.stderrSpillMax, asciiText "END"]

/-- The lines and an empty one, joined by line feeds. -/
def encodeSpawnHeader (fields : HeaderFields) : Text :=
  (headerLines fields).flatMap fun line => line ++ [lineFeedUnit]

/-- What `run` puts into the header. -/
def SpawnSpec.headerFields (spec : SpawnSpec) (entries : List Text) : HeaderFields where
  argv := spec.argv
  env := entries
  cwd := spec.cwd
  stdinIgnore := decide (spec.stdin = .ignore)
  stdoutSpillMax := spec.stdoutSpill
  stderrSpillMax := spec.stderrSpill

/-! ## The wrapper -/

/-- The child as it is started. The tools the wrapper needs, its state directory and the
directory it changes to are taken to be there. -/
structure Child where
  run : Shell.EnvRun
  directory : Shell.Directory
  /-- What is left of the input, or nothing at all. -/
  stdin : Option (List Octet)
deriving DecidableEq, Repr

/-- The header as the wrapper's variables hold it. -/
structure Header where
  argv : List Octet
  env : List Octet
  cwd : List Octet
  stdin : List Octet
  outspill : List Octet
  errspill : List Octet
  rest : List Octet

/-- `dsh_readline`. -/
def readHeaderLine (input : List Octet) : Except String (List Octet × List Octet) :=
  match Shell.read input with
  | none => .error "truncated header"
  | some line => .ok line

def readHeader (input : List Octet) : Except String Header := do
  let (magic, input) ← readHeaderLine input
  if magic ≠ encode headerMagic then throw "bad header magic"
  let (argv, input) ← readHeaderLine input
  let (env, input) ← readHeaderLine input
  let (cwd, input) ← readHeaderLine input
  let (stdin, input) ← readHeaderLine input
  let (outspill, input) ← readHeaderLine input
  let (errspill, input) ← readHeaderLine input
  let (terminator, rest) ← readHeaderLine input
  if terminator ≠ encode (asciiText "END") then throw "bad header terminator"
  if stdin ≠ encode (asciiText "ignore") ∧ stdin ≠ encode (asciiText "-") then
    throw "bad stdin mode"
  return { argv, env, cwd, stdin, outspill, errspill, rest }

/-- `SPAWN_WRAPPER` behind its header, up to the command line of `SPAWN_INNER`. -/
def launch (header : Header) : Except String Child := do
  let environment ← (Shell.base64Decode header.env).elim (.error "bad environment encoding") .ok
  let argv := Shell.mapfile ((Shell.base64Decode header.argv).getD [])
  if argv.length < 1 then throw "empty argv"
  let cwd := Shell.substitute ((Shell.base64Decode header.cwd).getD [])
  if cwd = [] then throw "bad cwd encoding"
  return {
    run := Shell.env (Shell.mapfile environment ++ argv)
    directory := Shell.changeDirectory cwd
    stdin := if header.stdin = encode (asciiText "ignore") then none else some header.rest }

def spawnWrapper (input : List Octet) : Except String Child := do
  let header ← readHeader input
  launch header

/-! ## The header is read back line by line -/

theorem encode_lines (lines : List Text) :
    encode (lines.flatMap fun line => line ++ [lineFeedUnit]) =
      lines.flatMap fun line => encode line ++ [Shell.lineFeed] := by
  induction lines with
  | nil => rfl
  | cons line lines induction =>
      rw [List.flatMap_cons, List.flatMap_cons, List.append_assoc, List.singleton_append,
        Utf8.encode_append_small (by decide), induction, List.append_assoc]
      rfl

theorem encode_nulJoined (strings : List Text) :
    encode (nulJoined strings) =
      (strings.map encode).flatMap fun entry => entry ++ [Shell.nul] := by
  induction strings with
  | nil => rfl
  | cons string strings induction =>
      rw [nulJoined, List.flatMap_cons, List.append_assoc, List.singleton_append,
        Utf8.encode_append_small (by decide), List.map_cons, List.flatMap_cons, ← induction,
        List.append_assoc]
      rfl

theorem mapfile_nulJoined {strings : List Text} (noNul : ∀ string ∈ strings, nulUnit ∉ string) :
    Shell.mapfile (encode (nulJoined strings)) = strings.map encode := by
  rw [encode_nulJoined]
  refine Shell.mapfile_closed (List.forall_mem_map.mpr fun string member => ?_)
  rw [nul_mem_encode]
  exact noNul string member

/-- A line of the header has neither a line feed nor a NUL in it. -/
def IsHeaderLine (line : Text) : Prop := lineFeedUnit ∉ line ∧ nulUnit ∉ line

theorem readHeaderLine_line {line : Text} (isLine : IsHeaderLine line) (rest : List Octet) :
    readHeaderLine (encode line ++ [Shell.lineFeed] ++ rest) = .ok (encode line, rest) := by
  have noFeed : Shell.lineFeed ∉ encode line := fun member =>
    isLine.1 ((@Utf8.mem_encode_small lineFeedUnit (by decide) line).mp member)
  have noNul : Shell.nul ∉ encode line := fun member =>
    isLine.2 ((nul_mem_encode line).mp member)
  rw [readHeaderLine, List.append_assoc, List.singleton_append, Shell.read_line noFeed noNul]

theorem isHeaderLine_of_printable {line : Text}
    (printable : ∀ unit ∈ line, Base64.IsPrintable unit) : IsHeaderLine line :=
  ⟨fun member => absurd (printable _ member).1 (by decide),
    fun member => absurd (printable _ member).1 (by decide)⟩

theorem isHeaderLine_b64 (text : Text) : IsHeaderLine (b64 text) :=
  isHeaderLine_of_printable (Base64.isPrintable_encode (encode text))

theorem isHeaderLine_spillText (cap : Option Nat) : IsHeaderLine (spillText cap) := by
  cases cap with
  | none => exact ⟨by decide, by decide⟩
  | some bytes =>
      refine isHeaderLine_of_printable fun unit member => ?_
      have digit := Json.isDigit_printNat bytes unit member
      exact ⟨Nat.lt_of_lt_of_le (by decide) digit.1, Nat.lt_of_le_of_lt digit.2 (by decide)⟩

theorem readHeader_encode (fields : HeaderFields) (rest : List Octet) :
    readHeader (encode (encodeSpawnHeader fields) ++ rest) = .ok {
      argv := encode (b64 (nulJoined fields.argv))
      env := encode (b64 (nulJoined fields.env))
      cwd := encode (b64 fields.cwd)
      stdin := encode (if fields.stdinIgnore then asciiText "ignore" else asciiText "-")
      outspill := encode (spillText fields.stdoutSpillMax)
      errspill := encode (spillText fields.stderrSpillMax)
      rest := rest } := by
  have stdinLine : IsHeaderLine
      (if fields.stdinIgnore then asciiText "ignore" else asciiText "-") := by
    cases fields.stdinIgnore
    · exact ⟨by decide, by decide⟩
    · exact ⟨by decide, by decide⟩
  have stdinMode : ¬(encode (if fields.stdinIgnore then asciiText "ignore" else asciiText "-") ≠
        encode (asciiText "ignore") ∧
      encode (if fields.stdinIgnore then asciiText "ignore" else asciiText "-") ≠
        encode (asciiText "-")) := by
    cases fields.stdinIgnore
    · exact fun both => both.2 rfl
    · exact fun both => both.1 rfl
  have magicLine : IsHeaderLine headerMagic := ⟨by decide, by decide⟩
  have endLine : IsHeaderLine (asciiText "END") := ⟨by decide, by decide⟩
  have lines : encode (encodeSpawnHeader fields) ++ rest =
      encode headerMagic ++ [Shell.lineFeed] ++
        (encode (b64 (nulJoined fields.argv)) ++ [Shell.lineFeed] ++
        (encode (b64 (nulJoined fields.env)) ++ [Shell.lineFeed] ++
        (encode (b64 fields.cwd) ++ [Shell.lineFeed] ++
        (encode (if fields.stdinIgnore then asciiText "ignore" else asciiText "-") ++
          [Shell.lineFeed] ++
        (encode (spillText fields.stdoutSpillMax) ++ [Shell.lineFeed] ++
        (encode (spillText fields.stderrSpillMax) ++ [Shell.lineFeed] ++
        (encode (asciiText "END") ++ [Shell.lineFeed] ++ rest))))))) := by
    rw [encodeSpawnHeader, encode_lines, headerLines]
    simp only [List.flatMap_cons, List.flatMap_nil, List.append_assoc, List.append_nil]
  rw [lines]
  simp only [readHeader, readHeaderLine_line magicLine, readHeaderLine_line (isHeaderLine_b64 _),
    readHeaderLine_line stdinLine, readHeaderLine_line (isHeaderLine_spillText _),
    readHeaderLine_line endLine, bind, Except.bind, pure, Except.pure, ne_eq, not_true_eq_false,
    if_false]
  rw [if_neg stdinMode]

/-! ## What becomes of the spec -/

/-- The name of the program is not an assignment, nor an option of `env`. -/
def ProgramKept (entries argv : List Text) : Prop :=
  ∀ program ∈ argv.head?, equalsUnit ∉ program ∧ (entries = [] → program ≠ asciiText "-")

/-- A working directory that command substitution and `cd` leave as it is. -/
structure DirectoryKept (cwd : Text) : Prop where
  someName : cwd ≠ []
  noNul : nulUnit ∉ cwd
  noFeedLast : cwd.getLast? ≠ some lineFeedUnit
  notPrevious : cwd ≠ asciiText "-"
  direct : Shell.Direct (encode cwd)

theorem encode_eq_hyphen_iff (text : Text) :
    encode text = [Shell.hyphen] ↔ text = asciiText "-" := by
  have hyphen : encode (asciiText "-") = [Shell.hyphen] := by decide
  rw [← hyphen]
  constructor
  · intro same
    refine Utf8.encode_eq_of_small ?_ same
    intro unit member
    rw [show asciiText "-" = [ascii '-'] from rfl, List.mem_singleton] at member
    rw [member]
    decide
  · rintro rfl
    rfl

theorem program_head_iff (entries argv : List Text) :
    (∀ program ∈ (argv.map encode).head?, Shell.equals ∉ program ∧
        (entries.map encode = [] → program ≠ [Shell.hyphen])) ↔ ProgramKept entries argv := by
  cases argv with
  | nil => simp [ProgramKept]
  | cons program arguments => simp [ProgramKept, equals_mem_encode, encode_eq_hyphen_iff]

/-- The program is run as the spec has it exactly when no argument has a NUL in it and its
name is kept. -/
theorem env_nulJoined_iff {entries argv : List Text} (proper : ProperEntries entries)
    (someArgv : argv ≠ []) :
    Shell.env (Shell.mapfile (encode (nulJoined entries)) ++
        Shell.mapfile (encode (nulJoined argv))) =
      .runs (argv.map encode) (entries.map encode) ↔
      (∀ arg ∈ argv, nulUnit ∉ arg) ∧ ProgramKept entries argv := by
  have read : Shell.mapfile (encode (nulJoined entries)) = entries.map encode := by
    rw [encode_nulJoined]
    exact Shell.mapfile_closed (List.forall_mem_map.mpr proper.noNul)
  have runs := Shell.env_runs_iff proper.distinct (List.forall_mem_map.mpr proper.assignments)
    (show argv.map encode ≠ [] from fun none => someArgv (List.map_eq_nil_iff.mp none))
  rw [program_head_iff] at runs
  rw [read]
  constructor
  · intro exact
    have noNul : ∀ arg ∈ argv, nulUnit ∉ arg := by
      intro arg member
      have inRun := List.mem_map_of_mem (f := encode) member
      rw [Shell.env_argv exact] at inRun
      rw [← nul_mem_encode]
      have isOperand := (Shell.withoutHyphen_suffix _).subset
        ((List.dropWhile_suffix _).subset inRun)
      rcases List.mem_append.mp isOperand with isEntry | isArg
      · rcases List.mem_map.mp isEntry with ⟨entry, isEntry, same⟩
        exact same ▸ proper.noNul entry isEntry
      · exact Shell.mapfile_noNul _ _ isArg
    rw [mapfile_nulJoined noNul] at exact
    exact ⟨noNul, runs.mp exact⟩
  · rintro ⟨noNul, program⟩
    rw [mapfile_nulJoined noNul]
    exact runs.mpr program

theorem substitute_cwd_iff (cwd : Text) :
    Shell.substitute (encode cwd) = encode cwd ↔
      nulUnit ∉ cwd ∧ cwd.getLast? ≠ some lineFeedUnit := by
  rw [Shell.substitute_eq_iff, nul_mem_encode]
  exact and_congr_right fun _ =>
    not_congr (@Utf8.getLast_encode_small lineFeedUnit (by decide) cwd)

theorem changeDirectory_substitute_iff (cwd : Text) :
    Shell.changeDirectory (Shell.substitute (encode cwd)) = .named (encode cwd) ↔
      DirectoryKept cwd := by
  have empty : encode cwd = [] ↔ cwd = [] := by
    constructor
    · intro none
      by_contra someName
      exact Utf8.encode_ne_nil someName none
    · rintro rfl
      rfl
  rw [Shell.changeDirectory_named_iff, substitute_cwd_iff]
  simp only [ne_eq, empty, encode_eq_hyphen_iff]
  constructor
  · rintro ⟨⟨noNul, noFeedLast⟩, someName, notPrevious, direct⟩
    exact ⟨someName, noNul, noFeedLast, notPrevious, direct⟩
  · rintro ⟨someName, noNul, noFeedLast, notPrevious, direct⟩
    exact ⟨⟨noNul, noFeedLast⟩, someName, notPrevious, direct⟩

theorem validateSpawnSpec_ok {spec : SpawnSpec} (valid : validateSpawnSpec spec = .ok ()) :
    spec.argv ≠ [] ∧ ∀ arg ∈ spec.argv, nulUnit ∉ arg := by
  rw [validateSpawnSpec] at valid
  split at valid
  · cases valid
  · next someArgv =>
      split at valid
      · cases valid
      · next noNul =>
          refine ⟨fun none => someArgv (by rw [none]; rfl), fun arg member hasNul => noNul ?_⟩
          exact List.any_eq_true.mpr ⟨arg, member, decide_eq_true hasNul⟩

theorem base64Decode_b64 (text : Text) :
    Shell.base64Decode (encode (b64 text)) = some (encode text) :=
  Shell.base64Decode_encode (encode text)

/-- The child that a header of the spec launches. -/
theorem spawnWrapper_header {spec : SpawnSpec} (valid : validateSpawnSpec spec = .ok ())
    (entries : List Text) (rest : List Octet) :
    spawnWrapper (encode (encodeSpawnHeader (spec.headerFields entries)) ++ rest) =
      if Shell.substitute (encode spec.cwd) = [] then .error "bad cwd encoding"
      else .ok {
        run := Shell.env (Shell.mapfile (encode (nulJoined entries)) ++
          Shell.mapfile (encode (nulJoined spec.argv)))
        directory := Shell.changeDirectory (Shell.substitute (encode spec.cwd))
        stdin := if spec.stdin = .ignore then none else some rest } := by
  rcases validateSpawnSpec_ok valid with ⟨someArgv, noNul⟩
  have read := mapfile_nulJoined noNul
  have counted : ¬(spec.argv.map encode).length < 1 := by
    rw [List.length_map, Nat.lt_one_iff, List.length_eq_zero_iff]
    exact someArgv
  have stdin : (if encode (if decide (spec.stdin = .ignore) then asciiText "ignore"
        else asciiText "-") = encode (asciiText "ignore") then none else some rest) =
      if spec.stdin = .ignore then none else some rest := by
    by_cases ignored : spec.stdin = .ignore
    · rw [if_pos (decide_eq_true ignored), if_pos rfl, if_pos ignored]
    · have notIgnore : decide (spec.stdin = .ignore) = false := decide_eq_false ignored
      rw [notIgnore, if_neg ignored]
      rfl
  simp only [spawnWrapper, readHeader_encode, launch, SpawnSpec.headerFields, base64Decode_b64,
    read, counted, stdin, Option.elim, Option.getD_some, bind, Except.bind, pure, Except.pure,
    if_false]
  split
  · rfl
  · rfl

/-- The child is the one of the spec exactly when the name of its program and its directory are
kept. -/
theorem spawnWrapper_exact_iff {spec : SpawnSpec} (valid : validateSpawnSpec spec = .ok ())
    (wellFormed : ∀ entry ∈ spec.env, Utf8.WellFormed entry.1) {loginOutput : Option Text}
    {entries : List Text} (merged : childEnvironment loginOutput spec.env = .ok entries)
    (rest : List Octet) :
    spawnWrapper (encode (encodeSpawnHeader (spec.headerFields entries)) ++ rest) = .ok {
        run := .runs (spec.argv.map encode) (entries.map encode)
        directory := .named (encode spec.cwd)
        stdin := if spec.stdin = .ignore then none else some rest } ↔
      ProgramKept entries spec.argv ∧ DirectoryKept spec.cwd := by
  rcases validateSpawnSpec_ok valid with ⟨someArgv, noNul⟩
  have run := env_nulJoined_iff (properEntries_childEnvironment wellFormed merged) someArgv
  have directory := changeDirectory_substitute_iff spec.cwd
  rw [spawnWrapper_header valid]
  constructor
  · intro exact
    split at exact
    · cases exact
    · simp only [Except.ok.injEq, Child.mk.injEq, and_true] at exact
      exact ⟨(run.mp exact.1).2, directory.mp exact.2⟩
  · rintro ⟨program, kept⟩
    have same := (substitute_cwd_iff spec.cwd).mpr ⟨kept.noNul, kept.noFeedLast⟩
    have someCwd : Shell.substitute (encode spec.cwd) ≠ [] := by
      rw [same]
      exact Utf8.encode_ne_nil kept.someName
    rw [if_neg someCwd, run.mpr ⟨noNul, program⟩, directory.mpr kept]

def listing : SpawnSpec where
  argv := [asciiText "ls", asciiText ""]
  cwd := asciiText "/tmp"
  env := [(asciiText "A", some (asciiText "1"))]
  graceMs := some 5

def listingEntries : List Text := [asciiText "PATH=" ++ defaultPath, asciiText "A=1"]

theorem spawnWrapper_listing :
    spawnWrapper (encode (encodeSpawnHeader (listing.headerFields listingEntries)) ++ []) =
      .ok {
        run := .runs (listing.argv.map encode) (listingEntries.map encode)
        directory := .named (encode listing.cwd)
        stdin := if listing.stdin = .ignore then none else some [] } :=
  (spawnWrapper_exact_iff (by decide +kernel)
    (fun entry member => by
      rw [List.mem_singleton.mp member]
      rfl)
    (show childEnvironment none listing.env = .ok listingEntries by decide +kernel) []).mpr
    ⟨by rintro program ⟨⟩; exact ⟨by decide, nofun⟩, by decide, by decide, by decide, by decide,
      by decide⟩

/-- A program whose name looks like an assignment, in a directory whose name ends in a line
feed: the next argument is run in its place, in another directory. -/
def disguised : SpawnSpec where
  argv := [asciiText "a=b", asciiText "ls"]
  cwd := asciiText "/tmp" ++ [lineFeedUnit]
  graceMs := some 5

theorem spawnWrapper_disguised :
    let entries := [asciiText "PATH=" ++ defaultPath]
    let child := spawnWrapper (encode (encodeSpawnHeader (disguised.headerFields entries)))
    validateSpawnSpec disguised = .ok () ∧ childEnvironment none disguised.env = .ok entries ∧
      child = .ok {
        run := .runs [encode (asciiText "ls")]
          [encode (asciiText "PATH=" ++ defaultPath), encode (asciiText "a=b")]
        directory := .named (encode (asciiText "/tmp"))
        stdin := none } ∧
      child ≠ .ok {
        run := .runs (disguised.argv.map encode) (entries.map encode)
        directory := .named (encode disguised.cwd)
        stdin := none } := by
  decide +kernel

end DshRemote.Subprocess
