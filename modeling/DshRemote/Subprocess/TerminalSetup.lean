import DshRemote.Subprocess.SpawnHeader

/-! # The terminal setup script and the PTY wrapper

A terminal spec is written into four private files by a script that carries them as quoted
words, and the wrapper on the PTY reads the files back. -/

namespace DshRemote.Subprocess

open Json (asciiText)
open Utf8 (encode)

/-- Single-quote a string for POSIX sh. -/
def sq (value : Text) : Text :=
  Shell.quote :: value.flatMap (fun unit =>
    if unit = Shell.quote then [Shell.quote, Shell.backslash, Shell.quote, Shell.quote]
    else [unit]) ++ [Shell.quote]

structure TerminalSpec where
  argv : List Text
  cwd : Text
  env : List (Text × Option Text) := []
  graceMs : Option Rat
deriving DecidableEq, Repr

/-- The checks of `spawnTerminal`. -/
def validateTerminalSpec (spec : TerminalSpec) : Except String Unit :=
  if spec.argv.length = 0 then .error "subprocess-ssh: terminal argv must be non-empty"
  else if !isGrace spec.graceMs then
    .error "subprocess-ssh: graceMs must be a positive finite number"
  else .ok ()

def termPrefix : Text := asciiText "TERM="

/-- The PTY carries TERM via the pty-req; the process environment is kept in sync. -/
def withTerm (env : List Text) : List Text :=
  match env.find? fun entry => decide (termPrefix <+: entry) with
  | some _ => env
  | none => env ++ [termPrefix ++ asciiText "xterm-256color"]

theorem withTerm_ne_nil (env : List Text) : withTerm env ≠ [] := by
  rw [withTerm]
  split
  · next found =>
      rintro rfl
      cases found
  · simp

structure TerminalFiles where
  argv : List Text
  env : List Text
  cwd : Text
  marker : Text

/-- What `spawnSshTerminal` has written, with a fresh identifier in the marker. -/
def TerminalSpec.files (spec : TerminalSpec) (entries : List Text) (uuid : Text) :
    TerminalFiles where
  argv := spec.argv
  env := withTerm entries
  cwd := spec.cwd
  marker := asciiText "dsh-ssh-bootstrap:" ++ uuid

/-- The words of the setup script that are not fixed: the state directory, and for each file
the argument of its `printf '%s'`. -/
structure SetupScript where
  dir : Text
  argv : Text
  environment : Text
  cwd : Text
  marker : Text

def buildTerminalSetupScript (dir : Text) (files : TerminalFiles) : SetupScript where
  dir := sq dir
  argv := sq (b64 (nulJoined files.argv))
  environment := sq (b64 (nulJoined files.env))
  cwd := sq (b64 files.cwd)
  marker := sq (b64 files.marker)

/-! ## The remote side -/

/-- The private files and the directory they are in. -/
structure StateFiles where
  dir : Text
  argv : List Octet
  environment : List Octet
  cwd : List Octet
  marker : List Octet

/-- `printf '%s' word | base64 -d`. -/
def writeFile (word : Text) : Option (List Octet) := do
  let payload ← Shell.wordValue .outside word
  Shell.base64Decode (encode payload)

def runSetup (script : SetupScript) : Option StateFiles := do
  let dir ← Shell.wordValue .outside script.dir
  let argv ← writeFile script.argv
  let environment ← writeFile script.environment
  let cwd ← writeFile script.cwd
  let marker ← writeFile script.marker
  return { dir, argv, environment, cwd, marker }

/-- The program that replaces the wrapper, and what is printed before. -/
structure TerminalStart where
  printed : List Octet
  run : Shell.EnvRun
  directory : Shell.Directory
deriving DecidableEq, Repr

/-- `TERMINAL_WRAPPER`, on a remote side that has the tools, a tty and the directory. -/
def terminalWrapper (files : StateFiles) : Except String TerminalStart :=
  let argv := Shell.mapfile files.argv
  let env := Shell.mapfile files.environment
  let cwd := Shell.substitute files.cwd
  let marker := Shell.substitute files.marker
  if argv.length < 1 then .error "empty argv setup"
  else .ok {
    printed := marker
    run := Shell.env (env ++ argv)
    directory := Shell.changeDirectory cwd }

/-! ## The files come out as they were put in -/

theorem wordValue_sq (value : Text) : Shell.wordValue .outside (sq value) = some value :=
  Shell.wordValue_quotedWord value

theorem writeFile_sq (text : Text) : writeFile (sq (b64 text)) = some (encode text) := by
  rw [writeFile, wordValue_sq]
  exact base64Decode_b64 text

theorem runSetup_build (dir : Text) (files : TerminalFiles) :
    runSetup (buildTerminalSetupScript dir files) = some {
      dir := dir
      argv := encode (nulJoined files.argv)
      environment := encode (nulJoined files.env)
      cwd := encode files.cwd
      marker := encode files.marker } := by
  simp only [runSetup, buildTerminalSetupScript, wordValue_sq, writeFile_sq, bind, Option.bind,
    pure]

theorem entryText_begins {entry : Text × Text} (isTerm : entry.1 = asciiText "TERM") :
    termPrefix <+: entryText entry := by
  refine ⟨entry.2, ?_⟩
  rw [entryText, isTerm]
  rfl

theorem properEntries_withTerm {loginOutput : Option Text}
    {explicit : List (Text × Option Text)}
    (wellFormed : ∀ entry ∈ explicit, Utf8.WellFormed entry.1) {entries : List Text}
    (accepted : childEnvironment loginOutput explicit = .ok entries) :
    ProperEntries (withTerm entries) := by
  rcases exists_merged wellFormed accepted with ⟨merged, proper, rfl⟩
  rw [withTerm]
  split
  · exact proper.entries
  · next none =>
      have absent : asciiText "TERM" ∉ merged.keys := by
        intro member
        rcases List.mem_map.mp member with ⟨entry, isEntry, isTerm⟩
        have notPrefix := List.find?_eq_none.mp none _ (List.mem_map_of_mem isEntry)
        exact notPrefix (decide_eq_true (entryText_begins isTerm))
      have isTerm : ProperVariable (asciiText "TERM") (asciiText "xterm-256color") :=
        properVariable_probed (by decide +kernel) (by decide +kernel)
      have added := (proper.set isTerm).entries
      rw [OrderedMap.entries_set_of_notMem absent, List.map_append] at added
      exact added

/-! ## What becomes of the spec -/

/-- The setup script is run, and the wrapper reads its files. -/
def startTerminal (dir : Text) (files : TerminalFiles) : Option (Except String TerminalStart) :=
  (runSetup (buildTerminalSetupScript dir files)).map terminalWrapper

theorem startTerminal_files (dir : Text) (files : TerminalFiles) :
    startTerminal dir files = some (
      if (Shell.mapfile (encode (nulJoined files.argv))).length < 1 then .error "empty argv setup"
      else .ok {
        printed := Shell.substitute (encode files.marker)
        run := Shell.env (Shell.mapfile (encode (nulJoined files.env)) ++
          Shell.mapfile (encode (nulJoined files.argv)))
        directory := Shell.changeDirectory (Shell.substitute (encode files.cwd)) }) := by
  rw [startTerminal, runSetup_build]
  rfl

/-- No argument has a NUL in it, the program's name no equals sign, and the directory is
kept. -/
structure TerminalKept (spec : TerminalSpec) : Prop where
  noNul : ∀ arg ∈ spec.argv, nulUnit ∉ arg
  program : ∀ program ∈ spec.argv.head?, equalsUnit ∉ program
  directory : DirectoryKept spec.cwd

/-- An accepted terminal is started as the spec has it exactly when the spec is kept on its
way. Nothing that is not kept is rejected. -/
theorem startTerminal_exact_iff {spec : TerminalSpec} (valid : validateTerminalSpec spec = .ok ())
    (wellFormed : ∀ entry ∈ spec.env, Utf8.WellFormed entry.1) {loginOutput : Option Text}
    {entries : List Text} (merged : childEnvironment loginOutput spec.env = .ok entries)
    (dir uuid : Text) :
    (∃ start, startTerminal dir (spec.files entries uuid) = some (.ok start) ∧
        start.run = .runs (spec.argv.map encode) ((withTerm entries).map encode) ∧
        start.directory = .named (encode spec.cwd)) ↔
      TerminalKept spec := by
  have someArgv : spec.argv ≠ [] := by
    intro none
    rw [validateTerminalSpec, none] at valid
    cases valid
  have run := env_nulJoined_iff (properEntries_withTerm wellFormed merged) someArgv
  have directory := changeDirectory_substitute_iff spec.cwd
  rw [startTerminal_files]
  constructor
  · rintro ⟨start, started, isRun, isDirectory⟩
    have started := Option.some.inj started
    split at started
    · cases started
    · cases started
      rcases run.mp isRun with ⟨noNul, program⟩
      exact ⟨noNul, fun name isName => (program name isName).1, directory.mp isDirectory⟩
  · rintro ⟨noNul, program, kept⟩
    have counted : ¬(Shell.mapfile (encode (nulJoined spec.argv))).length < 1 := by
      rw [mapfile_nulJoined noNul, List.length_map, Nat.lt_one_iff, List.length_eq_zero_iff]
      exact someArgv
    refine ⟨_, congrArg some (if_neg counted), ?_, ?_⟩
    · exact run.mpr ⟨noNul, fun name isName =>
        ⟨program name isName, fun none => absurd none (withTerm_ne_nil entries)⟩⟩
    · exact directory.mpr kept

def shellTerminal : TerminalSpec where
  argv := [asciiText "sh", asciiText "it's"]
  cwd := asciiText "/"
  graceMs := some 5

theorem startTerminal_shell :
    ∃ start, startTerminal (asciiText "/run/d") (shellTerminal.files
          [asciiText "PATH=" ++ defaultPath] (asciiText "0")) = some (.ok start) ∧
      start.run = .runs (shellTerminal.argv.map encode)
        ((withTerm [asciiText "PATH=" ++ defaultPath]).map encode) ∧
      start.directory = .named (encode shellTerminal.cwd) :=
  (startTerminal_exact_iff (by decide +kernel)
    (fun entry member => (List.not_mem_nil member).elim)
    (show childEnvironment none shellTerminal.env = .ok [asciiText "PATH=" ++ defaultPath] by
      decide +kernel) _ _).mpr
    ⟨by decide, by rintro program ⟨⟩; decide, by decide, by decide, by decide, by decide,
      by decide⟩

/-- An argument with a NUL in it: two arguments are run in its place. -/
def splitTerminal : TerminalSpec where
  argv := [asciiText "ls", asciiText "a" ++ nulUnit :: asciiText "b"]
  cwd := asciiText "/"
  graceMs := some 5

theorem startTerminal_split :
    let entries := [asciiText "PATH=" ++ defaultPath]
    let started := startTerminal (asciiText "/run/d") (splitTerminal.files entries (asciiText "0"))
    validateTerminalSpec splitTerminal = .ok () ∧
      childEnvironment none splitTerminal.env = .ok entries ∧
      (∃ start, started = some (.ok start) ∧
        start.run = .runs [encode (asciiText "ls"), encode (asciiText "a"),
          encode (asciiText "b")] ((withTerm entries).map encode)) ∧
      ¬ ∃ start, started = some (.ok start) ∧
        start.run = .runs (splitTerminal.argv.map encode) ((withTerm entries).map encode) := by
  have started : startTerminal (asciiText "/run/d") (splitTerminal.files
      [asciiText "PATH=" ++ defaultPath] (asciiText "0")) = some (.ok {
        printed := encode (asciiText "dsh-ssh-bootstrap:0")
        run := .runs [encode (asciiText "ls"), encode (asciiText "a"), encode (asciiText "b")]
          ((withTerm [asciiText "PATH=" ++ defaultPath]).map encode)
        directory := .named (encode (asciiText "/")) }) := by
    decide +kernel
  refine ⟨by decide +kernel, by decide +kernel, ⟨_, started, rfl⟩, ?_⟩
  rintro ⟨start, isStart, exact⟩
  rw [started] at isStart
  cases isStart
  exact absurd exact (by decide +kernel)

end DshRemote.Subprocess
