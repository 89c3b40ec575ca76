import DshRemote.Foundation.OrderedMap
import DshRemote.Foundation.ShellPrefixRuns
import DshRemote.Foundation.ShellTokens

/-! # The command line of an exec channel

`buildCommand` puts the working directory and the variables in front of the text of a command.
What they reach depends on how the remote shell reads the whole. -/

namespace DshRemote.RemoteSsh

open Json (ascii asciiText)
open Shell (quotedWord)
open ShellSyntax

/-- Quote a value for interpolation into a remote shell command line. -/
def shQuote (value : Text) : Text :=
  Shell.quote :: value.flatMap (fun unit =>
    if unit = Shell.quote then [Shell.quote, Shell.backslash, Shell.quote, Shell.quote]
    else [unit]) ++ [Shell.quote]

/-- What is read here of the options of an exec channel. -/
structure ExecOptions where
  /-- Remote working directory for the command. -/
  cwd : Option Text := none
  /-- Extra environment. -/
  env : Option (OrderedMap Text Text) := none

def assignment (entry : Text × Text) : Text := entry.1 ++ asciiText "=" ++ shQuote entry.2

/-- Assemble the final command line for an exec channel. -/
def buildCommand (command : Text) (opts : ExecOptions) : Text :=
  let line := match opts.env with
    | some env =>
        let assignments := env.entries.map assignment
        if assignments.length ≠ 0 then
          (asciiText " ").intercalate assignments ++ asciiText " " ++ command
        else command
    | none => command
  match opts.cwd with
  | some cwd =>
      -- An empty string is falsy.
      if cwd ≠ [] then asciiText "cd " ++ shQuote cwd ++ asciiText " && " ++ line else line
  | none => line

/-! ## The tokens of the line -/

/-- The words of the change of directory. -/
def changing (cwd : Text) : List Text := [asciiText "cd", quotedWord cwd]

namespace ExecOptions

/-- The directory that is changed to. -/
def directory (opts : ExecOptions) : Option Text := opts.cwd.filter (· ≠ [])

def environment (opts : ExecOptions) : OrderedMap Text Text := opts.env.getD .empty

def assigned (entry : Text × Text) : Text × Text := (entry.1, quotedWord entry.2)

def assignments (opts : ExecOptions) : List (Text × Text) := opts.environment.entries.map assigned

end ExecOptions

open ExecOptions

section Tokens

variable (lexer : Lexer)

end Tokens

/-! ## What is asked of the line -/

/-- The state with other variables on top. -/
def withEnvironment (environment : OrderedMap Text Text) (state : State) : State :=
  { state with environment := fun name => (environment.get name).or (state.environment name) }

section Whole

variable (world : World) (opts : ExecOptions)

/-- The states in which the command begins: the change of directory has succeeded. -/
def Begins (state start : State) : Prop :=
  match opts.directory with
  | some cwd => world.effect [] (changing cwd) state start ∧ start.status = 0
  | none => start = state

def changeLog (state : State) : List Entry :=
  match opts.directory with
  | some cwd => [world.entry [] (changing cwd) state]
  | none => []

/-- The line runs the whole command in the directory, with the variables. -/
structure RunsWhole (state : State) (command line : Tree .list) : Prop where
  /-- Behind the change of directory the commands are started that the command starts where it
  begins, with the variables there. -/
  runs : ∀ log, line.Logs world state log ↔
    log <+: changeLog world opts state ∨
      ∃ start rest, Begins world opts state start ∧ log = changeLog world opts state ++ rest ∧
        command.Logs world (withEnvironment opts.environment start) rest
  arrives : ∀ cwd, opts.directory = some cwd → ∀ start, Begins world opts state start →
    start.directory = world.target state.directory cwd
  /-- Every simple command of it sees every entry. -/
  sees : ∀ log, line.Logs world state log →
    ∀ entry ∈ log.drop (changeLog world opts state).length, entry.words ≠ none →
      ∀ key value, opts.environment.get key = some value → entry.environment key = some value

/-- The remote shell reads the line so that it runs the whole command. -/
def Whole (lexer : Lexer) (command : Text) (state : State) (tree : Tree .list) : Prop :=
  ∃ tokens line, lexer.tokens (buildCommand command opts) = some tokens ∧ Reads tokens line ∧
    RunsWhole world opts state tree line

/-! ### When the prefix reaches the whole command -/

/-- `cd` goes to the path itself, and only `&&` stands between the pipelines of the command. -/
def ReachesDirectory (state : State) (tree : Tree .list) : Prop :=
  ∀ cwd, opts.directory = some cwd → tree.isConjunction = true ∧ state.Direct cwd

/-- The variables change nothing of what a simple command is expanded to, and its own assignments
give none of them another value. -/
structure Takes (start : State) (own : List (Text × Text)) (words : List Text) : Prop where
  words : ∀ word ∈ words,
    world.value word (withEnvironment opts.environment start) = world.value word start
  assigned : ∀ {name word}, lastWord name own = some word →
    world.value word (withEnvironment opts.environment start) = world.value word start
  kept : ∀ {name word value}, lastWord name own = some word →
    opts.environment.get name = some value → world.value word start = value

end Whole

/-! ## The assignments -/

section Carried

variable {world : World} {opts : ExecOptions} {start : State} {own : List (Text × Text)}
variable {words : List Text}

end Carried

/-! ## The change of directory -/

section Line

variable {world : World} {opts : ExecOptions} {state : State} {command inner : Tree .list}

theorem ReachesDirectory.conjunction (reaches : ReachesDirectory opts state inner) :
    opts.directory ≠ none → inner.isConjunction = true := by
  intro isGiven
  rcases Option.ne_none_iff_exists'.mp isGiven with ⟨cwd, directory⟩
  exact (reaches cwd directory).1

end Line

/-! ## The whole line -/

section Reading

variable {lexer : Lexer} {command : Text} {opts : ExecOptions} {tokens : List Token}
variable {tree inner : Tree .list} {world : World} {state : State}

end Reading

end DshRemote.RemoteSsh
