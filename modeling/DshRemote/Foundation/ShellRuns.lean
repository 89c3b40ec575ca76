import DshRemote.Foundation.ShellSyntax
import DshRemote.Foundation.Shell

/-! # What a shell runs

A behaviour says which commands may have been started from a state, in which order, and how that
may have ended. A run may be cut short anywhere. What the commands themselves do is the world's:
each may end with any status it lets it end with. A loop is not left by `break`. -/

namespace DshRemote.ShellSyntax

open Json (ascii asciiText)

/-! ## States and logs -/

structure State where
  directory : Text
  /-- The variables that a command gets. -/
  environment : Text → Option Text
  /-- `$?` -/
  status : Nat := 0

namespace State

/-- `cd` takes an operand for the path that it is. One that begins with a hyphen it takes for
something else, and a relative one it looks up along `CDPATH` first. -/
def Direct (state : State) (path : Text) : Prop :=
  path.head? ≠ some (ascii '-') ∧
    (path.takeWhile (· ≠ ascii '/') ∈ [[], asciiText ".", asciiText ".."] ∨
      state.environment (asciiText "CDPATH") = none)

end State

/-- The start of a command. -/
structure Entry where
  /-- What it is started with. A compound command has none. -/
  words : Option (List Text)
  directory : Text
  environment : Text → Option Text

inductive Outcome
  | stopped
  | ended (state : State)

namespace Outcome

/-- Of a subshell, only the status comes back. -/
def within (state : State) : Outcome → Outcome
  | .stopped => .stopped
  | .ended inner => .ended { state with status := inner.status }

def negated : Outcome → Outcome
  | .stopped => .stopped
  | .ended state => .ended { state with status := if state.status = 0 then 1 else 0 }

end Outcome

structure World where
  /-- What a word is expanded to. -/
  value : Text → State → Text
  quoted : ∀ text state, value (Shell.quotedWord text) state = text
  /-- How a simple command may end that is started with assignments and words. -/
  effect : List (Text × Text) → List Text → State → State → Prop
  /-- Where a path leads from a directory. -/
  target : Text → Text → Text
  arrives : ∀ {text state next}, state.Direct text →
    effect [] [asciiText "cd", Shell.quotedWord text] state next → next.status = 0 →
    next.directory = target state.directory text
  /-- What it may be to set the variable of a loop. -/
  bind : Text → State → State → Prop

theorem literal_quotedWord (text : Text) (_ : State) :
    (Shell.wordValue .outside (Shell.quotedWord text)).getD [] = text := by
  rw [Shell.wordValue_quotedWord, Option.getD_some]

/-- One log is put together of two. -/
inductive Interleaves : List Entry → List Entry → List Entry → Prop
  | nil : Interleaves [] [] []
  | left (entry : Entry) {first second log : List Entry} (rest : Interleaves first second log) :
      Interleaves (entry :: first) second (entry :: log)
  | right (entry : Entry) {first second log : List Entry} (rest : Interleaves first second log) :
      Interleaves first (entry :: second) (entry :: log)

/-! ## Behaviours -/

abbrev Behaviour := State → List Entry → Outcome → Prop

namespace Behaviour

/-- No command is started. -/
def quiet (change : State → State) : Behaviour := fun state log outcome =>
  log = [] ∧ (outcome = .stopped ∨ outcome = .ended (change state))

def leave (status : Nat) : Behaviour := quiet fun state => { state with status := status }

def succeed : Behaviour := leave 0

/-- One after the other. -/
def seq (first second : Behaviour) : Behaviour := fun state log outcome =>
  outcome = .stopped ∧ first state log .stopped ∨
    ∃ earlier middle later, log = earlier ++ later ∧ first state earlier (.ended middle) ∧
      second middle later outcome

/-- By the state that has been reached. -/
def choose (condition : State → Bool) (first second : Behaviour) : Behaviour := fun state =>
  if condition state then first state else second state

def either (first second : Behaviour) : Behaviour := fun state log outcome =>
  first state log outcome ∨ second state log outcome

/-- In a subshell. -/
def inside (inner : Behaviour) : Behaviour := fun state log outcome =>
  ∃ innerOutcome, inner state log innerOutcome ∧ outcome = innerOutcome.within state

/-- The first in the background of the second. -/
def beside (first second : Behaviour) : Behaviour := fun state log outcome =>
  ∃ left right leftOutcome, first state left leftOutcome ∧ second state right outcome ∧
    Interleaves left right log

def negate (inner : Behaviour) : Behaviour := fun state log outcome =>
  ∃ innerOutcome, inner state log innerOutcome ∧ outcome = innerOutcome.negated

/-- A command is started, and goes on. -/
def start (entry : State → Entry) (rest : Behaviour) : Behaviour := fun state log outcome =>
  log = [] ∧ outcome = .stopped ∨
    ∃ later, log = entry state :: later ∧ rest state later outcome

/-- A change of the state that may be. -/
def change (may : State → State → Prop) : Behaviour := fun state log outcome =>
  log = [] ∧ (outcome = .stopped ∨ ∃ next, may state next ∧ outcome = .ended next)

/-- At most so many rounds, each with the status that the one before has left. -/
def rounds (round : (Nat → Behaviour) → Nat → Behaviour) : Nat → Nat → Behaviour
  | 0, _ => fun _ log outcome => log = [] ∧ outcome = .stopped
  | count + 1, status => round (rounds round count) status

def repeated (round : (Nat → Behaviour) → Nat → Behaviour) : Behaviour :=
  fun state log outcome => ∃ count, rounds round count 0 state log outcome

/-- What follows has the status that has been reached. -/
def resume (again : Nat → Behaviour) : Behaviour := fun state => again state.status state

end Behaviour

/-! ## Trees -/

namespace Connective

def takes : Connective → State → Bool
  | .and, state => state.status = 0
  | .or, state => state.status ≠ 0

end Connective

variable (world : World)

/-- The environment that a simple command gets: its own assignments come on top. -/
def World.assign (environment : Text → Option Text) (state : State) :
    List (Text × Text) → Text → Option Text
  | [] => environment
  | (name, word) :: rest =>
      World.assign (Function.update environment name (some (world.value word state))) state rest

def World.entry (assignments : List (Text × Text)) (words : List Text) (state : State) :
    Entry where
  words := some (words.map fun word => world.value word state)
  directory := state.directory
  environment := world.assign state.environment state assignments

/-- The word that a variable is assigned last. -/
def lastWord (name : Text) : List (Text × Text) → Option Text
  | [] => none
  | (other, word) :: rest => (lastWord name rest).or (if other = name then some word else none)

def compound (state : State) : Entry where
  words := none
  directory := state.directory
  environment := state.environment

open Behaviour

namespace Tree

def runs : {level : Level} → Tree level → Behaviour
  | _, .noExpansion => quiet id
  | _, .expansion body rest => (inside body.runs).seq rest.runs
  | _, .simple assignments words expansions =>
      expansions.runs.seq
        (start (world.entry assignments words) (change (world.effect assignments words)))
  | _, .group body => start compound body.runs
  | _, .subshell body => start compound (inside body.runs)
  | _, .conditional inner => start compound inner.runs
  | _, .loop isUntil condition body =>
      start compound (repeated fun again status =>
        condition.runs.seq
          (choose (fun state => (state.status = 0) ≠ isUntil) (body.runs.seq (resume again))
            (leave status)))
  | _, .forEach name expansions body =>
      start compound (expansions.runs.seq (repeated fun again status =>
        either (leave status)
          ((change (world.bind name)).seq (body.runs.seq (resume again)))))
  | _, .select expansions cases => start compound (expansions.runs.seq cases.runs)
  | _, .clause condition body instead =>
      condition.runs.seq (choose (fun state => state.status = 0) body.runs instead.runs)
  | _, .otherwise body => body.runs
  | _, .noClause => succeed
  | _, .branch expansions body rest => expansions.runs.seq (either body.runs rest.runs)
  | _, .emptyBranch expansions rest => expansions.runs.seq (either succeed rest.runs)
  | _, .noBranch => succeed
  | _, .pipe command rest => beside (inside command.runs) (inside rest.runs)
  | _, .lastPipe command => command.runs
  | _, .pipeline true pipes => negate pipes.runs
  | _, .pipeline false pipes => pipes.runs
  | _, .link connective taken rest =>
      choose connective.takes (taken.runs.seq rest.runs) rest.runs
  | _, .noLink => quiet id
  | _, .andOr first links => first.runs.seq links.runs
  | _, .more first .sequential rest => first.runs.seq rest.runs
  | _, .more first .background rest => beside (inside first.runs) (succeed.seq rest.runs)
  | _, .last final .sequential => final.runs
  | _, .last final .background => beside (inside final.runs) succeed

/-- The commands that may have been started, from a state. -/
def Logs (tree : Tree .list) (state : State) (log : List Entry) : Prop :=
  ∃ outcome, tree.runs world state log outcome

end Tree

/-! ## Runs that are cut short -/

namespace Behaviour

theorem quiet_nil (change : State → State) (state : State) :
    quiet change state [] .stopped := ⟨rfl, Or.inl rfl⟩

theorem succeed_nil (state : State) : succeed state [] .stopped := ⟨rfl, Or.inl rfl⟩

theorem seq_left {first : Behaviour} (second : Behaviour) {state : State} {log : List Entry}
    (runs : first state log .stopped) : first.seq second state log .stopped :=
  Or.inl ⟨rfl, runs⟩

theorem inside_stopped {inner : Behaviour} {state : State} {log : List Entry}
    (runs : inner state log .stopped) : inside inner state log .stopped := ⟨.stopped, runs, rfl⟩

end Behaviour

theorem Interleaves.right_only (log : List Entry) : Interleaves [] log log := by
  induction log with
  | nil => exact .nil
  | cons entry rest induction => exact .right entry induction

theorem Interleaves.left_only (log : List Entry) : Interleaves log [] log := by
  induction log with
  | nil => exact .nil
  | cons entry rest induction => exact .left entry induction

theorem Interleaves.append (first second : List Entry) :
    Interleaves first second (first ++ second) := by
  induction first with
  | nil => exact right_only second
  | cons entry rest induction => exact .left entry induction

namespace Tree

variable {world}

theorem runs_nil {level : Level} (tree : Tree level) (state : State) :
    tree.runs world state [] .stopped := by
  induction tree generalizing state with
  | noExpansion => exact quiet_nil _ _
  | expansion body rest bodyNil restNil => exact seq_left _ (inside_stopped (bodyNil state))
  | simple assignments words expansions expansionsNil => exact seq_left _ (expansionsNil state)
  | group body bodyNil => exact Or.inl ⟨rfl, rfl⟩
  | subshell body bodyNil => exact Or.inl ⟨rfl, rfl⟩
  | conditional inner innerNil => exact Or.inl ⟨rfl, rfl⟩
  | loop isUntil condition body conditionNil bodyNil => exact Or.inl ⟨rfl, rfl⟩
  | forEach name expansions body expansionsNil bodyNil => exact Or.inl ⟨rfl, rfl⟩
  | select expansions cases expansionsNil casesNil => exact Or.inl ⟨rfl, rfl⟩
  | clause condition body instead conditionNil bodyNil insteadNil =>
      exact seq_left _ (conditionNil state)
  | otherwise body bodyNil => exact bodyNil state
  | noClause => exact succeed_nil state
  | branch expansions body rest expansionsNil bodyNil restNil =>
      exact seq_left _ (expansionsNil state)
  | emptyBranch expansions rest expansionsNil restNil => exact seq_left _ (expansionsNil state)
  | noBranch => exact succeed_nil state
  | pipe command rest commandNil restNil =>
      exact ⟨[], [], .stopped, inside_stopped (commandNil state), inside_stopped (restNil state),
        .nil⟩
  | lastPipe command commandNil => exact commandNil state
  | pipeline isNegated pipes pipesNil =>
      cases isNegated with
      | false => exact pipesNil state
      | true => exact ⟨.stopped, pipesNil state, rfl⟩
  | link connective taken rest takenNil restNil =>
      rw [runs, choose]
      split
      · exact seq_left _ (takenNil state)
      · exact restNil state
  | noLink => exact quiet_nil _ _
  | andOr first links firstNil linksNil => exact seq_left _ (firstNil state)
  | more first separator rest firstNil restNil =>
      cases separator with
      | sequential => exact seq_left _ (firstNil state)
      | background =>
          exact ⟨[], [], .stopped, inside_stopped (firstNil state), seq_left _ (succeed_nil state),
            .nil⟩
  | last final separator finalNil =>
      cases separator with
      | sequential => exact finalNil state
      | background =>
          exact ⟨[], [], .stopped, inside_stopped (finalNil state), succeed_nil state, .nil⟩

end Tree

/-- At these levels there is a command to begin with. -/
def Level.starts : Level → Bool
  | .command | .pipes | .pipeline | .andOr | .list => true
  | _ => false

namespace Tree

variable {world}

end Tree

end DshRemote.ShellSyntax
