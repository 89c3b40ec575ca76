import DshRemote.Foundation.ShellKeeps
import DshRemote.Foundation.ShellPrefix

/-! # Running with a prefix

A command in front with `&&` decides over the first pipeline, and over the whole list if only `&&`
stands between its pipelines. Assignments in front reach the first command. -/

namespace DshRemote.ShellSyntax

section Runs

open Behaviour ShellSyntax.Tree

variable {world : World} {state : State} {log : List Entry} {outcome : Outcome}

end Runs

namespace Tree

/-- Only `&&` stands between its pipelines. -/
def isConjunction : {level : Level} → Tree level → Bool
  | _, .last (.andOr _ links) _ => links.isConjunction
  | _, .link .and _ rest => rest.isConjunction
  | _, .noLink => true
  | _, _ => false

end Tree

section Runs

open Behaviour ShellSyntax.Tree

variable {world : World} {state : State} {log : List Entry} {outcome : Outcome}

end Runs

/-! ## Behind the first command

In a world where commands keep the variables, what stands behind the first command does not see
what is assigned in front of it. -/

namespace Tree

/-- No simple command assigns the variable. -/
def Spares {level : Level} (tree : Tree level) (name : Text) : Prop :=
  tree.EachSimple fun assignments _ => lastWord name assignments = none

end Tree

/-- Commands keep the variables, and may end with any status. -/
def keepingWorld : World where
  value word _ := (Shell.wordValue .outside word).getD []
  quoted := literal_quotedWord
  effect _ _ before next := next.environment = before.environment ∧ next.directory = []
  target _ _ := []
  arrives _ moves _ := moves.2
  bind _ before next := next.environment = before.environment

section Bare

open Behaviour ShellSyntax.Tree

variable {world : World} {state : State} {log : List Entry} {command : Tree .command}
variable {name : Text} {own others : List (Text × Text)} {words otherWords : List Text}
variable {expansions : Tree .expansions}

theorem firstCommand_runs {level : Level} (tree : Tree level)
    (isFirst : tree.firstCommand = some command) (runs : command.runs world state log .stopped) :
    tree.runs world state log .stopped := by
  induction tree with
  | pipe first rest =>
      cases isFirst
      exact ⟨log, [], .stopped, inside_stopped runs, inside_stopped (runs_nil rest state),
        .left_only log⟩
  | lastPipe first =>
      cases isFirst
      exact runs
  | pipeline isNegated pipes pipesRun =>
      cases isNegated with
      | false => exact pipesRun isFirst
      | true => exact ⟨.stopped, pipesRun isFirst, rfl⟩
  | andOr first links firstRuns => exact seq_left _ (firstRuns isFirst)
  | more first separator rest firstRuns =>
      cases separator with
      | sequential => exact seq_left _ (firstRuns isFirst)
      | background =>
          exact ⟨log, [], .stopped, inside_stopped (firstRuns isFirst),
            seq_left _ (succeed_nil state), .left_only log⟩
  | last final separator finalRuns =>
      cases separator with
      | sequential => exact finalRuns isFirst
      | background =>
          exact ⟨log, [], .stopped, inside_stopped (finalRuns isFirst), succeed_nil state,
            .left_only log⟩
  | _ => cases isFirst

/-- Something is started without what is assigned elsewhere. -/
def Bare (name : Text) (state : State) (behaviour : Behaviour) : Prop :=
  ∃ log entry, behaviour state log .stopped ∧ entry ∈ log ∧
    entry.environment name = state.environment name

namespace Bare

variable {first second : Behaviour}

theorem seq_left (second : Behaviour) (bare : Bare name state first) :
    Bare name state (first.seq second) := by
  rcases bare with ⟨log, entry, runs, member, same⟩
  exact ⟨log, entry, Behaviour.seq_left second runs, member, same⟩

theorem inside (bare : Bare name state first) : Bare name state (inside first) := by
  rcases bare with ⟨log, entry, runs, member, same⟩
  exact ⟨log, entry, inside_stopped runs, member, same⟩

theorem beside_left (nothing : second state [] .stopped) (bare : Bare name state first) :
    Bare name state (beside first second) := by
  rcases bare with ⟨log, entry, runs, member, same⟩
  exact ⟨log, entry, ⟨log, [], .stopped, runs, nothing, .left_only log⟩, member, same⟩

theorem firstCommand {level : Level} (tree : Tree level)
    (isFirst : tree.firstCommand = some command)
    (bare : Bare name state (command.runs keepingWorld)) :
    Bare name state (tree.runs keepingWorld) := by
  rcases bare with ⟨log, entry, runs, member, same⟩
  exact ⟨log, entry, firstCommand_runs tree isFirst runs, member, same⟩

theorem last {final : Tree .andOr} (separator : Separator)
    (bare : Bare name state (final.runs keepingWorld)) :
    Bare name state ((Tree.last final separator).runs keepingWorld) := by
  cases separator with
  | sequential => exact bare
  | background => exact .beside_left (succeed_nil state) bare.inside

theorem more {andOr : Tree .andOr} (separator : Separator) (rest : Tree .list)
    (bare : Bare name state (andOr.runs keepingWorld)) :
    Bare name state ((Tree.more andOr separator rest).runs keepingWorld) := by
  cases separator with
  | sequential => exact .seq_left _ bare
  | background =>
      exact .beside_left (Behaviour.seq_left _ (succeed_nil state)) bare.inside

end Bare

end Bare

end DshRemote.ShellSyntax
