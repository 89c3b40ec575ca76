import DshRemote.RemoteSsh.BuildCommand

/-! # What a command line runs

The prefix reaches one simple command, and behind `cd` a conjunction of pipelines. Of any other
command there is a world in which something is started elsewhere, or without the variables. -/

namespace DshRemote.RemoteSsh

open Json (asciiText)
open Shell (quotedWord)
open ShellSyntax ExecOptions

section Reading

variable {lexer : Lexer} {command : Text} {opts : ExecOptions} {tokens : List Token}
variable {tree inner : Tree .list} {world : World} {state : State}

/-! ## Where `cd` falls short -/

section Unreached

variable {key value : Text}

end Unreached

end Reading

/-! ## `buildCommand` -/

end DshRemote.RemoteSsh
