import DshRemote.RemoteSsh.BuildCommand
import DshRemote.Subprocess.SpawnCommand

/-! # Quoting in the remote commands

Four packages have a quoting function of their own. A shell that finds what it returns in an
unquoted place of a command line reads it as one piece of a word. -/

namespace DshRemote

open Json (asciiText)
open Shell (QuotingRules nested)
open Shell.Posix (rules)

/-- Single-quote a string for POSIX sh. -/
def FsSsh.sq (value : Text) : Text :=
  Shell.quote :: value.flatMap (fun unit =>
    if unit = Shell.quote then [Shell.quote, Shell.backslash, Shell.quote, Shell.quote]
    else [unit]) ++ [Shell.quote]

/-- Single-quote a string for POSIX sh. -/
def Frontend.sq (value : Text) : Text :=
  Shell.quote :: value.flatMap (fun unit =>
    if unit = Shell.quote then [Shell.quote, Shell.backslash, Shell.quote, Shell.quote]
    else [unit]) ++ [Shell.quote]

def quotingFunctions : List (Text → Text) :=
  [Subprocess.sq, FsSsh.sq, RemoteSsh.shQuote, Frontend.sq]

theorem eq_quotedWord {quoting : Text → Text} (isQuoting : quoting ∈ quotingFunctions) :
    quoting = Shell.quotedWord := by
  simp only [quotingFunctions, List.mem_cons, List.not_mem_nil, or_false] at isQuoting
  rcases isQuoting with isSq | isSq | isQuote | isSq
  · exact isSq
  · exact isSq
  · exact isQuote
  · exact isSq

/-- In unquoted places of command lines, one in another, a quoted text is read as one piece of
a single word, which is worth the text. So is the wrapper of a spawn, and its inner script. -/
theorem quoting_readsPiece {Place : Type u} (shell : QuotingRules Place) (start : Place)
    {quoting : Text → Text} (isQuoting : quoting ∈ quotingFunctions) {text : Text}
    (noNul : 0 ∉ text) :
    (∀ before behind, shell.Unquoted (shell.after start before) →
      shell.ReadsPiece start before (quoting text) behind text) ∧
    (∀ lines : List (Text × Text), (∀ line ∈ lines,
        shell.Unquoted (shell.after start line.1) ∧ 0 ∉ line.1 ∧ 0 ∉ line.2) →
      shell.HandsOn start lines.length (nested quoting lines text) text) ∧
    ∀ id runtimeRoot, 0 ∉ id → 0 ∉ runtimeRoot →
      Subprocess.argv (Subprocess.buildSpawnCommand id runtimeRoot) =
          [asciiText "bash", asciiText "-c", Subprocess.spawnWrapperText,
            asciiText "dsh-ssh-spawn", id, runtimeRoot] ∧
        rules.ReadsPiece {} Subprocess.spawnWrapperHead
          (Subprocess.sq Subprocess.spawnInnerText) Subprocess.spawnWrapperTail
          Subprocess.spawnInnerText := by
  rw [eq_quotedWord isQuoting]
  constructor
  · intro before behind unquoted
    exact (QuotingRules.isPiece_quotedWord unquoted noNul).readsPiece behind
  constructor
  · intro lines each
    exact shell.handsOn_nested (fun line member => (each line member).1) noNul
      fun line member => (each line member).2
  · intro id runtimeRoot idNoNul rootNoNul
    have inner := QuotingRules.isPiece_quotedWord Subprocess.spawnWrapperHead_unquoted
      Subprocess.spawnInnerText_noNul
    exact ⟨Subprocess.argv_buildSpawnCommand ⟨idNoNul, rootNoNul⟩, inner.readsPiece _⟩

/-- A text with a quote in it, in an argument and in a command line of another shell. -/
theorem quoting_readsPiece_listed :
    rules.ReadsPiece {} (asciiText "ls \"$dir\"/") (Subprocess.sq (asciiText "it's $(id)"))
        (asciiText " | wc") (asciiText "it's $(id)") ∧
      rules.HandsOn {} 2 (nested Subprocess.sq
        [(asciiText "bash -c ", asciiText " name"), (asciiText "exec ls ", [])]
        (asciiText "it's $(id)")) (asciiText "it's $(id)") := by
  have both := @quoting_readsPiece _ rules {} Subprocess.sq List.mem_cons_self
    (asciiText "it's $(id)") (by decide)
  constructor
  · exact both.1 _ _ (show Shell.Posix.Unquoted _ by decide)
  · apply both.2.1 [(asciiText "bash -c ", asciiText " name"), (asciiText "exec ls ", [])]
    intro line member
    simp only [List.mem_cons, List.not_mem_nil, or_false] at member
    rcases member with isLine | isLine <;> subst isLine
    · exact ⟨show Shell.Posix.Unquoted _ by decide, by decide, by decide⟩
    · exact ⟨show Shell.Posix.Unquoted _ by decide, by decide, by decide⟩

/-- In double quotes the quotes are themselves quoted, and what is between them is expanded. -/
theorem quoting_expanded :
    ¬∀ (text before behind : Text), 0 ∉ text →
      rules.ReadsPiece {} before (Subprocess.sq text) behind text := by
  intro always
  have reads := always (asciiText "$(id)") (asciiText "echo \"") (asciiText "\"") (by decide)
  have inert := reads.piece.inert (.active (Json.ascii '$')) (by decide)
  exact inert

end DshRemote
