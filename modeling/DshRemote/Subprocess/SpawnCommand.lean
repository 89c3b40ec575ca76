import DshRemote.Foundation.PosixQuoting
import DshRemote.Subprocess.TerminalSetup

/-! # The command line of a spawn

The spawn wrapper is a script that is quoted in the command line of an exec channel, and it has
another script quoted in it. -/

namespace DshRemote.Subprocess

open Json (ascii asciiText)
open Shell (words valueOf)

def scriptOf (lines : List String) : Text :=
  lines.flatMap fun line => asciiText line ++ [lineFeedUnit]

/-- `SPAWN_INNER`. -/
def spawnInnerLines : List String :=
  ["# dsh-ssh-spawn-inner v2",
    "set +e",
    "dsh_dir=$1",
    "dsh_outspill=$2",
    "dsh_errspill=$3",
    "dsh_stdin=$4",
    "shift 4",
    "dsh_fail() \x7b",
    "  printf '!DSHSSH FAIL %s\\n' \"$(printf '%s' \"$1\" | base64 | tr -d '\\n')\"",
    "  exit 125",
    "\x7d",
    "mapfile -d '' -t dsh_env < \"$dsh_dir/environment\" || dsh_fail \"cannot read environment\"",
    "rm -f -- \"$dsh_dir/environment\"",
    "# The frame encoders must be FIFO-fed background jobs, NOT >(...) process",
    "# substitutions: bash's \x60wait\x60 (even with set -m, even with no arguments)",
    "# does not wait for process substitutions, so END could overtake buffered",
    "# frame bytes and interleave mid-line. Explicit job pids restore the drain",
    "# guarantee — END is emitted only after every encoder hit FIFO EOF.",
    "mkfifo -m 600 -- \"$dsh_dir/out.fifo\" \"$dsh_dir/err.fifo\" || dsh_fail \"cannot create output fifos\"",
    "dsh_wait_pids=\"\"",
    "if [ \"$dsh_outspill\" != \"-\" ]; then",
    "  mkfifo -m 600 -- \"$dsh_dir/out.spillfifo\" || dsh_fail \"cannot create stdout spill fifo\"",
    "  head -c \"$dsh_outspill\" < \"$dsh_dir/out.spillfifo\" > \"$dsh_dir/stdout.spill\" &",
    "  dsh_wait_pids=\"$dsh_wait_pids $!\"",
    "  # tee survives the capped spill reader exiting early (SIGPIPE on a pipe",
    "  # output is ignored by default: --output-error=warn-nopipe).",
    "  tee \"$dsh_dir/out.spillfifo\" < \"$dsh_dir/out.fifo\" | base64 &",
    "else",
    "  base64 < \"$dsh_dir/out.fifo\" &",
    "fi",
    "dsh_wait_pids=\"$dsh_wait_pids $!\"",
    "if [ \"$dsh_errspill\" != \"-\" ]; then",
    "  mkfifo -m 600 -- \"$dsh_dir/err.spillfifo\" || dsh_fail \"cannot create stderr spill fifo\"",
    "  head -c \"$dsh_errspill\" < \"$dsh_dir/err.spillfifo\" > \"$dsh_dir/stderr.spill\" &",
    "  dsh_wait_pids=\"$dsh_wait_pids $!\"",
    "  tee \"$dsh_dir/err.spillfifo\" < \"$dsh_dir/err.fifo\" | base64 >&2 &",
    "else",
    "  base64 < \"$dsh_dir/err.fifo\" >&2 &",
    "fi",
    "dsh_wait_pids=\"$dsh_wait_pids $!\"",
    "set -m",
    "if [ \"$dsh_stdin\" = \"ignore\" ]; then",
    "  env -i -- \"$\x7bdsh_env[@]\x7d\" \"$@\" > \"$dsh_dir/out.fifo\" 2> \"$dsh_dir/err.fifo\" < /dev/null &",
    "else",
    "  env -i -- \"$\x7bdsh_env[@]\x7d\" \"$@\" > \"$dsh_dir/out.fifo\" 2> \"$dsh_dir/err.fifo\" &",
    "fi",
    "dsh_child=$!",
    "printf '%s\\n' \"$dsh_child\" > \"$dsh_dir/pgid\" || dsh_fail \"cannot publish pgid\"",
    "printf '!DSHSSH START %s\\n' \"$dsh_child\"",
    "wait \"$dsh_child\"",
    "dsh_status=$?",
    "dsh_status_text=\"\"",
    "if [ \"$dsh_status\" -gt 128 ] 2>/dev/null; then",
    "  dsh_signame=$(kill -l $((dsh_status - 128)) 2>/dev/null)",
    "  dsh_signame=$\x7bdsh_signame#SIG\x7d",
    "  case \"$dsh_signame\" in",
    "    \"\"|*[!A-Z0-9]*) dsh_status_text=\"exit:$dsh_status\" ;;",
    "    *) dsh_status_text=\"signal:SIG$dsh_signame\" ;;",
    "  esac",
    "else",
    "  dsh_status_text=\"exit:$dsh_status\"",
    "fi",
    "printf '%s\\n' \"$dsh_status_text\" > \"$dsh_dir/status\"",
    "# Drain the frame encoders (FIFO EOF after the child closed its descriptors)",
    "# before publishing END.",
    "wait $dsh_wait_pids",
    "rm -f -- \"$dsh_dir/out.fifo\" \"$dsh_dir/err.fifo\" \"$dsh_dir/out.spillfifo\" \"$dsh_dir/err.spillfifo\"",
    "printf '!DSHSSH END %s\\n' \"$dsh_status_text\"",
    "exit \"$dsh_status\""]

def spawnInnerText : Text := scriptOf spawnInnerLines

/-- `SPAWN_WRAPPER` up to the command the inner script is an argument of. -/
def spawnWrapperLines : List String :=
  ["# dsh-ssh-spawn-wrapper v1",
    "set +e",
    "dsh_fail() \x7b",
    "  printf '!DSHSSH FAIL %s\\n' \"$(printf '%s' \"$1\" | base64 | tr -d '\\n')\"",
    "  exit 125",
    "\x7d",
    "for dsh_tool in bash base64 tr mkdir chmod env rm kill head tee mkfifo; do",
    "  command -v \"$dsh_tool\" >/dev/null 2>&1 || dsh_fail \"missing required tool: $dsh_tool\"",
    "done",
    "dsh_id=$1",
    "dsh_root=$2",
    "dsh_dir=\"$dsh_root/processes/$dsh_id\"",
    "mkdir -p -- \"$dsh_dir\" 2>/dev/null || dsh_fail \"cannot create state directory: $dsh_dir\"",
    "chmod 700 -- \"$dsh_dir\" 2>/dev/null",
    "dsh_readline() \x7b IFS= read -r dsh_h || dsh_fail \"truncated header\"; \x7d",
    "dsh_readline",
    "[ \"$dsh_h\" = \"DSHSSH1\" ] || dsh_fail \"bad header magic\"",
    "dsh_readline; dsh_h_argv=$dsh_h",
    "dsh_readline; dsh_h_env=$dsh_h",
    "dsh_readline; dsh_h_cwd=$dsh_h",
    "dsh_readline; dsh_h_stdin=$dsh_h",
    "dsh_readline; dsh_h_outspill=$dsh_h",
    "dsh_readline; dsh_h_errspill=$dsh_h",
    "dsh_readline",
    "[ \"$dsh_h\" = \"END\" ] || dsh_fail \"bad header terminator\"",
    "case \"$dsh_h_stdin\" in",
    "  ignore|-) ;;",
    "  *) dsh_fail \"bad stdin mode\" ;;",
    "esac",
    "printf '%s' \"$dsh_h_env\" | base64 -d > \"$dsh_dir/environment\" 2>/dev/null || dsh_fail \"bad environment encoding\"",
    "chmod 600 -- \"$dsh_dir/environment\" 2>/dev/null",
    "mapfile -d '' -t dsh_argv < <(printf '%s' \"$dsh_h_argv\" | base64 -d 2>/dev/null)",
    "[ \"$\x7b#dsh_argv[@]\x7d\" -ge 1 ] || dsh_fail \"empty argv\"",
    "dsh_cwd=$(printf '%s' \"$dsh_h_cwd\" | base64 -d 2>/dev/null)",
    "[ -n \"$dsh_cwd\" ] || dsh_fail \"bad cwd encoding\"",
    "cd -- \"$dsh_cwd\" 2>/dev/null || dsh_fail \"cannot chdir: $dsh_cwd\""]

def spawnWrapperHead : Text := scriptOf spawnWrapperLines ++ asciiText "exec bash -c "

def spawnWrapperTail : Text :=
  asciiText
    " dsh-ssh-inner \"$dsh_dir\" \"$dsh_h_outspill\" \"$dsh_h_errspill\" \"$dsh_h_stdin\" \"$\x7bdsh_argv[@]\x7d\"" ++ [lineFeedUnit]

/-- `SPAWN_WRAPPER`. -/
def spawnWrapperText : Text := spawnWrapperHead ++ sq spawnInnerText ++ spawnWrapperTail

/-- Build the exec-channel command line for one spawn. -/
def buildSpawnCommand (id runtimeRoot : Text) : Text :=
  asciiText "bash -c " ++ sq spawnWrapperText ++ asciiText " dsh-ssh-spawn " ++ sq id ++
    asciiText " " ++ sq runtimeRoot

/-! ## How a shell reads them -/

open Shell (Posix.rules)

theorem notMem_scriptOf {lines : List String}
    (noNul : ∀ line ∈ lines, 0 ∉ asciiText line) : 0 ∉ scriptOf lines := by
  intro member
  rcases List.mem_flatMap.mp member with ⟨line, isLine, inLine⟩
  rcases List.mem_append.mp inLine with inText | isFeed
  · exact noNul line isLine inText
  · exact absurd (List.mem_singleton.mp isFeed) (by decide)

/-- Lines in which everything that is opened is closed. -/
theorem after_scriptOf {lines : List String}
    (closed : ∀ line ∈ lines, Posix.rules.after {} (asciiText line ++ [lineFeedUnit]) = {}) :
    Posix.rules.after {} (scriptOf lines) = {} := by
  induction lines with
  | nil => rfl
  | cons line rest induction =>
      rw [List.forall_mem_cons] at closed
      have lineFirst : scriptOf (line :: rest) =
          asciiText line ++ [lineFeedUnit] ++ scriptOf rest := rfl
      rw [lineFirst, Posix.rules.after_append, closed.1, induction closed.2]

theorem noNul_of_letters {line : String} {letters : List Char}
    (same : line = String.ofList letters) (noNul : 0 ∉ letters.map ascii) :
    0 ∉ asciiText line := by
  rw [Json.asciiText_ofList same]
  exact noNul

theorem after_letters {line : String} {letters : List Char} (same : line = String.ofList letters)
    (closed : Posix.rules.after {} (letters.map ascii ++ [lineFeedUnit]) = {}) :
    Posix.rules.after {} (asciiText line ++ [lineFeedUnit]) = {} := by
  rw [Json.asciiText_ofList same]
  exact closed

theorem spawnWrapperHead_unquoted :
    Posix.rules.Unquoted (Posix.rules.after {} spawnWrapperHead) := by
  have closed : ∀ line ∈ spawnWrapperLines,
      Posix.rules.after {} (asciiText line ++ [lineFeedUnit]) = {} := by
    simp only [spawnWrapperLines, List.forall_mem_cons]
    repeat' apply And.intro
    all_goals first | exact after_letters rfl (by decide +kernel) | nofun
  rw [spawnWrapperHead, Posix.rules.after_append, after_scriptOf closed]
  exact ⟨rfl, rfl⟩

theorem spawnInnerText_noNul : 0 ∉ spawnInnerText := by
  apply notMem_scriptOf
  simp only [spawnInnerLines, List.forall_mem_cons]
  repeat' apply And.intro
  all_goals first | exact noNul_of_letters rfl (by decide +kernel) | nofun

theorem spawnWrapperText_noNul : 0 ∉ spawnWrapperText := by
  have head : 0 ∉ scriptOf spawnWrapperLines := by
    apply notMem_scriptOf
    simp only [spawnWrapperLines, List.forall_mem_cons]
    repeat' apply And.intro
    all_goals first | exact noNul_of_letters rfl (by decide +kernel) | nofun
  have tail : 0 ∉ spawnWrapperTail := by decide +kernel
  have inner := Shell.notMem_quotedWord spawnInnerText_noNul
  simp only [spawnWrapperText, spawnWrapperHead, List.mem_append, not_or]
  exact ⟨⟨⟨head, by decide⟩, inner⟩, tail⟩

/-- The words of a line that is a single command. -/
def argv (line : Text) : List Text := (words (Posix.rules.marks {} line)).map valueOf

/-- `bash` gets the wrapper as it was written, and the two arguments as they are. -/
theorem argv_buildSpawnCommand {id runtimeRoot : Text} (noNul : 0 ∉ id ∧ 0 ∉ runtimeRoot) :
    argv (buildSpawnCommand id runtimeRoot) =
      [asciiText "bash", asciiText "-c", spawnWrapperText, asciiText "dsh-ssh-spawn", id,
        runtimeRoot] := by
  have quotes : ∀ {text : Text}, 0 ∉ text →
      Posix.rules.after {} (sq text) = { inWord := true } ∧
        Posix.rules.marks {} (sq text) = Shell.quotedMarks text :=
    Shell.QuotingRules.after_quotedWord ⟨rfl, rfl⟩
  have command : Posix.rules.after {} (asciiText "bash -c ") = {} ∧
      Posix.rules.marks {} (asciiText "bash -c ") =
        (asciiText "bash").map .active ++ .delimiter (ascii ' ') ::
          ((asciiText "-c").map .active ++ [.delimiter (ascii ' ')]) := by decide
  have name : Posix.rules.after { inWord := true } (asciiText " dsh-ssh-spawn ") = {} ∧
      Posix.rules.marks { inWord := true } (asciiText " dsh-ssh-spawn ") =
        .delimiter (ascii ' ') :: ((asciiText "dsh-ssh-spawn").map .active ++
          [.delimiter (ascii ' ')]) := by decide
  have blank : Posix.rules.after { inWord := true } (asciiText " ") = {} ∧
      Posix.rules.marks { inWord := true } (asciiText " ") = [.delimiter (ascii ' ')] := by decide
  have all : Posix.rules.marks {} (buildSpawnCommand id runtimeRoot) =
      (asciiText "bash").map .active ++ .delimiter (ascii ' ') ::
        ((asciiText "-c").map .active ++ .delimiter (ascii ' ') ::
          (Shell.quotedMarks spawnWrapperText ++ .delimiter (ascii ' ') ::
            ((asciiText "dsh-ssh-spawn").map .active ++ .delimiter (ascii ' ') ::
              (Shell.quotedMarks id ++ .delimiter (ascii ' ') ::
                Shell.quotedMarks runtimeRoot)))) := by
    simp only [buildSpawnCommand, List.append_assoc, Shell.QuotingRules.marks_append, command, name,
      blank, quotes spawnWrapperText_noNul, quotes noNul.1, quotes noNul.2, List.cons_append,
      List.nil_append]
  rw [argv, all, Shell.words_active (by decide), Shell.words_active (by decide),
    Shell.words_quotedMarks, Shell.words_active (by decide), Shell.words_quotedMarks,
    Shell.words_lastQuoted]
  simp only [List.map_cons, List.map_nil, Shell.valueOf_active, Shell.valueOf_quotedMarks]

end DshRemote.Subprocess
