import DshRemote.Foundation.Json

/-! # The grammar of a shell

Lists, and-or lists, pipelines and commands, simple and compound, read from tokens. What is
expanded in a word is text to the grammar, but for the commands that are substituted in it. -/

namespace DshRemote.ShellSyntax

open Json (asciiText)

/-! ## Trees -/

inductive Level
  | expansions
  | command
  | clause
  | branches
  | pipes
  | pipeline
  | links
  | andOr
  | list
deriving DecidableEq, Repr

inductive Connective
  | and
  | or
deriving DecidableEq, Repr

inductive Separator
  | sequential
  | background
deriving DecidableEq, Repr

inductive Tree : Level → Type
  | noExpansion : Tree .expansions
  /-- A command substitution, and those after it. -/
  | expansion (body : Tree .list) (rest : Tree .expansions) : Tree .expansions
  | simple (assignments : List (Text × Text)) (words : List Text)
      (expansions : Tree .expansions) : Tree .command
  | group (body : Tree .list) : Tree .command
  | subshell (body : Tree .list) : Tree .command
  | conditional (clause : Tree .clause) : Tree .command
  | loop (isUntil : Bool) (condition body : Tree .list) : Tree .command
  | forEach (name : Text) (expansions : Tree .expansions) (body : Tree .list) : Tree .command
  | select (expansions : Tree .expansions) (branches : Tree .branches) : Tree .command
  /-- What follows `if` or `elif`. -/
  | clause (condition body : Tree .list) (otherwise : Tree .clause) : Tree .clause
  | otherwise (body : Tree .list) : Tree .clause
  | noClause : Tree .clause
  | branch (expansions : Tree .expansions) (body : Tree .list) (rest : Tree .branches) :
      Tree .branches
  | emptyBranch (expansions : Tree .expansions) (rest : Tree .branches) : Tree .branches
  | noBranch : Tree .branches
  | pipe (command : Tree .command) (rest : Tree .pipes) : Tree .pipes
  | lastPipe (command : Tree .command) : Tree .pipes
  | pipeline (isNegated : Bool) (pipes : Tree .pipes) : Tree .pipeline
  | link (connective : Connective) (pipeline : Tree .pipeline) (rest : Tree .links) : Tree .links
  | noLink : Tree .links
  | andOr (first : Tree .pipeline) (links : Tree .links) : Tree .andOr
  | more (first : Tree .andOr) (separator : Separator) (rest : Tree .list) : Tree .list
  | last (final : Tree .andOr) (separator : Separator) : Tree .list
deriving Repr

namespace Tree

/-- Expansions, and others after them. -/
def join : {level : Level} → Tree level → Tree .expansions → Tree .expansions
  | _, .expansion body rest, others => .expansion body (join rest others)
  | _, _, others => others

end Tree

/-! ## Tokens -/

inductive Token
  | word (text : Text) (expansions : Tree .expansions)
  | assignment (name value : Text) (expansions : Tree .expansions)
  /-- A redirection. Of its operand only the substituted commands are kept. -/
  | redirection (expansions : Tree .expansions)
  | semicolon
  | doubleSemicolon
  | ampersand
  | newline
  | and
  | or
  | pipe
  | openParen
  | closeParen
deriving Repr

/-- A word without expansions. -/
def plainWord (text : Text) : Token := .word text .noExpansion

/-- An assignment of such a word. -/
def assigning (name value : Text) : Token := .assignment name value .noExpansion

namespace Token

def isItem : Token → Bool
  | .word .. | .assignment .. | .redirection .. => true
  | _ => false

def isRedirection : Token → Bool
  | .redirection _ => true
  | _ => false

def isNewline : Token → Bool
  | .newline => true
  | _ => false

def expansions : Token → Tree .expansions
  | .word _ expansions | .assignment _ _ expansions | .redirection expansions => expansions
  | _ => .noExpansion

/-- A reserved word has no expansions in it. -/
def isWord (text : Text) : Token → Bool
  | .word other .noExpansion => other = text
  | _ => false

/-- An assignment that comes after a word is a word. -/
def text? : Token → Option Text
  | .word text _ => some text
  | .assignment name value _ => some (name ++ asciiText "=" ++ value)
  | _ => none

def assignment? : Token → Option (Text × Text)
  | .assignment name value _ => some (name, value)
  | _ => none

end Token

def skipNewlines (tokens : List Token) : List Token := tokens.dropWhile Token.isNewline

def skipRedirections (tokens : List Token) : List Token := tokens.dropWhile Token.isRedirection

/-- The reserved words before which a list ends. -/
def closingWords : List Text :=
  [asciiText "then", asciiText "else", asciiText "elif", asciiText "fi", asciiText "do",
    asciiText "done", asciiText "esac", asciiText "\x7d"]

def bang : Text := asciiText "!"

def closes : List Token → Bool
  | [] | .closeParen :: _ | .doubleSemicolon :: _ => true
  | .word text _ :: _ => text ∈ closingWords
  | _ => false

def separator? : List Token → Option (Separator × List Token)
  | .semicolon :: rest | .newline :: rest => some (.sequential, rest)
  | .ampersand :: rest => some (.background, rest)
  | _ => none

def expectWord (text : Text) : List Token → Option (List Token)
  | token :: rest => if token.isWord text then some rest else none
  | [] => none

def expectClose : List Token → Option (List Token)
  | .closeParen :: rest => some rest
  | _ => none

/-! ## The grammar -/

/-- What is read at the front of some tokens, and what is left. -/
abbrev Parser := (level : Level) → List Token → Option (Tree level × List Token)

section Grammar

variable (parse : Parser)

def parseList (tokens : List Token) : Option (Tree .list × List Token) :=
  (parse .andOr (skipNewlines tokens)).bind fun (first, rest) =>
    match separator? rest with
    | none => some (.last first .sequential, rest)
    | some (separator, rest) =>
        if closes (skipNewlines rest) then some (.last first separator, skipNewlines rest)
        else (parse .list (skipNewlines rest)).map fun (others, rest) =>
          (.more first separator others, rest)

def parseAndOr (tokens : List Token) : Option (Tree .andOr × List Token) :=
  (parse .pipeline tokens).bind fun (first, rest) =>
    (parse .links rest).map fun (links, rest) => (.andOr first links, rest)

def parseLink (connective : Connective) (tokens : List Token) :
    Option (Tree .links × List Token) :=
  (parse .pipeline (skipNewlines tokens)).bind fun (pipeline, rest) =>
    (parse .links rest).map fun (links, rest) => (.link connective pipeline links, rest)

def parseLinks : List Token → Option (Tree .links × List Token)
  | .and :: rest => parseLink parse .and rest
  | .or :: rest => parseLink parse .or rest
  | tokens => some (.noLink, tokens)

def parsePipeline (tokens : List Token) : Option (Tree .pipeline × List Token) :=
  match expectWord bang tokens with
  | some rest => (parse .pipes rest).map fun (pipes, rest) => (.pipeline true pipes, rest)
  | none => (parse .pipes tokens).map fun (pipes, rest) => (.pipeline false pipes, rest)

def parsePipes (tokens : List Token) : Option (Tree .pipes × List Token) :=
  (parse .command tokens).bind fun (command, rest) =>
    match rest with
    | .pipe :: rest =>
        (parse .pipes (skipNewlines rest)).map fun (pipes, rest) => (.pipe command pipes, rest)
    | rest => some (.lastPipe command, rest)

/-- A simple command: assignments, words and redirections. -/
def parseSimple (tokens : List Token) : Option (Tree .command × List Token) :=
  let items := tokens.takeWhile Token.isItem
  let plain := items.filter fun item => !item.isRedirection
  if items = [] then none
  else some (.simple
    ((plain.takeWhile fun item => item.assignment?.isSome).filterMap Token.assignment?)
    ((plain.dropWhile fun item => item.assignment?.isSome).filterMap Token.text?)
    (items.foldr (fun item others => item.expansions.join others) .noExpansion),
    tokens.dropWhile Token.isItem)

def parseGroup (tokens : List Token) : Option (Tree .command × List Token) :=
  (parse .list tokens).bind fun (body, rest) =>
    (expectWord (asciiText "\x7d") rest).map fun rest => (.group body, skipRedirections rest)

def parseSubshell (tokens : List Token) : Option (Tree .command × List Token) :=
  (parse .list tokens).bind fun (body, rest) =>
    (expectClose rest).map fun rest => (.subshell body, skipRedirections rest)

def parseElse (tokens : List Token) : Option (Tree .clause × List Token) :=
  match expectWord (asciiText "elif") tokens with
  | some rest => parse .clause rest
  | none =>
      match expectWord (asciiText "else") tokens with
      | some rest =>
          (parse .list rest).bind fun (body, rest) =>
            (expectWord (asciiText "fi") rest).map fun rest => (.otherwise body, rest)
      | none => (expectWord (asciiText "fi") tokens).map fun rest => (.noClause, rest)

def parseClause (tokens : List Token) : Option (Tree .clause × List Token) :=
  (parse .list tokens).bind fun (condition, rest) =>
    (expectWord (asciiText "then") rest).bind fun rest =>
      (parse .list rest).bind fun (body, rest) =>
        (parseElse parse rest).map fun (otherwise, rest) =>
          (.clause condition body otherwise, rest)

/-- `do`, a list and `done`. -/
def parseBody (tokens : List Token) : Option (Tree .list × List Token) :=
  (expectWord (asciiText "do") tokens).bind fun rest =>
    (parse .list rest).bind fun (body, rest) =>
      (expectWord (asciiText "done") rest).map fun rest => (body, skipRedirections rest)

def parseLoop (isUntil : Bool) (tokens : List Token) : Option (Tree .command × List Token) :=
  (parse .list tokens).bind fun (condition, rest) =>
    (parseBody parse rest).map fun (body, rest) => (.loop isUntil condition body, rest)

/-- The words that a loop goes over, with what ends them. -/
def forWords (tokens : List Token) : Option (Tree .expansions × List Token) :=
  match expectWord (asciiText "in") (skipNewlines tokens) with
  | some rest =>
      (separator? (rest.dropWhile Token.isItem)).map fun (_, after) =>
        ((rest.takeWhile Token.isItem).foldr
          (fun item others => item.expansions.join others) .noExpansion, skipNewlines after)
  | none =>
      match tokens with
      | .semicolon :: rest => some (.noExpansion, skipNewlines rest)
      | tokens => some (.noExpansion, skipNewlines tokens)

def parseFor : List Token → Option (Tree .command × List Token)
  | .word name _ :: rest =>
      (forWords rest).bind fun (expansions, rest) =>
        (parseBody parse rest).map fun (body, rest) => (.forEach name expansions body, rest)
  | _ => none

/-- Patterns up to the parenthesis that closes them. -/
def patterns : List Token → Option (Tree .expansions × List Token)
  | .word _ expansions :: .closeParen :: rest => some (expansions, rest)
  | .word _ expansions :: .pipe :: rest =>
      (patterns rest).map fun (others, rest) => (expansions.join others, rest)
  | _ => none

def parseBranch (tokens : List Token) : Option (Tree .branches × List Token) :=
  (patterns tokens).bind fun (expansions, rest) =>
    match skipNewlines rest with
    | .doubleSemicolon :: rest =>
        (parse .branches (skipNewlines rest)).map fun (others, rest) =>
          (.emptyBranch expansions others, rest)
    | rest =>
        (parse .list rest).bind fun (body, rest) =>
          match rest with
          | .doubleSemicolon :: rest =>
              (parse .branches (skipNewlines rest)).map fun (others, rest) =>
                (.branch expansions body others, rest)
          | rest =>
              (expectWord (asciiText "esac") rest).map fun rest =>
                (.branch expansions body .noBranch, rest)

def parseBranches (tokens : List Token) : Option (Tree .branches × List Token) :=
  match expectWord (asciiText "esac") tokens with
  | some rest => some (.noBranch, rest)
  | none =>
      match tokens with
      | .openParen :: rest => parseBranch parse rest
      | tokens => parseBranch parse tokens

def parseCase : List Token → Option (Tree .command × List Token)
  | .word _ expansions :: rest =>
      (expectWord (asciiText "in") (skipNewlines rest)).bind fun rest =>
        (parse .branches (skipNewlines rest)).map fun (branches, rest) =>
          (.select expansions branches, skipRedirections rest)
  | _ => none

def parseCommand (tokens : List Token) : Option (Tree .command × List Token) :=
  match tokens with
  | .openParen :: rest => parseSubshell parse rest
  | .word text _ :: rest =>
      if text = asciiText "\x7b" then parseGroup parse rest
      else if text = asciiText "if" then
        (parse .clause rest).map fun (clause, rest) =>
          (.conditional clause, skipRedirections rest)
      else if text = asciiText "while" then parseLoop parse false rest
      else if text = asciiText "until" then parseLoop parse true rest
      else if text = asciiText "for" then parseFor parse rest
      else if text = asciiText "case" then parseCase parse rest
      else if text ∈ closingWords ∨ text = bang then none
      else parseSimple tokens
  | tokens => parseSimple tokens

def parseStep : Parser
  | .list => parseList parse
  | .andOr => parseAndOr parse
  | .links => parseLinks parse
  | .pipeline => parsePipeline parse
  | .pipes => parsePipes parse
  | .command => parseCommand parse
  | .clause => parseClause parse
  | .branches => parseBranches parse
  | .expansions => fun _ => none

end Grammar

/-- So many steps deep. -/
def parse : Nat → Parser
  | 0 => fun _ _ => none
  | depth + 1 => parseStep (parse depth)

/-- All the tokens are one list. -/
def Reads (tokens : List Token) (tree : Tree .list) : Prop :=
  ∃ depth, parse depth .list tokens = some (tree, [])

/-! ## Depth

What is read in some depth is read the same in any greater one. -/

/-- The one parser reads what the other does. -/
structure Extends (parser wider : Parser) : Prop where
  keeps : ∀ {level tokens result}, parser level tokens = some result →
    wider level tokens = some result

theorem bind_extends {First Second : Type} {first wider : Option First}
    {next later : First → Option Second} {result : Second}
    (extends_ : ∀ {value}, first = some value → wider = some value)
    (continues : ∀ {value}, next value = some result → later value = some result)
    (read : first.bind next = some result) : wider.bind later = some result := by
  rcases Option.bind_eq_some_iff.mp read with ⟨value, isFirst, isNext⟩
  rw [extends_ isFirst]
  exact continues isNext

theorem map_extends {First Second : Type} {first wider : Option First}
    {result : Second} {finish : First → Second}
    (extends_ : ∀ {value}, first = some value → wider = some value)
    (read : first.map finish = some result) : wider.map finish = some result := by
  rcases Option.map_eq_some_iff.mp read with ⟨value, isFirst, rfl⟩
  rw [extends_ isFirst]
  rfl

theorem ite_extends {Value : Type} {condition : Prop} [Decidable condition]
    {first second firstWider secondWider : Option Value} {result : Value}
    (ifTrue : first = some result → firstWider = some result)
    (ifFalse : second = some result → secondWider = some result)
    (read : (if condition then first else second) = some result) :
    (if condition then firstWider else secondWider) = some result := by
  split at read
  · next holds =>
      rw [if_pos holds]
      exact ifTrue read
  · next fails =>
      rw [if_neg fails]
      exact ifFalse read

section Depth

variable {parser wider : Parser} (extends_ : Extends parser wider)
include extends_

theorem parseList_extends {tokens : List Token} {result : Tree .list × List Token}
    (read : parseList parser tokens = some result) : parseList wider tokens = some result := by
  apply bind_extends extends_.keeps _ read
  intro value
  rcases value with ⟨first, rest⟩
  dsimp only
  split
  · exact id
  · split
    · exact id
    · exact map_extends extends_.keeps

theorem parseAndOr_extends {tokens : List Token} {result : Tree .andOr × List Token}
    (read : parseAndOr parser tokens = some result) : parseAndOr wider tokens = some result :=
  bind_extends extends_.keeps (map_extends extends_.keeps) read

theorem parseLink_extends {connective : Connective} {tokens : List Token}
    {result : Tree .links × List Token} (read : parseLink parser connective tokens = some result) :
    parseLink wider connective tokens = some result :=
  bind_extends extends_.keeps (map_extends extends_.keeps) read

theorem parseLinks_extends {tokens : List Token} {result : Tree .links × List Token}
    (read : parseLinks parser tokens = some result) : parseLinks wider tokens = some result := by
  unfold parseLinks at read ⊢
  split at read
  · exact parseLink_extends extends_ read
  · exact parseLink_extends extends_ read
  · exact read

theorem parsePipeline_extends {tokens : List Token} {result : Tree .pipeline × List Token}
    (read : parsePipeline parser tokens = some result) :
    parsePipeline wider tokens = some result := by
  unfold parsePipeline at read ⊢
  split at read
  · exact map_extends extends_.keeps read
  · exact map_extends extends_.keeps read

theorem parsePipes_extends {tokens : List Token} {result : Tree .pipes × List Token}
    (read : parsePipes parser tokens = some result) : parsePipes wider tokens = some result := by
  apply bind_extends extends_.keeps _ read
  intro value
  rcases value with ⟨command, rest⟩
  dsimp only
  split
  · exact map_extends extends_.keeps
  · exact id

theorem parseElse_extends {tokens : List Token} {result : Tree .clause × List Token}
    (read : parseElse parser tokens = some result) : parseElse wider tokens = some result := by
  unfold parseElse at read ⊢
  split at read
  · exact extends_.keeps read
  · split at read
    · exact bind_extends extends_.keeps id read
    · exact read

theorem parseClause_extends {tokens : List Token} {result : Tree .clause × List Token}
    (read : parseClause parser tokens = some result) : parseClause wider tokens = some result := by
  apply bind_extends extends_.keeps _ read
  intro value
  rcases value with ⟨condition, rest⟩
  apply bind_extends id
  intro rest
  apply bind_extends extends_.keeps
  exact map_extends (parseElse_extends extends_)

theorem parseBody_extends {tokens : List Token} {result : Tree .list × List Token}
    (read : parseBody parser tokens = some result) : parseBody wider tokens = some result :=
  bind_extends id (bind_extends extends_.keeps id) read

theorem parseLoop_extends {isUntil : Bool} {tokens : List Token}
    {result : Tree .command × List Token} (read : parseLoop parser isUntil tokens = some result) :
    parseLoop wider isUntil tokens = some result :=
  bind_extends extends_.keeps (map_extends (parseBody_extends extends_)) read

theorem parseFor_extends {tokens : List Token} {result : Tree .command × List Token}
    (read : parseFor parser tokens = some result) : parseFor wider tokens = some result := by
  unfold parseFor at read ⊢
  split at read
  · exact bind_extends id (map_extends (parseBody_extends extends_)) read
  · cases read

theorem parseBranch_extends {tokens : List Token} {result : Tree .branches × List Token}
    (read : parseBranch parser tokens = some result) : parseBranch wider tokens = some result := by
  apply bind_extends id _ read
  intro value
  rcases value with ⟨expansions, rest⟩
  dsimp only
  split
  · exact map_extends extends_.keeps
  · apply bind_extends extends_.keeps
    intro inner
    rcases inner with ⟨body, after⟩
    dsimp only
    split
    · exact map_extends extends_.keeps
    · exact id

theorem parseBranches_extends {tokens : List Token} {result : Tree .branches × List Token}
    (read : parseBranches parser tokens = some result) :
    parseBranches wider tokens = some result := by
  unfold parseBranches at read ⊢
  split at read
  · exact read
  · split at read
    · exact parseBranch_extends extends_ read
    · exact parseBranch_extends extends_ read

theorem parseCase_extends {tokens : List Token} {result : Tree .command × List Token}
    (read : parseCase parser tokens = some result) : parseCase wider tokens = some result := by
  unfold parseCase at read ⊢
  split at read
  · exact bind_extends id (map_extends extends_.keeps) read
  · cases read

theorem parseCommand_extends {tokens : List Token} {result : Tree .command × List Token}
    (read : parseCommand parser tokens = some result) :
    parseCommand wider tokens = some result := by
  unfold parseCommand at read ⊢
  split at read
  · exact bind_extends extends_.keeps id read
  · apply ite_extends (bind_extends extends_.keeps id) _ read
    apply ite_extends (map_extends extends_.keeps)
    apply ite_extends (parseLoop_extends extends_)
    apply ite_extends (parseLoop_extends extends_)
    apply ite_extends (parseFor_extends extends_)
    exact ite_extends (parseCase_extends extends_) id
  · exact read

theorem parseStep_extends : Extends (parseStep parser) (parseStep wider) := by
  constructor
  intro level tokens result read
  cases level with
  | list => exact parseList_extends extends_ read
  | andOr => exact parseAndOr_extends extends_ read
  | links => exact parseLinks_extends extends_ read
  | pipeline => exact parsePipeline_extends extends_ read
  | pipes => exact parsePipes_extends extends_ read
  | command => exact parseCommand_extends extends_ read
  | clause => exact parseClause_extends extends_ read
  | branches => exact parseBranches_extends extends_ read
  | expansions => cases read

end Depth

theorem parse_succ (depth : Nat) : Extends (parse depth) (parse (depth + 1)) := by
  induction depth with
  | zero => exact ⟨nofun⟩
  | succ depth induction => exact parseStep_extends induction

theorem parse_extends {depth deeper : Nat} (le : depth ≤ deeper) :
    Extends (parse depth) (parse deeper) := by
  induction le with
  | refl => exact ⟨id⟩
  | step _ induction => exact ⟨fun read => (parse_succ _).keeps (induction.keeps read)⟩

/-- Tokens are read in one way. -/
theorem Reads.unique {tokens : List Token} {tree other : Tree .list} (reads : Reads tokens tree)
    (readsOther : Reads tokens other) : tree = other := by
  rcases reads with ⟨depth, read⟩
  rcases readsOther with ⟨otherDepth, readOther⟩
  have same := ((parse_extends (Nat.le_max_left depth otherDepth)).keeps read).symm.trans
    ((parse_extends (Nat.le_max_right depth otherDepth)).keeps readOther)
  cases same
  rfl

end DshRemote.ShellSyntax
