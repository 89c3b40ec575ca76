import DshRemote.Foundation.ShellQuoting
import DshRemote.Foundation.ShellTokens

/-! # The quoting rules of a POSIX shell

Backslashes, the three kinds of quotes, expansions and comments. Here-documents are not read, and
a pattern of a `case` in a command substitution has its opening parenthesis. -/

namespace DshRemote.Shell.Posix

open Json (ascii asciiText)
open ShellSyntax (isNameStart isNamePart)

/-- What the units up to its end are inside of. -/
inductive Frame
  | doubleQuotes
  /-- A subshell. Its words are those of the line. -/
  | parentheses
  /-- `$(`. -/
  | substitution
  /-- `${`. -/
  | braces
  /-- `${` in double quotes. -/
  | quotedBraces
deriving DecidableEq, Repr

/-- What decides about the next unit besides the frames. -/
inductive Mode
  | plain
  | singleQuotes
  | escaped
  /-- After `$`. -/
  | dollar
  /-- In the name after `$`. -/
  | name
  | dollarSingleQuotes
  | dollarEscaped
  | backquotes
  | backquotesEscaped
  | comment
deriving DecidableEq, Repr

structure Place where
  frames : List Frame := []
  mode : Mode := .plain
  /-- A comment begins only where no word has. -/
  inWord : Bool := false
deriving DecidableEq, Repr

namespace Place

def enter (place : Place) (frame : Frame) (inWord : Bool) : Place :=
  { frames := frame :: place.frames, mode := .plain, inWord }

def leave (place : Place) (inWord : Bool) : Place :=
  { frames := place.frames.tail, mode := .plain, inWord }

def goOn (place : Place) (mode : Mode) : Place := { place with mode }

def wordOn (place : Place) : Place := { place with mode := .plain, inWord := true }

/-- A single quote or a comment means nothing in double quotes. -/
def inDouble (place : Place) : Bool :=
  match place.frames with
  | .doubleQuotes :: _ | .quotedBraces :: _ => true
  | _ => false

end Place

/-- The blanks and the characters of operators. -/
def delimiters : Text := asciiText " \t\n|&;<>()"

/-- An unquoted unit that may end a word. It does, if the word is one of the line. -/
def delimit (place : Place) (unit : CodeUnit) : Mark :=
  if place.frames.all (· = .parentheses) then .delimiter unit else .active unit

def inDoubleQuotes (place : Place) (unit : CodeUnit) : Place × List Mark :=
  if unit = ascii '"' then (place.leave true, [.removed])
  else if unit = backslash then (place.goOn .escaped, [])
  else if unit = ascii '$' then (place.goOn .dollar, [.active unit])
  else if unit = ascii '\x60' then (place.goOn .backquotes, [.active unit])
  else (place.goOn .plain, [.quoted unit])

def inQuotedBraces (place : Place) (unit : CodeUnit) : Place × List Mark :=
  if unit = ascii '\x7d' then (place.leave true, [.active unit])
  else if unit = ascii '"' then (place.enter .doubleQuotes true, [.removed])
  else if unit = backslash then (place.goOn .escaped, [])
  else if unit = ascii '$' then (place.goOn .dollar, [.active unit])
  else if unit = ascii '\x60' then (place.goOn .backquotes, [.active unit])
  else (place.goOn .plain, [.active unit])

/-- A unit that is no quoting character, in an unquoted word or between words. -/
def betweenQuotes (place : Place) (unit : CodeUnit) : Place × List Mark :=
  match place.frames with
  | .braces :: _ =>
      if unit = ascii '\x7d' then (place.leave true, [.active unit])
      else (place.wordOn, [.active unit])
  | _ =>
      if unit = ascii '#' ∧ !place.inWord then (place.goOn .comment, [])
      else if unit = ascii '(' then (place.enter .parentheses false, [delimit place unit])
      else if unit = ascii ')' then
        match place.frames with
        | .parentheses :: _ => (place.leave false, [delimit place unit])
        | .substitution :: _ => (place.leave true, [.active unit])
        | _ => ({ place with mode := .plain, inWord := false }, [delimit place unit])
      else if unit ∈ delimiters then
        ({ place with mode := .plain, inWord := false }, [delimit place unit])
      else (place.wordOn, [.active unit])

def unquoted (place : Place) (unit : CodeUnit) : Place × List Mark :=
  if unit = quote then (place.goOn .singleQuotes, [.removed])
  else if unit = backslash then (place.goOn .escaped, [])
  else if unit = ascii '"' then (place.enter .doubleQuotes true, [.removed])
  else if unit = ascii '$' then (place.goOn .dollar, [.active unit])
  else if unit = ascii '\x60' then (place.goOn .backquotes, [.active unit])
  else betweenQuotes place unit

def plain (place : Place) (unit : CodeUnit) : Place × List Mark :=
  match place.frames with
  | .doubleQuotes :: _ => inDoubleQuotes place unit
  | .quotedBraces :: _ => inQuotedBraces place unit
  | _ => unquoted place unit

/-- What a backslash escapes in double quotes. -/
def escapable (place : Place) : Text :=
  match place.frames with
  | .quotedBraces :: _ => asciiText "$\x60\"\\\x7d"
  | _ => asciiText "$\x60\"\\"

def afterBackslash (place : Place) (unit : CodeUnit) : Place × List Mark :=
  if unit = ascii '\n' then (place.goOn .plain, [])
  else if place.inDouble ∧ unit ∉ escapable place then
    (place.wordOn, [.quoted backslash, .quoted unit])
  else (place.wordOn, [.removed, .quoted unit])

/-- The parameters of one character. -/
def specialParameters : Text := asciiText "0123456789@*#?-$!"

def afterDollar (place : Place) (unit : CodeUnit) : Place × List Mark :=
  if unit = ascii '(' then (place.enter .substitution false, [.active unit])
  else if unit = ascii '\x7b' then
    (place.enter (if place.inDouble then .quotedBraces else .braces) true, [.active unit])
  else if unit = quote ∧ !place.inDouble then (place.goOn .dollarSingleQuotes, [.removed])
  else if isNameStart unit then (place.goOn .name, [.active unit])
  else if unit ∈ specialParameters then (place.wordOn, [.active unit])
  else plain place.wordOn unit

/-- A NUL is passed over. -/
def step (place : Place) (unit : CodeUnit) : Place × List Mark :=
  if unit = 0 then (place, [])
  else match place.mode with
    | .plain => plain place unit
    | .singleQuotes =>
        if unit = quote then (place.wordOn, [.removed]) else (place, [.quoted unit])
    | .escaped => afterBackslash place unit
    | .dollar => afterDollar place unit
    | .name => if isNamePart unit then (place, [.active unit]) else plain place.wordOn unit
    | .dollarSingleQuotes =>
        if unit = quote then (place.wordOn, [.removed])
        else if unit = backslash then (place.goOn .dollarEscaped, [.active unit])
        else (place, [.quoted unit])
    | .dollarEscaped => (place.goOn .dollarSingleQuotes, [.active unit])
    | .backquotes =>
        if unit = ascii '\x60' then (place.wordOn, [.active unit])
        else if unit = backslash then (place.goOn .backquotesEscaped, [.active unit])
        else (place, [.active unit])
    | .backquotesEscaped => (place.goOn .backquotes, [.active unit])
    | .comment => if unit = ascii '\n' then plain (place.goOn .plain) unit else (place, [])

/-- Nothing is quoted or begun, but perhaps a word. -/
def Unquoted (place : Place) : Prop := place.mode = .plain ∧ place.inDouble = false

instance (place : Place) : Decidable (Unquoted place) := instDecidableAnd

theorem plain_of_unquoted {place : Place} (isUnquoted : Unquoted place) (unit : CodeUnit) :
    plain place unit = unquoted place unit := by
  have notDouble := isUnquoted.2
  unfold plain
  split
  · next isFrame => simp [Place.inDouble, isFrame] at notDouble
  · next isFrame => simp [Place.inDouble, isFrame] at notDouble
  · rfl

/-- The rules of quoting, as a POSIX shell has them. -/
def rules : QuotingRules Place where
  step := step
  Unquoted := Unquoted
  inWord := Place.wordOn
  inQuotes := fun place => place.goOn .singleQuotes
  escaped := fun place => place.goOn .escaped
  unquoted_inWord isUnquoted := ⟨rfl, isUnquoted.2⟩
  inWord_inWord _ := rfl
  opens isUnquoted := by
    rw [step, if_neg (by decide), isUnquoted.1]
    dsimp only
    rw [plain_of_unquoted isUnquoted, unquoted, if_pos rfl]
  keeps _ notQuote notNul := by
    rw [step, if_neg notNul]
    exact if_neg notQuote
  closes _ := rfl
  escapes isUnquoted := by
    rw [step, if_neg (by decide), isUnquoted.1]
    dsimp only
    rw [plain_of_unquoted isUnquoted, unquoted, if_neg (by decide), if_pos rfl]
  takes {place unit} isUnquoted notFeed notNul := by
    have notDouble : ¬((place.goOn .escaped).inDouble = true ∧
        unit ∉ escapable (place.goOn .escaped)) := by
      intro both
      cases isUnquoted.2.symm.trans both.1
    rw [step, if_neg notNul]
    change afterBackslash (place.goOn .escaped) unit = _
    rw [afterBackslash, if_neg notFeed, if_neg notDouble]
    rfl

end DshRemote.Shell.Posix
