import DshRemote.Foundation.ShellSyntax
import DshRemote.Foundation.Shell

/-! # Finding the tokens of a shell

How a shell cuts a text into tokens is its own business, here-documents, comments and all. What
is asked of it is that a plain word, a quoted word, an assignment of a quoted word and `&&` end
at the blank after them, and that what follows is then cut as if it stood alone. -/

namespace DshRemote.ShellSyntax

open Json (ascii asciiText)
open Shell (quote backslash quotedWord)

/-! ## Names -/

def blank : CodeUnit := ascii ' '

def equals : CodeUnit := ascii '='

def isNameStart (unit : CodeUnit) : Bool :=
  decide (0x41 ≤ unit.val ∧ unit.val ≤ 0x5A ∨ unit.val = 0x5F ∨
    0x61 ≤ unit.val ∧ unit.val ≤ 0x7A)

def isNamePart (unit : CodeUnit) : Bool := isNameStart unit || decide (Json.IsDigit unit)

/-- The name of a variable. -/
def isName : Text → Bool
  | [] => false
  | first :: rest => isNameStart first && rest.all isNamePart

/-! ## Lexers -/

structure Lexer where
  /-- There are none if a quote is left open, or the like. -/
  tokens : Text → Option (List Token)
  plain : ∀ {name} rest, isName name = true →
    tokens (name ++ blank :: rest) = (tokens rest).map (plainWord name :: ·)
  quoted : ∀ text rest, tokens (quotedWord text ++ blank :: rest) =
    (tokens rest).map (plainWord (quotedWord text) :: ·)
  assigned : ∀ {name} value rest, isName name = true →
    tokens (name ++ equals :: (quotedWord value ++ blank :: rest)) =
      (tokens rest).map (assigning name (quotedWord value) :: ·)
  conjunction : ∀ rest, tokens (asciiText "&& " ++ rest) = (tokens rest).map (.and :: ·)

/-! ## A lexer of quoted words

It finds the words, and the operators between them. A text with expansions, redirections or
comments is none of its own. -/

/-- Where the scan stands, with what it has of a token. -/
inductive Scanning
  | between
  | word (text : Text)
  | quotes (text : Text)
  | escape (text : Text)
  | ampersand
  | bar
  | semicolon
deriving DecidableEq, Repr

/-- A word with a name in front of an equals sign is an assignment. -/
def wordToken (text : Text) : Token :=
  let name := text.takeWhile (· ≠ equals)
  match text.dropWhile (· ≠ equals) with
  | [] => plainWord text
  | _ :: value => if isName name then assigning name value else plainWord text

namespace Scanning

/-- The token that ends here. -/
def close : Scanning → Option (List Token)
  | .between => some []
  | .word text => some [wordToken text]
  | .ampersand => some [.ampersand]
  | .bar => some [.pipe]
  | .semicolon => some [.semicolon]
  | .quotes _ | .escape _ => none

def refused : Text :=
  [ascii '$', ascii '\x60', ascii '"', ascii '<', ascii '>', ascii '#']

/-- What ends a word. -/
def delimiters : Text :=
  [blank, ascii '\t', ascii '\n', ascii '&', ascii '|', ascii ';', ascii '(', ascii ')']

/-- A unit between two tokens. -/
def enter (unit : CodeUnit) : Option (List Token × Scanning) :=
  if unit = blank ∨ unit = ascii '\t' then some ([], .between)
  else if unit = ascii '\n' then some ([.newline], .between)
  else if unit = ascii '&' then some ([], .ampersand)
  else if unit = ascii '|' then some ([], .bar)
  else if unit = ascii ';' then some ([], .semicolon)
  else if unit = ascii '(' then some ([.openParen], .between)
  else if unit = ascii ')' then some ([.closeParen], .between)
  else if unit = quote then some ([], .quotes [unit])
  else if unit = backslash then some ([], .escape [unit])
  else if unit ∈ refused then none
  else some ([], .word [unit])

/-- The token before a unit ends, and another may begin. -/
def turn (position : Scanning) (unit : CodeUnit) : Option (List Token × Scanning) :=
  position.close.bind fun found =>
    (enter unit).map fun (others, next) => (found ++ others, next)

def advance : Scanning → CodeUnit → Option (List Token × Scanning)
  | .quotes text, unit =>
      some ([], if unit = quote then .word (text ++ [unit]) else .quotes (text ++ [unit]))
  | .escape text, unit => some ([], .word (text ++ [unit]))
  | .word text, unit =>
      if unit ∈ delimiters then turn (.word text) unit
      else if unit = quote then some ([], .quotes (text ++ [unit]))
      else if unit = backslash then some ([], .escape (text ++ [unit]))
      else if unit ∈ refused then none
      else some ([], .word (text ++ [unit]))
  | .ampersand, unit =>
      if unit = ascii '&' then some ([.and], .between) else turn .ampersand unit
  | .bar, unit => if unit = ascii '|' then some ([.or], .between) else turn .bar unit
  | .semicolon, unit =>
      if unit = ascii ';' then some ([.doubleSemicolon], .between) else turn .semicolon unit
  | .between, unit => enter unit

end Scanning

section Scan

variable {position next : Scanning} {unit : CodeUnit}

end Scan

/-! ### What a word is -/

end DshRemote.ShellSyntax
