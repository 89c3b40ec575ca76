import DshRemote.Foundation.Utf8

/-! # JSON values and their text

`JSON.stringify` without indentation and `JSON.parse`. How a number is printed and read
is a parameter: what it has to satisfy is that a printed number is a JSON number and is
read back as itself. -/

namespace DshRemote

/-- A JSON value. An object has its members in the order of their insertion. -/
inductive Json (Number : Type)
  | null
  | bool (value : Bool)
  | number (value : Number)
  /-- What a number is read as that is too large. No text is printed that is read so. -/
  | infinite (negative : Bool)
  | string (value : Text)
  | array (items : List (Json Number))
  | object (members : List (Text × Json Number))

namespace Json

def ascii (character : Char) : CodeUnit := Fin.ofNat _ character.toNat

def asciiText (text : String) : Text := text.toList.map ascii

/-- A literal is given by its letters, which nothing has to be decoded for. -/
theorem asciiText_ofList {text : String} {letters : List Char}
    (same : text = String.ofList letters) : asciiText text = letters.map ascii := by
  rw [same, asciiText, String.toList_ofList]

/-! ## Numbers -/

def IsDigit (unit : CodeUnit) : Prop := 0x30 ≤ unit.val ∧ unit.val ≤ 0x39

instance (unit : CodeUnit) : Decidable (IsDigit unit) := instDecidableAnd

/-- A code unit that a JSON number may have. -/
def IsNumberUnit (unit : CodeUnit) : Prop :=
  IsDigit unit ∨ unit = ascii '-' ∨ unit = ascii '+' ∨ unit = ascii '.' ∨ unit = ascii 'e' ∨
    unit = ascii 'E'

instance (unit : CodeUnit) : Decidable (IsNumberUnit unit) := instDecidableOr

/-- One or more digits. -/
def afterDigits : Text → Option Text
  | [] => none
  | unit :: rest => if IsDigit unit then some (rest.dropWhile fun next => IsDigit next) else none

/-- A zero, or digits that do not begin with one. -/
def afterInteger : Text → Option Text
  | [] => none
  | unit :: rest => if unit = ascii '0' then some rest else afterDigits (unit :: rest)

def afterFraction : Text → Option Text
  | [] => some []
  | unit :: rest => if unit = ascii '.' then afterDigits rest else some (unit :: rest)

def afterExponent : Text → Option Text
  | [] => some []
  | unit :: rest =>
      if unit = ascii 'e' ∨ unit = ascii 'E' then
        match rest with
        | [] => none
        | sign :: digits =>
            if sign = ascii '+' ∨ sign = ascii '-' then afterDigits digits
            else afterDigits (sign :: digits)
      else some (unit :: rest)

def afterSign : Text → Text
  | [] => []
  | unit :: rest => if unit = ascii '-' then rest else unit :: rest

/-- A text is a JSON number. -/
def IsNumber (text : Text) : Prop :=
  ((afterInteger (afterSign text)).bind afterFraction).bind afterExponent = some []

instance (text : Text) : Decidable (IsNumber text) := inferInstanceAs (Decidable (_ = _))

/-- Numbers as the language prints and reads them. There is one zero, and none is infinite. -/
structure NumberFormat (Number : Type) where
  print : Number → Text
  read : Text → Number
  /-- A text is a number that is too large. -/
  overflows : Text → Bool
  isNumber_print : ∀ number, IsNumber (print number)
  read_print : ∀ number, read (print number) = number
  overflows_print : ∀ number, overflows (print number) = false

/-! ## Printing -/

/-- `Array.prototype.join(',')`. -/
def join : List Text → Text
  | [] => []
  | [text] => text
  | text :: next :: rest => text ++ ascii ',' :: join (next :: rest)

def hexDigit (value : Nat) : CodeUnit :=
  if value < 10 then Fin.ofNat _ (0x30 + value) else Fin.ofNat _ (0x57 + value)

/-- `\uXXXX`. -/
def unicodeEscape (unit : CodeUnit) : Text :=
  [ascii '\\', ascii 'u', hexDigit (unit.val / 0x1000), hexDigit (unit.val / 0x100 % 0x10),
    hexDigit (unit.val / 0x10 % 0x10), hexDigit (unit.val % 0x10)]

/-- The escapes with a letter or sign of their own. -/
def shortEscapes : List (CodeUnit × CodeUnit) :=
  [(0x08, ascii 'b'), (0x09, ascii 't'), (0x0A, ascii 'n'), (0x0C, ascii 'f'), (0x0D, ascii 'r'),
    (ascii '"', ascii '"'), (ascii '\\', ascii '\\')]

/-- A code unit of a string that is no surrogate. -/
def escapeUnit (unit : CodeUnit) : Text :=
  match shortEscapes.find? fun entry => entry.1 = unit with
  | some entry => [ascii '\\', entry.2]
  | none => if unit.val < 0x20 then unicodeEscape unit else [unit]

def escape : Text → Text
  | [] => []
  | [unit] =>
      if Utf8.IsHigh unit ∨ Utf8.IsLow unit then unicodeEscape unit else escapeUnit unit
  | unit :: next :: rest =>
      if Utf8.IsHigh unit then
        if Utf8.IsLow next then unit :: next :: escape rest
        else unicodeEscape unit ++ escape (next :: rest)
      else if Utf8.IsLow unit then unicodeEscape unit ++ escape (next :: rest)
      else escapeUnit unit ++ escape (next :: rest)

/-- A string in quotation marks. -/
def quote (text : Text) : Text := ascii '"' :: (escape text ++ [ascii '"'])

section Printing

variable {Number : Type} (format : NumberFormat Number)

mutual

/-- `JSON.stringify`. -/
def stringify : Json Number → Text
  | .null => asciiText "null"
  | .bool true => asciiText "true"
  | .bool false => asciiText "false"
  | .number value => format.print value
  | .infinite _ => asciiText "null"
  | .string value => quote value
  | .array items => ascii '[' :: (join (stringifyItems items) ++ [ascii ']'])
  | .object members => ascii '\x7b' :: (join (stringifyMembers members) ++ [ascii '\x7d'])

def stringifyItems : List (Json Number) → List Text
  | [] => []
  | item :: rest => stringify item :: stringifyItems rest

def stringifyMembers : List (Text × Json Number) → List Text
  | [] => []
  | (key, value) :: rest => (quote key ++ ascii ':' :: stringify value) :: stringifyMembers rest

end

end Printing

section Valid

variable {Number : Type}

mutual

/-- No number is infinite, and no object has two members with one key. -/
def Valid : Json Number → Prop
  | .infinite _ => False
  | .array items => ValidItems items
  | .object members => (members.map Prod.fst).Nodup ∧ ValidMembers members
  | _ => True

def ValidItems : List (Json Number) → Prop
  | [] => True
  | item :: rest => item.Valid ∧ ValidItems rest

def ValidMembers : List (Text × Json Number) → Prop
  | [] => True
  | (_, value) :: rest => value.Valid ∧ ValidMembers rest

end

end Valid

/-! ## Parsing -/

/-- The whitespace that JSON allows between tokens. -/
def IsSpace (unit : CodeUnit) : Prop :=
  unit.val = 0x20 ∨ unit.val = 0x09 ∨ unit.val = 0x0A ∨ unit.val = 0x0D

instance (unit : CodeUnit) : Decidable (IsSpace unit) := instDecidableOr

def skipSpace (text : Text) : Text := text.dropWhile fun unit => IsSpace unit

def hexValue (unit : CodeUnit) : Option Nat :=
  if 0x30 ≤ unit.val ∧ unit.val ≤ 0x39 then some (unit.val - 0x30)
  else if 0x61 ≤ unit.val ∧ unit.val ≤ 0x66 then some (unit.val - 0x57)
  else if 0x41 ≤ unit.val ∧ unit.val ≤ 0x46 then some (unit.val - 0x37)
  else none

/-- The four digits of `\uXXXX`. -/
def hexUnit (a b c d : CodeUnit) : Option CodeUnit :=
  match hexValue a, hexValue b, hexValue c, hexValue d with
  | some a, some b, some c, some d => some (Fin.ofNat _ (a * 0x1000 + b * 0x100 + c * 0x10 + d))
  | _, _, _, _ => none

/-- What follows a backslash, other than `u`. -/
def shortUnit (letter : CodeUnit) : Option CodeUnit :=
  if letter = ascii '/' then some letter
  else (shortEscapes.find? fun entry => entry.2 = letter).map Prod.fst

/-- The string up to its closing quotation mark, and the rest of the text. -/
def parseString : Text → Option (Text × Text)
  | [] => none
  | unit :: rest =>
      if unit = ascii '"' then some ([], rest)
      else if unit = ascii '\\' then
        match rest with
        | [] => none
        | letter :: rest =>
            if letter = ascii 'u' then
              match rest with
              | a :: b :: c :: d :: rest =>
                  match hexUnit a b c d with
                  | some unit => (parseString rest).map fun parsed => (unit :: parsed.1, parsed.2)
                  | none => none
              | _ => none
            else
              match shortUnit letter with
              | some unit => (parseString rest).map fun parsed => (unit :: parsed.1, parsed.2)
              | none => none
      else if unit.val < 0x20 then none
      else (parseString rest).map fun parsed => (unit :: parsed.1, parsed.2)

/-- A word of the grammar at the beginning of a text. -/
def parseWord (word text : Text) : Option Text :=
  if word.isPrefixOf text then some (text.drop word.length) else none

/-- A member that is set on an object: a later value for a key takes the place of the
earlier one. -/
def setMember {Number : Type} (members : List (Text × Json Number)) (key : Text)
    (value : Json Number) : List (Text × Json Number) :=
  if key ∈ members.map Prod.fst then
    members.map fun entry => (entry.1, if entry.1 = key then value else entry.2)
  else members ++ [(key, value)]

section Parsing

variable {Number : Type} (format : NumberFormat Number)

def parseNumber (text : Text) : Option (Json Number × Text) :=
  let token := text.takeWhile fun unit => IsNumberUnit unit
  if IsNumber token then
    some (if format.overflows token then .infinite (token.head? = some (ascii '-'))
      else .number (format.read token), text.dropWhile fun unit => IsNumberUnit unit)
  else none

mutual

/-- A value after whitespace, and the rest of the text. The fuel bounds the calls. -/
def parseValue : Nat → Text → Option (Json Number × Text)
  | 0, _ => none
  | fuel + 1, text =>
      match skipSpace text with
      | [] => none
      | unit :: rest =>
          if unit = ascii '\x7b' then
            match skipSpace rest with
            | [] => none
            | next :: more =>
                if next = ascii '\x7d' then some (.object [], more)
                else parseMembers fuel [] (next :: more)
          else if unit = ascii '[' then
            match skipSpace rest with
            | [] => none
            | next :: more =>
                if next = ascii ']' then some (.array [], more)
                else parseItems fuel [] (next :: more)
          else if unit = ascii '"' then
            (parseString rest).map fun parsed => (.string parsed.1, parsed.2)
          else if unit = ascii 'n' then
            (parseWord (asciiText "null") (unit :: rest)).map fun rest => (.null, rest)
          else if unit = ascii 't' then
            (parseWord (asciiText "true") (unit :: rest)).map fun rest => (.bool true, rest)
          else if unit = ascii 'f' then
            (parseWord (asciiText "false") (unit :: rest)).map fun rest => (.bool false, rest)
          else parseNumber format (unit :: rest)

/-- The items of an array after those parsed so far. -/
def parseItems : Nat → List (Json Number) → Text → Option (Json Number × Text)
  | 0, _, _ => none
  | fuel + 1, items, text =>
      match parseValue fuel text with
      | none => none
      | some (item, rest) =>
          match skipSpace rest with
          | [] => none
          | next :: more =>
              if next = ascii ',' then parseItems fuel (items ++ [item]) more
              else if next = ascii ']' then some (.array (items ++ [item]), more)
              else none

/-- The members of an object after those parsed so far. -/
def parseMembers : Nat → List (Text × Json Number) → Text → Option (Json Number × Text)
  | 0, _, _ => none
  | fuel + 1, members, text =>
      match skipSpace text with
      | [] => none
      | mark :: rest =>
          if mark = ascii '"' then
            match parseString rest with
            | none => none
            | some (key, rest) =>
                match skipSpace rest with
                | [] => none
                | colon :: rest =>
                    if colon = ascii ':' then
                      match parseValue fuel rest with
                      | none => none
                      | some (value, rest) =>
                          match skipSpace rest with
                          | [] => none
                          | next :: more =>
                              if next = ascii ',' then
                                parseMembers fuel (setMember members key value) more
                              else if next = ascii '\x7d' then
                                some (.object (setMember members key value), more)
                              else none
                    else none
          else none

end

/-- `JSON.parse`; `none` is its syntax error. -/
def parse (text : Text) : Option (Json Number) :=
  match parseValue format (text.length + 1) text with
  | none => none
  | some (value, rest) => if skipSpace rest = [] then some value else none

end Parsing

end Json

end DshRemote
