import DshRemote.Foundation.NumberText

/-! # Lines of fields

The tools of a host print numbers in fields with white space between them. Such a line is
split into its fields again, and a number that is printed in decimal is read back. -/

namespace DshRemote.NumberText

open Json (ascii asciiText IsDigit printNat readNat parseWord)
open Framing (IsTrimmed)

/-- `Number(text)` before it is rounded to a double, unless it is none or infinite. -/
def number (text : Text) : Option Rat := readNumeral (trim text)

/-! ## Patterns -/

/-- `\s+` at the beginning of a text. -/
def afterSpaces : Text → Option Text
  | [] => none
  | unit :: rest =>
      if IsTrimmed unit then some (rest.dropWhile fun next => IsTrimmed next) else none

/-- `(\d+)` at the beginning of a text. -/
def matchDigits (text : Text) : Option (Text × Text) :=
  let (digits, rest) := readDigits text
  if digits = [] then none else some (digits, rest)

/-- `/^\d+$/`. -/
def isNumeral (text : Text) : Bool := text ≠ [] ∧ text.all fun unit => IsDigit unit

def IsLineTerminator (unit : CodeUnit) : Prop :=
  unit.val = 0x0A ∨ unit.val = 0x0D ∨ unit.val = 0x2028 ∨ unit.val = 0x2029

instance (unit : CodeUnit) : Decidable (IsLineTerminator unit) := instDecidableOr

/-- `$` of a pattern that goes over many lines. -/
def endsLine : Text → Bool
  | [] => true
  | unit :: _ => IsLineTerminator unit

/-- The first match of a pattern that begins where a line does. -/
def searchLines (pattern : Text → Option Value) : Bool → Text → Option Value
  | starts, [] => if starts then pattern [] else none
  | starts, unit :: rest =>
      match if starts then pattern (unit :: rest) else none with
      | some found => some found
      | none => searchLines pattern (decide (IsLineTerminator unit)) rest

/-! ## Words with spaces between them -/

/-- Words, each behind a space. -/
def spaced (words : List Text) : Text := words.flatMap fun word => ascii ' ' :: word

/-- A word has something in it, and no white space. -/
def IsWord (word : Text) : Prop := word ≠ [] ∧ ∀ unit ∈ word, ¬IsTrimmed unit

theorem isTrimmed_space : IsTrimmed (ascii ' ') := by decide

theorem splitFrom_solid {word : Text} (solid : ∀ unit ∈ word, ¬IsTrimmed unit)
    (rest current : Text) :
    splitFrom (word ++ rest) current false = splitFrom rest (current ++ word) false := by
  induction word generalizing current with
  | nil => rw [List.nil_append, List.append_nil]
  | cons unit word induction =>
      rcases List.forall_mem_cons.mp solid with ⟨notSpace, others⟩
      rw [List.cons_append, splitFrom, if_neg notSpace, induction others, List.append_assoc]
      rfl

/-- The first word behind white space. -/
theorem splitFrom_word {word : Text} (isWord : IsWord word) (rest : Text) :
    splitFrom (word ++ rest) [] true = splitFrom rest word false := by
  rcases isWord with ⟨someUnit, solid⟩
  cases word with
  | nil => exact absurd rfl someUnit
  | cons unit word =>
      rcases List.forall_mem_cons.mp solid with ⟨notSpace, others⟩
      rw [List.cons_append, splitFrom, if_neg notSpace, splitFrom_solid others]
      rfl

theorem splitFrom_spaced {words : List Text} (areWords : ∀ word ∈ words, IsWord word)
    (current : Text) : splitFrom (spaced words) current false = current :: words := by
  induction words generalizing current with
  | nil => rfl
  | cons word words induction =>
      rcases List.forall_mem_cons.mp areWords with ⟨isWord, others⟩
      rw [spaced, List.flatMap_cons, ← spaced, List.cons_append, splitFrom,
        if_pos isTrimmed_space, if_neg Bool.false_ne_true, splitFrom_word isWord, induction others]

/-- A second space in front makes no field of its own. -/
theorem splitSpaces_spaced {first : Text} (isFirst : IsWord first) {words : List Text}
    (someWord : words ≠ []) (areWords : ∀ word ∈ words, IsWord word) :
    splitSpaces (first ++ ascii ' ' :: spaced words) = first :: words := by
  rw [splitSpaces, splitFrom_solid isFirst.2, List.nil_append, splitFrom,
    if_pos isTrimmed_space, if_neg Bool.false_ne_true]
  cases words with
  | nil => exact absurd rfl someWord
  | cons word words =>
      rcases List.forall_mem_cons.mp areWords with ⟨isWord, others⟩
      rw [spaced, List.flatMap_cons, ← spaced, List.cons_append, splitFrom,
        if_pos isTrimmed_space, if_pos rfl, splitFrom_word isWord, splitFrom_spaced others]

theorem getLast_spaced {words : List Text} (areWords : ∀ word ∈ words, IsWord word)
    (front : Text) (solid : ∀ unit ∈ front.getLast?, ¬IsTrimmed unit) :
    ∀ unit ∈ (front ++ spaced words).getLast?, ¬IsTrimmed unit := by
  induction words generalizing front with
  | nil => rwa [spaced, List.flatMap_nil, List.append_nil]
  | cons word words induction =>
      rcases List.forall_mem_cons.mp areWords with ⟨⟨someUnit, wordSolid⟩, others⟩
      rw [spaced, List.flatMap_cons, ← spaced, ← List.append_assoc]
      apply induction others
      intro unit isLast
      rw [List.getLast?_append_of_ne_nil _ (List.cons_ne_nil _ _),
        List.getLast?_cons_of_ne_nil someUnit] at isLast
      exact wordSolid unit (List.mem_of_getLast? isLast)

/-- Nothing is trimmed from a text that neither begins nor ends with white space. -/
theorem trim_of_ends {text : Text} (front : ∀ unit ∈ text.head?, ¬IsTrimmed unit)
    (back : ∀ unit ∈ text.getLast?, ¬IsTrimmed unit) : trim text = text := by
  have kept {other : Text} (solid : ∀ unit ∈ other.head?, ¬IsTrimmed unit) :
      (other.dropWhile fun unit => IsTrimmed unit) = other := by
    cases other with
    | nil => rfl
    | cons unit rest => exact List.dropWhile_cons_of_neg (by simpa using solid unit rfl)
  have backwards : ∀ unit ∈ text.reverse.head?, ¬IsTrimmed unit := by
    rwa [List.head?_reverse]
  rw [trim, kept front, kept backwards, List.reverse_reverse]

/-! ## Numbers -/

theorem isWord_printNat (size : Nat) : IsWord (printNat size) := by
  rcases Json.printNat_head size with ⟨first, rest, text, _⟩
  constructor
  · rw [text]
    exact List.cons_ne_nil _ _
  · intro unit member
    exact not_trimmed_of_digit (Json.isDigit_printNat size unit member)

theorem number_printNat (size : Nat) : number (printNat size) = some (size : Rat) := by
  rw [number, trim_of_digits (Json.isDigit_printNat size)]
  rcases Nat.eq_zero_or_pos size with rfl | positive
  · decide
  · rw [readNumeral_of_positive (isPositiveNumeral_printNat positive), Json.readNat_printNat]

theorem mapM_number_printNat (sizes : List Nat) :
    (sizes.map printNat).mapM number = some (sizes.map fun size : Nat => (size : Rat)) := by
  induction sizes with
  | nil => rfl
  | cons size rest induction =>
      rw [List.map_cons, List.mapM_cons, number_printNat, induction]
      rfl

end DshRemote.NumberText
