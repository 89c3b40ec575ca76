import DshRemote.Foundation.Json
import Mathlib.Data.List.TakeWhile
import Mathlib.Tactic.IntervalCases

/-! # Reading what was printed

A printed value is read back as itself, whatever follows it, as long as a number is not
followed by more of a number. -/

namespace DshRemote.Json

/-! ## Numbers -/

theorem afterDigits_some {text rest : Text} (after : afterDigits text = some rest) :
    ∃ used, text = used ++ rest ∧ (∀ unit ∈ used, IsDigit unit) ∧
      ∃ first ∈ used.head?, IsDigit first := by
  cases text with
  | nil => cases after
  | cons unit more =>
      simp only [afterDigits] at after
      split at after
      · next digit =>
          refine ⟨unit :: more.takeWhile fun next => IsDigit next, ?_, ?_, unit, rfl, digit⟩
          · rw [← Option.some.inj after, List.cons_append, List.takeWhile_append_dropWhile]
          · refine List.forall_mem_cons.mpr ⟨digit, fun next member => ?_⟩
            have kept := List.mem_takeWhile_imp member
            exact of_decide_eq_true kept
      · cases after

theorem afterInteger_some {text rest : Text} (after : afterInteger text = some rest) :
    ∃ used, text = used ++ rest ∧ (∀ unit ∈ used, IsDigit unit) ∧
      ∃ first ∈ used.head?, IsDigit first := by
  cases text with
  | nil => cases after
  | cons unit more =>
      simp only [afterInteger] at after
      split at after
      · next zero =>
          have digit : IsDigit unit := by
            rw [zero]
            decide
          refine ⟨[unit], by rw [← Option.some.inj after]; rfl, ?_, unit, rfl, digit⟩
          exact List.forall_mem_cons.mpr ⟨digit, fun next member => by cases member⟩
      · exact afterDigits_some after

theorem afterFraction_some {text rest : Text} (after : afterFraction text = some rest) :
    ∃ used, text = used ++ rest ∧ ∀ unit ∈ used, IsNumberUnit unit := by
  cases text with
  | nil =>
      cases after
      exact ⟨[], rfl, fun unit member => by cases member⟩
  | cons unit more =>
      simp only [afterFraction] at after
      split at after
      · next point =>
          rcases afterDigits_some after with ⟨used, rfl, digits, _⟩
          refine ⟨unit :: used, rfl, List.forall_mem_cons.mpr ⟨?_, ?_⟩⟩
          · rw [point]
            decide
          · exact fun next member => Or.inl (digits next member)
      · exact ⟨[], by rw [← Option.some.inj after]; rfl, fun unit member => by cases member⟩

theorem afterExponent_some {text rest : Text} (after : afterExponent text = some rest) :
    ∃ used, text = used ++ rest ∧ ∀ unit ∈ used, IsNumberUnit unit := by
  cases text with
  | nil =>
      cases after
      exact ⟨[], rfl, fun unit member => by cases member⟩
  | cons unit more =>
      simp only [afterExponent] at after
      split at after
      · next mark =>
          have isMark : IsNumberUnit unit := by
            rcases mark with rfl | rfl <;> decide
          cases more with
          | nil => cases after
          | cons sign digits =>
              simp only at after
              split at after
              · next signed =>
                  have isSign : IsNumberUnit sign := by
                    rcases signed with rfl | rfl <;> decide
                  rcases afterDigits_some after with ⟨used, rfl, isDigits, _⟩
                  refine ⟨unit :: sign :: used, rfl, ?_⟩
                  refine List.forall_mem_cons.mpr ⟨isMark, List.forall_mem_cons.mpr ⟨isSign, ?_⟩⟩
                  exact fun next member => Or.inl (isDigits next member)
              · rcases afterDigits_some after with ⟨used, same, isDigits, _⟩
                refine ⟨unit :: used, by rw [same]; rfl, List.forall_mem_cons.mpr ⟨isMark, ?_⟩⟩
                exact fun next member => Or.inl (isDigits next member)
      · exact ⟨[], by rw [← Option.some.inj after]; rfl, fun unit member => by cases member⟩

theorem IsNumber.units {text : Text} (number : IsNumber text) :
    (∀ unit ∈ text, IsNumberUnit unit) ∧
      ∃ first ∈ text.head?, IsDigit first ∨ first = ascii '-' := by
  rcases Option.bind_eq_some_iff.mp number with ⟨exponent, whole, ending⟩
  rcases Option.bind_eq_some_iff.mp whole with ⟨fraction, integer, middle⟩
  rcases afterInteger_some integer with ⟨digits, signSplit, isDigits, first, head, isDigit⟩
  rcases afterFraction_some middle with ⟨decimals, rfl, isDecimals⟩
  rcases afterExponent_some ending with ⟨power, rfl, isPower⟩
  rw [List.append_nil] at signSplit
  have body : ∀ unit ∈ afterSign text, IsNumberUnit unit := by
    intro unit member
    rw [signSplit, List.mem_append, List.mem_append] at member
    rcases member with member | member | member
    · exact Or.inl (isDigits unit member)
    · exact isDecimals unit member
    · exact isPower unit member
  have bodyHead : first ∈ (afterSign text).head? := by
    rw [signSplit]
    cases digits with
    | nil => cases head
    | cons unit more => exact head
  cases text with
  | nil => cases bodyHead
  | cons unit more =>
      simp only [afterSign] at body bodyHead
      split at body
      · next minus =>
          refine ⟨List.forall_mem_cons.mpr ⟨?_, body⟩, unit, rfl, Or.inr minus⟩
          rw [minus]
          decide
      · next notMinus =>
          rw [if_neg notMinus] at bodyHead
          cases bodyHead
          exact ⟨body, first, rfl, Or.inl isDigit⟩

/-- Nothing that follows goes on with a number. -/
def Boundary (rest : Text) : Prop := ∀ unit ∈ rest.head?, ¬IsNumberUnit unit

theorem boundary_cons {unit : CodeUnit} (ends : ¬IsNumberUnit unit) (rest : Text) :
    Boundary (unit :: rest) := by
  intro other head
  cases head
  exact ends

theorem takeWhile_boundary {token rest : Text} (units : ∀ unit ∈ token, IsNumberUnit unit)
    (boundary : Boundary rest) :
    (token ++ rest).takeWhile (fun unit => decide (IsNumberUnit unit)) = token ∧
      (token ++ rest).dropWhile (fun unit => decide (IsNumberUnit unit)) = rest := by
  induction token with
  | nil =>
      cases rest with
      | nil => exact ⟨rfl, rfl⟩
      | cons unit more =>
          have ends := boundary unit rfl
          constructor
          · simp only [List.nil_append, List.takeWhile_cons, ends, decide_false]
            rfl
          · simp only [List.nil_append, List.dropWhile_cons, ends, decide_false]
            rfl
  | cons unit more induction =>
      rcases List.forall_mem_cons.mp units with ⟨now, later⟩
      rcases induction later with ⟨taken, dropped⟩
      constructor
      · simp only [List.cons_append, List.takeWhile_cons, now, decide_true, if_true, taken]
      · simp only [List.cons_append, List.dropWhile_cons, now, decide_true, if_true, dropped]

theorem parseNumber_print {Number : Type} (format : NumberFormat Number) (number : Number)
    {rest : Text} (boundary : Boundary rest) :
    parseNumber format (format.print number ++ rest) = some (.number number, rest) := by
  have printed := format.isNumber_print number
  rcases takeWhile_boundary printed.units.1 boundary with ⟨token, remaining⟩
  simp only [parseNumber, token, remaining, printed, if_true, format.read_print,
    format.overflows_print, Bool.false_eq_true, if_false]

/-! ## Strings -/

theorem escape_plain {unit : CodeUnit} (notHigh : ¬Utf8.IsHigh unit) (notLow : ¬Utf8.IsLow unit)
    (rest : Text) : escape (unit :: rest) = escapeUnit unit ++ escape rest := by
  cases rest with
  | nil => simp only [escape, notHigh, notLow, or_self, if_false, List.append_nil]
  | cons next more => simp only [escape, notHigh, notLow, if_false]

theorem escape_pair {high low : CodeUnit} (isHigh : Utf8.IsHigh high) (isLow : Utf8.IsLow low)
    (rest : Text) : escape (high :: low :: rest) = high :: low :: escape rest := by
  simp only [escape, isHigh, isLow, if_true]

theorem escape_lone {unit : CodeUnit} {rest : Text} (lone : Utf8.IsLone unit rest) :
    escape (unit :: rest) = unicodeEscape unit ++ escape rest := by
  rcases lone with low | ⟨high, notFollowed⟩
  · have notHigh : ¬Utf8.IsHigh unit := fun high => Utf8.not_low_of_high high low
    cases rest with
    | nil => simp only [escape, low, or_true, if_true, List.append_nil]
    | cons next more => simp only [escape, notHigh, low, if_false, if_true]
  · cases rest with
    | nil => simp only [escape, high, true_or, if_true, List.append_nil]
    | cons next more =>
        have notLow := notFollowed next rfl
        simp only [escape, high, notLow, if_false, if_true]

theorem hexValue_hexDigit {value : Nat} (small : value < 0x10) :
    hexValue (hexDigit value) = some value := by
  interval_cases value <;> decide

theorem hexUnit_digits (unit : CodeUnit) :
    hexUnit (hexDigit (unit.val / 0x1000)) (hexDigit (unit.val / 0x100 % 0x10))
      (hexDigit (unit.val / 0x10 % 0x10)) (hexDigit (unit.val % 0x10)) = some unit := by
  have bounded : unit.val < 65536 := unit.isLt
  have digits : unit.val / 0x1000 * 0x1000 + unit.val / 0x100 % 0x10 * 0x100 +
      unit.val / 0x10 % 0x10 * 0x10 + unit.val % 0x10 = unit.val := by
    generalize unit.val = value at *
    omega
  have first : unit.val / 0x1000 < 0x10 := by
    generalize unit.val = value at *
    omega
  simp only [hexUnit, hexValue_hexDigit first,
    hexValue_hexDigit (Nat.mod_lt _ (show 0x10 > 0 by decide)), digits, Fin.ofNat_val_eq_self]

theorem parseString_quote (rest : Text) : parseString (ascii '"' :: rest) = some ([], rest) := by
  rw [parseString.eq_def]
  simp only [if_true]

/-- One code unit is put before what is parsed of the rest. -/
def before (unit : CodeUnit) (parsed : Option (Text × Text)) : Option (Text × Text) :=
  parsed.map fun parsed => (unit :: parsed.1, parsed.2)

theorem parseString_unicodeEscape (unit : CodeUnit) (rest : Text) :
    parseString (unicodeEscape unit ++ rest) = before unit (parseString rest) := by
  have notQuote : ascii '\\' ≠ ascii '"' := by decide
  rw [unicodeEscape, parseString.eq_def]
  simp only [List.cons_append, List.nil_append, notQuote, if_false, if_true, hexUnit_digits]
  rfl

theorem parseString_plain {unit : CodeUnit} (notQuote : unit ≠ ascii '"')
    (notBackslash : unit ≠ ascii '\\') (notControl : ¬unit.val < 0x20) (rest : Text) :
    parseString (unit :: rest) = before unit (parseString rest) := by
  rw [parseString.eq_def]
  simp only [notQuote, notBackslash, notControl, if_false]
  rfl

theorem shortUnit_shortEscapes : ∀ entry ∈ shortEscapes,
    entry.2 ≠ ascii 'u' ∧ shortUnit entry.2 = some entry.1 := by
  have each : shortEscapes.all (fun entry =>
      decide (entry.2 ≠ ascii 'u' ∧ shortUnit entry.2 = some entry.1)) = true := by decide
  exact fun entry member => of_decide_eq_true (List.all_eq_true.mp each entry member)

theorem parseString_escapeUnit (unit : CodeUnit) (rest : Text) :
    parseString (escapeUnit unit ++ rest) = before unit (parseString rest) := by
  simp only [escapeUnit]
  cases found : shortEscapes.find? fun entry => entry.1 = unit with
  | some entry =>
      have passes := List.find?_some found
      have same : entry.1 = unit := of_decide_eq_true passes
      rcases shortUnit_shortEscapes entry (List.mem_of_find?_eq_some found) with
        ⟨notUnicode, isShort⟩
      have notQuote : ascii '\\' ≠ ascii '"' := by decide
      rw [parseString.eq_def]
      simp only [List.cons_append, List.nil_append, notQuote, notUnicode, if_false, if_true,
        isShort, same]
      rfl
  | none =>
      have absent := List.find?_eq_none.mp found
      have notQuote : unit ≠ ascii '"' := by
        rintro rfl
        exact absent (ascii '"', ascii '"') (by decide) (by decide)
      have notBackslash : unit ≠ ascii '\\' := by
        rintro rfl
        exact absent (ascii '\\', ascii '\\') (by decide) (by decide)
      dsimp only
      split
      · exact parseString_unicodeEscape unit rest
      · next notControl => exact parseString_plain notQuote notBackslash notControl rest

theorem ne_of_surrogate {unit : CodeUnit} (surrogate : Utf8.IsHigh unit ∨ Utf8.IsLow unit) :
    unit ≠ ascii '"' ∧ unit ≠ ascii '\\' ∧ ¬unit.val < 0x20 := by
  have large : 0xD800 ≤ unit.val := by
    rcases surrogate with high | low
    · exact high.1
    · exact Nat.le_trans (by decide) low.1
  refine ⟨?_, ?_, by omega⟩
  · rintro rfl
    exact absurd large (by decide)
  · rintro rfl
    exact absurd large (by decide)

theorem parseString_escape (text rest : Text) :
    parseString (escape text ++ ascii '"' :: rest) = some (text, rest) := by
  induction text using Utf8.text_induction with
  | empty => exact parseString_quote rest
  | plain unit more notHigh notLow induction =>
      rw [escape_plain notHigh notLow, List.append_assoc, parseString_escapeUnit, induction]
      rfl
  | pair high low more isHigh isLow induction =>
      rcases ne_of_surrogate (Or.inl isHigh) with ⟨highQuote, highBackslash, highControl⟩
      rcases ne_of_surrogate (Or.inr isLow) with ⟨lowQuote, lowBackslash, lowControl⟩
      rw [escape_pair isHigh isLow, List.cons_append, List.cons_append,
        parseString_plain highQuote highBackslash highControl,
        parseString_plain lowQuote lowBackslash lowControl, induction]
      rfl
  | lone unit more lone induction =>
      rw [escape_lone lone, List.append_assoc, parseString_unicodeEscape, induction]
      rfl

/-! ## Values -/

section Values

variable {Number : Type} (format : NumberFormat Number)

theorem skipSpace_cons {unit : CodeUnit} (notSpace : ¬IsSpace unit) (rest : Text) :
    skipSpace (unit :: rest) = unit :: rest := by
  simp only [skipSpace, List.dropWhile_cons, notSpace, decide_false]
  rfl

/-- A code unit that a printed value may begin with. -/
def Begins (unit : CodeUnit) : Prop :=
  ¬IsSpace unit ∧ unit ≠ ascii ']' ∧ unit ≠ ascii '\x7d' ∧ unit.val < 0x80

instance (unit : CodeUnit) : Decidable (Begins unit) := instDecidableAnd

theorem begins_number {unit : CodeUnit} (begins : IsDigit unit ∨ unit = ascii '-') :
    Begins unit ∧ unit ≠ ascii '\x7b' ∧ unit ≠ ascii '[' ∧ unit ≠ ascii '"' ∧
      unit ≠ ascii 'n' ∧ unit ≠ ascii 't' ∧ unit ≠ ascii 'f' := by
  have range : 0x2D ≤ unit.val ∧ unit.val ≤ 0x39 := by
    rcases begins with ⟨low, high⟩ | rfl
    · exact ⟨Nat.le_trans (by decide) low, high⟩
    · decide
  have apart : ∀ character : Char, ¬(0x2D ≤ (ascii character).val ∧
      (ascii character).val ≤ 0x39) → unit ≠ ascii character := by
    rintro character outside rfl
    exact outside range
  refine ⟨⟨?_, apart _ (by decide), apart _ (by decide), Nat.lt_of_le_of_lt range.2 (by decide)⟩,
    apart _ (by decide), apart _ (by decide), apart _ (by decide), apart _ (by decide),
    apart _ (by decide), apart _ (by decide)⟩
  rw [IsSpace]
  generalize unit.val = value at *
  omega

theorem stringify_head (value : Json Number) :
    ∃ first rest, stringify format value = first :: rest ∧ Begins first := by
  cases value with
  | null | infinite => exact ⟨_, _, rfl, by decide⟩
  | bool value => cases value <;> exact ⟨_, _, rfl, by decide⟩
  | number value =>
      rcases (format.isNumber_print value).units.2 with ⟨first, head, begins⟩
      cases printed : format.print value with
      | nil =>
          rw [printed] at head
          cases head
      | cons unit rest =>
          rw [printed] at head
          cases head
          exact ⟨first, rest, by rw [stringify, printed], (begins_number begins).1⟩
  | string value => exact ⟨_, _, rfl, by decide⟩
  | array items => exact ⟨_, _, rfl, by decide⟩
  | object members => exact ⟨_, _, rfl, by decide⟩

theorem parseValue_number (value : Number) (fuel : Nat) {rest : Text} (boundary : Boundary rest) :
    parseValue format (fuel + 1) (format.print value ++ rest) = some (.number value, rest) := by
  have parsed := parseNumber_print format value boundary
  rcases (format.isNumber_print value).units.2 with ⟨first, head, begins⟩
  cases printed : format.print value with
  | nil =>
      rw [printed] at head
      cases head
  | cons unit more =>
      rw [printed] at head parsed
      cases head
      rcases begins_number begins with ⟨starts, brace, bracket, mark, n, t, f⟩
      rw [List.cons_append] at parsed ⊢
      simp only [parseValue, skipSpace_cons starts.1, brace, bracket, mark, n, t, f, if_false,
        parsed]

theorem parseValue_string (value : Text) (fuel : Nat) (rest : Text) :
    parseValue format (fuel + 1) (quote value ++ rest) = some (.string value, rest) := by
  have text : quote value ++ rest = ascii '"' :: (escape value ++ ascii '"' :: rest) := by
    simp [quote]
  rw [text]
  have notSpace : ¬IsSpace (ascii '"') := by decide
  have notBrace : ascii '"' ≠ ascii '\x7b' := by decide
  have notBracket : ascii '"' ≠ ascii '[' := by decide
  simp only [parseValue, skipSpace_cons notSpace, notBrace, notBracket, if_false, if_true,
    parseString_escape, Option.map_some]

theorem join_head {text more : Text} {first : CodeUnit} (rest : List Text)
    (begins : text = first :: more) : ∃ tail, join (text :: rest) = first :: tail := by
  subst begins
  cases rest with
  | nil => exact ⟨more, rfl⟩
  | cons next others => exact ⟨_, rfl⟩

theorem setMember_of_notMem {members : List (Text × Json Number)} {key : Text}
    (fresh : key ∉ members.map Prod.fst) (value : Json Number) :
    setMember members key value = members ++ [(key, value)] := by
  rw [setMember, if_neg fresh]

theorem parseItems_more {fuel : Nat} {earlier : List (Json Number)} {item : Json Number}
    {text more : Text} (parsed : parseValue format fuel text = some (item, ascii ',' :: more)) :
    parseItems format (fuel + 1) earlier text =
      parseItems format fuel (earlier ++ [item]) more := by
  have notSpace : ¬IsSpace (ascii ',') := by decide
  simp only [parseItems, parsed, skipSpace_cons notSpace, if_true]

theorem parseItems_last {fuel : Nat} {earlier : List (Json Number)} {item : Json Number}
    {text rest : Text} (parsed : parseValue format fuel text = some (item, ascii ']' :: rest)) :
    parseItems format (fuel + 1) earlier text = some (.array (earlier ++ [item]), rest) := by
  have notSpace : ¬IsSpace (ascii ']') := by decide
  have notComma : ascii ']' ≠ ascii ',' := by decide
  simp only [parseItems, parsed, skipSpace_cons notSpace, notComma, if_false, if_true]

theorem parseMembers_key {fuel : Nat} {earlier : List (Text × Json Number)} {key : Text}
    {text : Text} : parseMembers format (fuel + 1) earlier (quote key ++ ascii ':' :: text) =
      match parseValue format fuel text with
      | none => none
      | some (value, rest) =>
          match skipSpace rest with
          | [] => none
          | next :: more =>
              if next = ascii ',' then parseMembers format fuel (setMember earlier key value) more
              else if next = ascii '\x7d' then some (.object (setMember earlier key value), more)
              else none := by
  have split : quote key ++ ascii ':' :: text =
      ascii '"' :: (escape key ++ ascii '"' :: ascii ':' :: text) := by
    simp [quote]
  have markNotSpace : ¬IsSpace (ascii '"') := by decide
  have colonNotSpace : ¬IsSpace (ascii ':') := by decide
  rw [split]
  cases parsed : parseValue format fuel text with
  | none =>
      simp only [parseMembers, skipSpace_cons markNotSpace, parseString_escape,
        skipSpace_cons colonNotSpace, if_true, parsed]
  | some result =>
      cases skipped : skipSpace result.2 <;>
        simp only [parseMembers, skipSpace_cons markNotSpace, parseString_escape,
          skipSpace_cons colonNotSpace, if_true, parsed, skipped]

theorem parseMembers_more {fuel : Nat} {earlier : List (Text × Json Number)} {key : Text}
    {value : Json Number} {text more : Text} (fresh : key ∉ earlier.map Prod.fst)
    (parsed : parseValue format fuel text = some (value, ascii ',' :: more)) :
    parseMembers format (fuel + 1) earlier (quote key ++ ascii ':' :: text) =
      parseMembers format fuel (earlier ++ [(key, value)]) more := by
  have notSpace : ¬IsSpace (ascii ',') := by decide
  rw [parseMembers_key]
  simp only [parsed, skipSpace_cons notSpace, if_true, setMember_of_notMem fresh]

theorem parseMembers_last {fuel : Nat} {earlier : List (Text × Json Number)} {key : Text}
    {value : Json Number} {text rest : Text} (fresh : key ∉ earlier.map Prod.fst)
    (parsed : parseValue format fuel text = some (value, ascii '\x7d' :: rest)) :
    parseMembers format (fuel + 1) earlier (quote key ++ ascii ':' :: text) =
      some (.object (earlier ++ [(key, value)]), rest) := by
  have notSpace : ¬IsSpace (ascii '\x7d') := by decide
  have notComma : ascii '\x7d' ≠ ascii ',' := by decide
  rw [parseMembers_key]
  simp only [parsed, skipSpace_cons notSpace, notComma, if_false, if_true,
    setMember_of_notMem fresh]

theorem boundary_mark {unit : CodeUnit}
    (mark : unit = ascii ',' ∨ unit = ascii ']' ∨ unit = ascii '\x7d') (rest : Text) :
    Boundary (unit :: rest) := by
  apply boundary_cons
  rcases mark with rfl | rfl | rfl <;> decide

/-- An array or object that is not empty is parsed item by item. -/
theorem parseValue_array {fuel : Nat} {first : CodeUnit} {text : Text} (begins : Begins first) :
    parseValue format (fuel + 1) (ascii '[' :: first :: text) =
      parseItems format fuel [] (first :: text) := by
  have notSpace : ¬IsSpace (ascii '[') := by decide
  have notBrace : ascii '[' ≠ ascii '\x7b' := by decide
  simp only [parseValue, skipSpace_cons notSpace, notBrace, if_false, if_true,
    skipSpace_cons begins.1, begins.2.1]

theorem parseValue_object {fuel : Nat} {first : CodeUnit} {text : Text} (begins : Begins first) :
    parseValue format (fuel + 1) (ascii '\x7b' :: first :: text) =
      parseMembers format fuel [] (first :: text) := by
  have notSpace : ¬IsSpace (ascii '\x7b') := by decide
  simp only [parseValue, skipSpace_cons notSpace, if_true, skipSpace_cons begins.1, begins.2.2.1,
    if_false]

theorem parseValue_leaf (fuel : Nat) (rest : Text) :
    parseValue format (fuel + 1) (asciiText "null" ++ rest) = some (.null, rest) ∧
      parseValue format (fuel + 1) (asciiText "true" ++ rest) = some (.bool true, rest) ∧
      parseValue format (fuel + 1) (asciiText "false" ++ rest) = some (.bool false, rest) ∧
      parseValue format (fuel + 1) (ascii '[' :: ascii ']' :: rest) = some (.array [], rest) ∧
      parseValue format (fuel + 1) (ascii '\x7b' :: ascii '\x7d' :: rest) =
        some (.object [], rest) := by
  refine ⟨?_, ?_, ?_, ?_, ?_⟩ <;> rfl

mutual

/-- A printed value is read back with as much fuel as it has code units. -/
theorem parseValue_stringify : (value : Json Number) → value.Valid → ∀ fuel rest,
    (stringify format value).length ≤ fuel → Boundary rest →
      parseValue format fuel (stringify format value ++ rest) = some (value, rest)
  | value, valid, 0, rest, enough, _ => by
      rcases stringify_head format value with ⟨first, more, text, _⟩
      rw [text] at enough
      simp at enough
  | .null, _, fuel + 1, rest, _, _ => (parseValue_leaf format fuel rest).1
  | .bool true, _, fuel + 1, rest, _, _ => (parseValue_leaf format fuel rest).2.1
  | .bool false, _, fuel + 1, rest, _, _ => (parseValue_leaf format fuel rest).2.2.1
  | .number value, _, fuel + 1, rest, _, boundary => parseValue_number format value fuel boundary
  | .infinite _, valid, _, _, _, _ => valid.elim
  | .string value, _, fuel + 1, rest, _, _ => parseValue_string format value fuel rest
  | .array [], _, fuel + 1, rest, _, _ => (parseValue_leaf format fuel rest).2.2.2.1
  | .array (item :: items), valid, fuel + 1, rest, enough, _ => by
      have parsed := parseItems_stringify (item :: items) (List.cons_ne_nil _ _) valid fuel [] rest
        (by simpa [stringify] using enough)
      rcases stringify_head format item with ⟨first, more, text, begins⟩
      rcases join_head (stringifyItems format items) text with ⟨tail, joined⟩
      have split : stringify format (.array (item :: items)) ++ rest =
          ascii '[' :: (join (stringifyItems format (item :: items)) ++ ascii ']' :: rest) := by
        simp [stringify]
      rw [split]
      rw [stringifyItems, joined, List.cons_append] at parsed ⊢
      rw [parseValue_array format begins, parsed]
      rfl
  | .object [], _, fuel + 1, rest, _, _ => (parseValue_leaf format fuel rest).2.2.2.2
  | .object (member :: members), valid, fuel + 1, rest, enough, _ => by
      have parsed := parseMembers_stringify (member :: members) (List.cons_ne_nil _ _) valid.2 fuel
        [] rest valid.1 (by simpa [stringify] using enough)
      rcases member with ⟨key, value⟩
      have begins : Begins (ascii '"') := by decide
      have text : quote key ++ ascii ':' :: stringify format value =
          ascii '"' :: (escape key ++ [ascii '"'] ++ ascii ':' :: stringify format value) := rfl
      rcases join_head (stringifyMembers format members) text with ⟨tail, joined⟩
      have split : stringify format (.object ((key, value) :: members)) ++ rest =
          ascii '\x7b' ::
            (join (stringifyMembers format ((key, value) :: members)) ++ ascii '\x7d' :: rest) := by
        simp [stringify]
      rw [split]
      rw [stringifyMembers, joined, List.cons_append] at parsed ⊢
      rw [parseValue_object format begins, parsed]
      rfl

theorem parseItems_stringify : (items : List (Json Number)) → items ≠ [] → ValidItems items →
    ∀ fuel earlier rest, (join (stringifyItems format items)).length + 1 ≤ fuel →
      parseItems format fuel earlier
          (join (stringifyItems format items) ++ ascii ']' :: rest) =
        some (.array (earlier ++ items), rest)
  | [], nonempty, _, _, _, _, _ => absurd rfl nonempty
  | _, _, _, 0, _, _, enough => by simp at enough
  | [item], _, valid, fuel + 1, earlier, rest, enough => by
      apply parseItems_last
      have short : (stringify format item).length ≤ fuel := by
        simp only [stringifyItems, join] at enough
        omega
      exact parseValue_stringify item valid.1 fuel _ short (boundary_mark (by simp) rest)
  | item :: next :: items, _, valid, fuel + 1, earlier, rest, enough => by
      have short : (stringify format item).length ≤ fuel ∧
          (join (stringifyItems format (next :: items))).length + 1 ≤ fuel := by
        simp only [stringifyItems, join, List.length_append, List.length_cons] at enough ⊢
        omega
      have parsed := parseValue_stringify item valid.1 fuel
        (ascii ',' :: (join (stringifyItems format (next :: items)) ++ ascii ']' :: rest)) short.1
        (boundary_mark (by simp) _)
      have later := parseItems_stringify (next :: items) (List.cons_ne_nil _ _) valid.2 fuel
        (earlier ++ [item]) rest short.2
      have text : join (stringifyItems format (item :: next :: items)) ++ ascii ']' :: rest =
          stringify format item ++
            (ascii ',' :: (join (stringifyItems format (next :: items)) ++ ascii ']' :: rest)) := by
        simp [stringifyItems, join]
      rw [text, parseItems_more format parsed, later, List.append_assoc]
      rfl

theorem parseMembers_stringify : (members : List (Text × Json Number)) → members ≠ [] →
    ValidMembers members → ∀ fuel earlier rest, ((earlier ++ members).map Prod.fst).Nodup →
    (join (stringifyMembers format members)).length + 1 ≤ fuel →
      parseMembers format fuel earlier
          (join (stringifyMembers format members) ++ ascii '\x7d' :: rest) =
        some (.object (earlier ++ members), rest)
  | [], nonempty, _, _, _, _, _, _ => absurd rfl nonempty
  | _, _, _, 0, _, _, _, enough => by simp at enough
  | [(key, value)], _, valid, fuel + 1, earlier, rest, distinct, enough => by
      have fresh : key ∉ earlier.map Prod.fst := by
        rw [List.map_append] at distinct
        exact fun member => (List.nodup_append.mp distinct).2.2 key member key (by simp) rfl
      have short : (stringify format value).length ≤ fuel := by
        simp only [stringifyMembers, join, List.length_append, List.length_cons] at enough
        omega
      have parsed := parseValue_stringify value valid.1 fuel (ascii '\x7d' :: rest) short
        (boundary_mark (by simp) rest)
      have text : join (stringifyMembers format [(key, value)]) ++ ascii '\x7d' :: rest =
          quote key ++ ascii ':' :: (stringify format value ++ ascii '\x7d' :: rest) := by
        simp [stringifyMembers, join]
      rw [text, parseMembers_last format fresh parsed]
  | (key, value) :: next :: members, _, valid, fuel + 1, earlier, rest, distinct, enough => by
      have fresh : key ∉ earlier.map Prod.fst := by
        rw [List.map_append] at distinct
        exact fun member => (List.nodup_append.mp distinct).2.2 key member key (by simp) rfl
      have short : (stringify format value).length ≤ fuel ∧
          (join (stringifyMembers format (next :: members))).length + 1 ≤ fuel := by
        simp only [stringifyMembers, join, List.length_append, List.length_cons] at enough ⊢
        omega
      have parsed := parseValue_stringify value valid.1 fuel
        (ascii ',' :: (join (stringifyMembers format (next :: members)) ++ ascii '\x7d' :: rest))
        short.1 (boundary_mark (by simp) _)
      have later := parseMembers_stringify (next :: members) (List.cons_ne_nil _ _) valid.2 fuel
        (earlier ++ [(key, value)]) rest (by simpa using distinct) short.2
      have text : join (stringifyMembers format ((key, value) :: next :: members)) ++
            ascii '\x7d' :: rest =
          quote key ++ ascii ':' :: (stringify format value ++ ascii ',' ::
            (join (stringifyMembers format (next :: members)) ++ ascii '\x7d' :: rest)) := by
        simp [stringifyMembers, join]
      rw [text, parseMembers_more format fresh parsed, later, List.append_assoc]
      rfl

end

/-- `JSON.parse` gives back what `JSON.stringify` printed. -/
theorem parse_stringify {value : Json Number} (valid : value.Valid) :
    parse format (stringify format value) = some value := by
  have parsed := parseValue_stringify format value valid ((stringify format value).length + 1) []
    (Nat.le_succ _) (fun unit head => by cases head)
  rw [List.append_nil] at parsed
  rw [parse, parsed]
  rfl

theorem stringify_injective {left right : Json Number} (leftValid : left.Valid)
    (rightValid : right.Valid) (same : stringify format left = stringify format right) :
    left = right := by
  have parsed := congrArg (parse format) same
  rw [parse_stringify format leftValid, parse_stringify format rightValid] at parsed
  exact Option.some.inj parsed

end Values

end DshRemote.Json
