import DshRemote.Foundation.JsonRoundTrip

/-! # What a printed value is made of

Printed text has no control characters and no lone surrogates. -/

namespace DshRemote.Json

/-- A property of texts that printed text is put together with. -/
structure Composed (holds : Text → Prop) : Prop where
  nil : holds []
  append : ∀ {first second}, holds first → holds second → holds (first ++ second)
  unit : ∀ {unit : CodeUnit}, 0x20 ≤ unit.val → ¬Utf8.IsHigh unit → ¬Utf8.IsLow unit →
    holds [unit]
  pair : ∀ {high low}, Utf8.IsHigh high → Utf8.IsLow low → holds [high, low]

theorem hexDigit_bounds {value : Nat} (small : value < 0x10) :
    0x20 ≤ (hexDigit value).val ∧ (hexDigit value).val < 0x80 := by
  interval_cases value <;> decide

theorem shortEscapes_bounds : ∀ entry ∈ shortEscapes,
    0x20 ≤ entry.2.val ∧ entry.2.val < 0x80 := by
  have each : shortEscapes.all (fun entry =>
      decide (0x20 ≤ entry.2.val ∧ entry.2.val < 0x80)) = true := by decide
  exact fun entry member => of_decide_eq_true (List.all_eq_true.mp each entry member)

theorem numberUnit_bounds {unit : CodeUnit} (number : IsNumberUnit unit) :
    0x20 ≤ unit.val ∧ unit.val < 0x80 := by
  rcases number with ⟨low, high⟩ | rfl | rfl | rfl | rfl | rfl
  · exact ⟨Nat.le_trans (by decide) low, Nat.lt_of_le_of_lt high (by decide)⟩
  all_goals decide

theorem word_bounds {word : Text}
    (checked : (word.all fun unit => 0x20 ≤ unit.val ∧ unit.val < 0x80) = true) :
    ∀ unit ∈ word, 0x20 ≤ unit.val ∧ unit.val < 0x80 :=
  fun unit member => of_decide_eq_true (List.all_eq_true.mp checked unit member)

section Texts

variable {holds : Text → Prop} (composed : Composed holds)

include composed

theorem Composed.cons {unit : CodeUnit} {rest : Text} (printable : 0x20 ≤ unit.val)
    (small : unit.val < 0x80) (later : holds rest) : holds (unit :: rest) := by
  have notHigh : ¬Utf8.IsHigh unit := fun high => absurd high.1 (by omega)
  have notLow : ¬Utf8.IsLow unit := fun low => absurd low.1 (by omega)
  exact composed.append (composed.unit printable notHigh notLow) later

theorem Composed.of_ascii {text : Text}
    (small : ∀ unit ∈ text, 0x20 ≤ unit.val ∧ unit.val < 0x80) : holds text := by
  induction text with
  | nil => exact composed.nil
  | cons unit rest induction =>
      rcases List.forall_mem_cons.mp small with ⟨now, later⟩
      exact composed.cons now.1 now.2 (induction later)

theorem Composed.join {texts : List Text} (each : ∀ text ∈ texts, holds text) :
    holds (join texts) := by
  induction texts with
  | nil => exact composed.nil
  | cons text rest induction =>
      rcases List.forall_mem_cons.mp each with ⟨now, later⟩
      cases rest with
      | nil => exact now
      | cons next more =>
          exact composed.append now (composed.cons (by decide) (by decide) (induction later))

theorem Composed.unicodeEscape (unit : CodeUnit) : holds (unicodeEscape unit) := by
  have bounded : unit.val / 0x1000 < 0x10 := by
    have small : unit.val < 65536 := unit.isLt
    generalize unit.val = value at *
    omega
  apply composed.of_ascii
  rw [Json.unicodeEscape]
  simp only [List.forall_mem_cons]
  exact ⟨by decide, by decide, hexDigit_bounds bounded, hexDigit_bounds (Nat.mod_lt _ (by decide)),
    hexDigit_bounds (Nat.mod_lt _ (by decide)), hexDigit_bounds (Nat.mod_lt _ (by decide)),
    fun unit member => by cases member⟩

theorem Composed.escapeUnit {unit : CodeUnit} (notHigh : ¬Utf8.IsHigh unit)
    (notLow : ¬Utf8.IsLow unit) : holds (escapeUnit unit) := by
  rw [Json.escapeUnit]
  split
  · next entry found =>
      rcases shortEscapes_bounds entry (List.mem_of_find?_eq_some found) with ⟨printable, small⟩
      exact composed.cons (by decide) (by decide) (composed.cons printable small composed.nil)
  · split
    · exact composed.unicodeEscape unit
    · next printable => exact composed.unit (Nat.not_lt.mp printable) notHigh notLow

theorem Composed.escape (text : Text) : holds (escape text) := by
  induction text using Utf8.text_induction with
  | empty => exact composed.nil
  | plain unit rest notHigh notLow induction =>
      rw [escape_plain notHigh notLow]
      exact composed.append (composed.escapeUnit notHigh notLow) induction
  | pair high low rest isHigh isLow induction =>
      rw [escape_pair isHigh isLow]
      exact composed.append (composed.pair isHigh isLow) induction
  | lone unit rest lone induction =>
      rw [escape_lone lone]
      exact composed.append (composed.unicodeEscape unit) induction

theorem Composed.quote (text : Text) : holds (quote text) :=
  composed.cons (by decide) (by decide)
    (composed.append (composed.escape text) (composed.cons (by decide) (by decide) composed.nil))

end Texts

variable {Number : Type} (format : NumberFormat Number)

mutual

/-- Printed text has every property that it is put together with. -/
theorem Composed.stringify {holds : Text → Prop} (composed : Composed holds) :
    ∀ value : Json Number, holds (stringify format value)
  | .null | .infinite _ => show holds (asciiText "null") from composed.of_ascii (word_bounds rfl)
  | .bool true => show holds (asciiText "true") from composed.of_ascii (word_bounds rfl)
  | .bool false => show holds (asciiText "false") from composed.of_ascii (word_bounds rfl)
  | .number value =>
      composed.of_ascii fun unit member =>
        numberUnit_bounds ((format.isNumber_print value).units.1 unit member)
  | .string value => composed.quote value
  | .array items =>
      composed.cons (by decide) (by decide) (composed.append
        (composed.join (composed.stringifyItems items))
        (composed.cons (by decide) (by decide) composed.nil))
  | .object members =>
      composed.cons (by decide) (by decide) (composed.append
        (composed.join (composed.stringifyMembers members))
        (composed.cons (by decide) (by decide) composed.nil))

theorem Composed.stringifyItems {holds : Text → Prop} (composed : Composed holds) :
    ∀ items : List (Json Number),
    ∀ text ∈ stringifyItems format items, holds text
  | [] => fun text member => by cases member
  | item :: rest =>
      List.forall_mem_cons.mpr ⟨composed.stringify item, composed.stringifyItems rest⟩

theorem Composed.stringifyMembers {holds : Text → Prop} (composed : Composed holds) :
    ∀ members : List (Text × Json Number),
    ∀ text ∈ stringifyMembers format members, holds text
  | [] => fun text member => by cases member
  | (key, value) :: rest =>
      List.forall_mem_cons.mpr ⟨composed.append (composed.quote key)
        (composed.cons (by decide) (by decide) (composed.stringify value)),
        composed.stringifyMembers rest⟩

end

theorem composed_printable : Composed fun text => ∀ unit ∈ text, 0x20 ≤ unit.val where
  nil := fun unit member => by cases member
  append := fun first second => List.forall_mem_append.mpr ⟨first, second⟩
  unit := fun printable _ _ => List.forall_mem_singleton.mpr printable
  pair := by
    intro high low isHigh isLow
    refine List.forall_mem_cons.mpr ⟨?_, List.forall_mem_singleton.mpr ?_⟩
    · exact Nat.le_trans (by decide) isHigh.1
    · exact Nat.le_trans (by decide) isLow.1

theorem composed_wellFormed : Composed Utf8.WellFormed where
  nil := Utf8.wellFormed_nil
  append := Utf8.WellFormed.append
  unit := fun _ notHigh notLow => Utf8.wellFormed_unit notHigh notLow
  pair := Utf8.wellFormed_pair

/-- Printed text has no control characters. -/
theorem printable_stringify (value : Json Number) :
    ∀ unit ∈ stringify format value, 0x20 ≤ unit.val :=
  composed_printable.stringify format value

/-- Printed text has no lone surrogates: they were escaped. -/
theorem wellFormed_stringify (value : Json Number) :
    Utf8.WellFormed (stringify format value) :=
  composed_wellFormed.stringify format value

end DshRemote.Json
