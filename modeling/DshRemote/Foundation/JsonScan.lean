import DshRemote.Foundation.JsonRoundTrip

/-! # Where a scan of printed text stands

A scan only knows whether it is inside a string and whether a value has just ended. That is
enough to see that no printed object ends in another one that comes after a digit or letter:
inside a string, the scan of the second one would take its strings for what is between them. -/

namespace DshRemote.Json

inductive Scan
  /-- A value or a key may begin, or an empty array or object end. -/
  | expect
  /-- A value, a part of one, or a key has ended. -/
  | after
  | inside
  /-- After a backslash inside a string. -/
  | escaped
  deriving DecidableEq

namespace Scan

/-- Outside a string, no backslash occurs, and no object begins where a value has ended. -/
def outside (state : Scan) (unit : CodeUnit) : Option Scan :=
  if unit = ascii '"' then some inside
  else if unit = ascii '\\' then none
  else if unit = ascii '\x7b' then if state = expect then some expect else none
  else if unit = ascii '[' ∨ unit = ascii ',' ∨ unit = ascii ':' then some expect
  else some after

def step (state : Scan) (unit : CodeUnit) : Option Scan :=
  match state with
  | inside =>
      if unit = ascii '"' then some after
      else if unit = ascii '\\' then some escaped
      else some inside
  | escaped => some inside
  | expect => outside expect unit
  | after => outside after unit

def run (state : Scan) : Text → Option Scan
  | [] => some state
  | unit :: rest => (state.step unit).bind fun next => next.run rest

theorem run_append (state : Scan) (first second : Text) :
    state.run (first ++ second) = (state.run first).bind fun next => next.run second := by
  induction first generalizing state with
  | nil => rfl
  | cons unit rest induction =>
      rw [List.cons_append, run, run]
      cases state.step unit with
      | none => rfl
      | some next => exact induction next

theorem run_trans {state middle last : Scan} {first second : Text}
    (before : state.run first = some middle) (later : middle.run second = some last) :
    state.run (first ++ second) = some last := by
  rw [run_append, before]
  exact later

theorem run_cons {state middle last : Scan} {unit : CodeUnit} {rest : Text}
    (now : state.step unit = some middle) (later : middle.run rest = some last) :
    state.run (unit :: rest) = some last := by
  rw [run, now]
  exact later

/-! ## What a printed value is passed with -/

/-- A code unit that neither delimits anything nor escapes. -/
def IsPlain (unit : CodeUnit) : Prop :=
  unit ≠ ascii '"' ∧ unit ≠ ascii '\\' ∧ unit ≠ ascii '\x7b' ∧ unit ≠ ascii '[' ∧
    unit ≠ ascii ',' ∧ unit ≠ ascii ':'

instance (unit : CodeUnit) : Decidable (IsPlain unit) := instDecidableAnd

def IsOutside (state : Scan) : Prop := state = expect ∨ state = after

theorem step_outside {state : Scan} (outside : state.IsOutside) (unit : CodeUnit) :
    state.step unit = state.outside unit := by
  rcases outside with rfl | rfl <;> rfl

theorem step_plain {state : Scan} (isOutside : state.IsOutside) {unit : CodeUnit}
    (plain : IsPlain unit) : state.step unit = some after := by
  rcases plain with ⟨quote, backslash, brace, bracket, comma, colon⟩
  rw [step_outside isOutside]
  simp only [outside, quote, backslash, brace, bracket, comma, colon, or_self, if_false]

theorem step_inside {unit : CodeUnit} (quote : unit ≠ ascii '"')
    (backslash : unit ≠ ascii '\\') : inside.step unit = some inside := by
  rw [step, if_neg quote, if_neg backslash]

theorem run_plain {state : Scan} (isOutside : state.IsOutside) {text : Text}
    (notEmpty : text ≠ []) (plain : ∀ unit ∈ text, IsPlain unit) :
    state.run text = some after := by
  induction text generalizing state with
  | nil => exact absurd rfl notEmpty
  | cons unit rest induction =>
      rcases List.forall_mem_cons.mp plain with ⟨now, later⟩
      refine run_cons (step_plain isOutside now) ?_
      cases rest with
      | nil => rfl
      | cons next more => exact induction (Or.inr rfl) (List.cons_ne_nil _ _) later

theorem run_inside {text : Text}
    (free : ∀ unit ∈ text, unit ≠ ascii '"' ∧ unit ≠ ascii '\\') :
    inside.run text = some inside := by
  induction text with
  | nil => rfl
  | cons unit rest induction =>
      rcases List.forall_mem_cons.mp free with ⟨now, later⟩
      exact run_cons (step_inside now.1 now.2) (induction later)

theorem run_escape {letter : CodeUnit} {text : Text}
    (free : ∀ unit ∈ text, unit ≠ ascii '"' ∧ unit ≠ ascii '\\') :
    inside.run (ascii '\\' :: letter :: text) = some inside := by
  have begins : inside.step (ascii '\\') = some escaped := rfl
  exact run_cons begins (run_cons rfl (run_inside free))

theorem hexDigit_free {value : Nat} (small : value < 0x10) :
    hexDigit value ≠ ascii '"' ∧ hexDigit value ≠ ascii '\\' := by
  interval_cases value <;> decide

theorem run_unicodeEscape (unit : CodeUnit) :
    inside.run (unicodeEscape unit) = some inside := by
  have bounded : unit.val / 0x1000 < 0x10 := by
    have small : unit.val < 65536 := unit.isLt
    generalize unit.val = value at *
    omega
  apply run_escape
  simp only [List.forall_mem_cons]
  exact ⟨hexDigit_free bounded, hexDigit_free (Nat.mod_lt _ (by decide)),
    hexDigit_free (Nat.mod_lt _ (by decide)), hexDigit_free (Nat.mod_lt _ (by decide)),
    fun unit member => by cases member⟩

theorem run_escapeUnit (unit : CodeUnit) : inside.run (escapeUnit unit) = some inside := by
  rw [escapeUnit]
  cases found : shortEscapes.find? fun entry => entry.1 = unit with
  | some entry => exact run_escape fun unit member => by cases member
  | none =>
      have absent := List.find?_eq_none.mp found
      have quote : unit ≠ ascii '"' := by
        rintro rfl
        exact absent (ascii '"', ascii '"') (by decide) (by decide)
      have backslash : unit ≠ ascii '\\' := by
        rintro rfl
        exact absent (ascii '\\', ascii '\\') (by decide) (by decide)
      dsimp only
      split
      · exact run_unicodeEscape unit
      · exact run_inside (List.forall_mem_singleton.mpr ⟨quote, backslash⟩)

theorem run_escapes (text : Text) : inside.run (escape text) = some inside := by
  induction text using Utf8.text_induction with
  | empty => rfl
  | plain unit rest notHigh notLow induction =>
      rw [escape_plain notHigh notLow]
      exact run_trans (run_escapeUnit unit) induction
  | pair high low rest isHigh isLow induction =>
      rcases ne_of_surrogate (Or.inl isHigh) with ⟨highQuote, highBackslash, _⟩
      rcases ne_of_surrogate (Or.inr isLow) with ⟨lowQuote, lowBackslash, _⟩
      rw [escape_pair isHigh isLow]
      exact run_cons (step_inside highQuote highBackslash)
        (run_cons (step_inside lowQuote lowBackslash) induction)
  | lone unit rest lone induction =>
      rw [escape_lone lone]
      exact run_trans (run_unicodeEscape unit) induction

theorem run_quote {state : Scan} (isOutside : state.IsOutside) (text : Text) :
    state.run (quote text) = some after := by
  have begins : state.step (ascii '"') = some inside := by
    rcases isOutside with rfl | rfl <;> rfl
  exact run_cons begins (run_trans (run_escapes text) rfl)

theorem isPlain_numberUnit {unit : CodeUnit} (number : IsNumberUnit unit) : IsPlain unit := by
  rcases number with ⟨low, high⟩ | rfl | rfl | rfl | rfl | rfl
  · have apart : ∀ character : Char, ¬(0x30 ≤ (ascii character).val ∧
        (ascii character).val ≤ 0x39) → unit ≠ ascii character := by
      rintro character outside rfl
      exact outside ⟨low, high⟩
    exact ⟨apart _ (by decide), apart _ (by decide), apart _ (by decide), apart _ (by decide),
      apart _ (by decide), apart _ (by decide)⟩
  all_goals decide

theorem run_join {texts : List Text}
    (each : ∀ text ∈ texts, expect.run text = some after) (notEmpty : texts ≠ []) :
    expect.run (join texts) = some after := by
  induction texts with
  | nil => exact absurd rfl notEmpty
  | cons text rest induction =>
      rcases List.forall_mem_cons.mp each with ⟨now, later⟩
      cases rest with
      | nil => exact now
      | cons next more =>
          have comma : after.step (ascii ',') = some expect := rfl
          exact run_trans now (run_cons comma (induction later (List.cons_ne_nil _ _)))

theorem run_enclosed {opening closing : CodeUnit} {texts : List Text}
    (opens : expect.step opening = some expect) (closesEmpty : expect.step closing = some after)
    (closes : after.step closing = some after)
    (each : ∀ text ∈ texts, expect.run text = some after) :
    expect.run (opening :: (join texts ++ [closing])) = some after := by
  refine run_cons opens ?_
  cases texts with
  | nil => exact run_cons closesEmpty rfl
  | cons text rest =>
      exact run_trans (run_join each (List.cons_ne_nil _ _)) (run_cons closes rfl)

section Values

variable {Number : Type} (format : NumberFormat Number)

mutual

/-- The scan of a printed value ends after a value. -/
theorem run_stringify : ∀ value : Json Number, expect.run (stringify format value) = some after
  | .null | .infinite _ => rfl
  | .bool true => rfl
  | .bool false => rfl
  | .number value => by
      have units := (format.isNumber_print value).units
      refine run_plain (Or.inl rfl) ?_ fun unit member => isPlain_numberUnit (units.1 unit member)
      rcases units.2 with ⟨first, head, _⟩
      intro empty
      rw [stringify] at empty
      rw [empty] at head
      cases head
  | .string value => run_quote (Or.inl rfl) value
  | .array items => run_enclosed rfl rfl rfl (run_stringifyItems items)
  | .object members => run_enclosed rfl rfl rfl (run_stringifyMembers members)

theorem run_stringifyItems : ∀ items : List (Json Number),
    ∀ text ∈ stringifyItems format items, expect.run text = some after
  | [] => fun text member => by cases member
  | item :: rest =>
      List.forall_mem_cons.mpr ⟨run_stringify item, run_stringifyItems rest⟩

theorem run_stringifyMembers : ∀ members : List (Text × Json Number),
    ∀ text ∈ stringifyMembers format members, expect.run text = some after
  | [] => fun text member => by cases member
  | (key, value) :: rest => by
      have colon : after.step (ascii ':') = some expect := rfl
      exact List.forall_mem_cons.mpr ⟨run_trans (run_quote (Or.inl rfl) key)
        (run_cons colon (run_stringify value)), run_stringifyMembers rest⟩

end

end Values

/-! ## A scan that takes strings for what is between them -/

/-- Two scans of one text: what is inside a string for one is outside for the other. -/
def Opposite (first second : Scan) : Prop :=
  first.IsOutside ∧ second = inside ∨ first = inside ∧ second.IsOutside

theorem step_opposite {first firstNext secondNext : Scan} {unit : CodeUnit}
    (isOutside : first.IsOutside) (firstStep : first.step unit = some firstNext)
    (secondStep : inside.step unit = some secondNext) : Opposite firstNext secondNext := by
  rw [step_outside isOutside, outside] at firstStep
  rw [step] at secondStep
  by_cases quote : unit = ascii '"'
  · rw [if_pos quote] at firstStep secondStep
    cases firstStep
    cases secondStep
    exact Or.inr ⟨rfl, Or.inr rfl⟩
  · rw [if_neg quote] at firstStep secondStep
    by_cases backslash : unit = ascii '\\'
    · rw [if_pos backslash] at firstStep
      cases firstStep
    · rw [if_neg backslash] at firstStep secondStep
      cases secondStep
      refine Or.inl ⟨?_, rfl⟩
      split at firstStep
      · split at firstStep
        · exact Or.inl (Option.some.inj firstStep).symm
        · cases firstStep
      · split at firstStep
        · exact Or.inl (Option.some.inj firstStep).symm
        · exact Or.inr (Option.some.inj firstStep).symm

theorem Opposite.symm {first second : Scan} (opposite : Opposite first second) :
    Opposite second first :=
  opposite.elim (fun parts => Or.inr parts.symm) fun parts => Or.inl parts.symm

theorem Opposite.step {first second firstNext secondNext : Scan} {unit : CodeUnit}
    (opposite : Opposite first second) (firstStep : first.step unit = some firstNext)
    (secondStep : second.step unit = some secondNext) : Opposite firstNext secondNext := by
  rcases opposite with ⟨isOutside, rfl⟩ | ⟨rfl, isOutside⟩
  · exact step_opposite isOutside firstStep secondStep
  · exact (step_opposite isOutside secondStep firstStep).symm

theorem Opposite.run {text : Text} {first second firstLast secondLast : Scan}
    (opposite : Opposite first second) (firstRun : first.run text = some firstLast)
    (secondRun : second.run text = some secondLast) : Opposite firstLast secondLast := by
  induction text generalizing first second with
  | nil =>
      cases firstRun
      cases secondRun
      exact opposite
  | cons unit rest induction =>
      rcases Option.bind_eq_some_iff.mp firstRun with ⟨firstNext, firstStep, firstLater⟩
      rcases Option.bind_eq_some_iff.mp secondRun with ⟨secondNext, secondStep, secondLater⟩
      exact induction (opposite.step firstStep secondStep) firstLater secondLater

theorem step_plain_cases {unit : CodeUnit} (plain : IsPlain unit) {state next : Scan}
    (stepped : state.step unit = some next) : next = after ∨ next = inside := by
  cases state with
  | expect =>
      rw [step_plain (Or.inl rfl) plain] at stepped
      exact Or.inl (Option.some.inj stepped).symm
  | after =>
      rw [step_plain (Or.inr rfl) plain] at stepped
      exact Or.inl (Option.some.inj stepped).symm
  | inside =>
      rw [step_inside plain.1 plain.2.1] at stepped
      exact Or.inr (Option.some.inj stepped).symm
  | escaped => exact Or.inr (Option.some.inj stepped).symm

/-- No printed value ends in a printed object that comes after a plain code unit. -/
theorem stringify_ne_append {Number : Type} (format : NumberFormat Number)
    (value : Json Number) (members : List (Text × Json Number)) (front : Text) {last : CodeUnit}
    (plain : IsPlain last) :
    stringify format value ≠ front ++ last :: stringify format (.object members) := by
  intro same
  have whole := run_stringify format value
  have own := run_stringify format (.object members)
  rw [same, run_append] at whole
  rcases Option.bind_eq_some_iff.mp whole with ⟨before, _, later⟩
  rcases Option.bind_eq_some_iff.mp later with ⟨state, stepped, scanned⟩
  rcases step_plain_cases plain stepped with rfl | rfl
  · rw [stringify] at scanned
    cases scanned
  · have opposite : Opposite expect inside := Or.inl ⟨Or.inl rfl, rfl⟩
    rcases opposite.run own scanned with ⟨_, impossible⟩ | ⟨impossible, _⟩
    · cases impossible
    · cases impossible

end Scan

end DshRemote.Json
