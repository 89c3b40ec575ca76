import Mathlib.Algebra.GroupWithZero.Nat
import Mathlib.Data.List.Basic
import Mathlib.Tactic.Common

/-! # Text and its octets

A string of the modelled language is a list of UTF-16 code units, surrogates in pairs or
alone. Its UTF-8 form has a replacement character for each lone surrogate. The decoder
takes one octet at a time, so it may stop and go on anywhere. -/

namespace DshRemote

abbrev Octet := Fin 256

abbrev CodeUnit := Fin 65536

abbrev Text := List CodeUnit

instance Octet.neZero : NeZero 256 := ⟨by decide⟩

instance CodeUnit.neZero : NeZero 65536 := ⟨by decide⟩

instance CodeUnit.lawfulBEq : LawfulBEq CodeUnit := inferInstance

instance Text.lawfulBEq : LawfulBEq Text := inferInstance

namespace Utf8

/-! ## Code units and scalar values -/

def replacement : Nat := 0xFFFD

def IsHigh (unit : CodeUnit) : Prop := 0xD800 ≤ unit.val ∧ unit.val < 0xDC00

def IsLow (unit : CodeUnit) : Prop := 0xDC00 ≤ unit.val ∧ unit.val < 0xE000

instance (unit : CodeUnit) : Decidable (IsHigh unit) := instDecidableAnd

instance (unit : CodeUnit) : Decidable (IsLow unit) := instDecidableAnd

def IsScalar (scalar : Nat) : Prop :=
  scalar < 0xD800 ∨ 0xE000 ≤ scalar ∧ scalar < 0x110000

/-- The scalar value of a surrogate pair. -/
def pairValue (high low : CodeUnit) : Nat :=
  0x10000 + (high.val - 0xD800) * 0x400 + (low.val - 0xDC00)

/-- The scalar values of a text. -/
def scalars : Text → List Nat
  | [] => []
  | [unit] => if IsHigh unit ∨ IsLow unit then [replacement] else [unit.val]
  | unit :: next :: rest =>
      if IsHigh unit then
        if IsLow next then pairValue unit next :: scalars rest
        else replacement :: scalars (next :: rest)
      else if IsLow unit then replacement :: scalars (next :: rest)
      else unit.val :: scalars (next :: rest)

/-- The code units of a scalar value. -/
def units (scalar : Nat) : Text :=
  if scalar < 0x10000 then [Fin.ofNat _ scalar]
  else
    [Fin.ofNat _ (0xD800 + (scalar - 0x10000) / 0x400),
      Fin.ofNat _ (0xDC00 + (scalar - 0x10000) % 0x400)]

/-- `String.prototype.toWellFormed`: every lone surrogate is replaced. -/
def toWellFormed (text : Text) : Text := (scalars text).flatMap units

/-! ## Octets -/

def encodeScalar (scalar : Nat) : List Octet :=
  if scalar < 0x80 then [Fin.ofNat _ scalar]
  else if scalar < 0x800 then
    [Fin.ofNat _ (0xC0 + scalar / 0x40), Fin.ofNat _ (0x80 + scalar % 0x40)]
  else if scalar < 0x10000 then
    [Fin.ofNat _ (0xE0 + scalar / 0x1000), Fin.ofNat _ (0x80 + scalar / 0x40 % 0x40),
      Fin.ofNat _ (0x80 + scalar % 0x40)]
  else
    [Fin.ofNat _ (0xF0 + scalar / 0x40000), Fin.ofNat _ (0x80 + scalar / 0x1000 % 0x40),
      Fin.ofNat _ (0x80 + scalar / 0x40 % 0x40), Fin.ofNat _ (0x80 + scalar % 0x40)]

/-- The UTF-8 octets of a text. -/
def encode (text : Text) : List Octet := (scalars text).flatMap encodeScalar

/-- The decoder between two octets: what it has of a scalar value, how many octets are
missing, and between which bounds the next one has to lie. -/
structure Decoder where
  codePoint : Nat := 0
  missing : Nat := 0
  lower : Nat := 0x80
  upper : Nat := 0xBF
deriving DecidableEq, Repr

namespace Decoder

def idle : Decoder := {}

/-- The first octet of a scalar value, and what the decoder emits. -/
def start (octet : Octet) : Decoder × List Nat :=
  let value := octet.val
  if value < 0x80 then (idle, [value])
  else if 0xC2 ≤ value ∧ value < 0xE0 then
    ({ codePoint := value % 0x20, missing := 1 }, [])
  else if 0xE0 ≤ value ∧ value < 0xF0 then
    ({ codePoint := value % 0x10
       missing := 2
       lower := if value = 0xE0 then 0xA0 else 0x80
       upper := if value = 0xED then 0x9F else 0xBF }, [])
  else if 0xF0 ≤ value ∧ value < 0xF5 then
    ({ codePoint := value % 0x08
       missing := 3
       lower := if value = 0xF0 then 0x90 else 0x80
       upper := if value = 0xF4 then 0x8F else 0xBF }, [])
  else (idle, [replacement])

/-- One octet. An octet out of bounds ends what was begun, and begins anew. -/
def step (decoder : Decoder) (octet : Octet) : Decoder × List Nat :=
  if decoder.missing = 0 then start octet
  else if octet.val < decoder.lower ∨ decoder.upper < octet.val then
    let restarted := start octet
    (restarted.1, replacement :: restarted.2)
  else
    let codePoint := decoder.codePoint * 0x40 + octet.val % 0x40
    if decoder.missing = 1 then (idle, [codePoint])
    else ({ codePoint := codePoint, missing := decoder.missing - 1 }, [])

/-- A chunk of octets. -/
def feed (decoder : Decoder) : List Octet → Decoder × List Nat
  | [] => (decoder, [])
  | octet :: rest =>
      let first := decoder.step octet
      let later := first.1.feed rest
      (later.1, first.2 ++ later.2)

/-- What the end of the stream emits. -/
def finish (decoder : Decoder) : List Nat :=
  if decoder.missing = 0 then [] else [replacement]

end Decoder

/-! ## Decoding what was encoded -/

namespace Decoder

theorem feed_append (decoder : Decoder) (first second : List Octet) :
    decoder.feed (first ++ second) =
      (((decoder.feed first).1.feed second).1,
        (decoder.feed first).2 ++ ((decoder.feed first).1.feed second).2) := by
  induction first generalizing decoder with
  | nil => simp [feed]
  | cons octet rest induction => simp [feed, induction]

theorem octet_val {value : Nat} (small : value < 256) :
    (Fin.ofNat 256 value).val = value := Nat.mod_eq_of_lt small

theorem step_continue {decoder : Decoder} {bits : Nat} (few : bits < 0x40)
    (missing : 1 < decoder.missing) (above : decoder.lower ≤ 0x80 + bits)
    (below : 0x80 + bits ≤ decoder.upper) :
    decoder.step (Fin.ofNat _ (0x80 + bits)) =
      ({ codePoint := decoder.codePoint * 0x40 + bits, missing := decoder.missing - 1 }, []) := by
  have value := octet_val (show 0x80 + bits < 256 by omega)
  have low : (0x80 + bits) % 0x40 = bits := by omega
  simp only [step, value, low]
  rw [if_neg (by omega), if_neg (by omega), if_neg (by omega)]

theorem step_last {decoder : Decoder} {bits : Nat} (few : bits < 0x40)
    (missing : decoder.missing = 1) (above : decoder.lower ≤ 0x80 + bits)
    (below : 0x80 + bits ≤ decoder.upper) :
    decoder.step (Fin.ofNat _ (0x80 + bits)) = (idle, [decoder.codePoint * 0x40 + bits]) := by
  have value := octet_val (show 0x80 + bits < 256 by omega)
  have low : (0x80 + bits) % 0x40 = bits := by omega
  simp only [step, value, low]
  rw [if_neg (by omega), if_neg (by omega), if_pos missing]

theorem step_two {lead : Nat} (above : 2 ≤ lead) (below : lead < 0x20) :
    idle.step (Fin.ofNat _ (0xC0 + lead)) = ({ codePoint := lead, missing := 1 }, []) := by
  have value := octet_val (show 0xC0 + lead < 256 by omega)
  have bits : (0xC0 + lead) % 0x20 = lead := by omega
  simp only [step, idle, start, value, bits, if_true]
  rw [if_neg (by omega), if_pos (by omega)]

theorem step_three {lead : Nat} (below : lead < 0x10) :
    idle.step (Fin.ofNat _ (0xE0 + lead)) =
      ({ codePoint := lead
         missing := 2
         lower := if lead = 0 then 0xA0 else 0x80
         upper := if lead = 0xD then 0x9F else 0xBF }, []) := by
  have value := octet_val (show 0xE0 + lead < 256 by omega)
  have bits : (0xE0 + lead) % 0x10 = lead := by omega
  have least : (0xE0 + lead = 0xE0) = (lead = 0) := by simp
  have surrogate : (0xE0 + lead = 0xED) = (lead = 0xD) := by simp; omega
  simp only [step, idle, start, value, bits, least, surrogate, if_true]
  rw [if_neg (by omega), if_neg (by omega), if_pos (by omega)]

theorem step_four {lead : Nat} (below : lead < 5) :
    idle.step (Fin.ofNat _ (0xF0 + lead)) =
      ({ codePoint := lead
         missing := 3
         lower := if lead = 0 then 0x90 else 0x80
         upper := if lead = 4 then 0x8F else 0xBF }, []) := by
  have value := octet_val (show 0xF0 + lead < 256 by omega)
  have bits : (0xF0 + lead) % 0x08 = lead := by omega
  have least : (0xF0 + lead = 0xF0) = (lead = 0) := by simp
  have greatest : (0xF0 + lead = 0xF4) = (lead = 4) := by simp; omega
  simp only [step, idle, start, value, bits, least, greatest, if_true]
  rw [if_neg (by omega), if_neg (by omega), if_neg (by omega), if_pos (by omega)]

/-- The decoder reads a scalar value from the octets, and emits it with the last one. -/
inductive Reads (scalar : Nat) : Decoder → List Octet → Prop
  | last {decoder : Decoder} {octet : Octet}
      (emits : decoder.step octet = (idle, [scalar])) : Reads scalar decoder [octet]
  | more {decoder next : Decoder} {octet : Octet} {rest : List Octet}
      (waits : decoder.step octet = (next, [])) (missing : next.missing ≠ 0)
      (reads : Reads scalar next rest) : Reads scalar decoder (octet :: rest)

theorem Reads.feed {scalar : Nat} {decoder : Decoder} {octets : List Octet}
    (reads : Reads scalar decoder octets) : decoder.feed octets = (idle, [scalar]) := by
  induction reads with
  | last emits => simp only [Decoder.feed, emits, List.append_nil]
  | more waits _ _ induction =>
      simp only [Decoder.feed, waits, induction, List.nil_append]

theorem Reads.feed_part {scalar : Nat} {decoder : Decoder} {octets part : List Octet}
    (reads : Reads scalar decoder octets) (before : part <+: octets) (shorter : part ≠ octets) :
    (decoder.feed part).2 = [] ∧ (part ≠ [] → (decoder.feed part).1.missing ≠ 0) := by
  induction reads generalizing part with
  | last emits =>
      cases part with
      | nil => exact ⟨rfl, fun nonempty => absurd rfl nonempty⟩
      | cons octet rest =>
          rcases List.cons_prefix_cons.mp before with ⟨rfl, empty⟩
          exact absurd (by rw [List.prefix_nil.mp empty]) shorter
  | more waits missing _ induction =>
      cases part with
      | nil => exact ⟨rfl, fun nonempty => absurd rfl nonempty⟩
      | cons octet rest =>
          rcases List.cons_prefix_cons.mp before with ⟨rfl, restBefore⟩
          have restShorter : rest ≠ _ := fun same => shorter (by rw [same])
          rcases induction restBefore restShorter with ⟨silent, waiting⟩
          simp only [Decoder.feed, waits, silent, List.nil_append, true_and]
          intro _
          cases rest with
          | nil => exact missing
          | cons next more => exact waiting (List.cons_ne_nil _ _)

/-- The octets of a scalar value are one that begins it, and continuation octets within
the bounds that the first one sets. -/
theorem reads_encodeScalar {scalar : Nat} (valid : IsScalar scalar) :
    Reads scalar idle (encodeScalar scalar) := by
  rw [IsScalar] at valid
  by_cases one : scalar < 0x80
  · rw [encodeScalar, if_pos one]
    refine .last ?_
    simp only [step, idle, start, octet_val (show scalar < 256 by omega), if_true]
    rw [if_pos one]
  · by_cases two : scalar < 0x800
    · rw [encodeScalar, if_neg one, if_pos two]
      refine .more (step_two (by omega) (by omega)) (by simp) (.last ?_)
      rw [step_last (by omega) rfl (by dsimp only; omega) (by dsimp only; omega)]
      simp only [Prod.mk.injEq, List.cons.injEq, true_and, and_true]
      omega
    · by_cases three : scalar < 0x10000
      · rw [encodeScalar, if_neg one, if_neg two, if_pos three]
        refine .more (step_three (by omega)) (by simp) (.more (step_continue (by omega) (by simp)
          (by dsimp only; split <;> omega) (by dsimp only; split <;> omega)) (by simp) (.last ?_))
        rw [step_last (by omega) rfl (by dsimp only; omega) (by dsimp only; omega)]
        simp only [Prod.mk.injEq, List.cons.injEq, true_and, and_true]
        omega
      · rw [encodeScalar, if_neg one, if_neg two, if_neg three]
        refine .more (step_four (by omega)) (by simp) (.more (step_continue (by omega) (by simp)
          (by dsimp only; split <;> omega) (by dsimp only; split <;> omega)) (by simp)
          (.more (step_continue (by omega) (by simp) (by dsimp only; omega) (by dsimp only; omega))
            (by simp) (.last ?_)))
        rw [step_last (by omega) rfl (by dsimp only; omega) (by dsimp only; omega)]
        simp only [Prod.mk.injEq, List.cons.injEq, true_and, and_true]
        omega

/-- The decoder gives back what was encoded, and waits for nothing more. -/
theorem feed_encode {values : List Nat} (valid : ∀ scalar ∈ values, IsScalar scalar) :
    idle.feed (values.flatMap encodeScalar) = (idle, values) := by
  induction values with
  | nil => rfl
  | cons scalar rest induction =>
      rw [List.flatMap_cons, feed_append, (reads_encodeScalar (valid scalar (by simp))).feed,
        induction fun other member => valid other (List.mem_cons_of_mem _ member)]
      rfl

end Decoder

theorem encodeScalar_injective {left right : List Nat}
    (leftValid : ∀ scalar ∈ left, IsScalar scalar)
    (rightValid : ∀ scalar ∈ right, IsScalar scalar)
    (same : left.flatMap encodeScalar = right.flatMap encodeScalar) : left = right := by
  have decoded := congrArg Decoder.idle.feed same
  rw [Decoder.feed_encode leftValid, Decoder.feed_encode rightValid] at decoded
  exact congrArg Prod.snd decoded

/-- A part of an encoded text is the encoding of its first values, and a part of the next. -/
theorem exists_of_prefix_encode {values : List Nat} {part : List Octet}
    (before : part <+: values.flatMap encodeScalar) :
    ∃ first rest begun, values = first ++ rest ∧ part = first.flatMap encodeScalar ++ begun ∧
      (begun = [] ∨ ∃ scalar later, rest = scalar :: later ∧ begun <+: encodeScalar scalar ∧
        begun ≠ encodeScalar scalar) := by
  induction values generalizing part with
  | nil => exact ⟨[], [], [], rfl, by simpa using before, Or.inl rfl⟩
  | cons scalar later induction =>
      rw [List.flatMap_cons] at before
      rcases before with ⟨missing, whole⟩
      rcases List.append_eq_append_iff.mp whole with ⟨owed, encoded, _⟩ | ⟨more, rfl, laterSplit⟩
      · by_cases done : part = encodeScalar scalar
        · exact ⟨[scalar], later, [], rfl, by simp [done], Or.inl rfl⟩
        · exact ⟨[], scalar :: later, part, rfl, rfl,
            Or.inr ⟨scalar, later, rfl, ⟨owed, encoded.symm⟩, done⟩⟩
      · rcases induction ⟨missing, laterSplit.symm⟩ with ⟨first, rest, begun, rfl, rfl, ends⟩
        exact ⟨scalar :: first, rest, begun, rfl, by simp, ends⟩

/-! ## Well-formed text -/

theorem isScalar_replacement : IsScalar replacement := by
  rw [IsScalar, replacement]
  omega

theorem isScalar_pairValue {high low : CodeUnit} (isHigh : IsHigh high) (isLow : IsLow low) :
    IsScalar (pairValue high low) := by
  unfold IsHigh at isHigh
  unfold IsLow at isLow
  unfold IsScalar pairValue
  generalize high.val = first at *
  generalize low.val = second at *
  omega

theorem isScalar_unit {unit : CodeUnit} (notHigh : ¬IsHigh unit) (notLow : ¬IsLow unit) :
    IsScalar unit.val := by
  rw [IsHigh] at notHigh
  rw [IsLow] at notLow
  have bounded := unit.isLt
  rw [IsScalar]
  omega

/-- A surrogate without its other half: a low one, or a high one that no low one follows. -/
def IsLone (unit : CodeUnit) (rest : Text) : Prop :=
  IsLow unit ∨ IsHigh unit ∧ ∀ next ∈ rest.head?, ¬IsLow next

theorem not_low_of_high {unit : CodeUnit} (high : IsHigh unit) : ¬IsLow unit := by
  rw [IsHigh] at high
  rw [IsLow]
  omega

theorem scalars_plain {unit : CodeUnit} (notHigh : ¬IsHigh unit) (notLow : ¬IsLow unit)
    (rest : Text) : scalars (unit :: rest) = unit.val :: scalars rest := by
  cases rest with
  | nil => simp only [scalars, notHigh, notLow, or_self, if_false]
  | cons next more => simp only [scalars, notHigh, notLow, if_false]

theorem scalars_pair {high low : CodeUnit} (isHigh : IsHigh high) (isLow : IsLow low)
    (rest : Text) : scalars (high :: low :: rest) = pairValue high low :: scalars rest := by
  simp only [scalars, isHigh, isLow, if_true]

theorem scalars_lone {unit : CodeUnit} {rest : Text} (lone : IsLone unit rest) :
    scalars (unit :: rest) = replacement :: scalars rest := by
  rcases lone with low | ⟨high, notFollowed⟩
  · have notHigh : ¬IsHigh unit := fun high => not_low_of_high high low
    cases rest with
    | nil => simp only [scalars, low, or_true, if_true]
    | cons next more => simp only [scalars, notHigh, low, if_false, if_true]
  · cases rest with
    | nil => simp only [scalars, high, true_or, if_true]
    | cons next more =>
        have notLow := notFollowed next rfl
        simp only [scalars, high, notLow, if_false, if_true]

/-- A text is read unit by unit, a surrogate pair at once. -/
theorem text_induction {motive : Text → Prop} (empty : motive [])
    (plain : ∀ unit rest, ¬IsHigh unit → ¬IsLow unit → motive rest → motive (unit :: rest))
    (pair : ∀ high low rest, IsHigh high → IsLow low → motive rest →
      motive (high :: low :: rest))
    (lone : ∀ unit rest, IsLone unit rest → motive rest → motive (unit :: rest)) :
    ∀ text, motive text
  | [] => empty
  | [unit] => by
      by_cases low : IsLow unit
      · exact lone unit [] (Or.inl low) empty
      · by_cases high : IsHigh unit
        · exact lone unit [] (Or.inr ⟨high, fun next none => by cases none⟩) empty
        · exact plain unit [] high low empty
  | unit :: next :: rest => by
      have later := text_induction empty plain pair lone (next :: rest)
      by_cases low : IsLow unit
      · exact lone unit _ (Or.inl low) later
      · by_cases high : IsHigh unit
        · by_cases followed : IsLow next
          · exact pair unit next rest high followed
              (text_induction empty plain pair lone rest)
          · refine lone unit _ (Or.inr ⟨high, fun other head => ?_⟩) later
            cases head
            exact followed
        · exact plain unit _ high low later

theorem isScalar_scalars (text : Text) : ∀ scalar ∈ scalars text, IsScalar scalar := by
  induction text using text_induction with
  | empty =>
      rw [scalars]
      exact fun scalar member => absurd member List.not_mem_nil
  | plain unit rest notHigh notLow induction =>
      rw [scalars_plain notHigh notLow]
      exact List.forall_mem_cons.mpr ⟨isScalar_unit notHigh notLow, induction⟩
  | pair high low rest isHigh isLow induction =>
      rw [scalars_pair isHigh isLow]
      exact List.forall_mem_cons.mpr ⟨isScalar_pairValue isHigh isLow, induction⟩
  | lone unit rest lone induction =>
      rw [scalars_lone lone]
      exact List.forall_mem_cons.mpr ⟨isScalar_replacement, induction⟩

theorem scalars_append {first second : Text} (apart : ∀ unit ∈ second.head?, ¬IsLow unit) :
    scalars (first ++ second) = scalars first ++ scalars second := by
  induction first using text_induction with
  | empty => rfl
  | plain unit rest notHigh notLow induction =>
      rw [List.cons_append, scalars_plain notHigh notLow, scalars_plain notHigh notLow, induction]
      rfl
  | pair high low rest isHigh isLow induction =>
      rw [List.cons_append, List.cons_append, scalars_pair isHigh isLow,
        scalars_pair isHigh isLow, induction]
      rfl
  | lone unit rest lone induction =>
      have still : IsLone unit (rest ++ second) := by
        rcases lone with low | ⟨high, notFollowed⟩
        · exact Or.inl low
        · refine Or.inr ⟨high, ?_⟩
          cases rest with
          | nil => exact apart
          | cons next more => exact notFollowed
      rw [List.cons_append, scalars_lone still, scalars_lone lone, induction]
      rfl

theorem unit_val {value : Nat} (small : value < 65536) :
    (Fin.ofNat 65536 value).val = value := Nat.mod_eq_of_lt small

theorem scalars_units {scalar : Nat} (valid : IsScalar scalar) (rest : Text) :
    scalars (units scalar ++ rest) = scalar :: scalars rest := by
  unfold IsScalar at valid
  by_cases small : scalar < 0x10000
  · have value := unit_val small
    rw [units, if_pos small, List.singleton_append, scalars_plain ?_ ?_, value]
    · rw [IsHigh, value]
      omega
    · rw [IsLow, value]
      omega
  · have high := unit_val (show 0xD800 + (scalar - 0x10000) / 0x400 < 65536 by omega)
    have low := unit_val (show 0xDC00 + (scalar - 0x10000) % 0x400 < 65536 by omega)
    have isHigh : IsHigh (Fin.ofNat 65536 (0xD800 + (scalar - 0x10000) / 0x400)) := by
      rw [IsHigh, high]
      omega
    have isLow : IsLow (Fin.ofNat 65536 (0xDC00 + (scalar - 0x10000) % 0x400)) := by
      rw [IsLow, low]
      omega
    have value : pairValue (Fin.ofNat 65536 (0xD800 + (scalar - 0x10000) / 0x400))
        (Fin.ofNat 65536 (0xDC00 + (scalar - 0x10000) % 0x400)) = scalar := by
      unfold pairValue
      rw [high, low]
      omega
    rw [units, if_neg small, List.cons_append, List.singleton_append,
      scalars_pair isHigh isLow, value]

theorem scalars_flatMap_units {values : List Nat} (valid : ∀ scalar ∈ values, IsScalar scalar) :
    scalars (values.flatMap units) = values := by
  induction values with
  | nil => rfl
  | cons scalar rest induction =>
      rw [List.flatMap_cons, scalars_units (valid scalar List.mem_cons_self),
        induction fun other member => valid other (List.mem_cons_of_mem _ member)]

/-- A text without lone surrogates. -/
def WellFormed (text : Text) : Prop := toWellFormed text = text

theorem wellFormed_flatMap_units {values : List Nat}
    (valid : ∀ scalar ∈ values, IsScalar scalar) : WellFormed (values.flatMap units) := by
  rw [WellFormed, toWellFormed, scalars_flatMap_units valid]

theorem WellFormed.head {text : Text} (wellFormed : WellFormed text) :
    ∀ unit ∈ text.head?, ¬IsLow unit := by
  intro unit head low
  cases text with
  | nil => cases head
  | cons first rest =>
      cases head
      rw [WellFormed, toWellFormed, scalars_lone (Or.inl low), List.flatMap_cons] at wellFormed
      have small : replacement < 0x10000 := by
        rw [replacement]
        omega
      rw [units, if_pos small, List.singleton_append] at wellFormed
      have same := congrArg Fin.val (List.cons.inj wellFormed).1
      have value : (Fin.ofNat 65536 replacement).val = replacement := Nat.mod_eq_of_lt small
      rw [value, replacement] at same
      rw [IsLow] at low
      omega

theorem WellFormed.append {first second : Text} (firstFormed : WellFormed first)
    (secondFormed : WellFormed second) : WellFormed (first ++ second) := by
  rw [WellFormed, toWellFormed, scalars_append secondFormed.head, List.flatMap_append]
  exact congrArg₂ _ firstFormed secondFormed

theorem wellFormed_nil : WellFormed [] := rfl

theorem wellFormed_unit {unit : CodeUnit} (notHigh : ¬IsHigh unit) (notLow : ¬IsLow unit) :
    WellFormed [unit] := by
  have units_val : units unit.val = [unit] := by
    rw [units, if_pos unit.isLt, Fin.ofNat_val_eq_self]
  rw [WellFormed, toWellFormed, scalars_plain notHigh notLow, List.flatMap_cons, units_val]
  rfl

theorem wellFormed_of_small {text : Text} (small : ∀ unit ∈ text, unit.val < 0x80) :
    WellFormed text := by
  induction text with
  | nil => exact wellFormed_nil
  | cons unit rest induction =>
      rcases List.forall_mem_cons.mp small with ⟨now, later⟩
      have notHigh : ¬IsHigh unit := fun high => absurd high.1 (by omega)
      have notLow : ¬IsLow unit := fun low => absurd low.1 (by omega)
      exact (wellFormed_unit notHigh notLow).append (induction later)

theorem units_pairValue {high low : CodeUnit} (isHigh : IsHigh high) (isLow : IsLow low) :
    units (pairValue high low) = [high, low] := by
  have parts : ¬pairValue high low < 0x10000 ∧
      0xD800 + (pairValue high low - 0x10000) / 0x400 = high.val ∧
        0xDC00 + (pairValue high low - 0x10000) % 0x400 = low.val := by
    unfold IsHigh at isHigh
    unfold IsLow at isLow
    unfold pairValue
    generalize high.val = first at *
    generalize low.val = second at *
    omega
  rw [units, if_neg parts.1, parts.2.1, parts.2.2, Fin.ofNat_val_eq_self, Fin.ofNat_val_eq_self]

theorem wellFormed_pair {high low : CodeUnit} (isHigh : IsHigh high) (isLow : IsLow low) :
    WellFormed [high, low] := by
  rw [WellFormed, toWellFormed, scalars_pair isHigh isLow, List.flatMap_cons,
    units_pairValue isHigh isLow]
  rfl

/-! ## The octets of a text -/

theorem encode_append {first second : Text} (apart : ∀ unit ∈ second.head?, ¬IsLow unit) :
    encode (first ++ second) = encode first ++ encode second := by
  rw [encode, scalars_append apart, List.flatMap_append]
  rfl

theorem toWellFormed_append {first second : Text} (apart : ∀ unit ∈ second.head?, ¬IsLow unit) :
    toWellFormed (first ++ second) = toWellFormed first ++ toWellFormed second := by
  rw [toWellFormed, scalars_append apart, List.flatMap_append]
  rfl

/-- Two texts have the same octets exactly when they are the same up to lone surrogates. -/
theorem encode_eq_iff {first second : Text} :
    encode first = encode second ↔ toWellFormed first = toWellFormed second := by
  constructor
  · intro same
    rw [toWellFormed, toWellFormed, encodeScalar_injective (isScalar_scalars first)
      (isScalar_scalars second) same]
  · intro same
    have values := congrArg scalars same
    rw [toWellFormed, toWellFormed, scalars_flatMap_units (isScalar_scalars first),
      scalars_flatMap_units (isScalar_scalars second)] at values
    rw [encode, encode, values]

theorem toWellFormed_cons {unit : CodeUnit} {rest : Text} (scalar : Nat)
    (values : scalars (unit :: rest) = scalar :: scalars rest) :
    toWellFormed (unit :: rest) = units scalar ++ toWellFormed rest := by
  rw [toWellFormed, values, List.flatMap_cons]
  rfl

/-- A text that becomes ASCII text was that text before. -/
theorem toWellFormed_eq_of_small {text : Text}
    (small : ∀ unit ∈ toWellFormed text, unit.val < 0x80) : toWellFormed text = text := by
  induction text using text_induction with
  | empty => rfl
  | plain unit rest notHigh notLow induction =>
      have units_val : units unit.val = [unit] := by
        rw [units, if_pos unit.isLt, Fin.ofNat_val_eq_self]
      rw [toWellFormed_cons unit.val (scalars_plain notHigh notLow rest), units_val] at small ⊢
      rw [induction fun other member => small other (List.mem_append_right _ member)]
      rfl
  | pair high low rest isHigh isLow induction =>
      have text : toWellFormed (high :: low :: rest) = high :: low :: toWellFormed rest := by
        rw [toWellFormed, scalars_pair isHigh isLow, List.flatMap_cons,
          units_pairValue isHigh isLow]
        rfl
      rw [text] at small
      have tooSmall := small high List.mem_cons_self
      exact absurd isHigh.1 (by omega)
  | lone unit rest lone induction =>
      rw [toWellFormed_cons replacement (scalars_lone lone)] at small
      have tooSmall := small (Fin.ofNat _ replacement) (List.mem_append_left _ (by decide))
      exact absurd tooSmall (by decide)

theorem encode_eq_of_small {first second : Text} (small : ∀ unit ∈ second, unit.val < 0x80)
    (same : encode first = encode second) : first = second := by
  have formed : toWellFormed second = second := wellFormed_of_small small
  have equal := (encode_eq_iff.mp same).trans formed
  rw [← equal]
  exact (toWellFormed_eq_of_small (by rw [equal]; exact small)).symm

theorem encode_flatMap_units {values : List Nat} (valid : ∀ scalar ∈ values, IsScalar scalar) :
    encode (values.flatMap units) = values.flatMap encodeScalar := by
  rw [encode, scalars_flatMap_units valid]

/-! ## Text from a stream of octets -/

/-- `buffer.toString('utf8')`. -/
def bufferText (octets : List Octet) : Text :=
  let fed := Decoder.idle.feed octets
  (fed.2 ++ fed.1.finish).flatMap units

def byteOrderMark : Nat := 0xFEFF

/-- A byte order mark at the beginning of a stream is no part of its text. -/
def dropMark : List Nat → List Nat
  | [] => []
  | scalar :: rest => if scalar = byteOrderMark then rest else scalar :: rest

/-- `TextDecoder`, for UTF-8 and not fatal. -/
structure TextDecoder where
  decoder : Decoder := Decoder.idle
  /-- The first scalar value of the stream has been seen. -/
  bomSeen : Bool := false

namespace TextDecoder

/-- `decode`. The end of a stream makes the decoder ready for another one. -/
def decode (self : TextDecoder) (octets : List Octet) (stream : Bool) : TextDecoder × Text :=
  let fed := self.decoder.feed octets
  let values := if stream then fed.2 else fed.2 ++ fed.1.finish
  let text := (if self.bomSeen then values else dropMark values).flatMap units
  (if stream then { decoder := fed.1, bomSeen := self.bomSeen || !values.isEmpty } else {}, text)

/-- The decoder after a part of a stream. -/
def after (octets : List Octet) : TextDecoder where
  decoder := (Decoder.idle.feed octets).1
  bomSeen := !(Decoder.idle.feed octets).2.isEmpty

/-- The text of a part of a stream. -/
def textOf (octets : List Octet) : Text := (dropMark (Decoder.idle.feed octets).2).flatMap units

/-- However a stream is divided into chunks, the same text comes out. -/
theorem decode_after (octets chunk : List Octet) :
    ((after octets).decode chunk true).1 = after (octets ++ chunk) ∧
      textOf (octets ++ chunk) = textOf octets ++ ((after octets).decode chunk true).2 := by
  constructor
  · rw [decode, after, after, Decoder.feed_append]
    simp only [if_true]
    congr 1
    cases (Decoder.idle.feed octets).2 with
    | nil => rfl
    | cons scalar rest => rfl
  · rw [textOf, textOf, decode, Decoder.feed_append]
    simp only [after, if_true]
    cases (Decoder.idle.feed octets).2 with
    | nil => rfl
    | cons scalar rest =>
        simp only [List.isEmpty_cons, Bool.not_false, if_true, List.cons_append, dropMark]
        split
        · exact List.flatMap_append
        · rw [← List.cons_append, List.flatMap_append]

theorem textOf_append (octets later : List Octet) :
    ∃ more, textOf (octets ++ later) = textOf octets ++ more :=
  ⟨_, (decode_after octets later).2⟩

/-- Nothing is missing at the end of an encoded text. -/
theorem decode_end (text : Text) : ((after (encode text)).decode [] false).2 = [] := by
  rw [decode, after, encode, Decoder.feed_encode (isScalar_scalars text)]
  cases scalars text with
  | nil => rfl
  | cons scalar rest => rfl

end TextDecoder

end Utf8

end DshRemote
