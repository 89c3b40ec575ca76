import DshRemote.Foundation.Base64

/-! # ASCII characters in encoded text

An ASCII character is encoded as the one octet of its own number, and that octet stands
for nothing else. So what is cut at an ASCII mark before or after encoding is cut at the
same places. -/

namespace DshRemote.Utf8

/-- The octet of an ASCII character. -/
def octetOf (unit : CodeUnit) : Octet := Fin.ofNat _ unit.val

theorem not_surrogate_of_small {unit : CodeUnit} (small : unit.val < 0x80) :
    ¬IsHigh unit ∧ ¬IsLow unit :=
  ⟨fun high => absurd high.1 (by omega), fun low => absurd low.1 (by omega)⟩

theorem encode_cons_small {unit : CodeUnit} (small : unit.val < 0x80) (rest : Text) :
    encode (unit :: rest) = octetOf unit :: encode rest := by
  rcases not_surrogate_of_small small with ⟨notHigh, notLow⟩
  rw [encode, scalars_plain notHigh notLow, List.flatMap_cons, encodeScalar, if_pos small]
  rfl

theorem encode_append_small {unit : CodeUnit} (small : unit.val < 0x80) (first rest : Text) :
    encode (first ++ unit :: rest) = encode first ++ octetOf unit :: encode rest := by
  have apart : ∀ next ∈ (unit :: rest).head?, ¬IsLow next := by
    rintro next ⟨⟩
    exact (not_surrogate_of_small small).2
  rw [encode_append apart, encode_cons_small small]

theorem encode_of_small {text : Text} (small : ∀ unit ∈ text, unit.val < 0x80) :
    encode text = text.map octetOf := by
  induction text with
  | nil => rfl
  | cons unit rest induction =>
      rcases List.forall_mem_cons.mp small with ⟨now, later⟩
      rw [encode_cons_small now, induction later, List.map_cons]

/-- The encoding of a scalar value has a small octet only as the value itself. -/
theorem mem_encodeScalar {scalar : Nat} (valid : IsScalar scalar) {mark : Octet}
    (small : mark.val < 0x80) : mark ∈ encodeScalar scalar ↔ scalar = mark.val := by
  have bounded : scalar < 0x110000 := by
    rw [IsScalar] at valid
    omega
  have apart {value : Nat} (low : 0x80 ≤ value) (high : value < 256) :
      mark ≠ Fin.ofNat 256 value := by
    intro same
    have equal := congrArg Fin.val same
    rw [Decoder.octet_val high] at equal
    omega
  rw [encodeScalar]
  split
  · next short =>
      rw [List.mem_singleton, Fin.ext_iff, Decoder.octet_val (by omega)]
      exact eq_comm
  · next long =>
      have other : scalar ≠ mark.val := by omega
      simp only [other, iff_false]
      split
      · simp only [List.mem_cons, List.not_mem_nil, or_false, not_or]
        exact ⟨apart (by omega) (by omega), apart (by omega) (by omega)⟩
      · split
        · simp only [List.mem_cons, List.not_mem_nil, or_false, not_or]
          exact ⟨apart (by omega) (by omega), apart (by omega) (by omega),
            apart (by omega) (by omega)⟩
        · simp only [List.mem_cons, List.not_mem_nil, or_false, not_or]
          exact ⟨apart (by omega) (by omega), apart (by omega) (by omega),
            apart (by omega) (by omega), apart (by omega) (by omega)⟩

theorem encodeScalar_ne_nil (scalar : Nat) : encodeScalar scalar ≠ [] := by
  rw [encodeScalar]
  split
  · exact List.cons_ne_nil _ _
  · split
    · exact List.cons_ne_nil _ _
    · split <;> exact List.cons_ne_nil _ _

theorem scalars_ne_nil {text : Text} (someText : text ≠ []) : scalars text ≠ [] := by
  cases text using text_induction with
  | empty => exact absurd rfl someText
  | plain unit rest notHigh notLow _ =>
      rw [scalars_plain notHigh notLow]
      exact List.cons_ne_nil _ _
  | pair high low rest isHigh isLow _ =>
      rw [scalars_pair isHigh isLow]
      exact List.cons_ne_nil _ _
  | lone unit rest lone _ =>
      rw [scalars_lone lone]
      exact List.cons_ne_nil _ _

theorem encode_ne_nil {text : Text} (someText : text ≠ []) : encode text ≠ [] := by
  rw [encode, Ne, List.flatMap_eq_nil_iff]
  intro none
  rcases List.exists_mem_of_ne_nil _ (scalars_ne_nil someText) with ⟨scalar, member⟩
  exact encodeScalar_ne_nil scalar (none scalar member)

/-- A surrogate pair stands for no ASCII character. -/
theorem pairValue_not_small (high low : CodeUnit) : ¬pairValue high low < 0x80 := by
  have above (first second : Nat) : 0x80 ≤ 0x10000 + first + second := by omega
  exact Nat.not_lt.mpr (above _ _)

theorem mem_scalars_small {mark : CodeUnit} (small : mark.val < 0x80) (text : Text) :
    mark.val ∈ scalars text ↔ mark ∈ text := by
  have plainUnit {unit : CodeUnit} : mark.val = unit.val ↔ mark = unit := Fin.ext_iff.symm
  induction text using text_induction with
  | empty => simp [scalars]
  | plain unit rest notHigh notLow induction =>
      have earlier : mark.val ∈ scalars rest ↔ mark ∈ rest := induction
      rw [scalars_plain notHigh notLow, List.mem_cons, List.mem_cons, earlier, plainUnit]
  | pair high low rest isHigh isLow induction =>
      have earlier : mark.val ∈ scalars rest ↔ mark ∈ rest := induction
      have notPair : mark.val ≠ pairValue high low := by
        intro same
        exact pairValue_not_small high low (same ▸ small)
      have notHigh : mark ≠ high := by
        rintro rfl
        exact (not_surrogate_of_small small).1 isHigh
      have notLow : mark ≠ low := by
        rintro rfl
        exact (not_surrogate_of_small small).2 isLow
      rw [scalars_pair isHigh isLow, List.mem_cons, List.mem_cons, List.mem_cons, earlier]
      simp only [notPair, notHigh, notLow, false_or]
  | lone unit rest lone induction =>
      have earlier : mark.val ∈ scalars rest ↔ mark ∈ rest := induction
      have notReplacement : mark.val ≠ replacement := by
        rw [replacement]
        omega
      have notUnit : mark ≠ unit := by
        rintro rfl
        rcases lone with low | ⟨high, _⟩
        · exact (not_surrogate_of_small small).2 low
        · exact (not_surrogate_of_small small).1 high
      rw [scalars_lone lone, List.mem_cons, List.mem_cons, earlier]
      simp only [notReplacement, notUnit, false_or]

theorem mem_encode_small {mark : CodeUnit} (small : mark.val < 0x80) (text : Text) :
    octetOf mark ∈ encode text ↔ mark ∈ text := by
  have markVal : (octetOf mark).val = mark.val := Decoder.octet_val (by omega)
  rw [← mem_scalars_small small, encode, List.mem_flatMap]
  constructor
  · rintro ⟨scalar, member, inside⟩
    have same := (mem_encodeScalar (isScalar_scalars text scalar member) (by omega)).mp inside
    rwa [same, markVal] at member
  · intro member
    refine ⟨mark.val, member, ?_⟩
    rw [mem_encodeScalar (isScalar_scalars text _ member) (by omega), markVal]

theorem getLast_scalars_small {text : Text} {scalar : Nat}
    (last : (scalars text).getLast? = some scalar) (small : scalar < 0x80) :
    ∃ unit, text.getLast? = some unit ∧ unit.val = scalar := by
  have behind {rest : Text} {value : Nat} {unit : CodeUnit}
      (later : (scalars rest).getLast? = some scalar →
        ∃ unit, rest.getLast? = some unit ∧ unit.val = scalar)
      (ends : (value :: scalars rest).getLast? = some scalar)
      (alone : rest = [] → value = scalar → unit.val = scalar) :
      ∃ last, (unit :: rest).getLast? = some last ∧ last.val = scalar := by
    rw [List.getLast?_cons] at ends ⊢
    cases lastValue : (scalars rest).getLast? with
    | none =>
        have noRest : rest = [] := by
          by_contra someRest
          exact scalars_ne_nil someRest (List.getLast?_eq_none_iff.mp lastValue)
        rw [lastValue] at ends
        rw [noRest]
        exact ⟨unit, rfl, alone noRest (Option.some.inj ends)⟩
    | some other =>
        rw [lastValue] at ends
        rcases later (lastValue.trans ends) with ⟨last, isLast, same⟩
        exact ⟨last, by rw [isLast]; rfl, same⟩
  induction text using text_induction with
  | empty => cases last
  | plain unit rest notHigh notLow induction =>
      rw [scalars_plain notHigh notLow] at last
      exact behind induction last fun _ same => same
  | pair high low rest isHigh isLow induction =>
      have notPair : pairValue high low ≠ scalar := by
        rintro rfl
        exact pairValue_not_small high low small
      rw [scalars_pair isHigh isLow] at last
      have ends : ∃ unit, (low :: rest).getLast? = some unit ∧ unit.val = scalar :=
        behind induction last fun _ same => absurd same notPair
      rcases ends with ⟨unit, isLast, same⟩
      exact ⟨unit, by rw [List.getLast?_cons, isLast]; rfl, same⟩
  | lone unit rest lone induction =>
      rw [scalars_lone lone] at last
      have above : 0x80 ≤ replacement := by decide
      exact behind induction last fun _ same => absurd same (by omega)

/-- A text ends in an ASCII character exactly when its octets end in that character's. -/
theorem getLast_encode_small {mark : CodeUnit} (small : mark.val < 0x80) (text : Text) :
    (encode text).getLast? = some (octetOf mark) ↔ text.getLast? = some mark := by
  have markVal : (octetOf mark).val = mark.val := Decoder.octet_val (by omega)
  constructor
  · intro ends
    rcases List.eq_nil_or_concat (scalars text) with none | ⟨earlier, scalar, isLast⟩
    · rw [encode, none] at ends
      cases ends
    · rw [List.concat_eq_append] at isLast
      have inside : octetOf mark ∈ encodeScalar scalar := by
        rw [encode, isLast, List.flatMap_append, List.getLast?_append_of_ne_nil _
          (by simpa using encodeScalar_ne_nil scalar), List.flatMap_singleton] at ends
        exact List.mem_of_getLast? ends
      have valid : IsScalar scalar := isScalar_scalars text scalar (by simp [isLast])
      have same := (mem_encodeScalar valid (by omega)).mp inside
      rcases getLast_scalars_small (by rw [isLast, List.getLast?_concat]) (by omega) with
        ⟨unit, isUnit, value⟩
      rw [isUnit, Fin.ext (value.trans (same.trans markVal))]
  · intro ends
    rcases List.getLast?_eq_some_iff.mp ends with ⟨earlier, rfl⟩
    have nothing : encode [] = [] := by simp [encode, scalars]
    rw [encode_append_small small, nothing, List.getLast?_concat]

theorem textOf_encode_small {text : Text} (small : ∀ unit ∈ text, unit.val < 0x80) :
    TextDecoder.textOf (encode text) = text := by
  have noMark : dropMark (scalars text) = scalars text := by
    cases text with
    | nil => simp [scalars, dropMark]
    | cons unit rest =>
        have unitSmall := small unit List.mem_cons_self
        rcases not_surrogate_of_small unitSmall with ⟨notHigh, notLow⟩
        rw [scalars_plain notHigh notLow, dropMark, if_neg]
        rw [byteOrderMark]
        omega
  rw [TextDecoder.textOf, encode, Decoder.feed_encode (isScalar_scalars text)]
  simp only [noMark]
  exact wellFormed_of_small small

end DshRemote.Utf8

namespace DshRemote.Base64

/-- The letters and the padding are printable characters. -/
def IsPrintable (unit : CodeUnit) : Prop := 0x20 < unit.val ∧ unit.val < 0x7F

theorem isPrintable_letter {sextet : Nat} (small : sextet < 64) : IsPrintable (letter sextet) := by
  have each : ∀ sextet : Fin 64, 0x20 < (letter sextet.val).val ∧
      (letter sextet.val).val < 0x7F := by decide
  exact each ⟨sextet, small⟩

theorem isPrintable_padding : IsPrintable padding := by
  rw [IsPrintable]
  decide

theorem isPrintable_encode (payload : List Octet) : ∀ unit ∈ encode payload, IsPrintable unit := by
  induction payload using encode.induct with
  | case1 => exact fun unit member => (List.not_mem_nil member).elim
  | case2 a =>
      simp only [encode, List.forall_mem_cons]
      exact ⟨isPrintable_letter (by omega), isPrintable_letter (by omega), isPrintable_padding,
        isPrintable_padding, fun unit member => (List.not_mem_nil member).elim⟩
  | case3 a b =>
      simp only [encode, List.forall_mem_cons]
      exact ⟨isPrintable_letter (by omega), isPrintable_letter (by omega),
        isPrintable_letter (by omega), isPrintable_padding,
        fun unit member => (List.not_mem_nil member).elim⟩
  | case4 a b c rest induction =>
      simp only [encode, List.forall_mem_cons]
      exact ⟨isPrintable_letter (by omega), isPrintable_letter (by omega),
        isPrintable_letter (by omega), isPrintable_letter (by omega), induction⟩

end DshRemote.Base64
