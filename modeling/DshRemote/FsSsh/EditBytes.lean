import DshRemote.FsSsh.LineEndings

/-! # The octets of an edited file

An edit goes from octets to text and back. What should come out of it is said on the octets:
those outside the matches as they were, and the new text between them. -/

namespace DshRemote.FsSsh

open Utf8 (WellFormed encode encodeScalar bufferText values IsLow)

/-! ## Octets and their text -/

def mark : List Octet := [0xEF, 0xBB, 0xBF]

/-- A byte order mark that the octets begin with, and what stands behind it. -/
def splitMark (octets : List Octet) : List Octet × List Octet :=
  if octets.take 3 = mark then (mark, octets.drop 3) else ([], octets)

theorem values_mark (octets : List Octet) :
    values (mark ++ octets) = Utf8.byteOrderMark :: values octets := by
  have marked : Utf8.Decoder.idle.feed mark = (Utf8.Decoder.idle, [Utf8.byteOrderMark]) := by
    decide
  rw [values, Utf8.Decoder.feed_append, marked]
  rfl

theorem take_of_values_mark {octets : List Octet} {rest : List Nat}
    (marked : values octets = Utf8.byteOrderMark :: rest) : octets.take 3 = mark := by
  rcases Utf8.values_pieces octets with ⟨pieces, isValues, isOctets, sound⟩
  rw [marked] at isValues
  cases pieces with
  | nil => cases isValues
  | cons piece pieces =>
      have isMark : Utf8.byteOrderMark = piece.value := (List.cons.inj isValues).1
      rcases sound piece List.mem_cons_self with ⟨-, own⟩ | ⟨replaced, -⟩
      · have isOwn : piece.octets = mark := by
          rw [← own, ← isMark]
          decide
        rw [isOctets, List.flatMap_cons, isOwn]
        rfl
      · rw [← isMark] at replaced
        exact absurd replaced (by decide)

/-- A decoder leaves out a byte order mark. -/
theorem decode_eq (octets : List Octet) :
    (Utf8.TextDecoder.decode {} octets false).2 = bufferText (splitMark octets).2 := by
  have decoded : (Utf8.TextDecoder.decode {} octets false).2 =
      (Utf8.dropMark (values octets)).flatMap Utf8.units := rfl
  rw [decoded, splitMark, Utf8.bufferText_eq]
  refine congrArg (List.flatMap Utf8.units) ?_
  split
  · next marked =>
      have whole := List.take_append_drop 3 octets
      rw [marked] at whole
      dsimp only
      generalize octets.drop 3 = rest at whole ⊢
      rw [← whole, values_mark, Utf8.dropMark, if_pos rfl]
  · next unmarked =>
      dsimp only
      cases isValues : values octets with
      | nil => rfl
      | cons value rest =>
          have other : value ≠ Utf8.byteOrderMark := by
            rintro rfl
            exact unmarked (take_of_values_mark isValues)
          rw [Utf8.dropMark, if_neg other]

theorem wellFormed_bufferText (octets : List Octet) : WellFormed (bufferText octets) := by
  rw [Utf8.bufferText_eq]
  exact Utf8.wellFormed_flatMap_units (Utf8.isScalar_values octets)

theorem bufferText_encode {text : Text} (formed : WellFormed text) :
    bufferText (encode text) = text := by
  rw [bufferText, encode, Utf8.Decoder.feed_encode (Utf8.isScalar_scalars text)]
  dsimp only [Utf8.Decoder.finish, Utf8.Decoder.idle]
  rw [if_pos rfl, List.append_nil]
  exact formed

theorem eq_nil_of_encode {text : Text} (formed : WellFormed text) (empty : encode text = []) :
    text = [] := by
  rw [← bufferText_encode formed, empty]
  rfl

/-- A well-formed text is read by itself, whatever stands behind it. -/
theorem encode_append_formed {first : Text} (formed : WellFormed first) (second : Text) :
    encode (first ++ second) = encode first ++ encode second := by
  refine wellFormed_induction
    (motive := fun first => encode (first ++ second) = encode first ++ encode second) ?empty ?plain
    ?pair first formed
  case empty => rfl
  case plain =>
    intro unit rest notHigh notLow induction
    rw [encode, List.cons_append, Utf8.scalars_plain notHigh notLow, encode,
      Utf8.scalars_plain notHigh notLow, List.flatMap_cons, List.flatMap_cons, List.append_assoc]
    exact congrArg (encodeScalar unit.val ++ ·) induction
  case pair =>
    intro high low rest isHigh isLow induction
    rw [encode, List.cons_append, List.cons_append, Utf8.scalars_pair isHigh isLow, encode,
      Utf8.scalars_pair isHigh isLow, List.flatMap_cons, List.flatMap_cons, List.append_assoc]
    exact congrArg (encodeScalar (Utf8.pairValue high low) ++ ·) induction

/-! ## Octets that grow -/

/-- There are no fewer octets afterwards, and of those in the middle of a byte order mark no
more. -/
structure Grows (before after : List Octet) : Prop where
  length : before.length ≤ after.length
  marks : after.count 0xBB ≤ before.count 0xBB

namespace Grows

variable {before after first second : List Octet}

theorem append (grows : Grows before after) (more : Grows first second) :
    Grows (before ++ first) (after ++ second) := by
  have lengths := Nat.add_le_add grows.length more.length
  have marks := Nat.add_le_add grows.marks more.marks
  constructor
  · rwa [List.length_append, List.length_append]
  · rwa [List.count_append, List.count_append]

theorem trans {last : List Octet} (grows : Grows before after) (more : Grows after last) :
    Grows before last :=
  ⟨Nat.le_trans grows.length more.length, Nat.le_trans more.marks grows.marks⟩

theorem ne_nil (grows : Grows before after) (notEmpty : before ≠ []) : after ≠ [] := by
  rintro rfl
  exact notEmpty (List.length_eq_zero_iff.mp (Nat.le_zero.mp grows.length))

theorem append_inj (grows : Grows before after) (more : Grows first second)
    (same : before ++ first = after ++ second) : before = after ∧ first = second := by
  have lengths := congrArg List.length same
  rw [List.length_append, List.length_append] at lengths
  have here := grows.length
  have there := more.length
  exact List.append_inj same (by omega)

theorem not_marked (grows : Grows before after) : mark ++ before ≠ after := by
  rintro rfl
  have marks := grows.marks
  have one : mark.count 0xBB = 1 := by decide
  rw [List.count_append, one] at marks
  omega

end Grows

theorem grows_of_sound {piece : Utf8.Piece} (sound : piece.Sound) :
    Grows piece.octets (encodeScalar piece.value) := by
  rcases sound with ⟨-, own⟩ | ⟨replaced, few⟩
  · rw [own]
    exact ⟨Nat.le_refl _, Nat.le_refl _⟩
  · have encoded : encodeScalar Utf8.replacement = [0xEF, 0xBF, 0xBD] := by decide
    rw [replaced, encoded]
    exact ⟨few, Nat.zero_le _⟩

/-- Octets that stand for no character are replaced by no fewer. -/
theorem grows_encode_bufferText (octets : List Octet) :
    Grows octets (encode (bufferText octets)) := by
  rw [Utf8.bufferText_eq, Utf8.encode_flatMap_units (Utf8.isScalar_values octets)]
  rcases Utf8.values_pieces octets with ⟨pieces, isValues, isOctets, sound⟩
  rw [isValues, isOctets]
  clear isValues isOctets
  induction pieces with
  | nil => exact ⟨Nat.le_refl _, Nat.le_refl _⟩
  | cons piece pieces induction =>
      rcases List.forall_mem_cons.mp sound with ⟨now, later⟩
      exact (grows_of_sound now).append (induction later)

namespace Sheds

variable {count : Nat} {text thinner : Text}

theorem grows (sheds : Sheds count text thinner) : Grows (encode thinner) (encode text) := by
  have perm := sheds.perm
  constructor
  · rw [perm.length_eq, List.length_append]
    omega
  · have none : (List.replicate count (0x0D : Octet)).count 0xBB = 0 :=
      List.count_eq_zero.mpr fun member =>
        absurd (List.eq_of_mem_replicate member) (by decide)
    rw [perm.count_eq, List.count_append, none, Nat.zero_add]

theorem none_of_encode (sheds : Sheds count text thinner) (same : encode thinner = encode text) :
    count = 0 := by
  have lengths := sheds.perm.length_eq
  rw [same, List.length_append, List.length_replicate] at lengths
  omega

end Sheds

/-! ## The parts of an edited file -/

/-- The texts outside the matches of an edit. -/
def cuts (edit : FsEditRequest) (text : Text) : List Text :=
  if edit.replaceAll then splitLiteral edit.oldString text.length text
  else
    match indexOf edit.oldString text with
    | none => [text]
    | some start => [text.take start, text.drop (start + edit.oldString.length)]

/-- The parts outside the matches, with those of the matches between them. -/
def alternate : List (List Octet) → List (List Octet) → List (List Octet)
  | outside :: rest, matched :: more => outside :: matched :: alternate rest more
  | outside, _ => outside

/-- The octets fall into the matches of the edit and what is outside of them. -/
structure Matches (edit : FsEditRequest) (octets : List Octet)
    (outside matched : List (List Octet)) : Prop where
  count : outside.length = matched.length + 1
  octets_eq : octets = (alternate outside matched).flatten
  text_eq : (alternate outside matched).flatMap bufferText = bufferText octets
  outside_eq : (outside.map fun part => normalizeLf (bufferText part)) =
    cuts edit (normalizeLf (bufferText octets))
  matched_eq : ∀ part ∈ matched, normalizeLf (bufferText part) = edit.oldString

/-- The parts, with a text inserted between them. Texts with nothing between them are encoded
as one. -/
def filled (inserted : Text) : Text → List (List Octet) → List Octet
  | pending, [] => encode pending
  | pending, [last] => encode pending ++ last
  | pending, part :: next :: rest =>
      if part = [] then filled inserted (pending ++ inserted) (next :: rest)
      else encode pending ++ (part ++ filled inserted inserted (next :: rest))

/-- A text in a style of line endings. -/
def styled (crlf : Bool) (text : Text) : Text := if crlf then toCrlf text else text

/-- What is stored is the original with the new text in the place of each match, in the style
of the file, and every octet outside as it was. -/
def Preserves (edit : FsEditRequest) (octets stored : List Octet) : Prop :=
  let own := splitMark octets
  ∃ outside matched, Matches edit own.2 outside matched ∧
    stored = own.1 ++
      filled (styled (hasCrlf (bufferText own.2)) (normalizeLf edit.newString)) [] outside

/-- The octets have no byte order mark, the new text has the line endings of a text in memory,
and what is outside the matches is UTF-8, in one style if there is any of the long line
endings. -/
def Restorable (edit : FsEditRequest) (octets : List Octet) : Prop :=
  octets.take 3 ≠ mark ∧ hasCrlf edit.newString = false ∧
    ∃ outside matched, Matches edit octets outside matched ∧
      ∀ part ∈ outside, encode (bufferText part) = part ∧
        (hasCrlf (bufferText octets) = true → NoBareLf (bufferText part))

theorem mem_alternate {outside : List (List Octet)} (matched : List (List Octet))
    {part : List Octet} (member : part ∈ outside) : part ∈ alternate outside matched := by
  induction outside generalizing matched with
  | nil => cases member
  | cons first rest induction =>
      cases matched with
      | nil => exact member
      | cons here more =>
          rw [alternate]
          rcases List.mem_cons.mp member with rfl | later
          · exact List.mem_cons_self
          · exact List.mem_cons_of_mem _ (List.mem_cons_of_mem _ (induction more later))

/-- A part of a text without long line endings is normalised already. -/
theorem Matches.plain {edit : FsEditRequest} {octets : List Octet}
    {outside matched : List (List Octet)} (isMatch : Matches edit octets outside matched)
    (noCrlf : hasCrlf (bufferText octets) = false) {part : List Octet} (member : part ∈ outside) :
    normalizeLf (bufferText part) = bufferText part := by
  rw [normalizeLf_eq_iff, ← Bool.not_eq_true, hasCrlf_iff]
  rintro ⟨place, occurs⟩
  rcases List.append_of_mem (mem_alternate matched member) with ⟨before, after, split⟩
  rw [← isMatch.text_eq, split, List.flatMap_append, List.flatMap_cons, ← Bool.not_eq_true,
    hasCrlf_iff] at noCrlf
  exact noCrlf ⟨_, occurs.between (before.flatMap bufferText) (after.flatMap bufferText)⟩

/-! ## What an edit writes -/

theorem replaceLiteral_eq (edit : FsEditRequest) (text : Text) :
    replaceLiteral text edit.oldString edit.newString edit.replaceAll =
      edit.newString.intercalate (cuts edit text) := by
  rw [replaceLiteral, cuts]
  split
  · rfl
  · cases indexOf edit.oldString text with
    | none => exact (List.intercalate_singleton ..).symm
    | some start =>
        dsimp only
        rw [List.intercalate_cons_cons, List.intercalate_singleton]

theorem two_le_cuts {edit : FsEditRequest} {text : Text}
    (found : countLiteral text edit.oldString ≠ 0) : 2 ≤ (cuts edit text).length := by
  rw [countLiteral] at found
  rw [cuts]
  cases isLength : text.length with
  | zero =>
      rw [isLength] at found
      exact absurd rfl found
  | succ fuel =>
      rw [isLength, countFrom] at found
      rw [splitLiteral]
      cases isFirst : indexOf edit.oldString text with
      | none =>
          rw [isFirst] at found
          exact absurd rfl found
      | some start =>
          have some_split (fuel : Nat) (text : Text) :
              1 ≤ (splitLiteral edit.oldString fuel text).length := by
            cases fuel with
            | zero => exact Nat.le_refl _
            | succ fuel =>
                rw [splitLiteral]
                split
                · exact Nat.le_refl _
                · exact Nat.succ_le_succ (Nat.zero_le _)
          split
          · exact Nat.succ_le_succ (some_split _ _)
          · exact Nat.le_refl _

theorem styled_intercalate (crlf : Bool) (inserted : Text) (texts : List Text) :
    styled crlf (inserted.intercalate texts) =
      (styled crlf inserted).intercalate (texts.map (styled crlf)) := by
  cases crlf with
  | false =>
      have same : texts.map (styled false) = texts := List.map_id texts
      rw [same]
      rfl
  | true =>
      induction texts with
      | nil => rfl
      | cons text rest induction =>
          cases rest with
          | nil =>
              rw [List.map_singleton, List.intercalate_singleton, List.intercalate_singleton]
          | cons next rest =>
              rw [List.map_cons, List.map_cons, List.intercalate_cons_cons,
                List.intercalate_cons_cons, ← List.map_cons, ← induction]
              exact (toCrlf_append _ _).trans (congrArg (· ++ _) (toCrlf_append _ _))

theorem encode_intercalate (inserted pending : Text) {texts : List Text}
    (formed : ∀ text ∈ texts, WellFormed text) :
    encode (pending ++ inserted.intercalate texts) =
      filled inserted pending (texts.map encode) := by
  induction texts generalizing pending with
  | nil => exact congrArg encode (List.append_nil _)
  | cons text rest induction =>
      rcases List.forall_mem_cons.mp formed with ⟨now, later⟩
      cases rest with
      | nil =>
          rw [List.intercalate_singleton, Utf8.encode_append now.head]
          rfl
      | cons next rest =>
          rw [List.intercalate_cons_cons, List.map_cons, List.map_cons, filled, ← List.map_cons]
          split
          · next empty =>
              rw [eq_nil_of_encode now empty, List.nil_append, ← List.append_assoc,
                induction _ later]
          · next notEmpty =>
              have apart : ∀ unit ∈ (text ++ inserted ++ inserted.intercalate (next :: rest)).head?,
                  ¬IsLow unit := by
                cases text with
                | nil => exact absurd rfl notEmpty
                | cons unit text => exact now.head
              rw [Utf8.encode_append apart, List.append_assoc, encode_append_formed now,
                induction _ later]

section

variable {more : Nat} {inserted thinner : Text} {written : List Octet → List Octet}
  (shedsInserted : Sheds more inserted thinner) (writtenNil : written [] = [])

include shedsInserted writtenNil

theorem filled_grows {parts : List (List Octet)} (grown : ∀ part ∈ parts, Grows part (written part))
    {count : Nat} {pending thinnerPending : Text} (sheds : Sheds count pending thinnerPending) :
    Grows (filled thinner thinnerPending parts)
      (filled inserted pending (parts.map written)) := by
  induction parts generalizing count pending thinnerPending with
  | nil => exact sheds.grows
  | cons part rest induction =>
      rcases List.forall_mem_cons.mp grown with ⟨now, later⟩
      cases rest with
      | nil => exact sheds.grows.append now
      | cons next rest =>
          rw [List.map_cons, List.map_cons, filled, filled, ← List.map_cons]
          by_cases empty : part = []
          · rw [if_pos empty, if_pos (by rw [empty, writtenNil])]
            exact induction later (sheds.append shedsInserted)
          · rw [if_neg empty, if_neg (now.ne_nil empty)]
            exact sheds.grows.append (now.append (induction later shedsInserted))

/-- Nothing may have grown where the same octets come out. -/
theorem filled_eq {parts : List (List Octet)} (someParts : parts ≠ [])
    (grown : ∀ part ∈ parts, Grows part (written part))
    {count : Nat} {pending thinnerPending : Text} (sheds : Sheds count pending thinnerPending)
    (same : filled thinner thinnerPending parts =
      filled inserted pending (parts.map written)) :
    count = 0 ∧ (∀ part ∈ parts, written part = part) ∧ (2 ≤ parts.length → more = 0) := by
  induction parts generalizing count pending thinnerPending with
  | nil => exact absurd rfl someParts
  | cons part rest induction =>
      rcases List.forall_mem_cons.mp grown with ⟨now, later⟩
      cases rest with
      | nil =>
          rcases sheds.grows.append_inj now same with ⟨samePending, samePart⟩
          refine ⟨sheds.none_of_encode samePending, ?_, fun two => absurd two (by simp)⟩
          exact List.forall_mem_singleton.mpr samePart.symm
      | cons next rest =>
          rw [List.map_cons, List.map_cons, filled, filled, ← List.map_cons] at same
          by_cases empty : part = []
          · rw [if_pos empty, if_pos (by rw [empty, writtenNil])] at same
            rcases induction (List.cons_ne_nil _ _) later (sheds.append shedsInserted) same with
              ⟨none, kept, -⟩
            refine ⟨by omega, List.forall_mem_cons.mpr ⟨?_, kept⟩, fun _ => by omega⟩
            rw [empty, writtenNil]
          · rw [if_neg empty, if_neg (now.ne_nil empty)] at same
            have behind := filled_grows shedsInserted writtenNil later shedsInserted
            rcases sheds.grows.append_inj (now.append behind) same with ⟨samePending, others⟩
            rcases now.append_inj behind others with ⟨samePart, sameRest⟩
            rcases induction (List.cons_ne_nil _ _) later shedsInserted sameRest with
              ⟨none, kept, -⟩
            exact ⟨sheds.none_of_encode samePending,
              List.forall_mem_cons.mpr ⟨samePart.symm, kept⟩, fun _ => none⟩

end

/-! ## What comes back -/

/-- What becomes of octets outside the matches. -/
def rewritten (crlf : Bool) (part : List Octet) : List Octet :=
  encode (styled crlf (normalizeLf (bufferText part)))

theorem wellFormed_styled (crlf : Bool) (part : List Octet) :
    WellFormed (styled crlf (normalizeLf (bufferText part))) := by
  have formed := wellFormed_normalizeLf _ (wellFormed_bufferText part)
  cases crlf with
  | false => exact formed
  | true => exact wellFormed_toCrlf _ formed

section

variable {crlf : Bool} {part : List Octet}
  (plain : crlf = false → normalizeLf (bufferText part) = bufferText part)

include plain

theorem grows_rewritten : Grows part (rewritten crlf part) := by
  refine (grows_encode_bufferText part).trans ?_
  rw [rewritten]
  cases crlf with
  | false =>
      rw [plain rfl]
      exact ⟨Nat.le_refl _, Nat.le_refl _⟩
  | true =>
      rcases toCrlf_sheds (bufferText part) with ⟨count, sheds⟩
      exact sheds.grows

theorem rewritten_eq_iff :
    rewritten crlf part = part ↔
      encode (bufferText part) = part ∧ (crlf = true → NoBareLf (bufferText part)) := by
  rw [rewritten]
  constructor
  · intro same
    have text := bufferText_encode (wellFormed_styled crlf part)
    rw [same] at text
    refine ⟨by rw [text, same], fun isCrlf => ?_⟩
    rw [isCrlf] at text
    exact (toCrlf_normalizeLf_iff _).mp text.symm
  · rintro ⟨proper, noBare⟩
    cases crlf with
    | false =>
        rw [plain rfl]
        exact proper
    | true =>
        rw [styled, if_pos rfl, (toCrlf_normalizeLf_iff _).mpr (noBare rfl)]
        exact proper

end

theorem editedText_wire {call : MutationCall} {edit : FsEditRequest} {attrs : SftpAttrs}
    {octets : List Octet} {staging : Staging}
    (edited : call.editedText edit attrs octets = .ok staging) :
    let raw := bufferText (splitMark octets).2
    countLiteral (normalizeLf raw) edit.oldString ≠ 0 ∧
      staging.wire = encode (styled (hasCrlf raw)
        (edit.newString.intercalate (cuts edit (normalizeLf raw)))) := by
  dsimp only
  rw [← decode_eq, ← replaceLiteral_eq]
  rw [MutationCall.editedText] at edited
  dsimp only at edited
  split at edited
  · cases edited
  · split at edited
    · cases edited
    · next found =>
        split at edited
        · cases edited
        · cases edited
          exact ⟨found, rfl⟩

theorem Matches.wire {edit : FsEditRequest} {octets : List Octet}
    {outside matched : List (List Octet)} (isMatch : Matches edit octets outside matched)
    (crlf : Bool) :
    encode (styled crlf (edit.newString.intercalate
        (cuts edit (normalizeLf (bufferText octets))))) =
      filled (styled crlf edit.newString) [] (outside.map (rewritten crlf)) := by
  have texts : (cuts edit (normalizeLf (bufferText octets))).map (styled crlf) =
      outside.map fun part => styled crlf (normalizeLf (bufferText part)) := by
    rw [← isMatch.outside_eq, List.map_map]
    rfl
  have formed : ∀ text ∈ outside.map fun part => styled crlf (normalizeLf (bufferText part)),
      WellFormed text := by
    intro text member
    rcases List.mem_map.mp member with ⟨part, -, rfl⟩
    exact wellFormed_styled crlf part
  have encoded := encode_intercalate (styled crlf edit.newString) [] formed
  rw [List.nil_append, List.map_map] at encoded
  rw [styled_intercalate, texts, encoded]
  rfl

theorem sheds_styled (crlf : Bool) (text : Text) :
    ∃ count, Sheds count (styled crlf text) (styled crlf (normalizeLf text)) ∧
      (count = 0 → hasCrlf text = false) := by
  rcases sheds_normalizeLf text with ⟨count, sheds⟩
  refine ⟨count, ?_, ?_⟩
  · cases crlf with
    | false => exact sheds
    | true => exact sheds.toCrlf
  · rintro rfl
    exact (normalizeLf_eq_iff text).mp sheds.eq_of_none.symm

/-- What an edit stages is the original with the matches replaced, for exactly those octets
that come back from their text. -/
theorem editedText_preserves_iff {call : MutationCall} {edit : FsEditRequest}
    {attrs : SftpAttrs} {octets : List Octet} {staging : Staging}
    (edited : call.editedText edit attrs octets = .ok staging) :
    Preserves edit octets staging.wire ↔ Restorable edit octets := by
  have isWire := editedText_wire edited
  dsimp only at isWire
  rcases isWire with ⟨found, isWire⟩
  rw [isWire, Preserves, Restorable]
  generalize isCrlf : hasCrlf (bufferText (splitMark octets).2) = crlf
  rcases sheds_styled crlf edit.newString with ⟨more, sheds, inMemory⟩
  constructor
  · rintro ⟨outside, matched, isMatch, same⟩
    have plain (part : List Octet) (member : part ∈ outside) (noCrlf : crlf = false) :
        normalizeLf (bufferText part) = bufferText part :=
      isMatch.plain (isCrlf.trans noCrlf) member
    have grown (part : List Octet) (member : part ∈ outside) : Grows part (rewritten crlf part) :=
      grows_rewritten (plain part member)
    have empty : rewritten crlf [] = [] := by cases crlf <;> rfl
    have two : 2 ≤ outside.length := by
      have lengths := congrArg List.length isMatch.outside_eq
      rw [List.length_map] at lengths
      rw [lengths]
      exact two_le_cuts found
    rw [isMatch.wire crlf] at same
    have grows := filled_grows sheds empty grown (Sheds.same [])
    by_cases marked : octets.take 3 = mark
    · rw [splitMark, if_pos marked] at same
      exact absurd same.symm grows.not_marked
    · rw [splitMark, if_neg marked] at isMatch isCrlf same
      have someParts : outside ≠ [] := List.length_pos_iff.mp (by omega)
      rcases filled_eq sheds empty someParts grown (Sheds.same []) same.symm with
        ⟨-, kept, noMore⟩
      refine ⟨marked, inMemory (noMore two), outside, matched, isMatch, fun part member => ?_⟩
      rw [isCrlf]
      exact (rewritten_eq_iff (plain part member)).mp (kept part member)
  · rintro ⟨unmarked, memory, outside, matched, isMatch, proper⟩
    rw [splitMark, if_neg unmarked] at isCrlf ⊢
    refine ⟨outside, matched, isMatch, ?_⟩
    have kept (part : List Octet) (member : part ∈ outside) : rewritten crlf part = part := by
      refine (rewritten_eq_iff fun noCrlf => ?_).mpr ?_
      · exact isMatch.plain (isCrlf.trans noCrlf) member
      · have isProper := proper part member
        rwa [isCrlf] at isProper
    have whole : outside.map (rewritten crlf) = outside :=
      (List.map_congr_left kept).trans (List.map_id outside)
    rw [isMatch.wire crlf, (normalizeLf_eq_iff _).mpr memory, whole, List.nil_append]

end DshRemote.FsSsh
