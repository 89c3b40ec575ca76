import DshRemote.Core.Framing
import DshRemote.Foundation.AsciiEncoding

/-! # The output frames of a remote child

The standard output of a child comes as base64 lines, with control lines of the wrapper
between them. What a line brings is received in the order of the lines. -/

namespace DshRemote.Subprocess

open Json (ascii)
open Utf8 (encode TextDecoder)

/-- One thing that a `FrameDecoder` hands on. -/
inductive Reception
  | control (line : Text)
  | octet (octet : Octet)
  | diagnostic (line : Text)
deriving DecidableEq, Repr

def isBase64Letter (unit : CodeUnit) : Bool :=
  (0x41 ≤ unit.val ∧ unit.val ≤ 0x5A) || (0x61 ≤ unit.val ∧ unit.val ≤ 0x7A) ||
    (0x30 ≤ unit.val ∧ unit.val ≤ 0x39) || unit = ascii '+' || unit = ascii '/'

/-- `BASE64_LINE`. -/
def isBase64Line (line : Text) : Bool :=
  let padding := line.dropWhile isBase64Letter
  !(line.takeWhile isBase64Letter).isEmpty &&
    (padding = [] || padding = [Base64.padding] || padding = [Base64.padding, Base64.padding])

def carriageReturn : CodeUnit := ascii '\r'

def exclamation : CodeUnit := ascii '!'

/-- One turn of the loop of `push`, with the line it takes. -/
def receiveLine (line : Text) : Except String (List Reception) :=
  let frame := if line.getLast? = some carriageReturn then line.dropLast else line
  if frame = [] then .ok []
  else if frame.head? = some exclamation then .ok [.control frame]
  else if !isBase64Line frame then .ok [.diagnostic frame]
  else
    let bytes := Base64.decode frame
    if Base64.encode bytes ≠ frame then .error "subprocess-ssh: invalid base64 output transport"
    else .ok (bytes.map .octet)

/-- The lines in their order, up to one that throws. The lines behind that one are left. -/
def receiveLines : List Text → List Reception × Option (String × List Text)
  | [] => ([], none)
  | line :: later =>
      match receiveLine line with
      | .error message => ([], some (message, later))
      | .ok now => (now ++ (receiveLines later).1, (receiveLines later).2)

structure FrameDecoder where
  pending : Text := []

/-- The decoder behind a call of `push`, what it handed on and what it threw. -/
structure Pushed where
  decoder : FrameDecoder
  received : List Reception
  failure : Option String

def Reception.isOctet : Reception → Bool
  | .octet _ => true
  | _ => false

/-- A call that throws returns no octets, but its control lines have been handled. -/
def FrameDecoder.push (self : FrameDecoder) (text : Text) : Pushed :=
  let parts := Lines.cut Framing.newline (self.pending ++ text)
  match receiveLines parts.1 with
  | (received, none) => ⟨⟨parts.2⟩, received, none⟩
  | (received, some (message, left)) =>
      ⟨⟨Lines.unite Framing.newline left parts.2⟩,
        received.filter fun reception => !reception.isOctet, some message⟩

/-- What a pump hands on in the end, and the error that ended it. -/
structure Pumped where
  received : List Reception
  failure : Option String
deriving DecidableEq, Repr

/-- `pump`: every chunk is decoded and pushed. At the end the pending text has to be blank,
when the output has to be complete. -/
def pump (requireComplete : Bool) (text : TextDecoder) (decoder : FrameDecoder) :
    List (List Octet) → Pumped
  | [] =>
      let pushed := decoder.push (text.decode [] false).2
      match pushed.failure with
      | some message => ⟨pushed.received, some message⟩
      | none =>
          if requireComplete ∧ ¬Framing.IsBlank pushed.decoder.pending then
            ⟨pushed.received, some "subprocess-ssh: truncated base64 output transport"⟩
          else ⟨pushed.received, none⟩
  | chunk :: later =>
      let decoded := text.decode chunk true
      let pushed := decoder.push decoded.2
      match pushed.failure with
      | some message => ⟨pushed.received, some message⟩
      | none =>
          let rest := pump requireComplete decoded.1 pushed.decoder later
          ⟨pushed.received ++ rest.received, rest.failure⟩

/-! ## Chunks -/

theorem receiveLines_append {first : List Text} {received : List Reception}
    (good : receiveLines first = (received, none)) (second : List Text) :
    receiveLines (first ++ second) =
      (received ++ (receiveLines second).1, (receiveLines second).2) := by
  induction first generalizing received with
  | nil =>
      cases good
      rfl
  | cons line later induction =>
      rw [receiveLines] at good
      rw [List.cons_append, receiveLines]
      cases now : receiveLine line with
      | error message =>
          rw [now] at good
          cases good
      | ok here =>
          rw [now] at good
          simp only [Prod.mk.injEq] at good
          have rest := induction (Prod.ext rfl good.2 : receiveLines later =
            ((receiveLines later).1, none))
          simp only [rest, ← good.1, List.append_assoc]

theorem receiveLines_append_failure {first : List Text}
    (bad : (receiveLines first).2 ≠ none) (second : List Text) :
    (receiveLines (first ++ second)).2 ≠ none := by
  induction first with
  | nil => exact absurd rfl bad
  | cons line later induction =>
      rw [receiveLines] at bad
      rw [List.cons_append, receiveLines]
      cases now : receiveLine line with
      | error message => exact Option.some_ne_none _
      | ok here =>
          rw [now] at bad
          exact induction bad

/-- What has been handed on of a part of the stream, as long as nothing was thrown. -/
structure Stands (octets : List Octet) (decoder : FrameDecoder) (received : List Reception) :
    Prop where
  lines : receiveLines (Lines.cut Framing.newline (TextDecoder.textOf octets)).1 =
    (received, none)
  pending : decoder.pending = (Lines.cut Framing.newline (TextDecoder.textOf octets)).2

theorem cut_textOf_append (octets chunk : List Octet) {decoder : FrameDecoder}
    (pending : decoder.pending =
      (Lines.cut Framing.newline (TextDecoder.textOf octets)).2) :
    Lines.cut Framing.newline (TextDecoder.textOf (octets ++ chunk)) =
      let parts := Lines.cut Framing.newline
        (decoder.pending ++ ((TextDecoder.after octets).decode chunk true).2)
      ((Lines.cut Framing.newline (TextDecoder.textOf octets)).1 ++ parts.1, parts.2) := by
  rw [(TextDecoder.decode_after octets chunk).2, Lines.cut_append, pending]

theorem push_eq (decoder : FrameDecoder) (text : Text) :
    (decoder.push text).failure = none ∧
        receiveLines (Lines.cut Framing.newline (decoder.pending ++ text)).1 =
          ((decoder.push text).received, none) ∧
        (decoder.push text).decoder.pending =
          (Lines.cut Framing.newline (decoder.pending ++ text)).2 ∨
      (decoder.push text).failure ≠ none ∧
        (receiveLines (Lines.cut Framing.newline (decoder.pending ++ text)).1).2 ≠ none := by
  rw [FrameDecoder.push]
  rcases receiveLines (Lines.cut Framing.newline (decoder.pending ++ text)).1 with
    ⟨received, _ | ⟨message, left⟩⟩
  · exact Or.inl ⟨rfl, rfl, rfl⟩
  · exact Or.inr ⟨Option.some_ne_none _, Option.some_ne_none _⟩

/-- A push that throws nothing goes on with the stream. One that throws has met a line that
throws wherever the stream is cut. -/
theorem Stands.push {octets : List Octet} {decoder : FrameDecoder} {received : List Reception}
    (stands : Stands octets decoder received) (chunk : List Octet) :
    let pushed := decoder.push ((TextDecoder.after octets).decode chunk true).2
    pushed.failure = none ∧
        Stands (octets ++ chunk) pushed.decoder (received ++ pushed.received) ∨
      pushed.failure ≠ none ∧ ∀ later, (receiveLines (Lines.cut Framing.newline
        (TextDecoder.textOf (octets ++ chunk ++ later))).1).2 ≠ none := by
  have cut := cut_textOf_append octets chunk stands.pending
  have continued := receiveLines_append stands.lines
  rcases push_eq decoder ((TextDecoder.after octets).decode chunk true).2 with
    ⟨noFailure, lines, pending⟩ | ⟨failure, lines⟩
  · refine Or.inl ⟨noFailure, ?_, ?_⟩
    · rw [cut, continued, lines]
    · rw [cut, pending]
  · refine Or.inr ⟨failure, fun later => ?_⟩
    rcases TextDecoder.textOf_append (octets ++ chunk) later with ⟨more, text⟩
    rw [text, Lines.cut_append, cut]
    refine receiveLines_append_failure ?_ _
    rw [continued]
    exact lines

theorem Stands.continues {octets : List Octet} {decoder : FrameDecoder}
    {received : List Reception} (stands : Stands octets decoder received) (later : List Octet) :
    ∃ tail failure, receiveLines (Lines.cut Framing.newline
      (TextDecoder.textOf (octets ++ later))).1 = (received ++ tail, failure) := by
  rcases TextDecoder.textOf_append octets later with ⟨more, text⟩
  rw [text, Lines.cut_append]
  exact ⟨_, _, receiveLines_append stands.lines _⟩

/-- A pump hands on the lines of the whole stream, however the stream is cut into chunks,
and ends with an error exactly when one of the lines throws. -/
theorem Stands.pump_iff {octets : List Octet} {decoder : FrameDecoder}
    {received : List Reception} (stands : Stands octets decoder received)
    (requireComplete : Bool) {chunks : List (List Octet)} {text : Text}
    (whole : octets ++ chunks.flatten = encode text)
    (closed : (Lines.cut Framing.newline (TextDecoder.textOf (encode text))).2 = [])
    (rest : List Reception) :
    pump requireComplete (TextDecoder.after octets) decoder chunks = ⟨rest, none⟩ ↔
      receiveLines (Lines.cut Framing.newline (TextDecoder.textOf (encode text))).1 =
        (received ++ rest, none) := by
  induction chunks generalizing octets decoder received rest with
  | nil =>
      rw [List.flatten_nil, List.append_nil] at whole
      have noPending : decoder.pending = [] := by rw [stands.pending, whole, closed]
      have pushed : decoder.push [] = ⟨⟨[]⟩, [], none⟩ := by
        rw [FrameDecoder.push, noPending]
        rfl
      have blank : Framing.IsBlank [] := fun unit member => (List.not_mem_nil member).elim
      have pumped : pump requireComplete (TextDecoder.after octets) decoder [] = ⟨[], none⟩ := by
        rw [pump, whole, TextDecoder.decode_end, pushed]
        simp only [blank, not_true_eq_false, and_false, if_false]
      rw [pumped, ← whole, stands.lines]
      simp only [Pumped.mk.injEq, Prod.mk.injEq, and_true, List.self_eq_append_right, eq_comm]
  | cons chunk later induction =>
      rw [List.flatten_cons, ← List.append_assoc] at whole
      rw [pump]
      rcases stands.push chunk with ⟨noFailure, next⟩ | ⟨failure, never⟩
      · have continued := fun rest => induction next whole rest
        rw [(TextDecoder.decode_after octets chunk).1]
        simp only [noFailure]
        constructor
        · intro pumped
          simp only [Pumped.mk.injEq] at pumped
          rw [← pumped.1, ← List.append_assoc]
          exact (continued _).mp (congrArg₂ Pumped.mk rfl pumped.2)
        · intro lines
          rcases next.continues later.flatten with ⟨tail, failure, more⟩
          rw [whole, lines] at more
          have parts := Prod.mk.inj more
          rw [List.append_assoc] at parts
          have split := List.append_cancel_left parts.1
          have ends := (continued tail).mpr (by rw [lines, split, List.append_assoc])
          rw [ends, split]
      · constructor
        · intro pumped
          simp only at pumped
          split at pumped
          · cases pumped
          · next none => exact absurd none failure
        · intro lines
          have thrown := never later.flatten
          rw [whole, lines] at thrown
          exact absurd rfl thrown

/-! ## Lines -/

theorem isBase64Letter_letter {sextet : Nat} (small : sextet < 64) :
    isBase64Letter (Base64.letter sextet) = true := by
  have each : ∀ sextet : Fin 64, isBase64Letter (Base64.letter sextet.val) = true := by decide
  exact each ⟨sextet, small⟩

theorem encode_letters (payload : List Octet) :
    ∃ body padding, Base64.encode payload = body ++ padding ∧ (payload ≠ [] → body ≠ []) ∧
      (∀ unit ∈ body, isBase64Letter unit = true) ∧
      (padding = [] ∨ padding = [Base64.padding] ∨
        padding = [Base64.padding, Base64.padding]) := by
  induction payload using Base64.encode.induct with
  | case1 => exact ⟨[], [], rfl, fun some => absurd rfl some, by simp, Or.inl rfl⟩
  | case2 a =>
      refine ⟨[_, _], [_, _], rfl, fun _ => List.cons_ne_nil _ _, ?_, Or.inr (Or.inr rfl)⟩
      simp only [List.forall_mem_cons]
      exact ⟨isBase64Letter_letter (by omega), isBase64Letter_letter (by omega), by simp⟩
  | case3 a b =>
      refine ⟨[_, _, _], [_], rfl, fun _ => List.cons_ne_nil _ _, ?_, Or.inr (Or.inl rfl)⟩
      simp only [List.forall_mem_cons]
      exact ⟨isBase64Letter_letter (by omega), isBase64Letter_letter (by omega),
        isBase64Letter_letter (by omega), by simp⟩
  | case4 a b c rest induction =>
      rcases induction with ⟨body, padding, split, _, letters, ends⟩
      refine ⟨Base64.letter (a.val / 4) :: Base64.letter (a.val % 4 * 16 + b.val / 16) ::
        Base64.letter (b.val % 16 * 4 + c.val / 64) :: Base64.letter (c.val % 64) :: body,
        padding, ?_, fun _ => List.cons_ne_nil _ _, ?_, ends⟩
      · rw [Base64.encode, split]
        rfl
      · simp only [List.forall_mem_cons]
        exact ⟨isBase64Letter_letter (by omega), isBase64Letter_letter (by omega),
          isBase64Letter_letter (by omega), isBase64Letter_letter (by omega), letters⟩

theorem not_letter_padding : isBase64Letter Base64.padding = false := by decide

theorem isBase64Line_encode {payload : List Octet} (somePayload : payload ≠ []) :
    isBase64Line (Base64.encode payload) = true := by
  rcases encode_letters payload with ⟨body, padding, split, someBody, letters, ends⟩
  have dropped : (body ++ padding).dropWhile isBase64Letter = padding := by
    rw [List.dropWhile_append_of_pos letters]
    rcases ends with rfl | rfl | rfl
    · rfl
    · exact List.dropWhile_cons_of_neg (by simp [not_letter_padding])
    · exact List.dropWhile_cons_of_neg (by simp [not_letter_padding])
  have taken : (body ++ padding).takeWhile isBase64Letter ≠ [] := by
    rw [List.takeWhile_append_of_pos letters]
    exact List.append_ne_nil_of_left_ne_nil (someBody somePayload) _
  rw [split, isBase64Line]
  simp only [dropped]
  have isEnd : (decide (padding = []) || decide (padding = [Base64.padding]) ||
      decide (padding = [Base64.padding, Base64.padding])) = true := by
    rcases ends with rfl | rfl | rfl <;> rfl
  rw [isEnd, Bool.and_true]
  simpa using taken

theorem encode_head {payload : List Octet} (somePayload : payload ≠ []) :
    ∃ first rest, Base64.encode payload = first :: rest ∧ isBase64Letter first = true := by
  rcases encode_letters payload with ⟨body, padding, split, someBody, letters, _⟩
  rcases List.exists_cons_of_ne_nil (someBody somePayload) with ⟨first, rest, rfl⟩
  exact ⟨first, rest ++ padding, split, letters first List.mem_cons_self⟩

theorem receiveLine_encode {payload : List Octet} (somePayload : payload ≠ []) :
    receiveLine (Base64.encode payload) = .ok (payload.map .octet) := by
  have printable := Base64.isPrintable_encode payload
  rcases encode_head somePayload with ⟨first, rest, cons, isLetter⟩
  have noReturn : (Base64.encode payload).getLast? ≠ some carriageReturn := by
    intro last
    exact absurd (printable _ (List.mem_of_getLast? last)).1 (by decide)
  have notEmpty : Base64.encode payload ≠ [] := by
    rw [cons]
    exact List.cons_ne_nil _ _
  have notControl : (Base64.encode payload).head? ≠ some exclamation := by
    rw [cons, List.head?_cons]
    rintro ⟨⟩
    cases isLetter
  simp only [receiveLine, noReturn, notEmpty, notControl, isBase64Line_encode somePayload,
    Base64.decode_encode, if_false, Bool.not_true, Bool.false_eq_true, ne_eq, not_true_eq_false]

theorem receiveLine_letter {first : CodeUnit} {rest : Text}
    (isLetter : isBase64Letter first = true) {received : List Reception}
    (good : receiveLine (first :: rest) = .ok received) :
    ∃ reception later, received = reception :: later ∧ ∀ line, reception ≠ .control line := by
  have notExclamation : first ≠ exclamation := by
    rintro rfl
    cases isLetter
  have notReturn : first ≠ carriageReturn := by
    rintro rfl
    cases isLetter
  -- Only a carriage return at the end comes off.
  have frame : ∃ more, (if (first :: rest).getLast? = some carriageReturn then
      (first :: rest).dropLast else first :: rest) = first :: more := by
    split
    · next ends =>
        cases rest with
        | nil =>
            cases ends
            exact absurd rfl notReturn
        | cons second others => exact ⟨_, List.dropLast_cons_cons⟩
    · exact ⟨rest, rfl⟩
  rcases frame with ⟨more, frame⟩
  simp only [receiveLine, frame, reduceCtorEq, if_false, List.head?_cons, Option.some.injEq,
    notExclamation] at good
  split at good
  · cases good
    exact ⟨_, [], rfl, fun line impossible => (nomatch impossible)⟩
  · split at good
    · cases good
    · next canonical =>
        cases good
        cases decoded : Base64.decode (first :: more) with
        | nil =>
            rw [decoded] at canonical
            exact absurd (fun same => nomatch same) canonical
        | cons octet others => exact ⟨_, _, rfl, fun line impossible => (nomatch impossible)⟩

end DshRemote.Subprocess
