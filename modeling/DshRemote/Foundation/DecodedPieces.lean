import DshRemote.Foundation.Utf8

/-! # What any octets are decoded to

Octets fall into pieces, and each piece stands for one scalar value: the octets of that
value, or at most three octets that are replaced. A stream that is cut between two pieces is
decoded part by part; a cut inside a piece shows. -/

namespace DshRemote.Utf8

namespace Decoder

/-! ## What has begun -/

/-- The octets of a scalar value that a decoder has taken so far. -/
inductive Begun : List Octet → Decoder → Prop
  | idle : Begun [] idle
  | two {lead : Octet} (above : 0xC2 ≤ lead.val) (below : lead.val < 0xE0) :
      Begun [lead] { codePoint := lead.val % 0x20, missing := 1 }
  | three {lead : Octet} (above : 0xE0 ≤ lead.val) (below : lead.val < 0xF0) :
      Begun [lead]
        { codePoint := lead.val % 0x10
          missing := 2
          lower := if lead.val = 0xE0 then 0xA0 else 0x80
          upper := if lead.val = 0xED then 0x9F else 0xBF }
  | threeLast {lead second : Octet} (above : 0xE0 ≤ lead.val) (below : lead.val < 0xF0)
      (lower : (if lead.val = 0xE0 then 0xA0 else 0x80) ≤ second.val)
      (upper : second.val ≤ if lead.val = 0xED then 0x9F else 0xBF) :
      Begun [lead, second]
        { codePoint := lead.val % 0x10 * 0x40 + second.val % 0x40, missing := 1 }
  | four {lead : Octet} (above : 0xF0 ≤ lead.val) (below : lead.val < 0xF5) :
      Begun [lead]
        { codePoint := lead.val % 0x08
          missing := 3
          lower := if lead.val = 0xF0 then 0x90 else 0x80
          upper := if lead.val = 0xF4 then 0x8F else 0xBF }
  | fourMore {lead second : Octet} (above : 0xF0 ≤ lead.val) (below : lead.val < 0xF5)
      (lower : (if lead.val = 0xF0 then 0x90 else 0x80) ≤ second.val)
      (upper : second.val ≤ if lead.val = 0xF4 then 0x8F else 0xBF) :
      Begun [lead, second]
        { codePoint := lead.val % 0x08 * 0x40 + second.val % 0x40, missing := 2 }
  | fourLast {lead second third : Octet} (above : 0xF0 ≤ lead.val) (below : lead.val < 0xF5)
      (lower : (if lead.val = 0xF0 then 0x90 else 0x80) ≤ second.val)
      (upper : second.val ≤ if lead.val = 0xF4 then 0x8F else 0xBF)
      (least : 0x80 ≤ third.val) (greatest : third.val ≤ 0xBF) :
      Begun [lead, second, third]
        { codePoint := (lead.val % 0x08 * 0x40 + second.val % 0x40) * 0x40 + third.val % 0x40
          missing := 1 }

variable {part : List Octet} {decoder : Decoder}

theorem Begun.missing_iff (begun : Begun part decoder) : decoder.missing = 0 ↔ part = [] := by
  cases begun with
  | idle => exact ⟨fun _ => rfl, fun _ => rfl⟩
  | _ => exact ⟨fun none => (nomatch none), fun none => (nomatch none)⟩

theorem Begun.idle_of_missing (begun : Begun part decoder) (ready : decoder.missing = 0) :
    decoder = Decoder.idle := by
  cases begun with
  | idle => rfl
  | _ => cases ready

theorem Begun.length_le (begun : Begun part decoder) : part.length ≤ 3 := by
  cases begun <;> simp

theorem Begun.bounds (begun : Begun part decoder) :
    0x80 ≤ decoder.lower ∧ decoder.upper ≤ 0xBF := by
  cases begun with
  | three | four =>
      dsimp only
      constructor
      · split <;> omega
      · split <;> omega
  | _ => exact ⟨Nat.le_refl _, Nat.le_refl _⟩

end Decoder

/-! ## Pieces -/

structure Piece where
  octets : List Octet
  value : Nat

/-- The octets are those of the value, or they are replaced. -/
def Piece.Sound (piece : Piece) : Prop :=
  IsScalar piece.value ∧ encodeScalar piece.value = piece.octets ∨
    piece.value = replacement ∧ piece.octets.length ≤ 3

namespace Decoder

variable {part : List Octet} {decoder : Decoder}

/-- What a decoder makes of some octets, behind those it has taken before. -/
structure Yields (part octets : List Octet) (next : Decoder) (values : List Nat)
    (pieces : List Piece) (rest : List Octet) : Prop where
  begun : Begun rest next
  values_eq : values = pieces.map Piece.value
  octets_eq : part ++ octets = pieces.flatMap Piece.octets ++ rest
  sound : ∀ piece ∈ pieces, piece.Sound

theorem start_yields (octet : Octet) :
    ∃ pieces rest, Yields [] [octet] (start octet).1 (start octet).2 pieces rest := by
  have small := octet.isLt
  have silent {next : Decoder} (begun : Begun [octet] next) :
      Yields [] [octet] next [] [] [octet] :=
    ⟨begun, rfl, rfl, fun piece member => (List.not_mem_nil member).elim⟩
  rw [start]
  split
  · next isAscii =>
      have sound : Piece.Sound ⟨[octet], octet.val⟩ := by
        refine Or.inl ⟨Or.inl (Nat.lt_trans isAscii (by decide)), ?_⟩
        rw [encodeScalar, if_pos isAscii]
        exact congrArg (fun one => [one]) (Fin.ext (octet_val small))
      exact ⟨[⟨[octet], octet.val⟩], [], .idle, rfl, rfl,
        List.forall_mem_singleton.mpr sound⟩
  · split
    · next isLead => exact ⟨[], [octet], silent (.two isLead.1 isLead.2)⟩
    · split
      · next isLead => exact ⟨[], [octet], silent (.three isLead.1 isLead.2)⟩
      · split
        · next isLead => exact ⟨[], [octet], silent (.four isLead.1 isLead.2)⟩
        · exact ⟨[⟨[octet], replacement⟩], [], .idle, rfl, rfl,
            List.forall_mem_singleton.mpr (Or.inr ⟨rfl, by simp⟩)⟩

theorem Begun.completes (begun : Begun part decoder) (last : decoder.missing = 1) {octet : Octet}
    (lower : decoder.lower ≤ octet.val) (upper : octet.val ≤ decoder.upper) :
    Piece.Sound ⟨part ++ [octet], decoder.codePoint * 0x40 + octet.val % 0x40⟩ := by
  have eq (value : Nat) (other : Octet) (same : value = other.val) : Fin.ofNat 256 value = other := by
    rw [same]
    exact Fin.ext (octet_val other.isLt)
  left
  cases begun with
  | idle => cases last
  | three above below => cases last
  | four above below => cases last
  | fourMore above below => cases last
  | @two lead above below =>
      dsimp only at lower upper ⊢
      refine ⟨Or.inl (by omega), ?_⟩
      rw [encodeScalar, if_neg (by omega), if_pos (by omega)]
      rw [eq _ lead (by omega), eq _ octet (by omega)]
      rfl
  | @threeLast lead second above below least greatest =>
      dsimp only at lower upper ⊢
      have bounds : 0x800 ≤ (lead.val % 0x10 * 0x40 + second.val % 0x40) * 0x40 + octet.val % 0x40 ∧
          ((lead.val % 0x10 * 0x40 + second.val % 0x40) * 0x40 + octet.val % 0x40 < 0xD800 ∨
            0xE000 ≤ (lead.val % 0x10 * 0x40 + second.val % 0x40) * 0x40 + octet.val % 0x40) ∧
          0x80 ≤ second.val ∧ second.val ≤ 0xBF := by
        split at least
        · split at greatest <;> omega
        · split at greatest <;> omega
      refine ⟨?_, ?_⟩
      · rw [IsScalar]
        omega
      · rw [encodeScalar, if_neg (by omega), if_neg (by omega), if_pos (by omega)]
        rw [eq _ lead (by omega), eq _ second (by omega), eq _ octet (by omega)]
        rfl
  | @fourLast lead second third above below least greatest thirdLeast thirdGreatest =>
      dsimp only at lower upper ⊢
      have bounds : 0x10 ≤ lead.val % 0x08 * 0x40 + second.val % 0x40 ∧
          lead.val % 0x08 * 0x40 + second.val % 0x40 < 0x110 ∧
          0x80 ≤ second.val ∧ second.val ≤ 0xBF := by
        split at least
        · split at greatest <;> omega
        · split at greatest <;> omega
      refine ⟨Or.inr (by omega), ?_⟩
      rw [encodeScalar, if_neg (by omega), if_neg (by omega), if_neg (by omega)]
      rw [eq _ lead (by omega), eq _ second (by omega), eq _ third (by omega),
        eq _ octet (by omega)]
      rfl

theorem Begun.continues (begun : Begun part decoder) (more : 1 < decoder.missing) {octet : Octet}
    (lower : decoder.lower ≤ octet.val) (upper : octet.val ≤ decoder.upper) :
    Begun (part ++ [octet])
      { codePoint := decoder.codePoint * 0x40 + octet.val % 0x40
        missing := decoder.missing - 1 } := by
  cases begun with
  | idle => cases more
  | two above below => exact absurd more (Nat.lt_irrefl 1)
  | threeLast above below => exact absurd more (Nat.lt_irrefl 1)
  | fourLast above below => exact absurd more (Nat.lt_irrefl 1)
  | three above below => exact .threeLast above below lower upper
  | four above below => exact .fourMore above below lower upper
  | fourMore above below least greatest =>
      exact .fourLast above below least greatest lower upper

theorem Begun.step (begun : Begun part decoder) (octet : Octet) :
    ∃ pieces rest,
      Yields part [octet] (decoder.step octet).1 (decoder.step octet).2 pieces rest := by
  rw [Decoder.step]
  split
  · next ready =>
      rw [begun.missing_iff.mp ready]
      exact start_yields octet
  · next waiting =>
      split
      · -- The octets taken so far are replaced, and the new one begins.
        rcases start_yields octet with ⟨pieces, rest, yields⟩
        refine ⟨⟨part, replacement⟩ :: pieces, rest, yields.begun, ?_, ?_, ?_⟩
        · rw [List.map_cons, ← yields.values_eq]
        · have own := yields.octets_eq
          rw [List.nil_append] at own
          rw [List.flatMap_cons, List.append_assoc, ← own]
        · exact List.forall_mem_cons.mpr ⟨Or.inr ⟨rfl, begun.length_le⟩, yields.sound⟩
      · next inBounds =>
          rw [not_or, Nat.not_lt, Nat.not_lt] at inBounds
          dsimp only
          split
          · next last =>
              refine ⟨[⟨part ++ [octet], _⟩], [], .idle, rfl, ?_, List.forall_mem_singleton.mpr
                (begun.completes last inBounds.1 inBounds.2)⟩
              simp
          · next notLast =>
              exact ⟨[], part ++ [octet], begun.continues (by omega) inBounds.1 inBounds.2, rfl, rfl,
                fun piece member => (List.not_mem_nil member).elim⟩

theorem Begun.feed (begun : Begun part decoder) (octets : List Octet) :
    ∃ pieces rest, Yields part octets (decoder.feed octets).1 (decoder.feed octets).2 pieces
      rest := by
  induction octets generalizing part decoder with
  | nil =>
      exact ⟨[], part, begun, rfl, List.append_nil _, fun piece member =>
        (List.not_mem_nil member).elim⟩
  | cons octet later induction =>
      rcases begun.step octet with ⟨now, between, first⟩
      rcases induction first.begun with ⟨pieces, rest, second⟩
      refine ⟨now ++ pieces, rest, second.begun, ?_, ?_, ?_⟩
      · rw [Decoder.feed, List.map_append, ← first.values_eq, ← second.values_eq]
      · rw [← List.singleton_append, ← List.append_assoc, first.octets_eq, List.append_assoc,
          second.octets_eq, List.flatMap_append, List.append_assoc]
      · intro piece member
        rcases List.mem_append.mp member with here | there
        · exact first.sound piece here
        · exact second.sound piece there

end Decoder

/-- The scalar values that octets are decoded to. -/
def values (octets : List Octet) : List Nat :=
  let fed := Decoder.idle.feed octets
  fed.2 ++ fed.1.finish

theorem bufferText_eq (octets : List Octet) : bufferText octets = (values octets).flatMap units :=
  rfl

/-- Octets fall into pieces. -/
theorem values_pieces (octets : List Octet) :
    ∃ pieces : List Piece, values octets = pieces.map Piece.value ∧
      octets = pieces.flatMap Piece.octets ∧ ∀ piece ∈ pieces, piece.Sound := by
  rcases Decoder.Begun.idle.feed octets with ⟨pieces, rest, yields⟩
  have split := yields.octets_eq
  rw [List.nil_append] at split
  rw [values, Decoder.finish]
  by_cases ready : (Decoder.idle.feed octets).1.missing = 0
  · refine ⟨pieces, ?_, ?_, yields.sound⟩
    · rw [yields.values_eq]
      simp only [ready, if_true, List.append_nil]
    · rw [split, yields.begun.missing_iff.mp ready, List.append_nil]
  · refine ⟨pieces ++ [⟨rest, replacement⟩], ?_, ?_, ?_⟩
    · rw [yields.values_eq]
      simp only [ready, if_false, List.map_append, List.map_cons, List.map_nil]
    · rw [List.flatMap_append, List.flatMap_singleton]
      exact split
    · intro piece member
      rcases List.mem_append.mp member with here | last
      · exact yields.sound piece here
      · rw [List.mem_singleton.mp last]
        exact Or.inr ⟨rfl, yields.begun.length_le⟩

theorem Piece.Sound.isScalar {piece : Piece} (sound : piece.Sound) : IsScalar piece.value := by
  rcases sound with ⟨valid, -⟩ | ⟨replaced, -⟩
  · exact valid
  · rw [replaced]
    exact isScalar_replacement

theorem isScalar_values (octets : List Octet) : ∀ value ∈ values octets, IsScalar value := by
  rcases values_pieces octets with ⟨pieces, eq, -, sound⟩
  intro value member
  rw [eq] at member
  rcases List.mem_map.mp member with ⟨piece, isPiece, rfl⟩
  exact (sound piece isPiece).isScalar

theorem scalars_bufferText (octets : List Octet) : scalars (bufferText octets) = values octets :=
  scalars_flatMap_units (isScalar_values octets)

/-! ## Cuts -/

namespace Decoder

/-- The octet goes on with what the decoder has begun. -/
def Continues (decoder : Decoder) (octet : Octet) : Prop :=
  decoder.missing ≠ 0 ∧ decoder.lower ≤ octet.val ∧ octet.val ≤ decoder.upper

instance (decoder : Decoder) (octet : Octet) : Decidable (decoder.Continues octet) :=
  instDecidableAnd

/-- What a decoder makes of the rest of a stream. -/
def valuesFrom (decoder : Decoder) (octets : List Octet) : List Nat :=
  (decoder.feed octets).2 ++ (decoder.feed octets).1.finish

variable {part : List Octet} {decoder : Decoder}

theorem valuesFrom_cons (decoder : Decoder) (octet : Octet) (later : List Octet) :
    decoder.valuesFrom (octet :: later) =
      (decoder.step octet).2 ++ (decoder.step octet).1.valuesFrom later := by
  rw [valuesFrom, feed, valuesFrom, List.append_assoc]

/-- What has begun is replaced when it is not gone on with. -/
theorem Begun.valuesFrom_apart (begun : Begun part decoder) (octets : List Octet)
    (apart : ∀ octet, octets.head? = some octet → ¬decoder.Continues octet) :
    decoder.valuesFrom octets = decoder.finish ++ values octets := by
  by_cases ready : decoder.missing = 0
  · rw [begun.idle_of_missing ready]
    rfl
  · cases octets with
    | nil =>
        exact (List.append_nil _).symm
    | cons octet later =>
        have outside : octet.val < decoder.lower ∨ decoder.upper < octet.val := by
          have notContinued := apart octet rfl
          rw [Continues, not_and, not_and] at notContinued
          by_contra inside
          rw [not_or, Nat.not_lt, Nat.not_lt] at inside
          exact notContinued ready inside.1 inside.2
        have stepped : decoder.step octet =
            ((start octet).1, replacement :: (start octet).2) := by
          rw [Decoder.step, if_neg ready, if_pos outside]
        have fresh : Decoder.idle.step octet = start octet := if_pos rfl
        rw [valuesFrom_cons, stepped, finish, if_neg ready]
        change _ = [replacement] ++ Decoder.idle.valuesFrom (octet :: later)
        rw [valuesFrom_cons, fresh]
        rfl

/-- A decoder that was cut off gives no fewer values, and more where it is gone on with. -/
theorem Begun.length_valuesFrom (begun : Begun part decoder) (octets : List Octet) :
    (decoder.valuesFrom octets).length ≤ (decoder.finish ++ values octets).length ∧
      ∀ octet, octets.head? = some octet → decoder.Continues octet →
        (decoder.valuesFrom octets).length < (decoder.finish ++ values octets).length := by
  induction octets generalizing part decoder with
  | nil =>
      have same := begun.valuesFrom_apart [] fun octet isHead => by cases isHead
      exact ⟨Nat.le_of_eq (congrArg List.length same), fun octet isHead => by cases isHead⟩
  | cons octet later induction =>
      by_cases continued : decoder.Continues octet
      · have strictly : (decoder.valuesFrom (octet :: later)).length <
            (decoder.finish ++ values (octet :: later)).length := by
          rcases continued with ⟨waiting, lower, upper⟩
          have bounds := begun.bounds
          -- By itself the octet is replaced.
          have alone : Decoder.idle.step octet = (Decoder.idle, [replacement]) := by
            change start octet = _
            rw [start, if_neg (by omega), if_neg (by omega), if_neg (by omega), if_neg (by omega)]
          have behind : values (octet :: later) = replacement :: values later := by
            change Decoder.idle.valuesFrom (octet :: later) = _
            rw [valuesFrom_cons, alone]
            rfl
          have inside : ¬(octet.val < decoder.lower ∨ decoder.upper < octet.val) := by omega
          rw [finish, if_neg waiting, behind, List.length_append, List.length_singleton,
            List.length_cons, valuesFrom_cons]
          by_cases last : decoder.missing = 1
          · have stepped : decoder.step octet =
                (Decoder.idle, [decoder.codePoint * 0x40 + octet.val % 0x40]) := by
              rw [Decoder.step, if_neg waiting, if_neg inside]
              exact if_pos last
            rw [stepped]
            change (_ :: values later).length < _
            rw [List.length_cons]
            omega
          · have stepped : decoder.step octet =
                ({ codePoint := decoder.codePoint * 0x40 + octet.val % 0x40
                   missing := decoder.missing - 1 }, []) := by
              rw [Decoder.step, if_neg waiting, if_neg inside]
              exact if_neg last
            have more := (induction (begun.continues (by omega) lower upper)).1
            have replaced (next : Decoder) : next.finish.length ≤ 1 := by
              rw [finish]
              split <;> simp
            have once := replaced
              { codePoint := decoder.codePoint * 0x40 + octet.val % 0x40
                missing := decoder.missing - 1 }
            rw [List.length_append] at more
            rw [stepped, List.nil_append]
            dsimp only
            omega
        exact ⟨Nat.le_of_lt strictly, fun other _ _ => strictly⟩
      · have same := begun.valuesFrom_apart (octet :: later) fun other isHead => by
          cases isHead
          exact continued
        refine ⟨Nat.le_of_eq (congrArg List.length same), fun other isHead isContinued => ?_⟩
        cases isHead
        exact absurd isContinued continued

end Decoder

/-- A cut of the octets at this place falls inside a piece: the octet behind the cut goes on
with what stands before it. -/
def CutsAt (octets : List Octet) (place : Nat) : Prop :=
  ∃ octet ∈ octets[place]?, (Decoder.idle.feed (octets.take place)).1.Continues octet

instance (octets : List Octet) (place : Nat) : Decidable (CutsAt octets place) :=
  match found : octets[place]? with
  | none => isFalse fun cuts => by
      rcases cuts with ⟨octet, isThere, -⟩
      rw [found] at isThere
      cases isThere
  | some octet =>
      decidable_of_iff ((Decoder.idle.feed (octets.take place)).1.Continues octet) <| by
        constructor
        · exact fun continued => ⟨octet, found, continued⟩
        · rintro ⟨other, isThere, continued⟩
          rw [found] at isThere
          cases isThere
          exact continued

theorem values_append (first second : List Octet) :
    values (first ++ second) = (Decoder.idle.feed first).2 ++
      (Decoder.idle.feed first).1.valuesFrom second := by
  rw [values, Decoder.feed_append, Decoder.valuesFrom]
  dsimp only
  rw [List.append_assoc]

theorem cutsAt_length_iff (first second : List Octet) :
    CutsAt (first ++ second) first.length ↔
      ∃ octet, second.head? = some octet ∧ (Decoder.idle.feed first).1.Continues octet := by
  rw [CutsAt, List.take_left, List.getElem?_append_right (Nat.le_refl _), Nat.sub_self,
    ← List.head?_eq_getElem?]
  rfl

theorem values_append_apart {first second : List Octet}
    (apart : ¬CutsAt (first ++ second) first.length) :
    values (first ++ second) = values first ++ values second := by
  rcases Decoder.Begun.idle.feed first with ⟨pieces, rest, yields⟩
  rw [values_append, yields.begun.valuesFrom_apart second fun octet isHead continued =>
    apart ((cutsAt_length_iff first second).mpr ⟨octet, isHead, continued⟩), ← List.append_assoc]
  rfl

theorem length_values_append_le (first second : List Octet) :
    (values (first ++ second)).length ≤ (values first ++ values second).length := by
  rcases Decoder.Begun.idle.feed first with ⟨pieces, rest, yields⟩
  have more := (yields.begun.length_valuesFrom second).1
  rw [values_append, values, List.length_append]
  simp only [List.length_append] at more ⊢
  omega

theorem length_values_append_lt {first second : List Octet}
    (cuts : CutsAt (first ++ second) first.length) :
    (values (first ++ second)).length < (values first ++ values second).length := by
  rcases Decoder.Begun.idle.feed first with ⟨pieces, rest, yields⟩
  rcases (cutsAt_length_iff first second).mp cuts with ⟨octet, isHead, continued⟩
  have more := (yields.begun.length_valuesFrom second).2 octet isHead continued
  rw [values_append, values, List.length_append]
  simp only [List.length_append] at more ⊢
  omega

/-- Behind a cut that falls between two pieces, the decoder begins anew. -/
theorem cutsAt_append_apart {first second : List Octet}
    (apart : ¬CutsAt (first ++ second) first.length) (place : Nat) :
    CutsAt (first ++ second) (first.length + place) ↔ CutsAt second place := by
  cases second with
  | nil =>
      rw [CutsAt, CutsAt, List.append_nil, List.getElem?_eq_none (by omega)]
      simp
  | cons octet later =>
      cases place with
      | zero =>
          refine ⟨fun cuts => absurd cuts apart, fun cuts => ?_⟩
          rcases cuts with ⟨other, -, continued⟩
          exact absurd rfl continued.1
      | succ place =>
          rcases Decoder.Begun.idle.feed first with ⟨pieces, rest, yields⟩
          have again : ((Decoder.idle.feed first).1.step octet).1 = (Decoder.idle.step octet).1 := by
            by_cases ready : (Decoder.idle.feed first).1.missing = 0
            · rw [yields.begun.idle_of_missing ready]
            · have outside : octet.val < (Decoder.idle.feed first).1.lower ∨
                  (Decoder.idle.feed first).1.upper < octet.val := by
                by_contra inside
                rw [not_or, Nat.not_lt, Nat.not_lt] at inside
                exact apart ((cutsAt_length_iff _ _).mpr ⟨octet, rfl, ready, inside⟩)
              rw [Decoder.step, if_neg ready, if_pos outside]
              rfl
          have fed : (Decoder.idle.feed (first ++ octet :: later.take place)).1 =
              (Decoder.idle.feed (octet :: later.take place)).1 := by
            rw [Decoder.feed_append]
            change (((Decoder.idle.feed first).1.step octet).1.feed _).1 = _
            rw [again]
            rfl
          rw [CutsAt, CutsAt, List.take_length_add_append, List.take_succ_cons, fed,
            List.getElem?_append_right (by omega), Nat.add_sub_cancel_left]

/-- Parts are decoded one by one as they are together exactly when no cut between them falls
inside a piece. -/
theorem flatMap_values_iff (parts : List (List Octet)) :
    parts.flatMap values = values parts.flatten ↔
      ∀ first rest, parts = first ++ rest → ¬CutsAt parts.flatten first.flatten.length := by
  induction parts with
  | nil =>
      refine ⟨fun _ first rest _ cuts => ?_, fun _ => rfl⟩
      rcases cuts with ⟨octet, isThere, -⟩
      cases isThere
  | cons part later induction =>
      rw [List.flatMap_cons, List.flatten_cons]
      by_cases cuts : CutsAt (part ++ later.flatten) part.length
      · constructor
        · intro same
          have fewer := length_values_append_lt cuts
          have least (parts : List (List Octet)) :
              (values parts.flatten).length ≤ (parts.flatMap values).length := by
            induction parts with
            | nil => exact Nat.le_refl _
            | cons head tail induction =>
                have step := length_values_append_le head tail.flatten
                rw [List.flatten_cons, List.flatMap_cons]
                simp only [List.length_append] at step ⊢
                omega
          have lengths := congrArg List.length same
          have rest := least later
          simp only [List.length_append] at lengths fewer
          omega
        · intro apart
          refine absurd ?_ (apart [part] later rfl)
          rw [List.flatten_singleton]
          exact cuts
      · rw [values_append_apart cuts, List.append_cancel_left_eq, induction]
        constructor
        · intro apart first rest split isCut
          cases first with
          | nil =>
              rcases isCut with ⟨octet, -, continued⟩
              exact absurd rfl continued.1
          | cons head tail =>
              cases split
              rw [List.flatten_cons, List.length_append, cutsAt_append_apart cuts] at isCut
              exact apart tail rest rfl isCut
        · intro apart first rest split isCut
          refine apart (part :: first) rest (by rw [split]; rfl) ?_
          rw [List.flatten_cons, List.length_append, cutsAt_append_apart cuts]
          exact isCut

theorem flatMap_bufferText_iff (parts : List (List Octet)) :
    parts.flatMap bufferText = bufferText parts.flatten ↔
      ∀ first rest, parts = first ++ rest → ¬CutsAt parts.flatten first.flatten.length := by
  rw [← flatMap_values_iff]
  have texts : parts.flatMap bufferText = (parts.flatMap values).flatMap units := by
    rw [List.flatMap_assoc]
    rfl
  have valid : ∀ value ∈ parts.flatMap values, IsScalar value := by
    intro value member
    rcases List.mem_flatMap.mp member with ⟨part, -, isValue⟩
    exact isScalar_values part value isValue
  constructor
  · intro same
    have decoded := congrArg scalars same
    rwa [texts, scalars_flatMap_units valid, scalars_bufferText] at decoded
  · intro same
    rw [texts, same]
    rfl

end DshRemote.Utf8
