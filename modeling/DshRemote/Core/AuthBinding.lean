import DshRemote.Core.Auth
import DshRemote.Foundation.JsonIntegers
import DshRemote.Foundation.JsonScan
import DshRemote.Foundation.JsonText

/-! # What a proof is bound to

Canonical text is the printed text of the sorted value, so it ends where a printed value
ends. The server nonce before it has a fixed length and is made of plain code units: the
parts of a proof's message can be told apart, up to what the encoding does to lone
surrogates in the client nonce. -/

namespace DshRemote

open Json

variable {Number : Type} (format : NumberFormat Number)

/-! ## Canonical text -/

theorem stringifyMembers_eq_map (members : List (Text × Json Number)) :
    stringifyMembers format members =
      members.map fun entry => quote entry.1 ++ ascii ':' :: stringify format entry.2 := by
  induction members with
  | nil => rfl
  | cons entry rest induction => rw [stringifyMembers, List.map_cons, induction]

theorem sortEntries_map {Value Other : Type} (change : Value → Other)
    (entries : List (Text × Value)) :
    (sortEntries entries).map (fun entry => (entry.1, change entry.2)) =
      sortEntries (entries.map fun entry => (entry.1, change entry.2)) :=
  List.map_mergeSort fun _ _ _ _ => rfl

mutual

theorem canonicalJSON_eq : ∀ value : Json Number,
    canonicalJSON format value = stringify format (sortKeys value)
  | .array items => by
      rw [canonicalJSON, sortKeys, stringify, canonicalItems_eq]
  | .object members => by
      rw [canonicalJSON, sortKeys, stringify, canonicalMembers_eq, stringifyMembers_eq_map,
        ← sortEntries_map, List.map_map]
      rfl
  | .null => rfl
  | .bool _ => rfl
  | .number _ => rfl
  | .infinite _ => rfl
  | .string _ => rfl

theorem canonicalItems_eq : ∀ items : List (Json Number),
    canonicalItems format items = stringifyItems format (sortItems items)
  | [] => rfl
  | item :: rest => by
      rw [canonicalItems, sortItems, stringifyItems, canonicalJSON_eq item, canonicalItems_eq rest]

theorem canonicalMembers_eq : ∀ members : List (Text × Json Number),
    canonicalMembers format members =
      (sortMembers members).map fun entry => (entry.1, stringify format entry.2)
  | [] => rfl
  | (key, value) :: rest => by
      rw [canonicalMembers, sortMembers, List.map_cons, canonicalJSON_eq value,
        canonicalMembers_eq rest]

end

theorem canonicalJSON_eq_iff {value other : Json Number} (valid : value.Valid)
    (otherValid : other.Valid) :
    canonicalJSON format value = canonicalJSON format other ↔ Same value other := by
  rw [canonicalJSON_eq, canonicalJSON_eq, same_iff_sortKeys value other valid otherValid]
  exact ⟨stringify_injective format (valid_sortKeys value valid) (valid_sortKeys other otherValid),
    congrArg _⟩

mutual

theorem sortKeys_sortKeys : ∀ value : Json Number, sortKeys (sortKeys value) = sortKeys value
  | .array items => by rw [sortKeys, sortKeys, sortItems_sortItems]
  | .object members => by
      have sorted := (pairwise_sortEntries (sortMembers members)).imp fun below =>
        decide_eq_true below
      rw [sortKeys, sortKeys, sortMembers_eq_map (sortEntries _), sortEntries_map,
        ← sortMembers_eq_map, sortMembers_sortMembers]
      exact congrArg _ (List.mergeSort_of_pairwise sorted)
  | .null => rfl
  | .bool _ => rfl
  | .number _ => rfl
  | .infinite _ => rfl
  | .string _ => rfl

theorem sortItems_sortItems : ∀ items : List (Json Number),
    sortItems (sortItems items) = sortItems items
  | [] => rfl
  | item :: rest => by
      rw [sortItems, sortItems, sortKeys_sortKeys item, sortItems_sortItems rest]

theorem sortMembers_sortMembers : ∀ members : List (Text × Json Number),
    sortMembers (sortMembers members) = sortMembers members
  | [] => rfl
  | (key, value) :: rest => by
      rw [sortMembers, sortMembers, sortKeys_sortKeys value, sortMembers_sortMembers rest]

end

theorem same_sortKeys {value : Json Number} (valid : value.Valid) : Same (sortKeys value) value :=
  (same_iff_sortKeys _ _ (valid_sortKeys value valid) valid).mpr (sortKeys_sortKeys value)

/-- Canonical text is read back as the value it was made from, with its members sorted. -/
theorem parse_canonicalJSON {value : Json Number} (valid : value.Valid) :
    parse format (canonicalJSON format value) = some (sortKeys value) := by
  rw [canonicalJSON_eq]
  exact parse_stringify format (valid_sortKeys value valid)

/-- Canonical text stands for its value: the same text belongs to the same value and to no
other, the value is read back from it, and a value that went over the wire as ordinary JSON
has the text it had before. -/
theorem canonicalJSON_faithful (value other : Json Number) (valid : value.Valid)
    (otherValid : other.Valid) :
    (canonicalJSON format value = canonicalJSON format other ↔ Same value other) ∧
    (∃ back, parse format (canonicalJSON format value) = some back ∧ Same back value) ∧
    ∃ crossed, parse format (stringify format value) = some crossed ∧
      canonicalJSON format crossed = canonicalJSON format value := by
  have read := parse_canonicalJSON format valid
  have crossed := parse_stringify format valid
  exact ⟨canonicalJSON_eq_iff format valid otherValid, ⟨_, read, same_sortKeys valid⟩,
    ⟨_, crossed, rfl⟩⟩

/-- Two members of one value in both orders. -/
theorem canonicalJSON_faithful_reordered :
    canonicalJSON integers (.object [([0x62], .number 1), ([0x61], .array [.number 2])]) =
      canonicalJSON integers (.object [([0x61], .array [.number 2]), ([0x62], .number 1)]) := by
  have valid : (Json.object [([0x62], .number 1), ([0x61], .array [.number 2])] : Json Int).Valid :=
    ⟨show ([[0x62], [0x61]] : List Text).Nodup by decide, trivial, ⟨trivial, trivial⟩, trivial⟩
  have otherValid :
      (Json.object [([0x61], .array [.number 2]), ([0x62], .number 1)] : Json Int).Valid :=
    ⟨show ([[0x61], [0x62]] : List Text).Nodup by decide, ⟨trivial, trivial⟩, trivial, trivial⟩
  apply (canonicalJSON_faithful integers _ _ valid otherValid).1.mpr
  exact ⟨rfl, ⟨.number 1, List.mem_cons_of_mem _ List.mem_cons_self, rfl⟩,
    ⟨.array [.number 2], List.mem_cons_self, rfl, trivial⟩, trivial⟩

/-! ## The test of a proof -/

theorem small_hexText (octets : List Octet) : ∀ unit ∈ hexText octets, unit.val < 0x80 := by
  intro unit member
  rcases List.mem_flatMap.mp member with ⟨octet, _, digit⟩
  have high : octet.val / 0x10 < 0x10 := by
    have bounded : octet.val < 256 := octet.isLt
    generalize octet.val = value at *
    omega
  rcases List.mem_cons.mp digit with rfl | digit
  · exact (hexDigit_bounds high).2
  · rw [List.mem_singleton.mp digit]
    exact (hexDigit_bounds (Nat.mod_lt _ (by decide))).2

theorem verifyProof_iff (hmac : List Octet → List Octet → List Octet)
    {token clientNonce serverNonce proof : Text} {hello : Json Number} :
    verifyProof format hmac token clientNonce serverNonce hello proof = true ↔
      proof = computeProof format hmac token clientNonce serverNonce hello := by
  constructor
  · intro verified
    rw [verifyProof] at verified
    split at verified
    · cases verified
    · exact Utf8.encode_eq_of_small (small_hexText _) (of_decide_eq_true verified).symm
  · rintro rfl
    rw [verifyProof, if_neg (not_not.mpr rfl)]
    exact decide_eq_true rfl

/-! ## The parts of a message -/

theorem isPlain_of_isHex {unit : CodeUnit} (hex : IsHex unit) : Scan.IsPlain unit := by
  have apart : ∀ character : Char, ¬IsHex (ascii character) → unit ≠ ascii character := by
    rintro character notHex rfl
    exact notHex hex
  exact ⟨apart _ (by decide), apart _ (by decide), apart _ (by decide), apart _ (by decide),
    apart _ (by decide), apart _ (by decide)⟩

theorem small_of_isHex {unit : CodeUnit} (hex : IsHex unit) :
    0x20 ≤ unit.val ∧ unit.val < 0x80 := by
  unfold IsHex at hex
  generalize unit.val = value at *
  omega

theorem wellFormed_serverNonce (nonce : ServerNonce) : Utf8.WellFormed nonce.text :=
  composed_wellFormed.of_ascii fun unit member => small_of_isHex (nonce.isHex unit member)

/-- No printed value ends in another printed object that a server nonce stands before. -/
theorem no_longer_part {front front' more : Text} {nonce nonce' : ServerNonce}
    {value : Json Number} {members : List (Text × Json Number)} (notEmpty : more ≠ [])
    (fronts : front ++ nonce.text = front' ++ nonce'.text ++ more) :
    stringify format value ≠ more ++ stringify format (.object members) := by
  rcases List.eq_nil_or_concat' more with empty | ⟨before, last, rfl⟩
  · exact absurd empty notEmpty
  · have isHex : IsHex last := by
      rcases List.eq_nil_or_concat' nonce.text with empty | ⟨digits, digit, text⟩
      · have length := nonce.length_text
        rw [empty] at length
        cases length
      · rw [text, ← List.append_assoc, ← List.append_assoc] at fronts
        have same : digit = last := List.head_eq_of_cons_eq (List.append_inj' fronts rfl).2
        apply nonce.isHex
        rw [text, same]
        exact List.mem_append_right _ List.mem_cons_self
    rw [List.append_assoc]
    exact Scan.stringify_ne_append format value members before (isPlain_of_isHex isHex)

/-- Three parts put together, the last one a printed object, can be taken apart again. -/
theorem parts_eq {front front' : Text} {nonce nonce' : ServerNonce}
    {members others : List (Text × Json Number)}
    (same : front ++ nonce.text ++ stringify format (.object members) =
      front' ++ nonce'.text ++ stringify format (.object others)) :
    front = front' ∧ nonce.text = nonce'.text ∧
      stringify format (.object members) = stringify format (.object others) := by
  rcases List.append_eq_append_iff.mp same with ⟨more, fronts, objects⟩ | ⟨more, fronts, objects⟩
  · by_cases empty : more = []
    · rw [empty, List.append_nil] at fronts
      rw [empty, List.nil_append] at objects
      have parts := List.append_inj' fronts (nonce'.length_text.trans nonce.length_text.symm)
      exact ⟨parts.1.symm, parts.2.symm, objects⟩
    · exact absurd objects (no_longer_part format empty fronts)
  · by_cases empty : more = []
    · rw [empty, List.append_nil] at fronts
      rw [empty, List.nil_append] at objects
      have parts := List.append_inj' fronts (nonce.length_text.trans nonce'.length_text.symm)
      exact ⟨parts.1, parts.2, objects.symm⟩
    · exact absurd objects (no_longer_part format empty fronts)

/-! ## Messages -/

theorem serverNonce_apart (nonce : ServerNonce) (rest : Text) :
    ∀ unit ∈ (nonce.text ++ rest).head?, ¬Utf8.IsLow unit := by
  cases text : nonce.text with
  | nil =>
      have length := nonce.length_text
      rw [text] at length
      cases length
  | cons first more =>
      intro unit head low
      cases head
      have small := small_of_isHex (nonce.isHex first (by rw [text]; exact List.mem_cons_self))
      exact absurd low.1 (by omega)

/-- Only a client nonce is changed by the encoding of a message. -/
theorem toWellFormed_proofMessage (clientNonce : Text) (serverNonce : ServerNonce)
    (hello : Json Number) :
    Utf8.toWellFormed (proofMessage format clientNonce serverNonce.text hello) =
      proofMessage format (Utf8.toWellFormed clientNonce) serverNonce.text hello := by
  have canonical : Utf8.WellFormed (canonicalJSON format hello) := by
    rw [canonicalJSON_eq]
    exact wellFormed_stringify format (sortKeys hello)
  have rest := (wellFormed_serverNonce serverNonce).append canonical
  rw [proofMessage, proofMessage, List.append_assoc, List.append_assoc,
    Utf8.toWellFormed_append (serverNonce_apart serverNonce _)]
  exact congrArg _ rest

section Binding

variable {clientNonce otherClientNonce : Text} {serverNonce otherServerNonce : ServerNonce}
  {hello otherHello : List (Text × Json Number)}

theorem proofMessage_eq_iff (valid : (Json.object hello).Valid)
    (otherValid : (Json.object otherHello).Valid) :
    proofMessage format clientNonce serverNonce.text (.object hello) =
        proofMessage format otherClientNonce otherServerNonce.text (.object otherHello) ↔
      clientNonce = otherClientNonce ∧ serverNonce = otherServerNonce ∧
        Same (.object hello) (.object otherHello) := by
  rw [← canonicalJSON_eq_iff format valid otherValid]
  constructor
  · intro same
    rw [proofMessage, proofMessage, canonicalJSON_eq, canonicalJSON_eq, sortKeys, sortKeys] at same
    rcases parts_eq format same with ⟨front, nonce, object⟩
    refine ⟨front, ServerNonce.ext nonce, ?_⟩
    rw [canonicalJSON_eq, canonicalJSON_eq, sortKeys, sortKeys, object]
  · rintro ⟨rfl, rfl, object⟩
    rw [proofMessage, proofMessage, object]

theorem encode_proofMessage_eq_iff (valid : (Json.object hello).Valid)
    (otherValid : (Json.object otherHello).Valid) :
    Utf8.encode (proofMessage format clientNonce serverNonce.text (.object hello)) =
        Utf8.encode (proofMessage format otherClientNonce otherServerNonce.text
          (.object otherHello)) ↔
      Utf8.toWellFormed clientNonce = Utf8.toWellFormed otherClientNonce ∧
        serverNonce = otherServerNonce ∧ Same (.object hello) (.object otherHello) := by
  rw [Utf8.encode_eq_iff, toWellFormed_proofMessage, toWellFormed_proofMessage,
    proofMessage_eq_iff format valid otherValid]

theorem nonce_eq_of_same (otherValid : (Json.object otherHello).Valid)
    (same : Same (.object hello) (.object otherHello)) {key : Text}
    (own : (key, .string clientNonce) ∈ hello) (other : (key, .string otherClientNonce) ∈ otherHello) :
    clientNonce = otherClientNonce := by
  rcases SameMembers.exists_of_mem same.2 own with ⟨value, member, sameValue⟩
  have equal := eq_of_same_key otherValid.1 member other rfl
  rw [Prod.mk.injEq] at equal
  rw [equal.2] at sameValue
  exact sameValue

end Binding

/-- What the octets of a message determine, and what its text does. The nonce of a client
is determined up to its lone surrogates, and altogether when it is that of the greeting. -/
theorem proofMessage_determines (clientNonce otherClientNonce : Text)
    (serverNonce otherServerNonce : ServerNonce) (hello otherHello : List (Text × Json Number))
    (valid : (Json.object hello).Valid) (otherValid : (Json.object otherHello).Valid) :
    let text := proofMessage format clientNonce serverNonce.text (.object hello)
    let otherText := proofMessage format otherClientNonce otherServerNonce.text (.object otherHello)
    (Utf8.encode text = Utf8.encode otherText ↔
      Utf8.toWellFormed clientNonce = Utf8.toWellFormed otherClientNonce ∧
        serverNonce = otherServerNonce ∧ Same (.object hello) (.object otherHello)) ∧
    (text = otherText ↔
      clientNonce = otherClientNonce ∧ serverNonce = otherServerNonce ∧
        Same (.object hello) (.object otherHello)) ∧
    (Utf8.encode text = Utf8.encode otherText →
      (asciiText "nonce", .string clientNonce) ∈ hello →
        (asciiText "nonce", .string otherClientNonce) ∈ otherHello →
          clientNonce = otherClientNonce) := by
  intro text otherText
  have octets : Utf8.encode text = Utf8.encode otherText ↔ _ :=
    encode_proofMessage_eq_iff format valid otherValid
  refine ⟨octets, proofMessage_eq_iff format valid otherValid, fun same own other => ?_⟩
  exact nonce_eq_of_same otherValid (octets.mp same).2.2 own other

/-- A greeting as a frontend sends it. -/
def greeting (nonce : Text) : List (Text × Json Int) :=
  [(asciiText "protocolVersion", .number 1), (asciiText "capabilities", .array []),
    (asciiText "nonce", .string nonce)]

def zeroNonce : ServerNonce where
  text := List.replicate 32 (ascii '0')
  length_text := List.length_replicate
  isHex := fun unit member => by
    rw [List.eq_of_mem_replicate member]
    decide

theorem valid_greeting (nonce : Text) : (Json.object (greeting nonce)).Valid :=
  ⟨show [asciiText "protocolVersion", asciiText "capabilities", asciiText "nonce"].Nodup by
    decide, trivial, trivial, trivial, trivial⟩

/-- Another nonce makes another message. -/
theorem proofMessage_determines_greeting :
    Utf8.encode (proofMessage integers [0x61] zeroNonce.text (.object (greeting [0x61]))) ≠
      Utf8.encode (proofMessage integers [0x62] zeroNonce.text (.object (greeting [0x62]))) :=
  fun same => absurd ((proofMessage_determines integers [0x61] [0x62] zeroNonce zeroNonce
    (greeting [0x61]) (greeting [0x62]) (valid_greeting _) (valid_greeting _)).1.mp same).1
    (by decide)

/-- Two client nonces that are lone surrogates make the same octets with one greeting. -/
theorem proofMessage_loneSurrogates :
    Utf8.encode (proofMessage integers [0xD800] zeroNonce.text (.object (greeting [0x61]))) =
        Utf8.encode (proofMessage integers [0xD801] zeroNonce.text (.object (greeting [0x61]))) ∧
      ([0xD800] : Text) ≠ [0xD801] := by
  refine ⟨Utf8.encode_eq_iff.mpr ?_, by decide⟩
  rw [toWellFormed_proofMessage, toWellFormed_proofMessage]
  rfl

end DshRemote
