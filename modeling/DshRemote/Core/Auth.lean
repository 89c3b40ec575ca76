import DshRemote.Foundation.JsonSame

/-! # The authentication of a connection

The greeting of a frontend, the challenge of the backend, and the proof that the frontend
has the pairing token. A greeting is any JSON object: only some of its members are checked.
The HMAC is a parameter. -/

namespace DshRemote

open Json

/-! ## Hexadecimal text -/

def IsHex (unit : CodeUnit) : Prop :=
  0x30 ≤ unit.val ∧ unit.val ≤ 0x39 ∨ 0x61 ≤ unit.val ∧ unit.val ≤ 0x66 ∨
    0x41 ≤ unit.val ∧ unit.val ≤ 0x46

instance (unit : CodeUnit) : Decidable (IsHex unit) := instDecidableOr

/-- `toString('hex')` of a buffer. -/
def hexText (octets : List Octet) : Text :=
  octets.flatMap fun octet => [hexDigit (octet.val / 0x10), hexDigit (octet.val % 0x10)]

/-- Sixteen random bytes as hexadecimal text. -/
@[ext]
structure ServerNonce where
  text : Text
  length_text : text.length = 32
  isHex : ∀ unit ∈ text, IsHex unit

/-! ## Messages -/

section Auth

variable {Number : Type}

/-- What the backend answers a greeting with. -/
structure ChallengeMessage where
  nonce : ServerNonce
  capabilities : List String

def createChallenge (serverNonce : ServerNonce) (capabilities : List String) :
    ChallengeMessage := ⟨serverNonce, capabilities⟩

/-! ## The proof -/

variable (format : NumberFormat Number)

mutual

def canonicalJSON : Json Number → Text
  | .array items => ascii '[' :: (join (canonicalItems items) ++ [ascii ']'])
  | .object record =>
      let body := join ((sortEntries (canonicalMembers record)).map fun entry =>
        quote entry.1 ++ ascii ':' :: entry.2)
      ascii '\x7b' :: (body ++ [ascii '\x7d'])
  | .null => stringify format .null
  | .bool value => stringify format (.bool value)
  | .number value => stringify format (.number value)
  | .infinite negative => stringify format (.infinite negative)
  | .string value => stringify format (.string value)

def canonicalItems : List (Json Number) → List Text
  | [] => []
  | item :: rest => canonicalJSON item :: canonicalItems rest

/-- Each key with the canonical text of its value. -/
def canonicalMembers : List (Text × Json Number) → List (Text × Text)
  | [] => []
  | (key, value) :: rest => (key, canonicalJSON value) :: canonicalMembers rest

end

/-- The text that `computeProof` puts together. -/
def proofMessage (clientNonce serverNonce : Text) (hello : Json Number) : Text :=
  clientNonce ++ serverNonce ++ canonicalJSON format hello

variable (hmac : List Octet → List Octet → List Octet)

def computeProof (token clientNonce serverNonce : Text) (hello : Json Number) : Text :=
  hexText (hmac (Utf8.encode token)
    (Utf8.encode (proofMessage format clientNonce serverNonce hello)))

def verifyProof (token clientNonce serverNonce : Text) (hello : Json Number) (proof : Text) :
    Bool :=
  let expected := Utf8.encode (computeProof format hmac token clientNonce serverNonce hello)
  let actual := Utf8.encode proof
  if expected.length ≠ actual.length then false else decide (expected = actual)

end Auth

end DshRemote
