import DshRemote.Foundation.Json

/-! # The text of remote files

Line endings, the probe for binary contents, and the literal matches of an edit. The
searches are for a needle that is not empty, as an edit has it. -/

namespace DshRemote.FsSsh

open Json (ascii)

/-! ## Line endings -/

def carriageReturn : CodeUnit := ascii '\r'

def lineFeed : CodeUnit := ascii '\n'

def normalizeLf : Text → Text
  | [] => []
  | [unit] => [unit]
  | unit :: next :: rest =>
      if unit = carriageReturn ∧ next = lineFeed then lineFeed :: normalizeLf rest
      else unit :: normalizeLf (next :: rest)

def toCrlf (text : Text) : Text :=
  text.flatMap fun unit => if unit = lineFeed then [carriageReturn, lineFeed] else [unit]

/-! ## Binary contents -/

def binaryProbeBytes : Nat := 8192

structure BinaryProbe where
  inspected : Nat := 0
  binary : Bool := false
deriving DecidableEq, Repr

/-- The probe after a chunk, and whether the contents are binary. -/
def BinaryProbe.push (self : BinaryProbe) (chunk : List Octet) : BinaryProbe × Bool :=
  if self.binary then (self, true)
  else if binaryProbeBytes ≤ self.inspected then (self, false)
  else
    let count := min chunk.length (binaryProbeBytes - self.inspected)
    if (chunk.take count).contains 0 then ({ self with binary := true }, true)
    else ({ self with inspected := self.inspected + count }, false)

/-! ## Literal matches -/

/-- `haystack.indexOf(needle)`. -/
def indexOf (needle : Text) : Text → Option Nat
  | [] => if needle = [] then some 0 else none
  | unit :: rest =>
      if needle.isPrefixOf (unit :: rest) then some 0 else (indexOf needle rest).map (· + 1)

def hasCrlf (text : Text) : Bool := (indexOf [carriageReturn, lineFeed] text).isSome

/-- The loop of `countLiteral`. Every match leaves less to search. -/
def countFrom (needle : Text) : Nat → Text → Nat
  | 0, _ => 0
  | fuel + 1, haystack =>
      match indexOf needle haystack with
      | none => 0
      | some start => 1 + countFrom needle fuel (haystack.drop (start + needle.length))

def countLiteral (haystack needle : Text) : Nat := countFrom needle haystack.length haystack

/-- `haystack.split(needle)`, with as many cuts as there may be matches. -/
def splitLiteral (needle : Text) : Nat → Text → List Text
  | 0, haystack => [haystack]
  | fuel + 1, haystack =>
      match indexOf needle haystack with
      | none => [haystack]
      | some start =>
          haystack.take start :: splitLiteral needle fuel (haystack.drop (start + needle.length))

def replaceLiteral (haystack needle replacement : Text) (all : Bool) : Text :=
  if all then replacement.intercalate (splitLiteral needle haystack.length haystack)
  else
    match indexOf needle haystack with
    | none => haystack
    | some start => haystack.take start ++ replacement ++ haystack.drop (start + needle.length)

end DshRemote.FsSsh
