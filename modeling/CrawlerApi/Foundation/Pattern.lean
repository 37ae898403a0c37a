import Mathlib.Data.List.Basic

/-!
# Byte patterns

The fragment of regular expressions over bytes that literal markers need: case
is ignored, `boundary` is a word boundary, `spaces` any run of white space.
Matching hands the rest of the input to a continuation, so it backtracks.
-/

namespace CrawlerApi.Foundation

def isSpaceByte (byte : UInt8) : Bool := byte = 0x20 || (0x09 ≤ byte && byte ≤ 0x0d)

def lowerByte (byte : UInt8) : UInt8 := if 0x41 ≤ byte && byte ≤ 0x5a then byte + 0x20 else byte

def isWordByte (byte : UInt8) : Bool :=
  (0x30 ≤ byte && byte ≤ 0x39) || (0x61 ≤ lowerByte byte && lowerByte byte ≤ 0x7a) || byte = 0x5f

def asciiBytes (text : String) : List UInt8 := text.toUTF8.data.toList

inductive Pattern where
  | literal (bytes : List UInt8)
  | boundary
  | spaces
  | optional (pattern : Pattern)
  | either (left right : Pattern)
  | sequence (first second : Pattern)

namespace Pattern

def text (text : String) : Pattern := .literal ((asciiBytes text).map lowerByte)

def word (marker : String) : Pattern := .sequence .boundary (.sequence (text marker) .boundary)

structure Position where
  before : Option UInt8
  after : List UInt8

def atBoundary (position : Position) : Bool :=
  position.before.any isWordByte != position.after.head?.any isWordByte

def matchLiteral (next : Position → Bool) : List UInt8 → Option UInt8 → List UInt8 → Bool
  | [], before, after => next ⟨before, after⟩
  | _ :: _, _, [] => false
  | byte :: bytes, _, first :: after =>
      lowerByte first = byte && matchLiteral next bytes (some first) after

def matchSpaces (next : Position → Bool) (before : Option UInt8) : List UInt8 → Bool
  | [] => next ⟨before, []⟩
  | first :: after =>
      next ⟨before, first :: after⟩ ||
        (isSpaceByte first && matchSpaces next (some first) after)

def matchAt : Pattern → (Position → Bool) → Position → Bool
  | .literal bytes, next, position =>
      matchLiteral next bytes position.before position.after
  | .boundary, next, position => atBoundary position && next position
  | .spaces, next, position => matchSpaces next position.before position.after
  | .optional pattern, next, position =>
      pattern.matchAt next position || next position
  | .either left right, next, position =>
      left.matchAt next position || right.matchAt next position
  | .sequence first second, next, position =>
      first.matchAt (second.matchAt next) position

def searchFrom (pattern : Pattern) (before : Option UInt8) : List UInt8 → Bool
  | [] => pattern.matchAt (fun _ => true) ⟨before, []⟩
  | first :: after =>
      pattern.matchAt (fun _ => true) ⟨before, first :: after⟩ ||
        pattern.searchFrom (some first) after

/-- `re.search` under `re.I`. -/
def search (pattern : Pattern) (body : List UInt8) : Bool := pattern.searchFrom none body

end Pattern

end CrawlerApi.Foundation
