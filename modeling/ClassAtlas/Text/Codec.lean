import ClassAtlas.Text.Points
import ClassAtlas.Text.Quoted

/-!
# UTF-8 and UTF-16

The codecs stand between bytes and code points, the numbers up to `10FFFF`. A
strict codec refuses surrogates; `Handler.surrogatePass` lets each of them pass in
the three-byte form of UTF-8 and as a unit of UTF-16.

A decoder reads from left to right and stops at the first malformed bytes. The
fault names them by their place in the input.
-/

namespace ClassAtlas.Text

/-- Input that a decoder cannot read. -/
structure Malformed where
  /-- What is left of the input, the malformed bytes first. -/
  input : List UInt8
  /-- The number of malformed bytes. -/
  width : Nat
  reason : String

/-- Why a codec refuses its input. -/
structure CodecFault where
  codec : String
  /-- Where the malformed bytes start. -/
  position : Nat
  malformed : List UInt8
  reason : String
  deriving DecidableEq, Repr

/-- One byte is shown itself, several are shown by their place. -/
def CodecFault.message (f : CodecFault) : String :=
  let place := match f.malformed with
    | [b] => s!"byte 0x{hexByte b} in position {f.position}"
    | bytes => s!"bytes in position {f.position}-{f.position + bytes.length - 1}"
  s!"'{f.codec}' codec can't decode {place}: {f.reason}"

/-- The fault of a codec that could not read `data` to its end. -/
def Malformed.fault (codec : String) (data : List UInt8) (m : Malformed) : CodecFault where
  codec := codec
  position := data.length - m.input.length
  malformed := m.input.take m.width
  reason := m.reason

/-- What to do with surrogates. -/
inductive Handler where
  | strict
  | surrogatePass
  deriving DecidableEq, Repr

/-! ## UTF-8 -/

namespace Utf8

/-- A byte that continues a longer form. -/
def isContinuation (b : UInt8) : Bool := 0x80 ≤ b && b < 0xC0

/-- The six payload bits of a continuation byte. -/
def payload (b : UInt8) : Nat := b.toNat % 64

/-- Whether a byte may come second in a form that begins with `lead`. What is ruled out besides
other bytes than continuation bytes are overlong forms, surrogates and numbers above `10FFFF`. -/
def maySecond (lead b : UInt8) : Bool :=
  isContinuation b && (lead != 0xE0 || 0xA0 ≤ b) && (lead != 0xED || b < 0xA0) &&
    (lead != 0xF0 || 0x90 ≤ b) && (lead != 0xF4 || b < 0x90)

/-- Reads the bytes that a form still lacks. The first has to pass `fits`, the others have to be
continuation bytes; `taken` bytes have been read before and have given `n`. -/
def readTail (input : List UInt8) (fits : UInt8 → Bool) :
    (lacking taken n : Nat) → List UInt8 → Except Malformed (Nat × Nat)
  | 0, taken, n, _ => .ok (n, taken)
  | _ + 1, taken, _, [] => .error ⟨input, taken, "unexpected end of data"⟩
  | lacking + 1, taken, n, b :: rest =>
    if fits b then readTail input isContinuation lacking (taken + 1) (n * 64 + payload b) rest
    else .error ⟨input, taken, "invalid continuation byte"⟩

/-- The code point whose form begins with `lead`, and the number of bytes that the form takes. -/
def front (lead : UInt8) (behind : List UInt8) : Except Malformed (Nat × Nat) :=
  let input := lead :: behind
  if lead < 0x80 then .ok (lead.toNat, 1)
  else if lead < 0xC2 then .error ⟨input, 1, "invalid start byte"⟩
  else if lead < 0xE0 then readTail input (maySecond lead) 1 1 (lead.toNat % 32) behind
  else if lead < 0xF0 then readTail input (maySecond lead) 2 1 (lead.toNat % 16) behind
  else if lead < 0xF5 then readTail input (maySecond lead) 3 1 (lead.toNat % 8) behind
  else .error ⟨input, 1, "invalid start byte"⟩

/-- A surrogate in its three-byte form. -/
def surrogate? : List UInt8 → Option Nat
  | a :: b :: c :: _ =>
    let n := (a.toNat % 16 * 64 + payload b) * 64 + payload c
    if 0xE0 ≤ a && a < 0xF0 && isContinuation b && isContinuation c && isSurrogate n then some n
    else none
  | _ => none

/-- The code point to go on with where the input is malformed, if the handler knows one, and the
number of bytes that it takes. -/
def recover? : Handler → List UInt8 → Option (Nat × Nat)
  | .strict, _ => none
  | .surrogatePass, input => (surrogate? input).map fun n => (n, 3)

/-- The next code point, and the number of bytes that it takes. -/
def next (handler : Handler) (lead : UInt8) (behind : List UInt8) : Except Malformed (Nat × Nat) :=
  match front lead behind with
  | .ok found => .ok found
  | .error m =>
    match recover? handler (lead :: behind) with
    | some found => .ok found
    | none => .error m

/-- Reads code points to the end of the input. The first `skip` bytes have been read already. -/
def scan (handler : Handler) : (skip : Nat) → List UInt8 → Except Malformed (List Nat)
  | _, [] => .ok []
  | skip + 1, _ :: rest => scan handler skip rest
  | 0, lead :: behind =>
    match next handler lead behind with
    | .ok (n, width) => (scan handler (width - 1) behind).map (n :: ·)
    | .error m => .error m

/-- The code points of UTF-8. -/
def decode (handler : Handler) (data : List UInt8) : Except CodecFault (List Nat) :=
  (scan handler 0 data).mapError (Malformed.fault "utf-8" data)

end Utf8

/-! ## UTF-16 -/

namespace Utf16

/-- The units of a code point: itself, or two surrogates if it is too large for one unit. -/
def units (n : Nat) : List Nat :=
  if n < 0x10000 then [n]
  else [0xD800 + (n - 0x10000) / 1024, 0xDC00 + (n - 0x10000) % 1024]

/-- The code point that two surrogates stand for. -/
def join (high low : Nat) : Nat := 0x10000 + (high - 0xD800) * 1024 + (low - 0xDC00)

/-- The two bytes of a unit, the lesser one first. -/
def unitBytes (u : Nat) : List UInt8 := [UInt8.ofNat u, UInt8.ofNat (u / 256)]

/-- Writes code points behind a byte-order mark. Surrogates pass as they are. -/
def encode (points : List Nat) : List UInt8 := (0xFEFF :: points.flatMap units).flatMap unitBytes

/-- The unit that two bytes make up. -/
def unit (bigEndian : Bool) (a b : UInt8) : Nat :=
  if bigEndian then a.toNat * 256 + b.toNat else a.toNat + b.toNat * 256

/-- Reads code points to the end of the input. A surrogate that is not one of a pair is refused. -/
def scan (bigEndian : Bool) : List UInt8 → Except Malformed (List Nat)
  | [] => .ok []
  | [a] => .error ⟨[a], 1, "truncated data"⟩
  | a :: b :: rest =>
    let input := a :: b :: rest
    let u := unit bigEndian a b
    if isHighSurrogate u then
      match rest with
      | c :: d :: rest =>
        let v := unit bigEndian c d
        if isLowSurrogate v then (scan bigEndian rest).map (join u v :: ·)
        else .error ⟨input, 2, "illegal UTF-16 surrogate"⟩
      | short => .error ⟨input, 2 + short.length, "unexpected end of data"⟩
    else if isLowSurrogate u then .error ⟨input, 2, "illegal encoding"⟩
    else (scan bigEndian rest).map (u :: ·)

/-- Whether the input is in the order of the greater byte first, and the input without the
byte-order mark that says so. Without a mark the lesser byte is first. -/
def byteOrder : List UInt8 → Bool × List UInt8
  | 0xFF :: 0xFE :: rest => (false, rest)
  | 0xFE :: 0xFF :: rest => (true, rest)
  | data => (false, data)

/-- The code points of UTF-16. -/
def decode (data : List UInt8) : Except CodecFault (List Nat) :=
  let (bigEndian, rest) := byteOrder data
  (scan bigEndian rest).mapError
    (Malformed.fault (if bigEndian then "utf-16-be" else "utf-16-le") data)

end Utf16

end ClassAtlas.Text
