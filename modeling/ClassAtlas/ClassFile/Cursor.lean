import ClassAtlas.ClassFile.Fault
import ClassAtlas.Number.Arithmetic

/-!
# Reading bytes from left to right

A `Cursor` is a position in a run of bytes together with the bytes that follow
it. A `Decoder` reads values at a cursor that it moves, and may fail with a
`Fault`; the cursor then stays wherever the decoder had moved it. All numbers are
big-endian.

A single read first requires its bytes, then takes them, and moves the cursor
last.
-/

namespace ClassAtlas.ClassFile

/-- A run of bytes. -/
abbrev Bytes := List UInt8

/-- A position in the bytes of a `subject`, which is what messages call them. -/
structure Cursor where
  subject : String
  position : Nat
  rest : Bytes
  /-- How far the position lies behind the last byte; zero at every position inside. -/
  overrun : Nat := 0
  deriving DecidableEq, Repr

/-- The cursor at `offset` of `data`. -/
def Cursor.at (subject : String) (data : Bytes) (offset : Nat := 0) : Cursor where
  subject := subject
  position := offset
  rest := data.drop offset
  overrun := offset - data.length

/-- The number of bytes left, negative behind the end. -/
def Cursor.available (c : Cursor) : Int := (c.rest.length : Int) - (c.overrun : Int)

/-- Whether nothing follows. -/
def Cursor.atEnd (c : Cursor) : Bool := c.rest.isEmpty

/-- Whether `n` bytes follow. -/
def Cursor.holds (c : Cursor) (n : Nat) : Bool := c.overrun = 0 ∧ (c.rest.take n).length = n

/-- The fault of asking for `need` bytes that are not there. -/
def Cursor.shortOf (c : Cursor) (need : Int) : Fault :=
  .truncated c.subject need c.position c.available

/-- The cursor `n` bytes further on. -/
def Cursor.advance (c : Cursor) (n : Nat) : Cursor :=
  { c with position := c.position + n, rest := c.rest.drop n }

/-- Reads at a cursor, which outlives a failure. -/
abbrev Decoder (α : Type) := ExceptT Fault (StateM Cursor) α

/-- The value of big-endian digits in base 256. -/
def bigEndian (bs : Bytes) : Nat := bs.foldl (fun n b => n * 256 + b.toNat) 0

/-- Reads an `n` below `2 ^ bits` as a two's complement number. -/
def signed (bits : Nat) (n : Nat) : Int :=
  if n < pow2 (bits - 1) then (n : Int) else (n : Int) - (pow2 bits : Int)

namespace Decoder

variable {α : Type}

/-- What comes of a decoder at a cursor, and the cursor as it leaves it, also where it fails. -/
def outcome (d : Decoder α) (c : Cursor) : Except Fault α × Cursor := StateT.run (ExceptT.run d) c

/-- The value that a decoder reads at a cursor, with the cursor behind it. -/
def run (d : Decoder α) (c : Cursor) : Except Fault (α × Cursor) :=
  match d.outcome c with
  | (.ok a, c') => .ok (a, c')
  | (.error fault, _) => .error fault

/-- Fails without reading anything. -/
def fail (fault : Fault) : Decoder α := throw fault

/-- Fails unless `n` bytes follow; a negative `n` is never satisfied. -/
def require (n : Int) : Decoder Unit := do
  let c ← get
  if n < 0 ∨ ¬ c.holds n.toNat then fail (c.shortOf n)

/-- The next `n` bytes. -/
def read (n : Int) : Decoder Bytes := do
  require n
  let chunk := (← get).rest.take n.toNat
  modify (·.advance n.toNat)
  return chunk

/-- Moves over the next `n` bytes. -/
def skip (n : Int) : Decoder Unit := do
  require n
  modify (·.advance n.toNat)

/-- The next `n` bytes. -/
def take (n : Nat) : Decoder Bytes := read n

/-- An unsigned number of `n` bytes. -/
def unsigned (n : Nat) : Decoder Nat := do
  require n
  let value := bigEndian ((← get).rest.take n)
  modify (·.advance n)
  return value

/-- An unsigned number of one byte. -/
def u1 : Decoder Nat := unsigned 1

/-- An unsigned number of two bytes. -/
def u2 : Decoder Nat := unsigned 2

/-- An unsigned number of four bytes. -/
def u4 : Decoder Nat := unsigned 4

/-- A signed number of four bytes. -/
def s4 : Decoder Int := do
  require 4
  let value := signed 32 (bigEndian ((← get).rest.take 4))
  modify (·.advance 4)
  return value

/-- A signed number of eight bytes. -/
def s8 : Decoder Int := return signed 64 (bigEndian (← read 8))

/-- The position of the cursor. -/
def position : Decoder Nat := return (← get).position

/-- Turns an outcome that reads nothing into a decoder. -/
def lift (x : Except Fault α) : Decoder α :=
  match x with
  | .ok a => pure a
  | .error fault => fail fault

/-- Runs a decoder `n` times and collects the values. -/
def times : (n : Nat) → Decoder α → Decoder (List α)
  | 0, _ => pure []
  | n + 1, d => do
    let a ← d
    let rest ← times n d
    return a :: rest

/-- A count of two bytes, then that many values. -/
def counted (d : Decoder α) : Decoder (List α) := do
  let n ← u2
  times n d

/-- Runs a decoder at the start of `data`. -/
def runOn (d : Decoder α) (subject : String) (data : Bytes) : Except Fault α :=
  (d.run (Cursor.at subject data)).map Prod.fst

end Decoder

end ClassAtlas.ClassFile
