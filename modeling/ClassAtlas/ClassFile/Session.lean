import ClassAtlas.ClassFile.Cursor

/-!
# Sessions of requests

A session makes one request after another of a cursor. The outcome of each is
recorded, and the next one starts from the cursor that it leaves.
-/

namespace ClassAtlas.ClassFile

/-- A request for what comes next. -/
inductive Request where
  | u1
  | u2
  | u4
  | s4
  | read (size : Int)
  | skip (size : Int)
  deriving DecidableEq, Repr

/-- What a request gives back. -/
inductive Reply where
  | number (value : Int)
  | bytes (chunk : Bytes)
  | nothing
  deriving DecidableEq, Repr

/-- The decoder that answers a request. -/
def Request.decoder : Request → Decoder Reply
  | u1 => return .number (← Decoder.u1)
  | u2 => return .number (← Decoder.u2)
  | u4 => return .number (← Decoder.u4)
  | s4 => return .number (← Decoder.s4)
  | read size => return .bytes (← Decoder.read size)
  | skip size => do
    Decoder.skip size
    return .nothing

/-- A request with its outcome and the cursors in front of it and behind it. -/
structure Event where
  request : Request
  before : Cursor
  outcome : Except Fault Reply
  after : Cursor

/-- Makes one request. -/
def Cursor.attempt (c : Cursor) (request : Request) : Event :=
  let (outcome, after) := request.decoder.outcome c
  ⟨request, c, outcome, after⟩

/-- Makes requests in turn. The result is what came of each, and the cursor behind the last. -/
def Cursor.session (c : Cursor) : List Request → List Event × Cursor
  | [] => ([], c)
  | request :: rest =>
    let event := c.attempt request
    let later := event.after.session rest
    (event :: later.1, later.2)

end ClassAtlas.ClassFile
