import ClassAtlas.ClassFile.Structure
import ClassAtlas.Order.Ascending

/-!
# Method bodies

The body of a method is walked instruction by instruction to find the calls it
makes. Instruction lengths depend on the opcode, for the switch instructions
also on their position and operands. Two tables beside the instructions give
line numbers and names of local variables.
-/

namespace ClassAtlas.ClassFile

/-- A call found in a method body. -/
structure Invocation where
  pc : Nat
  opcode : Nat
  owner : String
  name : String
  descriptor : String
  deriving DecidableEq, Repr

namespace Instruction

/-- Adds a constant to a local variable. -/
def iinc : Nat := 0x84

/-- Jumps by a table of consecutive numbers. -/
def tableSwitch : Nat := 0xAA

/-- Jumps by a table of pairs. -/
def lookupSwitch : Nat := 0xAB

/-- Calls a method of an interface. -/
def invokeInterface : Nat := 0xB9

/-- Calls a method that is linked when it is first called. -/
def invokeDynamic : Nat := 0xBA

/-- Widens the operand of the instruction behind it. -/
def wide : Nat := 0xC4

/-- Calls that name a method of a class or interface. -/
def isMemberCall (opcode : Nat) : Bool := 0xB6 ≤ opcode && opcode ≤ 0xB9

/-- The number of operand bytes of an instruction whose length does not vary. -/
def operandBytes? (opcode : Nat) : Option Nat :=
  if opcode ≤ 0x0F then some 0
  else if opcode = 0x10 then some 1
  else if opcode = 0x11 then some 2
  else if opcode = 0x12 then some 1
  else if opcode ≤ 0x14 then some 2
  else if opcode ≤ 0x19 then some 1
  else if opcode ≤ 0x35 then some 0
  else if opcode ≤ 0x3A then some 1
  else if opcode ≤ 0x83 then some 0
  else if opcode = 0x84 then some 2
  else if opcode ≤ 0x98 then some 0
  else if opcode ≤ 0xA8 then some 2
  else if opcode = 0xA9 then some 1
  else if opcode ≤ 0xAB then none
  else if opcode ≤ 0xB1 then some 0
  else if opcode ≤ 0xB8 then some 2
  else if opcode ≤ 0xBA then some 4
  else if opcode = 0xBB then some 2
  else if opcode = 0xBC then some 1
  else if opcode = 0xBD then some 2
  else if opcode ≤ 0xBF then some 0
  else if opcode ≤ 0xC1 then some 2
  else if opcode ≤ 0xC3 then some 0
  else if opcode = 0xC4 then none
  else if opcode = 0xC5 then some 3
  else if opcode ≤ 0xC7 then some 2
  else if opcode ≤ 0xC9 then some 4
  else if opcode = 0xCA then some 0
  else if opcode = 0xFE ∨ opcode = 0xFF then some 0
  else none

/-- Zero to three bytes that align the operands of a switch at `pc`. -/
def padding (pc : Nat) : Nat := (4 - (pc + 1) % 4) % 4

/-- The class that call sites linked at run time are attributed to. -/
def dynamicOwner : String := "java.lang.invoke.LambdaMetafactory"

/-- Reads one instruction; a call is returned. -/
def decoder (pool : ConstantPool) : Decoder (Option Invocation) := do
  let pc ← Decoder.position
  let opcode ← Decoder.u1
  if isMemberCall opcode then
    let ref ← Decoder.lift (pool.memberRef (← Decoder.u2))
    Decoder.skip (if opcode = invokeInterface then 2 else 0)
    return some { pc, opcode, owner := ref.owner, name := ref.name, descriptor := ref.descriptor }
  else if opcode = invokeDynamic then
    let (name, descriptor) ← Decoder.lift (pool.invokeDynamic (← Decoder.u2))
    Decoder.skip 2
    return some { pc, opcode, owner := dynamicOwner, name, descriptor }
  else if opcode = tableSwitch then
    Decoder.skip (padding pc)
    let _ ← Decoder.s4
    let low ← Decoder.s4
    let high ← Decoder.s4
    if high < low then Decoder.fail (.tableSwitchBounds pc)
    Decoder.skip ((high - low + 1) * 4)
    return none
  else if opcode = lookupSwitch then
    Decoder.skip (padding pc)
    let _ ← Decoder.s4
    let pairs ← Decoder.s4
    if pairs < 0 then Decoder.fail (.lookupSwitchCount pc)
    Decoder.skip (pairs * 8)
    return none
  else if opcode = wide then
    let modified ← Decoder.u1
    Decoder.skip (if modified = iinc then 4 else 2)
    return none
  else
    match operandBytes? opcode with
    | none => Decoder.fail (.invalidOpcode opcode pc)
    | some n =>
      Decoder.skip n
      return none

/-- Reads instructions to the end of the code and returns the calls in order. An instruction has at
least one byte, so a `fuel` of the code's length is enough. -/
def scan (pool : ConstantPool) : (fuel : Nat) → Cursor → Except Fault (List Invocation)
  | 0, _ => .ok []
  | fuel + 1, c =>
    if c.atEnd then .ok []
    else do
      let (call, c') ← (decoder pool).run c
      let rest ← scan pool fuel c'
      return call.toList ++ rest

end Instruction

/-- The calls of a method body. -/
def scanInstructions (code : Bytes) (pool : ConstantPool) : Except Fault (List Invocation) :=
  Instruction.scan pool code.length (Cursor.at "Code" code)

/-- A method body: its calls, its line numbers by start, the names of the variables that are live
from the start by slot. -/
structure Code where
  invocations : List Invocation
  lines : List (Nat × Nat)
  locals : Table Nat String

namespace Code

/-- One row of the table of local variables: where it starts, its slot, its name. -/
structure LocalVariable where
  start : Nat
  slot : Nat
  name : String
  deriving DecidableEq, Repr

/-- A row of the line table: where the instructions of a line start, and the line. -/
def lineDecoder : Decoder (Nat × Nat) := do
  let start ← Decoder.u2
  return (start, ← Decoder.u2)

/-- A row of the table of local variables. Its length and descriptor are not used. -/
def localDecoder (pool : ConstantPool) : Decoder LocalVariable := do
  let start ← Decoder.u2
  let _ ← Decoder.u2
  let name ← Decoder.lift (pool.utf8 (← Decoder.u2))
  let _ ← Decoder.u2
  return { start, name, slot := ← Decoder.u2 }

/-- Pairs by their first part, then by their second. -/
def lineOrder (a b : Nat × Nat) : Bool := a.1 < b.1 || (a.1 == b.1 && a.2 ≤ b.2)

/-- The line table in ascending order. -/
def linesOf (attributes : Attributes) : Except Fault (List (Nat × Nat)) :=
  match attributes.get? "LineNumberTable" with
  | none => .ok []
  | some raw =>
    return (← (Decoder.counted lineDecoder).runOn "LineNumberTable" raw).mergeSort lineOrder

/-- Names of the variables that are live from the start; the first one of a slot counts. -/
def namesBySlot (vars : List LocalVariable) : Table Nat String :=
  (vars.filter fun v => v.start == 0).foldl (fun t v => t.insertIfNew v.slot v.name) ∅

/-- The names of local variables by slot, empty without a table. -/
def localsOf (attributes : Attributes) (pool : ConstantPool) : Except Fault (Table Nat String) :=
  match attributes.get? "LocalVariableTable" with
  | none => .ok ∅
  | some raw =>
    return namesBySlot (← (Decoder.counted (localDecoder pool)).runOn "LocalVariableTable" raw)

/-- The parts of a body: instructions and nested attributes. Stack and variable sizes and the
table of exception handlers are passed over. -/
def bodyDecoder (pool : ConstantPool) : Decoder (Bytes × Attributes) := do
  let _ ← Decoder.u2
  let _ ← Decoder.u2
  let code ← Decoder.take (← Decoder.u4)
  let handlers ← Decoder.u2
  let _ ← Decoder.take (handlers * 8)
  return (code, ← Attributes.decoder pool)

/-- The code that the bytes of a code attribute stand for. -/
def ofBody (raw : Bytes) (pool : ConstantPool) : Except Fault Code := do
  let (code, nested) ← (bodyDecoder pool).runOn "Code attribute" raw
  let invocations ← scanInstructions code pool
  let lines ← linesOf nested
  return { invocations, lines, locals := ← localsOf nested pool }

/-- The body of a method, none for a method without one. -/
def decode (attributes : Attributes) (pool : ConstantPool) : Except Fault (Option Code) :=
  match attributes.get? "Code" with
  | none => .ok none
  | some raw => return some (← ofBody raw pool)

/-- The line of the last entry at or before `pc`. -/
def lineAt (code : Code) (pc : Int) : Option Nat :=
  (code.lines.takeWhile fun e => (e.1 : Int) ≤ pc).getLast?.map Prod.snd

end Code

end ClassAtlas.ClassFile
