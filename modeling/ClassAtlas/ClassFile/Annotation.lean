import ClassAtlas.ClassFile.Structure

/-!
# Annotations

An annotation is a type with named element values. Element values are
constants, enum constants, class names, arrays, or annotations again. How deep
arrays and annotations may nest is limited; the limit also bounds the recursion
of the reader.
-/

namespace ClassAtlas.ClassFile

/-- The value of an annotation element. -/
inductive ElementValue where
  | null
  | bool (value : Bool)
  | integer (value : Int)
  | real (value : Binary64)
  | text (value : String)
  /-- A character constant that is half of a surrogate pair, and so a code point without a character. -/
  | surrogate (unit : Nat)
  | list (items : List ElementValue)
  | nested (elements : List (String × ElementValue))
  deriving Repr, Inhabited

/-- The elements of one annotation by name. -/
abbrev ElementTable := Table String ElementValue

namespace ElementValue

/-- Element values enclosed by more than this many arrays and annotations are refused. -/
def maxDepth : Nat := 64

/-- A constant as an element value. -/
def ofConstant : ConstantValue → ElementValue
  | .integer v => .integer v
  | .real v => .real v
  | .text v => .text v

/-- A boolean element is false for zero and for the empty text. -/
def truth : ConstantValue → Bool
  | .integer v => v != 0
  | .real v => !v.isZero
  | .text v => v != ""

/-- A character element: an integer is a UTF-16 code unit. -/
def character : ConstantValue → Except Fault ElementValue
  | .integer v =>
    if 0 ≤ v ∧ v ≤ 0xFFFF then
      if 0xD800 ≤ v ∧ v < 0xE000 then .ok (.surrogate v.toNat)
      else .ok (.text (String.singleton (Char.ofNat v.toNat)))
    else .error (.charOutOfRange v)
  | v => .ok (ofConstant v)

end ElementValue

/-- A type given by the slot of its descriptor. -/
def typeDecoder (pool : ConstantPool) : Decoder String := do
  let descriptor ← Decoder.lift (pool.utf8 (← Decoder.u2))
  Decoder.lift ((Descriptor.fieldType descriptor).mapError .descriptor)

/-- One named element, read by `value`. -/
def elementDecoder (pool : ConstantPool) (value : Decoder ElementValue) :
    Decoder (String × ElementValue) := do
  let name ← Decoder.lift (pool.utf8 (← Decoder.u2))
  return (name, ← value)

/-- An annotation whose element values are read by `value`. A repeated name keeps its first place
and takes its last value. -/
def annotationDecoder (pool : ConstantPool) (value : Decoder ElementValue) :
    Decoder (String × ElementTable) := do
  let type ← typeDecoder pool
  return (type, Table.ofList (← Decoder.counted (elementDecoder pool value)))

/-- Reads an element value with `room` levels of nesting left. -/
def ElementValue.decoder (pool : ConstantPool) : (room : Nat) → Decoder ElementValue
  | 0 => Decoder.fail (.nestedTooDeep maxDepth)
  | room + 1 => do
    let tag := Char.ofNat (← Decoder.u1)
    match tag with
    | 'Z' => return .bool (truth (← Decoder.lift (pool.constantValue (← Decoder.u2))))
    | 'C' =>
      let value ← Decoder.lift (pool.constantValue (← Decoder.u2))
      Decoder.lift (character value)
    | 'e' =>
      let type ← typeDecoder pool
      let name ← Decoder.lift (pool.utf8 (← Decoder.u2))
      return .text (type ++ "." ++ name)
    | 'c' => return .text (← typeDecoder pool)
    | '@' =>
      let (_, elements) ← annotationDecoder pool (ElementValue.decoder pool room)
      return .nested elements.entries
    | '[' => return .list (← Decoder.counted (ElementValue.decoder pool room))
    | _ =>
      if "BDFIJSs".toList.contains tag then
        return ofConstant (← Decoder.lift (pool.constantValue (← Decoder.u2)))
      else Decoder.fail (.unknownElementTag tag)

/-- Annotation types with their elements, in order of appearance. -/
abbrev Annotations := Table String ElementTable

namespace Annotations

/-- A counted run of annotations. -/
def listDecoder (pool : ConstantPool) : Decoder (List (String × ElementTable)) :=
  Decoder.counted (annotationDecoder pool (ElementValue.decoder pool (ElementValue.maxDepth + 1)))

/-- The annotations of one attribute, none if it is missing. -/
def ofAttribute (attributes : Attributes) (pool : ConstantPool) (name : String) :
    Except Fault (List (String × ElementTable)) :=
  match attributes.get? name with
  | none => .ok []
  | some raw => (listDecoder pool).runOn name raw

/-- The visible annotations, then the invisible ones; the first of a type counts. -/
def decode (attributes : Attributes) (pool : ConstantPool) : Except Fault Annotations := do
  let visible ← ofAttribute attributes pool "RuntimeVisibleAnnotations"
  let invisible ← ofAttribute attributes pool "RuntimeInvisibleAnnotations"
  return (visible ++ invisible).foldl (fun t e => t.insertIfNew e.1 e.2) ∅

end Annotations

end ClassAtlas.ClassFile
