import ClassAtlas.ClassFile.Annotation

/-!
# What is known about a class

Classes, fields, methods and calls in source terms, after decoding. Everything
an analysis looks at is here; nothing refers back to the record it came from.
-/

namespace ClassAtlas

open ClassAtlas.ClassFile (Annotations Bytes)

/-- What a class record declares. -/
inductive ClassKind where
  | ordinary
  | interface
  | enum
  | annotationType
  | record
  deriving DecidableEq, Repr

/-- The word for a kind in reports. -/
def ClassKind.label : ClassKind → String
  | .ordinary => "CLASS"
  | .interface => "INTERFACE"
  | .enum => "ENUM"
  | .annotationType => "ANNOTATION"
  | .record => "RECORD"

/-- A parameter of a method. -/
structure Parameter where
  name : String
  type : String
  index : Nat
  deriving DecidableEq, Repr

/-- A call inside a method body, by the class that the instruction names. -/
structure MethodCall where
  owner : String
  name : String
  descriptor : String
  line : Option Int
  deriving DecidableEq, Repr

/-- A field of a class. -/
structure FieldInfo where
  name : String
  type : String
  modifiers : List String
  annotations : List String
  isStatic : Bool
  isFinal : Bool
  isVolatile : Bool
  isTransient : Bool
  deriving DecidableEq, Repr

/-- A method of a class. -/
structure MethodInfo where
  name : String
  returnType : String
  parameters : List Parameter
  modifiers : List String
  annotations : List String
  calls : List MethodCall
  isStatic : Bool
  isAbstract : Bool
  descriptor : String
  exceptions : List String
  annotationValues : Annotations

/-- What is known about one class. -/
structure ClassInfo where
  /-- The full name, by which other classes refer to this one. -/
  name : String
  simpleName : String
  packageName : String
  kind : ClassKind
  superclass : Option String
  interfaces : List String
  annotations : List String
  modifiers : List String
  fields : List FieldInfo
  methods : List MethodInfo
  isAbstract : Bool
  sourceFile : Option String
  major : Int
  minor : Int
  annotationValues : Annotations

/-- Public is what the modifiers say. -/
def MethodInfo.isPublic (m : MethodInfo) : Bool := m.modifiers.contains "public"

/-- The id under which a method is known in graphs. Overloads share it. -/
def methodId (className methodName : String) : String := className ++ "#" ++ methodName

/-- The id of a method of the class. -/
def ClassInfo.methodId (c : ClassInfo) (m : MethodInfo) : String := ClassAtlas.methodId c.name m.name

/-- A labelled run of bytes that should be a class record. -/
structure LabelledRecord where
  label : String
  data : Bytes
  deriving DecidableEq, Repr

end ClassAtlas
