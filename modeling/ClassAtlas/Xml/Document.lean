import ClassAtlas.Order.Ascending
import ClassAtlas.Text.Split
import ClassAtlas.Xml.Encoding

/-!
# XML documents

Reads a document into a tree of elements. Of each element the local name, the
text in front of its first child and the children are kept; everything else is
only checked. Namespace prefixes have to be declared.
-/

namespace ClassAtlas.Xml

open ClassAtlas.Text (Reader numeral numeralIn? hexDigitValue?)

/-- An element with the text in front of its first child. -/
inductive Element where
  | mk (name : String) (text : Option String) (children : List Element)
  deriving Repr, Inhabited

namespace Element

/-- The name of an element with its namespace. -/
def name : Element → String
  | mk name _ _ => name

/-- The text in front of the first child, if there is any. -/
def text : Element → Option String
  | mk _ text _ => text

/-- The elements directly inside. -/
def children : Element → List Element
  | mk _ _ children => children

/-- The children with a name. -/
def childrenNamed (e : Element) (name : String) : List Element := e.children.filter (·.name = name)

end Element

/-! ## Characters and names -/

/-- Characters that a document may hold. -/
def isDocumentChar (c : Char) : Bool :=
  let n := c.toNat
  n == 9 || n == 10 || n == 13 || (0x20 ≤ n && n != 0xFFFE && n != 0xFFFF)

/-- Characters that a name may begin with. -/
def isNameStart (c : Char) : Bool :=
  let n := c.toNat
  c.isAlpha || c == '_' || (0xC0 ≤ n && n ≤ 0x2FF && n != 0xD7 && n != 0xF7) ||
    (0x370 ≤ n && n ≤ 0x1FFF && n != 0x37E) || (0x3041 ≤ n && n ≤ 0x9FA5) ||
    (0xAC00 ≤ n && n ≤ 0xD7A3)

/-- Characters that may stand in a name. -/
def isNameChar (c : Char) : Bool :=
  let n := c.toNat
  isNameStart c || c.isDigit || c == '-' || c == '.' || n == 0xB7 || (0x300 ≤ n && n ≤ 0x36F)

/-- A name without a colon. -/
def simpleName : Reader String := do
  match ← Reader.peek with
  | some c =>
    if isNameStart c then return String.ofList (← Reader.takeWhile isNameChar) else Reader.refuse
  | none => Reader.refuse

/-- A name with an optional prefix in front of a colon. -/
structure QName where
  qualifier : Option String
  localName : String
  deriving DecidableEq, Repr

/-- A name, with or without a prefix. -/
def qualifiedName : Reader QName := do
  let first ← simpleName
  if ← Reader.accept ':' then return ⟨some first, ← simpleName⟩ else return ⟨none, first⟩

/-! ## References -/

/-- Entities declared by the document, by name. -/
abbrev Entities := List (String × List Char)

/-- The entities that need no declaration. -/
def predefined : Entities :=
  [("lt", ['<']), ("gt", ['>']), ("amp", ['&']), ("apos", ['\'']), ("quot", ['"'])]

/-- A character by its number; `&#` has been read. -/
def characterReference : Reader Char := do
  let code ← (do
    if ← Reader.accept 'x' then
      let ds ← Reader.takeWhile fun c => (hexDigitValue? c).isSome
      if ds.isEmpty then Reader.refuse else return (numeralIn? 16 ds).getD 0
    else
      let ds ← Reader.digits
      if ds.isEmpty then Reader.refuse else return numeral ds)
  Reader.expect ';'
  if code.isValidChar ∧ isDocumentChar (Char.ofNat code) then return Char.ofNat code
  else Reader.refuse

/-- What a reference stands for; the `&` has been read. Characters come as they are, the text of
an entity is still to be read. -/
inductive Reference where
  | char (c : Char)
  | entity (body : List Char)

/-- A reference behind its ampersand. -/
def reference (entities : Entities) : Reader Reference := do
  if ← Reader.accept '#' then return .char (← characterReference)
  let name ← simpleName
  Reader.expect ';'
  match predefined.lookup name with
  | some cs => return .char (cs.headD ' ')
  | none =>
    match entities.lookup name with
    | some body => return .entity body
    | none => Reader.refuse

/-! ## Comments and instructions -/

/-- The rest of a comment. Two hyphens may only end it. -/
def commentTail : List Char → Option (List Char)
  | '-' :: '-' :: '>' :: rest => some rest
  | '-' :: '-' :: _ => none
  | _ :: rest => commentTail rest
  | [] => none

/-- The rest of an instruction. -/
def instructionTail : List Char → Option (List Char)
  | '?' :: '>' :: rest => some rest
  | _ :: rest => instructionTail rest
  | [] => none

/-- The rest of a section that is taken literally. -/
def sectionTail : List Char → Option (List Char × List Char)
  | ']' :: ']' :: '>' :: rest => some ([], rest)
  | c :: rest => (sectionTail rest).map fun (body, rest) => (c :: body, rest)
  | [] => none

/-- Drops the rest of a comment. -/
def skipComment : Reader Unit := fun cs => (commentTail cs).map ((), ·)

/-- An instruction whose `<?` has been read. No instruction is called `xml` in any case of
letters. -/
def skipInstruction : Reader Unit := do
  let target ← simpleName
  if target.toList.map Char.toLower = ['x', 'm', 'l'] then Reader.refuse
  if ← Reader.acceptText "?>" then return
  space
  fun cs => (instructionTail cs).map ((), ·)

/-- White space, comments and instructions around the root element. -/
def skipMisc : (fuel : Nat) → Reader Unit
  | 0 => Reader.refuse
  | fuel + 1 => do
    skipSpace
    if ← Reader.acceptText "<!--" then
      skipComment
      skipMisc fuel
    else if ← Reader.acceptText "<?" then
      skipInstruction
      skipMisc fuel

/-! ## The document type -/

/-- A literal in quotes. -/
def literal : Reader (List Char) := quotedValue fun _ => true

/-- The text that an entity is declared to stand for, with character references replaced. -/
def entityText : (fuel : Nat) → List Char → Option (List Char)
  | 0, _ => none
  | _, [] => some []
  | fuel + 1, '&' :: '#' :: rest => do
    let (c, rest) ← characterReference rest
    (entityText fuel rest).map (c :: ·)
  | fuel + 1, c :: rest => if c = '%' then none else (entityText fuel rest).map (c :: ·)

/-- Skips a declaration up to its closing bracket; quoted literals are skipped whole. -/
def skipDeclaration : (fuel : Nat) → Reader Unit
  | 0 => Reader.refuse
  | fuel + 1 => do
    match ← Reader.peek with
    | none => Reader.refuse
    | some '>' => Reader.expect '>'
    | some '<' => Reader.refuse
    | some c =>
      if c = '"' ∨ c = '\'' then
        let _ ← literal
        skipDeclaration fuel
      else
        let _ ← Reader.next
        skipDeclaration fuel

/-- An entity declaration behind its keyword. Only entities with a text of their own can be used
later. -/
def entityDeclaration (fuel : Nat) : Reader (Option (String × List Char)) := do
  space
  if ← Reader.accept '%' then
    space
    let _ ← simpleName
    space
    skipDeclaration fuel
    return none
  let name ← simpleName
  space
  match ← Reader.peek with
  | some c =>
    if c = '"' ∨ c = '\'' then
      let body ← literal
      skipSpace
      Reader.expect '>'
      match entityText (body.length + 1) body with
      | some body => return some (name, body)
      | none => Reader.refuse
    else
      skipDeclaration fuel
      return none
  | none => Reader.refuse

/-- The declarations between the brackets of a document type. The first declaration of an entity
counts. -/
def internalSubset : (fuel : Nat) → Entities → Reader Entities
  | 0, _ => Reader.refuse
  | fuel + 1, entities => do
    skipSpace
    if ← Reader.accept ']' then return entities
    else if ← Reader.accept '%' then
      let _ ← simpleName
      Reader.expect ';'
      internalSubset fuel entities
    else if ← Reader.acceptText "<!--" then
      skipComment
      internalSubset fuel entities
    else if ← Reader.acceptText "<?" then
      skipInstruction
      internalSubset fuel entities
    else if ← Reader.acceptText "<!ENTITY" then
      let declared ← entityDeclaration fuel
      internalSubset fuel (entities ++ declared.toList)
    else if (← Reader.acceptText "<!ELEMENT") || (← Reader.acceptText "<!ATTLIST")
        || (← Reader.acceptText "<!NOTATION") then
      space
      skipDeclaration fuel
      internalSubset fuel entities
    else Reader.refuse

/-- Where the external part of a document type is to be found; it is never read. -/
def externalId : Reader Unit := do
  if ← Reader.acceptText "SYSTEM" then
    space
    let _ ← literal
  else if ← Reader.acceptText "PUBLIC" then
    space
    let _ ← literal
    space
    let _ ← literal

/-- The document type, if there is one. -/
def documentType (fuel : Nat) : Reader Entities := do
  unless ← Reader.acceptText "<!DOCTYPE" do return []
  space
  let _ ← qualifiedName
  skipSpace
  externalId
  skipSpace
  let entities ← (do if ← Reader.accept '[' then internalSubset fuel [] else return [])
  skipSpace
  Reader.expect '>'
  return entities

/-! ## Elements -/

/-- The rest of the value of an attribute, up to its closing quote. -/
def attributeTail (entities : Entities) (quote : Char) : (fuel : Nat) → Reader (List Char)
  | 0 => Reader.refuse
  | fuel + 1 => do
    match ← Reader.next with
    | none => Reader.refuse
    | some c =>
      if c = quote then return []
      else if c = '<' then Reader.refuse
      else if c = '&' then
        match ← reference entities with
        | .char c => return c :: (← attributeTail entities quote fuel)
        | .entity body =>
          -- quotes inside an entity do not end the value
          if body.contains '<' || body.contains '&' then Reader.refuse
          else return body ++ (← attributeTail entities quote fuel)
      else return (if isSpace c then ' ' else c) :: (← attributeTail entities quote fuel)

/-- An attribute and its value. -/
def attributePair (entities : Entities) (fuel : Nat) : Reader (QName × String) := do
  let name ← qualifiedName
  equalsSign
  match ← Reader.next with
  | some quote =>
    if quote = '"' ∨ quote = '\'' then
      return (name, String.ofList (← attributeTail entities quote fuel))
    else Reader.refuse
  | none => Reader.refuse

/-- How a start tag ends. -/
inductive TagEnd where
  | opened
  | closed
  deriving DecidableEq

/-- The attributes of a start tag up to its end. White space stands in front of each. -/
def attributes (entities : Entities) : (fuel : Nat) → Reader (List (QName × String) × TagEnd)
  | 0 => Reader.refuse
  | fuel + 1 => do
    let gap ← Reader.takeWhile isSpace
    if ← Reader.accept '>' then return ([], .opened)
    else if ← Reader.acceptText "/>" then return ([], .closed)
    else if gap.isEmpty then Reader.refuse
    else
      let first ← attributePair entities fuel
      let (rest, tagEnd) ← attributes entities fuel
      return (first :: rest, tagEnd)

/-- The namespace that the prefix `xml` is bound to. -/
def xmlNamespace : String := "http://www.w3.org/XML/1998/namespace"

/-- The namespace of declarations of namespaces, to which no prefix may be bound. -/
def xmlnsNamespace : String := "http://www.w3.org/2000/xmlns/"

/-- The namespaces in force, by prefix; the innermost declaration first. -/
abbrev Scope := List (String × String)

/-- What an attribute declares about namespaces: nothing, or a prefix and its namespace. The
default namespace is declared for the empty prefix. -/
def declaredNamespace (a : QName × String) : Option (String × String) :=
  match a.1 with
  | ⟨some "xmlns", name⟩ => some (name, a.2)
  | ⟨none, "xmlns"⟩ => some ("", a.2)
  | _ => none

/-- Whether a namespace may be declared for a prefix. -/
def isProperDeclaration (d : String × String) : Bool :=
  if d.1 = "" then d.2 ≠ xmlNamespace ∧ d.2 ≠ xmlnsNamespace
  else if d.1 = "xmlns" then false
  else if d.1 = "xml" then d.2 = xmlNamespace
  else d.2 ≠ "" ∧ d.2 ≠ xmlNamespace ∧ d.2 ≠ xmlnsNamespace

/-- The namespace of a prefix. -/
def namespaceOf? (scope : Scope) : Option String → Option String
  | none => some ""
  | some p => scope.lookup p

/-- Checks a start tag and gives the scope inside it. -/
def enter (scope : Scope) (name : QName) (attrs : List (QName × String)) : Option Scope :=
  let declared := attrs.filterMap declaredNamespace
  let inner := declared ++ scope
  let others := attrs.filter fun a => (declaredNamespace a).isNone
  let expanded := others.filterMap fun a =>
    (namespaceOf? inner a.1.qualifier).map fun ns => (ns, a.1.localName)
  if declared.all isProperDeclaration ∧ (namespaceOf? inner name.qualifier).isSome
      ∧ expanded.length = others.length ∧ (distinct expanded).length = expanded.length
      ∧ (distinct (attrs.map Prod.fst)).length = attrs.length then
    some inner
  else none

/-- What has been read of the content of an element: the text in front of the first child and the
children, latest first. -/
structure Content where
  text : List Char
  children : List Element

namespace Content

/-- An element without content. -/
def empty : Content := ⟨[], []⟩

/-- Text behind a child belongs to nobody. -/
def addText (c : Content) (cs : List Char) : Content :=
  if c.children.isEmpty then { c with text := cs.reverse ++ c.text } else c

/-- Adds an element at the end. -/
def addChild (c : Content) (e : Element) : Content := { c with children := e :: c.children }

/-- The element with this content. -/
def toElement (c : Content) (name : String) : Element :=
  .mk name (if c.text.isEmpty then none else some (String.ofList c.text.reverse)) c.children.reverse

end Content

mutual

/-- An element whose `<` has been read. -/
def element (entities : Entities) : (fuel : Nat) → Scope → Reader Element
  | 0, _ => Reader.refuse
  | fuel + 1, scope => do
    let name ← qualifiedName
    let (attrs, tagEnd) ← attributes entities fuel
    match enter scope name attrs with
    | none => Reader.refuse
    | some inner =>
      if tagEnd = .closed then return .mk name.localName none []
      else
        let body ← content entities fuel inner false Content.empty
        -- the end tag repeats the name as it was written
        if (← qualifiedName) = name then
          skipSpace
          Reader.expect '>'
          return body.toElement name.localName
        else Reader.refuse

/-- The content of an element up to the `</` of its end tag, or the text of an entity up to its
end. An entity holds whole elements only. -/
def content (entities : Entities) : (fuel : Nat) → Scope → (inEntity : Bool) → Content → Reader Content
  | 0, _, _, _ => Reader.refuse
  | fuel + 1, scope, inEntity, c => do
    if ← Reader.acceptText "</" then
      if inEntity then Reader.refuse else return c
    else if ← Reader.acceptText "<!--" then
      skipComment
      content entities fuel scope inEntity c
    else if ← Reader.acceptText "<![CDATA[" then
      let body ← fun cs => sectionTail cs
      content entities fuel scope inEntity (c.addText body)
    else if ← Reader.acceptText "<?" then
      skipInstruction
      content entities fuel scope inEntity c
    else if ← Reader.accept '<' then
      content entities fuel scope inEntity (c.addChild (← element entities fuel scope))
    else if ← Reader.accept '&' then
      match ← reference entities with
      | .char ch => content entities fuel scope inEntity (c.addText [ch])
      | .entity body =>
        match content entities fuel scope true c body with
        | some (c, _) => content entities fuel scope inEntity c
        | none => Reader.refuse
    else if ← Reader.acceptText "]]>" then Reader.refuse
    else
      match ← Reader.next with
      | none => if inEntity then return c else Reader.refuse
      | some ch => content entities fuel scope inEntity (c.addText [ch])

end

/-- A whole document behind its declaration. -/
def document (fuel : Nat) : Reader Element := do
  skipMisc fuel
  let entities ← documentType fuel
  skipMisc fuel
  Reader.expect '<'
  let root ← element entities fuel [("xml", xmlNamespace)]
  skipMisc fuel
  return root

/-- The root element of a document. Entities can make a document longer than it is written, but
only so much. -/
def parse (data : List UInt8) : Except Fault Element := do
  let cs := Text.unifyLineBreaks (← decode data)
  if cs.all isDocumentChar then
    match Reader.readAll (document (16 * cs.length + 4096)) cs with
    | some root => return root
    | none => throw .malformed
  else throw .malformed

end ClassAtlas.Xml
