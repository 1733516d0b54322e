import ClassAtlas.Number.Shortest
import ClassAtlas.Text.Codec

/-!
# Report documents

A document is a tree of objects, lists and scalars, objects with their fields in
order. `render` writes it as indented text that holds ASCII characters only:
every other code point is escaped by its UTF-16 units.
-/

namespace ClassAtlas

/-- A JSON document. Fields of an object keep their order. -/
inductive Document where
  | null
  | bool (value : Bool)
  | integer (value : Int)
  | real (value : Binary64)
  | text (value : String)
  /-- A text by its code points. -/
  | points (value : Text.Points)
  | list (items : List Document)
  | object (fields : List (String × Document))
  deriving Repr, Inhabited

namespace Document

/-- A list of texts. -/
def texts (xs : List String) : Document := .list (xs.map .text)

/-- A text, or null if there is none. -/
def optionalText : Option String → Document
  | none => .null
  | some s => .text s

/-- `\uXXXX` for one UTF-16 unit. -/
def escapeUnit (n : Nat) : List Char := '\\' :: 'u' :: Text.hexDigits 4 n

/-- How one code point is written between double quotes. -/
def escapePoint (n : Nat) : List Char :=
  if n == '"'.toNat then ['\\', '"']
  else if n == '\\'.toNat then ['\\', '\\']
  else if n == '\n'.toNat then ['\\', 'n']
  else if n == '\r'.toNat then ['\\', 'r']
  else if n == '\t'.toNat then ['\\', 't']
  else if n == 0x08 then ['\\', 'b']
  else if n == 0x0c then ['\\', 'f']
  else if 0x20 ≤ n && n < 0x7f then [Char.ofNat n]
  else (Text.Utf16.units n).flatMap escapeUnit

/-- A text between double quotes, by its code points. -/
def quotePoints (ps : Text.Points) : String :=
  String.ofList ('"' :: ps.flatMap escapePoint ++ ['"'])

/-- A text between double quotes. -/
def quote (s : String) : String := quotePoints (Text.points s)

/-- A line break, followed by the indentation of a level. -/
def lineBreak (level : Nat) : String := String.ofList ('\n' :: List.replicate (2 * level) ' ')

/-- Items on lines of their own between two brackets; nothing between them without items. -/
def block (opening closing : String) (level : Nat) (items : List String) : String :=
  if items.isEmpty then opening ++ closing
  else
    opening ++ lineBreak (level + 1) ++
      String.intercalate ("," ++ lineBreak (level + 1)) items ++ lineBreak level ++ closing

mutual

/-- The text of a document at a level of indentation. -/
def renderAt (level : Nat) : Document → String
  | .null => "null"
  | .bool b => if b then "true" else "false"
  | .integer n => toString n
  | .real x => x.text .report
  | .text s => quote s
  | .points ps => quotePoints ps
  | .list items => block "[" "]" level (renderItems (level + 1) items)
  | .object fields => block "\x7b" "\x7d" level (renderFields (level + 1) fields)

/-- The items of a list, each on its own line at the level. -/
def renderItems (level : Nat) : List Document → List String
  | [] => []
  | d :: rest => renderAt level d :: renderItems level rest

/-- The fields of an object, each on its own line at the level. -/
def renderFields (level : Nat) : List (String × Document) → List String
  | [] => []
  | (key, d) :: rest => (quote key ++ ": " ++ renderAt level d) :: renderFields level rest

end

/-- The text of a document. -/
def render (d : Document) : String := renderAt 0 d

end Document

end ClassAtlas
