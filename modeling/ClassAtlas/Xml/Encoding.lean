import ClassAtlas.Text.Codec
import ClassAtlas.Text.Reader

/-!
# Encodings of XML documents

A document says how it is encoded by its first bytes or by the declaration in its
first line. Documents in UTF-16 are known by their first two bytes; for the
others the declaration is read as ASCII first.
-/

namespace ClassAtlas.Xml

open ClassAtlas.Text (Reader)

/-- Why a document cannot be read. -/
inductive Fault where
  | malformed
  | unknownEncoding
  /-- An encoding in which the number of bytes to a character varies, UTF-8 apart. -/
  | unsupportedEncoding
  deriving DecidableEq, Repr

/-- What the bytes 0x80 to 0x9F stand for in the code page 1252; zero for nothing. -/
def codePage1252 : List Nat :=
  [0x20AC, 0, 0x201A, 0x192, 0x201E, 0x2026, 0x2020, 0x2021, 0x2C6, 0x2030, 0x160, 0x2039, 0x152, 0,
    0x17D, 0, 0, 0x2018, 0x2019, 0x201C, 0x201D, 0x2022, 0x2013, 0x2014, 0x2DC, 0x2122, 0x161,
    0x203A, 0x153, 0, 0x17E, 0x178]

/-- How the bytes of a document become characters. -/
inductive Encoding where
  | utf8
  | utf16 (bigEndian : Bool)
  | ascii
  | latin1
  | windows1252
  deriving DecidableEq, Repr

namespace Encoding

/-- The characters of a document, if its bytes are well formed. -/
def decode (data : List UInt8) : Encoding → Option (List Char)
  | utf8 => (Text.ofUtf8? data).map String.toList
  | utf16 bigEndian =>
    (Text.Utf16.scan bigEndian data).toOption.map fun points => points.map Char.ofNat
  | ascii => data.mapM fun b => if b.toNat < 0x80 then some (Char.ofNat b.toNat) else none
  | latin1 => some (data.map fun b => Char.ofNat b.toNat)
  | windows1252 => data.mapM fun b =>
    if 0x80 ≤ b.toNat ∧ b.toNat < 0xA0 then
      let code := codePage1252.getD (b.toNat - 0x80) 0
      if code = 0 then none else some (Char.ofNat code)
    else some (Char.ofNat b.toNat)

/-- Whether every character takes at least two bytes. -/
def isWide : Encoding → Bool
  | utf16 _ => true
  | _ => false

/-- Names of encodings that are known but cannot be read. -/
def unsupported : List String :=
  ["UTF-7", "UTF-32", "UTF-32BE", "UTF-32LE", "SHIFT_JIS", "SHIFT-JIS", "SJIS", "CP932", "EUC-JP",
    "EUC_JP", "ISO-2022-JP", "EUC-KR", "EUC_KR", "CP949", "GB2312", "GBK", "GB18030", "CP936", "BIG5",
    "CP950"]

/-- The encodings by name, in upper case. A name without the hyphen after `UTF` is read as plain
ASCII. -/
def ofName (name : String) : Except Fault Encoding :=
  match name with
  | "UTF-8" => .ok utf8
  | "UTF-16" => .ok (utf16 true)
  | "UTF-16BE" => .ok (utf16 true)
  | "UTF-16LE" => .ok (utf16 false)
  | "US-ASCII" => .ok ascii
  | "ASCII" => .ok ascii
  | "UTF8" => .ok ascii
  | "UTF_8" => .ok ascii
  | "ISO-8859-1" => .ok latin1
  | "ISO8859-1" => .ok latin1
  | "ISO_8859-1" => .ok latin1
  | "LATIN-1" => .ok latin1
  | "LATIN1" => .ok latin1
  | "WINDOWS-1252" => .ok windows1252
  | "CP1252" => .ok windows1252
  | _ => .error (if name ∈ unsupported then .unsupportedEncoding else .unknownEncoding)

end Encoding

/-! ## The declaration -/

/-- White space of the grammar. -/
def isSpace (c : Char) : Bool := c == ' ' || c == '\t' || c == '\n' || c == '\r'

/-- Drops white space. -/
def skipSpace : Reader Unit := Reader.skipWhile isSpace

/-- White space that has to be there. -/
def space : Reader Unit := do
  if (← Reader.takeWhile isSpace).isEmpty then Reader.refuse

/-- A value in quotes, made of characters that satisfy the condition. -/
def quotedValue (p : Char → Bool) : Reader (List Char) := do
  match ← Reader.next with
  | some quote =>
    if quote ≠ '"' ∧ quote ≠ '\'' then Reader.refuse
    else
      let value ← Reader.takeWhile fun c => c != quote && p c
      Reader.expect quote
      return value
  | none => Reader.refuse

/-- Characters of a version number. -/
def isVersionChar (c : Char) : Bool := c.isAlphanum || c == '.' || c == '-' || c == '_' || c == ':'

/-- Characters of the name of an encoding. -/
def isEncodingChar (c : Char) : Bool := c.isAlphanum || c == '.' || c == '-' || c == '_'

/-- An equals sign with white space around it. -/
def equalsSign : Reader Unit := do
  skipSpace
  Reader.expect '='
  skipSpace

/-- The end of a declaration, or an item of it behind white space. -/
def declarationItem (name : String) : Reader Bool := fun cs =>
  let rest := cs.dropWhile isSpace
  let expected := name.toList
  if rest.length < cs.length ∧ expected.isPrefixOf rest then
    some (true, rest.drop expected.length)
  else some (false, cs)

/-- The declaration behind `<?xml`; the encoding that it names, in upper case. -/
def declaration : Reader (Option String) := do
  unless ← declarationItem "version" do Reader.refuse
  equalsSign
  let _ ← quotedValue isVersionChar
  let encoding ← (do
    if ← declarationItem "encoding" then
      equalsSign
      let name ← quotedValue isEncodingChar
      if (name.head?.map Char.isAlpha).getD false then
        return some (String.ofList (name.map Char.toUpper))
      else Reader.refuse
    else return none)
  if ← declarationItem "standalone" then
    equalsSign
    let answer ← quotedValue Char.isAlpha
    unless answer = ['y', 'e', 's'] ∨ answer = ['n', 'o'] do Reader.refuse
  skipSpace
  Reader.expectText "?>"
  return encoding

/-- Whether a document starts with a declaration. -/
def startsWithDeclaration (cs : List Char) : Bool :=
  "<?xml".toList.isPrefixOf cs && ((cs.drop 5).head?.map fun c => isSpace c || c == '?').getD false

/-- Takes off the declaration, if there is one. -/
def splitDeclaration (cs : List Char) : Option (Option String × List Char) :=
  if startsWithDeclaration cs then declaration (cs.drop 5) else some (none, cs)

/-- The encoding that a declaration names, which has to agree with the width of the document. -/
def declaredEncoding (wide : Bool) (declared : Option String) (otherwise : Encoding) :
    Except Fault Encoding := do
  match declared with
  | none => return otherwise
  | some name =>
    let encoding ← Encoding.ofName name
    if encoding.isWide = wide then return encoding else throw .malformed

/-- The characters of a document in UTF-16 without its declaration. -/
def decodeWide (bigEndian : Bool) (data : List UInt8) : Except Fault (List Char) := do
  let encoding := Encoding.utf16 bigEndian
  let some (declared, rest) := (encoding.decode data).bind splitDeclaration | throw .malformed
  let _ ← declaredEncoding true declared encoding
  return rest

/-- The characters of any other document without its declaration. -/
def decodeNarrow (data : List UInt8) : Except Fault (List Char) := do
  let some (declared, _) := splitDeclaration (data.map fun b => Char.ofNat b.toNat)
    | throw .malformed
  let encoding ← declaredEncoding false declared .utf8
  let some (_, rest) := (encoding.decode data).bind splitDeclaration | throw .malformed
  return rest

/-- The characters of a document without its declaration. -/
def decode (data : List UInt8) : Except Fault (List Char) :=
  match data with
  | 0xFE :: 0xFF :: rest => decodeWide true rest
  | 0xFF :: 0xFE :: rest => decodeWide false rest
  | 0x3C :: 0x00 :: _ => decodeWide false data
  | 0x00 :: 0x3C :: _ => decodeWide true data
  | 0xEF :: 0xBB :: 0xBF :: rest => decodeNarrow rest
  | _ => decodeNarrow data

end ClassAtlas.Xml
