import ClassAtlas.Text.Printable

/-!
# Quoted text

Messages show a text between quotes. Single quotes are used unless the text
holds a single quote and no double quote. Inside, the backslash, the chosen
quote and the characters that cannot be printed are escaped, so a message always
stays on one line and the quoted text can be read back.
-/

namespace ClassAtlas.Text

/-- The lower-case hexadecimal digit of a number below sixteen. -/
def hexDigit (n : Nat) : Char :=
  if n < 10 then Char.ofNat (48 + n) else Char.ofNat (87 + n)

/-- Hexadecimal digits of `n`, least significant last, exactly `width` of them. -/
def hexDigits : (width : Nat) → (n : Nat) → List Char
  | 0, _ => []
  | width + 1, n => hexDigits width (n / 16) ++ [hexDigit (n % 16)]

/-- A byte as two hexadecimal digits. -/
def hexByte (b : UInt8) : String := String.ofList (hexDigits 2 b.toNat)

/-- The quote that surrounds `cs`: double only if `cs` has a single quote and no double one. -/
def quoteFor (cs : List Char) : Char :=
  if cs.contains '\'' && !cs.contains '"' then '"' else '\''

/-- A character by its number, in as few digits of 2, 4 or 8 as hold it. -/
def numberedChar (c : Char) : List Char :=
  if c.toNat < 0x100 then '\\' :: 'x' :: hexDigits 2 c.toNat
  else if c.toNat < 0x10000 then '\\' :: 'u' :: hexDigits 4 c.toNat
  else '\\' :: 'U' :: hexDigits 8 c.toNat

/-- How one character is written inside quotes. -/
def escapeChar (quote : Char) (c : Char) : List Char :=
  if c == '\\' then ['\\', '\\']
  else if c == quote then ['\\', c]
  else if c == '\n' then ['\\', 'n']
  else if c == '\r' then ['\\', 'r']
  else if c == '\t' then ['\\', 't']
  else if isPrintable c then [c]
  else numberedChar c

/-- The text between its quotes, on one line. -/
def quoted (s : String) : String :=
  let cs := s.toList
  let quote := quoteFor cs
  String.ofList (quote :: cs.flatMap (escapeChar quote) ++ [quote])

end ClassAtlas.Text
