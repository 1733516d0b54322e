import ClassAtlas.Pattern.Basic
import ClassAtlas.Text.Reader

/-!
# Reading patterns

The usual notation: `.`, classes in brackets, `|`, groups, `*`, `+`, `?` and
counts in braces, each also with a `?` behind it, `^`, `$`, and classes by
letter. A brace that opens no count stands for itself. A pattern that cannot be
read is refused as a whole; the fault is not analysed further.
-/

namespace ClassAtlas.Pattern

open ClassAtlas.Text (Reader numeral hexDigitValue?)

/-- Letters that an escape may not spell unless it has a meaning. -/
def isAsciiLetter (c : Char) : Bool := c.isAlpha

/-- A code point written with exactly `n` hexadecimal digits. -/
def hexEscape (n : Nat) : Reader Char := fun cs =>
  match (cs.take n).mapM hexDigitValue? with
  | some ds =>
    let code := ds.foldl (fun acc d => acc * 16 + d) 0
    if ds.length = n ∧ code ≤ 0x10FFFF then some (Char.ofNat code, cs.drop n) else none
  | none => none

/-- What a backslash and a letter stand for, inside brackets and outside. -/
def escapedItem (c : Char) : Reader ClassItem :=
  match c with
  | 'd' => pure (.kind .digit false)
  | 'D' => pure (.kind .digit true)
  | 'w' => pure (.kind .word false)
  | 'W' => pure (.kind .word true)
  | 's' => pure (.kind .blank false)
  | 'S' => pure (.kind .blank true)
  | 'a' => pure (.char (Char.ofNat 7))
  | 'f' => pure (.char (Char.ofNat 12))
  | 'n' => pure (.char '\n')
  | 'r' => pure (.char '\r')
  | 't' => pure (.char '\t')
  | 'v' => pure (.char (Char.ofNat 11))
  | 'x' => return .char (← hexEscape 2)
  | 'u' => return .char (← hexEscape 4)
  | 'U' => return .char (← hexEscape 8)
  | '0' => pure (.char (Char.ofNat 0))
  | _ => if isAsciiLetter c || c.isDigit then Reader.refuse else pure (.char c)

/-- The pattern for one character that an item takes. -/
def ClassItem.pattern : ClassItem → Pattern
  | .char c => .char c
  | item => .oneOf [item] false

/-- A backslash outside brackets has been read. -/
def escape : Reader Pattern := do
  match ← Reader.next with
  | none => Reader.refuse
  | some 'A' => return .anchor .start
  | some 'Z' => return .anchor .textEnd
  | some 'b' => return .anchor .boundary
  | some 'B' => return .anchor .noBoundary
  | some c => return (← escapedItem c).pattern

/-- An item of a bracketed class that begins with `c`. -/
def bracketItem (c : Char) : Reader ClassItem :=
  if c = '\\' then do
    match ← Reader.next with
    | none => Reader.refuse
    | some 'b' => return .char (Char.ofNat 8)
    | some d => escapedItem d
  else pure (.char c)

/-- The rest of a bracketed class behind the items already read, which are given in reverse. A
closing bracket in first place stands for itself, and so does a hyphen in last place. -/
def bracketItems : (fuel : Nat) → List ClassItem → Reader (List ClassItem)
  | 0, _ => Reader.refuse
  | fuel + 1, items => do
    match ← Reader.next with
    | none => Reader.refuse
    | some c =>
      if c = ']' ∧ !items.isEmpty then return items
      let first ← bracketItem c
      if ← Reader.accept '-' then
        match ← Reader.next with
        | none => Reader.refuse
        | some ']' => return .char '-' :: first :: items
        | some d =>
          match first, ← bracketItem d with
          | .char a, .char b =>
            if a.toNat ≤ b.toNat then bracketItems fuel (.range a b :: items) else Reader.refuse
          | _, _ => Reader.refuse
      else bracketItems fuel (first :: items)

/-- A bracketed class whose opening bracket has been read. -/
def bracket : Reader Pattern := do
  let negated ← Reader.accept '^'
  let size := (← get).length
  return .oneOf (← bracketItems (size + 1) []) negated

/-- How often something is repeated. -/
structure Count where
  least : Nat
  most : Option Nat
  deriving DecidableEq, Repr

/-- Numbers from here on are too large for a count. -/
def countLimit : Nat := 4294967295

/-- A count in braces whose opening brace has been read. Gives nothing, and reads nothing, if no
count is there. -/
def braces : Reader (Option Count) := do
  let before ← get
  if before.head? = some '\x7d' then return none
  let low ← Reader.digits
  let high ← (do if ← Reader.accept ',' then Reader.digits else pure low)
  if ← Reader.accept '\x7d' then
    let count : Count :=
      { least := numeral low, most := if high.isEmpty then none else some (numeral high) }
    if countLimit ≤ count.least || count.most.any (fun m => countLimit ≤ m || m < count.least) then
      Reader.refuse
    return some count
  else
    set before
    return none

/-- The count that a repetition sign stands for. -/
def countAt (c : Char) : Reader (Option Count) :=
  match c with
  | '*' => pure (some ⟨0, none⟩)
  | '+' => pure (some ⟨1, none⟩)
  | '?' => pure (some ⟨0, some 1⟩)
  | '\x7b' => braces
  | _ => pure none

/-- A piece of a sequence and whether a repetition sign may follow it. -/
structure Piece where
  pattern : Pattern
  repeatable : Bool

/-- A piece may be repeated unless it is an anchor or a repetition already. -/
def Piece.ofPattern : Pattern → Piece
  | .anchor a => ⟨.anchor a, false⟩
  | .rep p least most => ⟨.rep p least most, false⟩
  | p => ⟨p, true⟩

/-- The pieces in sequence, given the last one first. -/
def joinPieces (pieces : List Piece) : Pattern :=
  pieces.foldl (fun acc piece => .seq piece.pattern acc) .empty

/-- Signs that open a repetition. -/
def isCountSign (c : Char) : Bool := "*+?\x7b".toList.contains c

mutual

/-- Alternatives up to a closing parenthesis or the end. -/
def alternatives : (fuel : Nat) → Reader Pattern
  | 0 => Reader.refuse
  | fuel + 1 => do
    let first := joinPieces (← sequence fuel [])
    if ← Reader.accept '|' then
      return .alt first (← alternatives fuel)
    else return first

/-- The pieces of a sequence, behind those already read, which are given in reverse. -/
def sequence : (fuel : Nat) → List Piece → Reader (List Piece)
  | 0, _ => Reader.refuse
  | fuel + 1, pieces => do
    match ← Reader.peek with
    | none => return pieces
    | some '|' => return pieces
    | some ')' => return pieces
    | some c =>
      let _ ← Reader.next
      if isCountSign c then
        match ← countAt c with
        | none => sequence fuel (⟨.char c, true⟩ :: pieces)
        | some count =>
          match pieces with
          | [] => Reader.refuse
          | piece :: rest =>
            if !piece.repeatable then Reader.refuse
            -- a match of the whole text does not depend on which run is tried first
            let _ ← Reader.accept '?'
            sequence fuel (⟨.rep piece.pattern count.least count.most, false⟩ :: rest)
      else
        let piece ← atom fuel c
        sequence fuel (piece :: pieces)

/-- One piece that begins with `c`, which has been read. -/
def atom : (fuel : Nat) → Char → Reader Piece
  | 0, _ => Reader.refuse
  | fuel + 1, c =>
    match c with
    | '\\' => return .ofPattern (← escape)
    | '[' => return ⟨← bracket, true⟩
    | '.' => return ⟨.any, true⟩
    | '^' => return ⟨.anchor .start, false⟩
    | '$' => return ⟨.anchor .lineEnd, false⟩
    | '(' => do
      if ← Reader.accept '?' then
        if !(← Reader.accept ':') then Reader.refuse
      let body ← alternatives fuel
      if !(← Reader.accept ')') then Reader.refuse
      return ⟨body, true⟩
    | _ => return ⟨.char c, true⟩

end

/-- The pattern that a text writes, if it writes one. -/
def parse? (text : String) : Option Pattern :=
  let cs := text.toList
  match (alternatives (3 * cs.length + 3)).run cs with
  | some (p, []) => some p
  | _ => none

end ClassAtlas.Pattern
