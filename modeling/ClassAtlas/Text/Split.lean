/-!
# Cutting text at a character

Names are cut at the last dot, ids at the first hash sign. A cut that finds
nothing leaves the whole text on one side.
-/

namespace ClassAtlas.Text

/-- What stands before and after the last `sep`, if there is one. -/
def splitLast? (sep : Char) (s : String) : Option (String × String) :=
  let back := s.toList.reverse
  match back.dropWhile (· ≠ sep) with
  | [] => none
  | _ :: front =>
    some (String.ofList front.reverse, String.ofList (back.takeWhile (· ≠ sep)).reverse)

/-- What stands after the last `sep`, the whole list without one. -/
def itemsAfterLast {α : Type} [DecidableEq α] (sep : α) (xs : List α) : List α :=
  (xs.reverse.takeWhile (· ≠ sep)).reverse

/-- What stands after the last `sep`, the whole text without one. -/
def afterLast (sep : Char) (s : String) : String := String.ofList (itemsAfterLast sep s.toList)

/-- What stands before and after the first `sep`; nothing after it without one. -/
def splitFirst (sep : Char) (s : String) : String × String :=
  let cs := s.toList
  (String.ofList (cs.takeWhile (· ≠ sep)), String.ofList ((cs.dropWhile (· ≠ sep)).drop 1))

/-- Whether `part` stands somewhere in the text. -/
def containsList (part : List Char) : List Char → Bool
  | [] => part.isEmpty
  | c :: cs => part.isPrefixOf (c :: cs) || containsList part cs

/-- Whether a text stands somewhere in another one. -/
def containsText (s part : String) : Bool := containsList part.toList s.toList

/-- Whether a text has the beginning. -/
def startsWith (s start : String) : Bool := start.toList.isPrefixOf s.toList

/-- The pieces of the text between occurrences of `sep`, empty ones included. -/
def splitChars (sep : Char) : List Char → List (List Char)
  | [] => [[]]
  | c :: cs =>
    if c = sep then [] :: splitChars sep cs
    else
      match splitChars sep cs with
      | [] => [[c]]
      | piece :: pieces => (c :: piece) :: pieces

/-- The pieces of a text between occurrences of `sep`, empty ones included. -/
def splitAll (sep : Char) (s : String) : List String :=
  (splitChars sep s.toList).map String.ofList

end ClassAtlas.Text
