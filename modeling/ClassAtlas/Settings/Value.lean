import ClassAtlas.Number.Shortest

/-!
# Values of settings

A settings file may give any value to any setting. Values are taken as they are
and judged where they are used, so a setting that is never needed can do no harm.
-/

namespace ClassAtlas

/-- A value from a settings file or the command line, of any type. -/
inductive Setting where
  | absent
  | boolean (value : Bool)
  | integer (value : Int)
  | real (value : Binary64)
  | text (value : String)
  /-- A date, a time of day or both, as written. -/
  | moment (source : String)
  | list (items : List Setting)
  | table (entries : List (String × Setting))
  deriving Repr, Inhabited

/-- Why a setting cannot be used. -/
inductive SettingFault where
  | notSequence
  | notTable
  | notNumber
  | notWhole
  | notText
  | notName
  | unknownName (name : String)
  deriving DecidableEq, Repr

namespace Setting

/-- The items of a list, the characters of a text, the keys of a table. -/
def items : Setting → Except SettingFault (List Setting)
  | .list items => .ok items
  | .text s => .ok (s.toList.map fun c => .text (String.singleton c))
  | .table entries => .ok (entries.map fun e => .text e.1)
  | _ => .error .notSequence

/-- The pairs of a table. -/
def entries : Setting → Except SettingFault (List (String × Setting))
  | .table entries => .ok entries
  | _ => .error .notTable

/-- Whether a value counts as a yes: all but the empty, the zero and the absent ones. -/
def isYes : Setting → Bool
  | .absent => false
  | .boolean b => b
  | .integer n => n != 0
  | .real x => !x.isZero
  | .text s => s != ""
  | .moment _ => true
  | .list items => !items.isEmpty
  | .table entries => !entries.isEmpty

/-- Whether a number exceeds an integer; the two booleans count as zero and one. -/
def exceeds (n : Int) : Setting → Except SettingFault Bool
  | .boolean b => .ok (n < if b then 1 else 0)
  | .integer k => .ok (n < k)
  | .real x => .ok (x.isAbove n)
  | _ => .error .notNumber

/-- Whether a number is less than an integer. -/
def fallsBelow (n : Int) : Setting → Except SettingFault Bool
  | .boolean b => .ok ((if b then 1 else 0) < n)
  | .integer k => .ok (k < n)
  | .real x => .ok (x.isBelow n)
  | _ => .error .notNumber

/-- The count at which a numeric limit is reached; `none` if no count reaches it. -/
def reachedAt : Setting → Except SettingFault (Option Int)
  | .boolean b => .ok (some (if b then 1 else 0))
  | .integer k => .ok (some k)
  | .real x => .ok x.leastCount?
  | _ => .error .notNumber

/-- The text of a number in a message. -/
def numberText : Setting → String
  | .boolean b => if b then "True" else "False"
  | .integer n => toString n
  | .real x => x.text .plain
  | _ => ""

end Setting

end ClassAtlas
