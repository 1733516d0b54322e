import ClassAtlas.Text.Points

/-!
# Request paths

A path is made of segments between slashes. Its canonical form begins with a
slash, has one slash between segments and none at the end. Patterns for paths
may hold stars, each of which stands for any run of characters without a line
break. A path is given by its code points.
-/

namespace ClassAtlas.Path

open ClassAtlas.Text (Points)

/-- The code point of the slash. -/
def slash : Nat := '/'.toNat

/-- Leaves one slash of every run of slashes. -/
def collapseSlashes : Points → Points
  | c :: d :: rest =>
    if c = slash ∧ d = slash then collapseSlashes (d :: rest) else c :: collapseSlashes (d :: rest)
  | [c] => [c]
  | [] => []

/-- Drops a slash at the end, unless it is all there is. -/
def dropTrailingSlash (cs : Points) : Points :=
  if 1 < cs.length ∧ cs.getLast? = some slash then cs.dropLast else cs

/-- The canonical form of a path. -/
def normalize (path : Points) : Points := dropTrailingSlash (collapseSlashes (slash :: path))

/-- Drops slashes at both ends. -/
def trimSlashes (cs : Points) : Points :=
  ((cs.dropWhile (· = slash)).reverse.dropWhile (· = slash)).reverse

/-- A slash and the first segment of a path. -/
def firstSegment (path : Points) : Points := slash :: (trimSlashes path).takeWhile (· ≠ slash)

/-- Whether the whole text can be obtained from the pattern by replacing every star. -/
def wildcardMatch : (pattern : List Char) → (text : Points) → Bool
  | [], text => text.isEmpty
  | '*' :: pattern, [] => wildcardMatch pattern []
  | '*' :: pattern, c :: text =>
    wildcardMatch pattern (c :: text) || (c != '\n'.toNat && wildcardMatch ('*' :: pattern) text)
  | _ :: _, [] => false
  | p :: pattern, c :: text => p.toNat == c && wildcardMatch pattern text
termination_by pattern text => pattern.length + text.length

end ClassAtlas.Path
