import ClassAtlas.Order.Table

/-!
# Depth in the inheritance hierarchy

The depth of a class is the number of superclass links above it that stay inside
the given set. A class whose superclass is missing is a root of depth zero.
Superclass links of malformed input may run in a loop; the loop is then opened
where it is first closed, so every class still gets a depth.

Classes are taken in order. From each class that has no depth yet the links are
climbed to a root, to a class whose depth is known, or to a class met on the
climb; then the climb gets its depths from the top down.
-/

namespace ClassAtlas.Graph

/-- Each class with its superclass. -/
abbrev Superclasses := Table String (Option String)

/-- The depths found so far, in the order in which they were found. -/
abbrev Depths := Table String Nat

/-- The classes from `name` upwards that have no depth yet, lowest last, behind those climbed
already; and the depth of the class on which the topmost of them rests. -/
def climb (classes : Superclasses) (known : Depths) :
    (fuel : Nat) → (name : Option String) → (climbed : List String) → List String × Option Nat
  | 0, _, climbed => (climbed, none)
  | _, none, climbed => (climbed, none)
  | fuel + 1, some name, climbed =>
    match classes.get? name with
    | none => (climbed, none)
    | some superclass =>
      match known.get? name with
      | some depth => (climbed, some depth)
      | none =>
        if name ∈ climbed then (climbed, none)
        else climb classes known fuel superclass (name :: climbed)

/-- Gives consecutive depths to the classes of a climb, topmost first. -/
def assignDepths (base : Nat) : (climbed : List String) → Depths → Depths
  | [], known => known
  | name :: rest, known => assignDepths (base + 1) rest (known.insert name base)

/-- The depth of every class, in the order in which they are settled. -/
def inheritanceDepths (classes : Superclasses) : Depths :=
  classes.keys.foldl (fun known name =>
    if known.contains name then known
    else
      let (climbed, base) := climb classes known (classes.size + 1) (some name) []
      assignDepths (base.elim 0 (· + 1)) climbed known) ∅

end ClassAtlas.Graph
