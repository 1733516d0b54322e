/-!
# Work that leaves notices

Some inputs are passed over with a notice to the user. Notices stay also when the
work fails later on.
-/

namespace ClassAtlas

/-- A computation that may fail and leaves notices, in order. -/
abbrev Noted (ε α : Type) := ExceptT ε (StateM (List String)) α

namespace Noted

variable {ε α : Type}

/-- Leaves one more notice. -/
def note (text : String) : Noted ε Unit := modify (· ++ [text])

/-- Leaves further notices. -/
def noteAll (texts : List String) : Noted ε Unit := modify (· ++ texts)

/-- Work that cannot leave notices. -/
def ofExcept (result : Except ε α) : Noted ε α := ExceptT.mk (pure result)

/-- The result together with the notices. -/
def results (work : Noted ε α) : Except ε α × List String := Id.run (StateT.run (ExceptT.run work) [])

/-- Work whose failure is part of its result. -/
def attempt {ε' : Type} (work : Noted ε α) : Noted ε' (Except ε α) := ExceptT.mk (Except.ok <$> work.run)

/-- Work whose faults are of another kind. -/
def mapFault {ε' : Type} (f : ε → ε') (work : Noted ε α) : Noted ε' α :=
  ExceptT.mk (Except.mapError f <$> work.run)

end Noted

end ClassAtlas
