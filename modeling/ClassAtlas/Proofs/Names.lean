import ClassAtlas.ClassFile.Descriptor
import ClassAtlas.Flow.Basic
import ClassAtlas.Proofs.Text.Split

/-!
# What is read off a name

Names are texts, and much is told by cutting them: the package of a class, the
class that a declared type is about, the class and the method of an id. Each is
given here by how the name is put together, so that other statements can quote
the functions without looking into them.
-/

namespace ClassAtlas

/-! ## Methods -/

section Methods

variable {owner owner' name name' : String}

/-- Special methods are those whose name begins with `<`. -/
theorem Flow.isSpecial_iff : Flow.isSpecial name = true ↔ name.toList.head? = some '<' := by
  rw [isSpecial, Text.startsWith]
  cases name.toList with
  | nil => simp
  | cons c cs =>
      show (List.isPrefixOf ['<'] (c :: cs)) = true ↔ _
      simpa using eq_comm

/-- An id holds the class and the method: it is cut into them at the first hash sign, as long as
there is none in the name of the class. -/
theorem splitFirst_methodId (h : '#' ∉ owner.toList) (name : String) :
    Text.splitFirst '#' (methodId owner name) = (owner, name) :=
  Text.splitFirst_append h name

theorem methodId_inj (h : '#' ∉ owner.toList) (h' : '#' ∉ owner'.toList) :
    methodId owner name = methodId owner' name' ↔ owner = owner' ∧ name = name' := by
  constructor
  · intro heq
    have hparts := congrArg (Text.splitFirst '#') heq
    rw [splitFirst_methodId h, splitFirst_methodId h'] at hparts
    exact Prod.mk.inj hparts
  · rintro ⟨rfl, rfl⟩
    rfl

end Methods

namespace Graph

/-! ## Packages -/

/-- The package of a class is what stands before the last dot of its name. -/
theorem packageOf_append {simpleName : String} (h : '.' ∉ simpleName.toList) (package : String) :
    packageOf (package ++ "." ++ simpleName) = package := by
  have hcut : Text.splitLast? '.' (package ++ "." ++ simpleName) = some (package, simpleName) :=
    Text.splitLast?_append h package
  rw [packageOf, hcut]

theorem packageOf_of_notMem {name : String} (h : '.' ∉ name.toList) :
    packageOf name = defaultPackage := by
  rw [packageOf, Text.splitLast?_eq_none_iff.mpr h]

/-! ## Declared types -/

theorem dropBrackets_append {cs : List Char} (h : '[' ∉ cs) (rest : List Char) :
    dropBrackets (cs ++ rest) = cs ++ dropBrackets rest := by
  induction cs with
  | nil => rfl
  | cons c cs ih =>
      obtain ⟨hc, hcs⟩ := not_or.mp (List.mem_cons.not.mp h)
      rw [List.cons_append, dropBrackets, ih hcs, List.cons_append]
      rintro rest' rfl -
      exact hc rfl

theorem dropBrackets_brackets (k : Nat) :
    dropBrackets (ClassFile.Descriptor.brackets k) = [] := by
  induction k with
  | zero => rfl
  | succ k ih => exact ih

/-- A declared type is about the class that stands before its type arguments and brackets. -/
theorem normalizeType_ofList {base arguments : List Char} {k : Nat} (hbase : base ≠ [])
    (hbracket : '[' ∉ base) (hplain : '<' ∉ base)
    (harguments : arguments = [] ∨ arguments.head? = some '<') :
    normalizeType (String.ofList (base ++ (arguments ++ ClassFile.Descriptor.brackets k))) =
      String.ofList base := by
  have hfront : (base ++ dropBrackets (arguments ++ ClassFile.Descriptor.brackets k)).takeWhile
      (· ≠ '<') = base := by
    rcases harguments with rfl | hhead
    · rw [List.nil_append, dropBrackets_brackets, List.append_nil]
      refine List.takeWhile_eq_self_iff.mpr fun c hc => ?_
      simpa using fun heq : c = '<' => hplain (heq ▸ hc)
    · obtain ⟨rest, rfl⟩ := List.head?_eq_some_iff.mp hhead
      rw [List.cons_append, dropBrackets]
      · exact Text.takeWhile_ne_append hplain
      · rintro _ ⟨⟩
  rw [normalizeType, String.toList_ofList, dropBrackets_append hbracket, hfront,
    if_neg (by simpa using hbase)]

end Graph

end ClassAtlas
