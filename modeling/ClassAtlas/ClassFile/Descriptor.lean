import ClassAtlas.ClassFile.Fault

/-!
# Type and method descriptors

A type descriptor is any number of `[`, then a letter for a primitive type, or
`L`, a class name with `/` between its parts, and `;`. It decodes to the type's
name in source form: `[[Ljava/util/List;` is `java.util.List[][]`. A method
descriptor is a parenthesised run of type descriptors followed by one more, the
type of the result.
-/

namespace ClassAtlas.ClassFile.Descriptor

/-- The source name of a primitive type or of `void`. -/
def primitive? : Char → Option String
  | 'B' => some "byte"
  | 'C' => some "char"
  | 'D' => some "double"
  | 'F' => some "float"
  | 'I' => some "int"
  | 'J' => some "long"
  | 'S' => some "short"
  | 'Z' => some "boolean"
  | 'V' => some "void"
  | _ => none

/-- A name with its parts divided by `.` instead of `/`. -/
def dotted (cs : List Char) : List Char := cs.map fun c => if c = '/' then '.' else c

/-- `k` copies of `[]`. -/
def brackets (k : Nat) : List Char := (List.replicate k ['[', ']']).flatten

/-- Reads one type at the front of `cs`, with `k` array dimensions seen already, and returns its
name and what follows it. The `whole` descriptor is what a fault shows. -/
def readType (whole : String) (k : Nat) : List Char → Except DescriptorFault (String × List Char)
  | [] => .error (.truncated whole)
  | '[' :: rest => readType whole (k + 1) rest
  | 'L' :: rest =>
    match rest.dropWhile (· ≠ ';') with
    | [] => .error (.unterminatedClass whole)
    | _ :: after =>
      .ok (String.ofList (dotted (rest.takeWhile (· ≠ ';')) ++ brackets k), after)
  | c :: rest =>
    match primitive? c with
    | some name => .ok (name ++ String.ofList (brackets k), rest)
    | none => .error (.badCharacter c whole)

/-- Reading a type uses up at least one character. -/
theorem length_readType {whole : String} {k : Nat} {cs rest : List Char} {name : String}
    (h : readType whole k cs = .ok (name, rest)) : rest.length < cs.length := by
  induction cs generalizing k with
  | nil => simp [readType] at h
  | cons c cs ih =>
    rw [readType.eq_def] at h
    split at h
    · simp at h
    · next e =>
      obtain ⟨-, rfl⟩ := List.cons.inj e
      exact Nat.lt_succ_of_lt (ih h)
    · next r e =>
      obtain ⟨-, rfl⟩ := List.cons.inj e
      split at h
      · simp at h
      · next x after hd =>
        have hle := (List.dropWhile_sublist (l := cs) (· ≠ ';')).length_le
        rw [hd] at hle
        simp only [Except.ok.injEq, Prod.mk.injEq] at h
        rw [← h.2]
        simp only [List.length_cons] at hle ⊢
        omega
    · next e =>
      obtain ⟨-, rfl⟩ := List.cons.inj e
      split at h
      · simp only [Except.ok.injEq, Prod.mk.injEq] at h
        rw [← h.2]
        simp
      · simp at h

/-- The source name of a field's type. -/
def fieldType (text : String) : Except DescriptorFault String :=
  match readType text 0 text.toList with
  | .error e => .error e
  | .ok (name, []) => .ok name
  | .ok (_, _ :: _) => .error (.trailing text)

/-- Reads types while more than `stop` characters are left. -/
def readParameters (whole : String) (stop : Nat) (cs : List Char) :
    Except DescriptorFault (List String × List Char) :=
  if cs.length ≤ stop then .ok ([], cs)
  else
    match h : readType whole 0 cs with
    | .error e => .error e
    | .ok (name, rest) =>
      have := length_readType h
      match readParameters whole stop rest with
      | .error e => .error e
      | .ok (names, rest') => .ok (name :: names, rest')
termination_by cs.length

/-- The source names of a method's parameter types and of its result type. The parameters end at
the first `)`, and no parameter may reach beyond it. -/
def methodTypes (text : String) : Except DescriptorFault (List String × String) :=
  match text.toList with
  | '(' :: body =>
    match body.dropWhile (· ≠ ')') with
    | [] => .error (.noClosing text)
    | close :: result => do
      let (parameters, rest) ← readParameters text (result.length + 1) body
      if rest.length ≠ (close :: result).length then
        throw (.malformedParameters text)
      return (parameters, ← fieldType (String.ofList result))
  | _ => .error (.noOpening text)

/-- The source name of a class; an array's class is named by its descriptor. -/
def className (internal : String) : Except DescriptorFault String :=
  match internal.toList with
  | '[' :: _ => fieldType internal
  | cs => .ok (String.ofList (dotted cs))

/-- The number of local variable slots that a value of the type takes. -/
def slotSize (type : String) : Nat := if type = "long" ∨ type = "double" then 2 else 1

end ClassAtlas.ClassFile.Descriptor
