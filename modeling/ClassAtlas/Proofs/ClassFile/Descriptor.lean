import Mathlib.Data.List.Forall2
import ClassAtlas.ClassFile.Descriptor
import ClassAtlas.Proofs.Text.Split

/-!
# The grammar of type descriptors

A type token is given without a reader: array marks, then the letter of a
primitive type or a class name between `L` and `;`. Reading a token returns the
name it stands for and stops right behind it, and whatever is read is a token.

A method descriptor is a run of tokens between parentheses and a token behind
them. Decoding looks for the first `)` before it reads the run, and a token may
hold a `)` of its own: such a run is refused, since the tokens then end beyond
the place that was found. Main statement: descriptors are accepted exactly by
this grammar, in which they have one reading.
-/

namespace ClassAtlas.ClassFile.Descriptor

open ClassAtlas.Text (dropWhile_ne_append takeWhile_ne_append notMem_takeWhile_ne eq_of_dropWhile_ne)

/-- A type token without array marks and the name it stands for. -/
inductive BaseToken : List Char → List Char → Prop where
  | primitive {letter : Char} {name : String} :
      primitive? letter = some name → BaseToken [letter] name.toList
  | reference {text : List Char} : ';' ∉ text → BaseToken ('L' :: (text ++ [';'])) (dotted text)

/-- A type token and the name it stands for: as many `[]` behind the base's name as there are array
marks in front of the base. -/
def TypeToken (token : List Char) (name : String) : Prop :=
  ∃ (k : Nat) (base baseName : List Char), BaseToken base baseName ∧
    token = List.replicate k '[' ++ base ∧ name = String.ofList (baseName ++ brackets k)

/-! ## Reading a token -/

/-- The letter of a primitive type is no array mark and opens no class name. -/
theorem primitive?_ne {letter : Char} {name : String} (h : primitive? letter = some name) :
    letter ≠ '[' ∧ letter ≠ 'L' := by
  constructor
  · rintro rfl
    simp [primitive?] at h
  · rintro rfl
    simp [primitive?] at h

theorem readType_base {base baseName : List Char} (h : BaseToken base baseName) (whole : String)
    (k : Nat) (rest : List Char) :
    readType whole k (base ++ rest) = .ok (String.ofList (baseName ++ brackets k), rest) := by
  cases h with
  | @primitive letter name hname =>
      obtain ⟨hmark, hopen⟩ := primitive?_ne hname
      rw [List.singleton_append, readType.eq_def]
      split
      · next e => cases e
      · next e => exact absurd (List.cons.inj e).1 hmark
      · next e => exact absurd (List.cons.inj e).1 hopen
      · next e =>
        obtain ⟨rfl, rfl⟩ := List.cons.inj e
        rw [hname]
        simp
  | @reference text htext =>
      simp only [List.cons_append, List.append_assoc, List.nil_append, readType,
        dropWhile_ne_append htext, takeWhile_ne_append htext]

theorem readType_marks (whole : String) (k j : Nat) (cs : List Char) :
    readType whole k (List.replicate j '[' ++ cs) = readType whole (k + j) cs := by
  induction j generalizing k with
  | zero => rfl
  | succ j ih =>
      rw [List.replicate_succ, List.cons_append, readType, ih]
      congr 1
      omega

theorem fieldType_of_token {text name : String} (h : TypeToken text.toList name) :
    fieldType text = .ok name := by
  obtain ⟨k, base, baseName, hbase, htoken, rfl⟩ := h
  have hread := readType_base hbase text k []
  rw [List.append_nil] at hread
  rw [fieldType, htoken, readType_marks, Nat.zero_add, hread]

theorem exists_base_of_readType {whole : String} {k : Nat} {cs rest : List Char} {name : String}
    (h : readType whole k cs = .ok (name, rest)) :
    ∃ (j : Nat) (base baseName : List Char), BaseToken base baseName ∧
      cs = List.replicate j '[' ++ base ++ rest ∧
        name = String.ofList (baseName ++ brackets (k + j)) := by
  fun_induction readType whole k cs with
  | case1 => cases h
  | case2 k cs ih =>
      obtain ⟨j, base, baseName, hbase, rfl, rfl⟩ := ih h
      refine ⟨j + 1, base, baseName, hbase, by simp [List.replicate_succ], ?_⟩
      rw [Nat.add_assoc, Nat.add_comm 1 j]
  | case3 => cases h
  | case4 k cs x after hdrop =>
      cases h
      refine ⟨0, _, _, .reference notMem_takeWhile_ne, ?_, rfl⟩
      have hcs := eq_of_dropWhile_ne hdrop
      simpa using hcs
  | case5 k c cs _ _ name hname =>
      cases h
      refine ⟨0, _, _, .primitive hname, rfl, ?_⟩
      rw [String.ofList_append, String.ofList_toList]
      rfl
  | case6 => cases h

/-- **Reading a type takes a token off the front.** -/
theorem readType_eq_ok_iff {whole : String} {cs rest : List Char} {name : String} :
    readType whole 0 cs = .ok (name, rest) ↔
      ∃ token, TypeToken token name ∧ cs = token ++ rest := by
  constructor
  · intro h
    obtain ⟨k, base, baseName, hbase, hcs, hname⟩ := exists_base_of_readType h
    rw [Nat.zero_add] at hname
    exact ⟨_, ⟨k, base, baseName, hbase, rfl, hname⟩, hcs⟩
  · rintro ⟨_, ⟨k, base, baseName, hbase, rfl, rfl⟩, rfl⟩
    rw [List.append_assoc, readType_marks, Nat.zero_add, readType_base hbase]

theorem fieldType_eq_ok_iff {text name : String} :
    fieldType text = .ok name ↔ TypeToken text.toList name := by
  refine ⟨fun h => ?_, fieldType_of_token⟩
  unfold fieldType at h
  split at h
  · cases h
  · next hread =>
    cases h
    obtain ⟨token, htoken, htext⟩ := readType_eq_ok_iff.mp hread
    rwa [htext, List.append_nil]
  · cases h

namespace TypeToken

variable {token token' : List Char} {name name' : String}

theorem ne_nil (h : TypeToken token name) : token ≠ [] := by
  obtain ⟨k, base, baseName, hbase, rfl, -⟩ := h
  cases hbase <;> simp

/-- No text begins with two tokens. -/
theorem unique {rest rest' : List Char} (h : TypeToken token name) (h' : TypeToken token' name')
    (heq : token ++ rest = token' ++ rest') : token = token' ∧ name = name' ∧ rest = rest' := by
  have hread : readType "" 0 (token ++ rest) = .ok (name, rest) :=
    readType_eq_ok_iff.mpr ⟨token, h, rfl⟩
  have hread' : readType "" 0 (token ++ rest) = .ok (name', rest') :=
    readType_eq_ok_iff.mpr ⟨token', h', heq⟩
  obtain ⟨rfl, rfl⟩ := Prod.mk.inj (Except.ok.inj (hread.symm.trans hread'))
  exact ⟨List.append_cancel_right heq, rfl, rfl⟩

end TypeToken

/-! ## Reading parameters -/

theorem tokens_of_readParameters {whole : String} {stop : Nat} {cs rest : List Char}
    {names : List String} (h : readParameters whole stop cs = .ok (names, rest)) :
    ∃ tokens, List.Forall₂ TypeToken tokens names ∧ cs = tokens.flatten ++ rest := by
  fun_induction readParameters whole stop cs generalizing names rest with
  | case1 cs _ =>
      cases h
      exact ⟨[], .nil, rfl⟩
  | case2 => cases h
  | case3 => cases h
  | case4 cs _ name behind hread _ names' rest' _ ih =>
      cases h
      obtain ⟨token, htoken, rfl⟩ := readType_eq_ok_iff.mp hread
      obtain ⟨tokens, htokens, rfl⟩ := ih ‹_›
      exact ⟨token :: tokens, .cons htoken htokens, by simp⟩

theorem readParameters_tokens {tokens : List (List Char)} {names : List String}
    (h : List.Forall₂ TypeToken tokens names) (whole : String) (rest : List Char) :
    readParameters whole rest.length (tokens.flatten ++ rest) = .ok (names, rest) := by
  induction h with
  | nil =>
      rw [readParameters]
      simp
  | @cons token name tokens names htoken _ ih =>
      have hread : readType whole 0 (token ++ (tokens.flatten ++ rest)) =
          .ok (name, tokens.flatten ++ rest) := readType_eq_ok_iff.mpr ⟨token, htoken, rfl⟩
      have hpos : 0 < token.length := List.length_pos_iff.mpr htoken.ne_nil
      rw [List.flatten_cons, List.append_assoc, readParameters, if_neg (by simp; omega)]
      split
      · next heq =>
        rw [hread] at heq
        cases heq
      · next heq =>
        rw [hread] at heq
        cases heq
        rw [ih]

/-- A text is a run of tokens in one way only. -/
theorem tokens_unique {tokens tokens' : List (List Char)} {names names' : List String}
    (h : List.Forall₂ TypeToken tokens names) (h' : List.Forall₂ TypeToken tokens' names')
    (heq : tokens.flatten = tokens'.flatten) : tokens = tokens' ∧ names = names' := by
  induction h generalizing tokens' names' with
  | nil =>
      cases h' with
      | nil => exact ⟨rfl, rfl⟩
      | cons htoken _ => simp [htoken.ne_nil] at heq
  | cons htoken _ ih =>
      cases h' with
      | nil => simp [htoken.ne_nil] at heq
      | cons htoken' htokens' =>
          rw [List.flatten_cons, List.flatten_cons] at heq
          obtain ⟨rfl, rfl, hrest⟩ := htoken.unique htoken' heq
          obtain ⟨rfl, rfl⟩ := ih htokens' hrest
          exact ⟨rfl, rfl⟩

/-! ## Method descriptors -/

/-- The text is a parenthesised run of tokens, none of which holds a closing parenthesis, and one
more token behind it; with the names that the tokens stand for. -/
structure MethodTokens (text : List Char) (tokens : List (List Char)) (result : List Char)
    (names : List String) (resultName : String) : Prop where
  text_eq : text = '(' :: (tokens.flatten ++ ')' :: result)
  parameters : List.Forall₂ TypeToken tokens names
  closed : ∀ token ∈ tokens, ')' ∉ token
  returns : TypeToken result resultName

namespace MethodTokens

variable {text result result' : List Char} {tokens tokens' : List (List Char)}
  {names names' : List String} {resultName resultName' : String}

theorem notMem_flatten (h : MethodTokens text tokens result names resultName) :
    ')' ∉ tokens.flatten := by
  intro hmem
  obtain ⟨token, htoken, hclose⟩ := List.mem_flatten.mp hmem
  exact h.closed token htoken hclose

theorem unique (h : MethodTokens text tokens result names resultName)
    (h' : MethodTokens text tokens' result' names' resultName') :
    tokens = tokens' ∧ result = result' ∧ names = names' ∧ resultName = resultName' := by
  have heq := (List.cons.inj (h.text_eq.symm.trans h'.text_eq)).2
  -- both runs end at the first closing parenthesis
  have hflatten := congrArg (List.takeWhile (· ≠ ')')) heq
  rw [takeWhile_ne_append h.notMem_flatten, takeWhile_ne_append h'.notMem_flatten] at hflatten
  obtain ⟨rfl, rfl⟩ := tokens_unique h.parameters h'.parameters hflatten
  obtain rfl : result = result' := by simpa using heq
  obtain ⟨-, rfl, -⟩ := h.returns.unique h'.returns (show result ++ [] = result ++ [] from rfl)
  exact ⟨rfl, rfl, rfl, rfl⟩

end MethodTokens

/-- What decoding does when the first closing parenthesis is known. -/
theorem methodTypes_split_iff {text : String} {body result : List Char} {names : List String}
    {resultName : String} (htext : text.toList = '(' :: (body ++ ')' :: result))
    (hbody : ')' ∉ body) :
    methodTypes text = .ok (names, resultName) ↔
      (∃ rest, readParameters text (result.length + 1) (body ++ ')' :: result) =
        .ok (names, rest) ∧ rest.length = result.length + 1) ∧
      fieldType (String.ofList result) = .ok resultName := by
  unfold methodTypes
  rw [htext]
  simp only [dropWhile_ne_append hbody, List.length_cons]
  cases readParameters text (result.length + 1) (body ++ ')' :: result) with
  | error fault => simp [bind, Except.bind]
  | ok read =>
      obtain ⟨names', rest⟩ := read
      by_cases hlength : rest.length = result.length + 1
      · cases fieldType (String.ofList result) with
        | error fault => simp [bind, Except.bind, hlength]
        | ok name => simp [bind, Except.bind, pure, Except.pure, hlength]
      · simp [bind, Except.bind, hlength]

theorem exists_split_of_methodTypes {text : String} {types : List String × String}
    (h : methodTypes text = .ok types) :
    ∃ body result, text.toList = '(' :: (body ++ ')' :: result) ∧ ')' ∉ body := by
  unfold methodTypes at h
  split at h
  · next body htext =>
    split at h
    · cases h
    · next result hdrop =>
      exact ⟨_, result, by rw [htext, ← eq_of_dropWhile_ne hdrop], notMem_takeWhile_ne⟩
  · cases h

theorem methodTypes_eq_ok_iff {text : String} {names : List String} {resultName : String} :
    methodTypes text = .ok (names, resultName) ↔
      ∃ tokens result, MethodTokens text.toList tokens result names resultName := by
  constructor
  · intro h
    obtain ⟨body, result, htext, hbody⟩ := exists_split_of_methodTypes h
    obtain ⟨⟨rest, hread, hlength⟩, hresult⟩ := (methodTypes_split_iff htext hbody).mp h
    obtain ⟨tokens, htokens, hsplit⟩ := tokens_of_readParameters hread
    -- the last parameter ends where the parenthesis was found
    obtain ⟨rfl, rfl⟩ := List.append_inj' hsplit hlength.symm
    refine ⟨tokens, result, htext, htokens, fun token htoken hclose => ?_, ?_⟩
    · exact hbody (List.mem_flatten.mpr ⟨token, htoken, hclose⟩)
    · rwa [fieldType_eq_ok_iff, String.toList_ofList] at hresult
  · rintro ⟨tokens, result, h⟩
    refine (methodTypes_split_iff h.text_eq h.notMem_flatten).mpr ⟨⟨')' :: result, ?_, rfl⟩, ?_⟩
    · exact readParameters_tokens h.parameters text (')' :: result)
    · rw [fieldType_eq_ok_iff, String.toList_ofList]
      exact h.returns

/-! ## The grammar -/

/-- The letters of the primitive types and of `void`, with the names that they stand for. -/
def primitives : List (Char × String) :=
  [('B', "byte"), ('C', "char"), ('D', "double"), ('F', "float"), ('I', "int"), ('J', "long"),
    ('S', "short"), ('Z', "boolean"), ('V', "void")]

theorem primitive?_eq_some_iff {letter : Char} {name : String} :
    primitive? letter = some name ↔ (letter, name) ∈ primitives := by
  constructor
  · intro h
    unfold primitive? at h
    split at h <;> simp_all [primitives]
  · intro h
    have hall : ∀ e ∈ primitives, primitive? e.1 = some e.2 := by decide
    exact hall _ h

theorem exists_error_iff {ε α : Type} {x : Except ε α} :
    (∃ fault, x = .error fault) ↔ ∀ a, x ≠ .ok a := by
  cases x <;> simp

/-- **Descriptors are decoded by their grammar.** A field descriptor is accepted exactly if it is a
type token, and a method descriptor exactly if it is a run of tokens between parentheses and a token
behind them, the first closing parenthesis being the one that ends the run; both with the names of
their tokens. A method descriptor is such a run in one way only. Everything else is refused. The base
of a token is one of nine letters or a class name. -/
theorem descriptors_follow_grammar (text : String) :
    (∀ name, fieldType text = .ok name ↔ TypeToken text.toList name) ∧
      ((∃ fault, fieldType text = .error fault) ↔ ∀ name, ¬ TypeToken text.toList name) ∧
      (∀ names resultName, methodTypes text = .ok (names, resultName) ↔
        ∃ tokens result, MethodTokens text.toList tokens result names resultName) ∧
      (∀ tokens result names resultName tokens' result' names' resultName',
        MethodTokens text.toList tokens result names resultName →
        MethodTokens text.toList tokens' result' names' resultName' →
          tokens = tokens' ∧ result = result' ∧ names = names' ∧ resultName = resultName') ∧
      ((∃ fault, methodTypes text = .error fault) ↔
        ∀ tokens result names resultName,
          ¬ MethodTokens text.toList tokens result names resultName) ∧
      (∀ letter name, primitive? letter = some name ↔ (letter, name) ∈ primitives) := by
  refine ⟨fun name => fieldType_eq_ok_iff, ?_, fun names resultName => methodTypes_eq_ok_iff,
    fun _ _ _ _ _ _ _ _ h h' => h.unique h', ?_, fun letter name => primitive?_eq_some_iff⟩
  · rw [exists_error_iff]
    exact forall_congr' fun name => not_congr fieldType_eq_ok_iff
  · rw [exists_error_iff]
    constructor
    · intro h tokens result names resultName htokens
      exact h (names, resultName) (methodTypes_eq_ok_iff.mpr ⟨tokens, result, htokens⟩)
    · rintro h ⟨names, resultName⟩ hok
      obtain ⟨tokens, result, htokens⟩ := methodTypes_eq_ok_iff.mp hok
      exact h tokens result names resultName htokens

theorem sampleMethod_tokens : MethodTokens "([[ILa/b;)[J".toList
    [['[', '[', 'I'], ['L', 'a', '/', 'b', ';']] ['[', 'J'] ["int[][]", "a.b"] "long[]" where
  text_eq := by decide
  parameters := .cons ⟨2, _, _, .primitive rfl, rfl, by decide⟩
    (.cons ⟨0, _, _, @BaseToken.reference ['a', '/', 'b'] (by decide), rfl, by decide⟩ .nil)
  closed := by decide
  returns := ⟨1, _, _, .primitive rfl, rfl, by decide⟩

theorem descriptors_follow_grammar_sample :
    MethodTokens "([[ILa/b;)[J".toList [['[', '[', 'I'], ['L', 'a', '/', 'b', ';']] ['[', 'J']
        ["int[][]", "a.b"] "long[]" ∧
      methodTypes "([[ILa/b;)[J" = .ok (["int[][]", "a.b"], "long[]") := by
  obtain ⟨-, -, hmethod, -⟩ := descriptors_follow_grammar "([[ILa/b;)[J"
  exact ⟨sampleMethod_tokens, (hmethod _ _).mpr ⟨_, _, sampleMethod_tokens⟩⟩

-- the class name holds the first closing parenthesis
example : methodTypes "(La)b;)V" = .error (.malformedParameters "(La)b;)V") := by cbv

end ClassAtlas.ClassFile.Descriptor
