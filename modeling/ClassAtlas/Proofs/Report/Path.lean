import ClassAtlas.Graph.Call
import ClassAtlas.Report.Sections

/-!
# Reading a document along a path

A path leads from a document to texts inside it. A step that does not fit, such
as a field that is not there, makes the whole path fail, so that a path that
reads nothing is told from one that reads no texts.
-/

namespace ClassAtlas.Document

/-- One step into a document. -/
inductive Step where
  /-- To a field of an object. -/
  | field (name : String)
  /-- To an item of a list, by its place. -/
  | item (i : Nat)
  /-- To every item of a list. -/
  | each
  /-- To the name of every field of an object. -/
  | keys
  /-- To every field of an object. -/
  | values
  deriving DecidableEq, Repr

abbrev Path := List Step

/-- The texts at the end of a path, in order. -/
def texts? : Path → Document → Option (List String)
  | [], .text s => some [s]
  | .field name :: path, .object fields => (fields.lookup name).bind (texts? path)
  | .item i :: path, .list items => items[i]?.bind (texts? path)
  | .each :: path, .list items => (items.mapM (texts? path)).map List.flatten
  | .keys :: path, .object fields =>
    (fields.mapM fun e => texts? path (.text e.1)).map List.flatten
  | .values :: path, .object fields => (fields.mapM fun e => texts? path e.2).map List.flatten
  | _, _ => none

variable {path : Path}

@[simp] theorem texts?_nil (s : String) : texts? [] (.text s) = some [s] := rfl

@[simp] theorem texts?_field_cons (name key : String) (d : Document)
    (rest : List (String × Document)) :
    texts? (.field name :: path) (.object ((key, d) :: rest)) =
      if name = key then texts? path d else texts? (.field name :: path) (.object rest) := by
  by_cases h : name = key
  · subst h
    simp [texts?]
  · have hbeq : (name == key) = false := by simpa using h
    simp [texts?, List.lookup_cons, hbeq, h]

@[simp] theorem texts?_item_map {α : Type} (f : α → Document) (xs : List α) (i : Nat) :
    texts? (.item i :: path) (.list (xs.map f)) = xs[i]?.bind fun x => texts? path (f x) := by
  rw [texts?, List.getElem?_map]
  cases xs[i]? <;> rfl

@[simp] theorem texts?_each_map {α : Type} (f : α → Document) (xs : List α) :
    texts? (.each :: path) (.list (xs.map f)) =
      (xs.mapM fun x => texts? path (f x)).map List.flatten := by
  rw [texts?, List.mapM_map]
  rfl

@[simp] theorem flatten_mapM_some {α : Type} (g : α → List String) (xs : List α) :
    (xs.mapM fun x => some (g x)).map List.flatten = some (xs.flatMap g) := by
  show (xs.mapM (m := Option) fun x => pure (g x)).map List.flatten = _
  rw [List.mapM_pure, List.flatMap_def]
  rfl

@[simp high] theorem flatten_mapM_singleton {α : Type} (g : α → String) (xs : List α) :
    (xs.mapM fun x => some [g x]).map List.flatten = some (xs.map g) := by
  rw [flatten_mapM_some, List.map_eq_flatMap]

@[simp] theorem flatten_mapM_id (xs : List (List String)) :
    (xs.mapM fun x => some x).map List.flatten = some xs.flatten := by
  rw [flatten_mapM_some fun x => x, List.flatMap_id']

@[simp] theorem texts?_texts (xs : List String) : texts? [.each] (.texts xs) = some xs := by
  simp [Document.texts]

@[simp] theorem texts?_keys (fields : List (String × Document)) :
    texts? [.keys] (.object fields) = some (fields.map Prod.fst) := by
  simp [texts?, List.map_eq_flatMap]

@[simp] theorem texts?_keys_textTable (entries : List (String × List String)) :
    texts? [.keys] (Report.textTable entries) = some (entries.map Prod.fst) := by
  rw [Report.textTable, texts?_keys, List.map_map]
  rfl

@[simp] theorem texts?_values_textTable (entries : List (String × List String)) :
    texts? [.values, .each] (Report.textTable entries) = some (entries.flatMap Prod.snd) := by
  rw [Report.textTable, texts?, List.mapM_map]
  simp [Function.comp_def]

/-- The texts under one key of a table, which is what its neighbours are. -/
theorem texts?_field_textTable {entries : Graph.Neighbours} {key x : String}
    (h : x ∈ entries.of key) :
    texts? [.field key, .each] (Report.textTable entries) = some (entries.of key) := by
  induction entries with
  | nil => cases h
  | cons e rest ih =>
      rw [Report.textTable, List.map_cons, texts?_field_cons]
      by_cases hkey : key = e.1
      · have hof : Graph.Neighbours.of (e :: rest) key = e.2 := by
          rw [Graph.Neighbours.of, List.find?_cons_of_pos (by simp [hkey])]
          rfl
        rw [if_pos hkey, hof, texts?_texts]
      · have hof : Graph.Neighbours.of (e :: rest) key = Graph.Neighbours.of rest key := by
          rw [Graph.Neighbours.of, List.find?_cons_of_neg (by simpa using Ne.symm hkey)]
          rfl
        rw [hof] at h ⊢
        rw [if_neg hkey]
        exact ih h

end ClassAtlas.Document
