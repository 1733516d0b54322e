/-!
# Tables in order of first insertion

A `Table` maps each key to one value and remembers the order in which the keys
first came. Writing to a key that is already there keeps its place. Every table
that reaches a report is one of these, so the order of a report is the order of
the data and never an accident.
-/

namespace ClassAtlas

/-- Entries with pairwise different keys, oldest key first. -/
structure Table (κ ν : Type) where
  entries : List (κ × ν)
  nodup : (entries.map Prod.fst).Nodup

namespace Table

variable {κ ν : Type}

/-- The table without entries. -/
def empty : Table κ ν := ⟨[], List.nodup_nil⟩

instance : EmptyCollection (Table κ ν) := ⟨empty⟩

instance : Inhabited (Table κ ν) := ⟨empty⟩

/-- The keys, oldest first. -/
def keys (t : Table κ ν) : List κ := t.entries.map Prod.fst

/-- The number of keys. -/
def size (t : Table κ ν) : Nat := t.entries.length

/-- Changes every value and no key. -/
def map {μ : Type} (f : ν → μ) (t : Table κ ν) : Table κ μ :=
  ⟨t.entries.map fun e => (e.1, f e.2), by
    simpa [List.map_map, Function.comp_def] using t.nodup⟩

variable [DecidableEq κ]

/-- The value at a key. -/
def get? (t : Table κ ν) (k : κ) : Option ν :=
  (t.entries.find? fun e => e.1 = k).map Prod.snd

/-- Whether there is a value at a key. -/
def contains (t : Table κ ν) (k : κ) : Bool := (t.get? k).isSome

/-- The entries after writing `v` at `k`: in place if `k` is there, else at the end. -/
def write (k : κ) (v : ν) : List (κ × ν) → List (κ × ν)
  | [] => [(k, v)]
  | e :: rest => if e.1 = k then (k, v) :: rest else e :: write k v rest

theorem mem_map_fst_write {k x : κ} {v : ν} {es : List (κ × ν)} :
    x ∈ (write k v es).map Prod.fst ↔ x = k ∨ x ∈ es.map Prod.fst := by
  induction es with
  | nil => simp [write]
  | cons e rest ih =>
    by_cases h : e.1 = k
    · simp [write, h]
    · rw [write, if_neg h, List.map_cons, List.mem_cons, ih, List.map_cons, List.mem_cons]
      exact or_left_comm

theorem nodup_write {k : κ} {v : ν} {es : List (κ × ν)} (h : (es.map Prod.fst).Nodup) :
    ((write k v es).map Prod.fst).Nodup := by
  induction es with
  | nil => simp [write]
  | cons e rest ih =>
    rw [List.map_cons, List.nodup_cons] at h
    by_cases he : e.1 = k
    · rw [write, if_pos he, List.map_cons, List.nodup_cons]
      exact ⟨he ▸ h.1, h.2⟩
    · rw [write, if_neg he, List.map_cons, List.nodup_cons]
      refine ⟨fun hm => ?_, ih h.2⟩
      exact (mem_map_fst_write.1 hm).elim he h.1

/-- Writes `v` at `k`. A key that is there keeps its place and takes the new value. -/
def insert (t : Table κ ν) (k : κ) (v : ν) : Table κ ν :=
  ⟨write k v t.entries, nodup_write t.nodup⟩

/-- Writes `v` at `k` only if `k` is not there: the first value stays. -/
def insertIfNew (t : Table κ ν) (k : κ) (v : ν) : Table κ ν :=
  if t.contains k then t else t.insert k v

/-- Applies `f` to the value at `k`, starting from `init` for a new key. -/
def update (t : Table κ ν) (k : κ) (init : ν) (f : ν → ν) : Table κ ν :=
  t.insert k (f ((t.get? k).getD init))

/-- Later pairs win, earlier places stay. -/
def ofList (es : List (κ × ν)) : Table κ ν :=
  es.foldl (fun t e => t.insert e.1 e.2) empty

/-- Groups the elements of a list by a key, groups in order of first appearance. -/
def groupBy {α : Type} (key : α → κ) (xs : List α) : Table κ (List α) :=
  xs.foldl (fun t x => t.update (key x) [] (· ++ [x])) empty

/-- How often each element occurs, in order of first appearance. -/
def counts (xs : List κ) : Table κ Nat :=
  xs.foldl (fun t x => t.update x 0 (· + 1)) empty

end Table

end ClassAtlas
