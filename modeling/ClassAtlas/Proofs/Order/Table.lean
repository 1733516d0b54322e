import Mathlib.Data.List.Nodup
import ClassAtlas.Order.Table

/-!
# Filling a table

`firsts` keeps of each key the first pair, in the order of the pairs. Filling a
table by `insertIfNew` keeps exactly these. Filling it by `insert` keeps the
same keys in the same places, each with its last value: `Settles`.
-/

namespace ClassAtlas.Table

variable {κ ν : Type}

theorem ext_entries {s t : Table κ ν} (h : s.entries = t.entries) : s = t := by
  cases s
  cases t
  cases h
  rfl

variable [DecidableEq κ]

/-- Of the pairs with one key, the first. -/
def firsts : List (κ × ν) → List (κ × ν)
  | [] => []
  | e :: rest => e :: (firsts rest).filter fun e' => e'.1 ≠ e.1

theorem contains_iff {t : Table κ ν} {k : κ} : t.contains k = true ↔ k ∈ t.entries.map Prod.fst := by
  simp [contains, get?, Option.isSome_map, List.find?_isSome]

theorem mem_keys_iff {t : Table κ ν} {k : κ} : k ∈ t.keys ↔ ∃ v, t.get? k = some v := by
  rw [← Option.isSome_iff_exists]
  exact contains_iff.symm

theorem write_of_notMem {k : κ} {v : ν} {es : List (κ × ν)} (h : k ∉ es.map Prod.fst) :
    write k v es = es ++ [(k, v)] := by
  induction es with
  | nil => rfl
  | cons e rest ih =>
      rw [List.map_cons, List.mem_cons, not_or] at h
      rw [write, if_neg (Ne.symm h.1), ih h.2, List.cons_append]

theorem insertIfNew_of_mem {t : Table κ ν} {k : κ} (v : ν) (h : k ∈ t.entries.map Prod.fst) :
    t.insertIfNew k v = t := by
  rw [insertIfNew, if_pos (contains_iff.mpr h)]

theorem entries_insertIfNew_of_notMem {t : Table κ ν} {k : κ} (v : ν)
    (h : k ∉ t.entries.map Prod.fst) : (t.insertIfNew k v).entries = t.entries ++ [(k, v)] := by
  rw [insertIfNew, if_neg (fun hc => h (contains_iff.mp hc))]
  exact write_of_notMem h

/-- A table that is there already keeps its entries, and takes from the new pairs the first of each
key that it does not have. -/
theorem entries_foldl_insertIfNew (es : List (κ × ν)) (t : Table κ ν) :
    (es.foldl (fun t e => t.insertIfNew e.1 e.2) t).entries =
      t.entries ++ (firsts es).filter fun e => e.1 ∉ t.entries.map Prod.fst := by
  induction es generalizing t with
  | nil => simp [firsts]
  | cons e rest ih =>
      rw [List.foldl_cons, ih, firsts, List.filter_cons, List.filter_filter]
      by_cases hmem : e.1 ∈ t.entries.map Prod.fst
      · rw [insertIfNew_of_mem e.2 hmem, if_neg (by simpa using hmem)]
        congr 1
        apply List.filter_congr
        intro e' _
        by_cases heq : e'.1 = e.1
        · simp [heq, hmem]
        · simp [heq]
      · rw [entries_insertIfNew_of_notMem e.2 hmem, if_pos (by simpa using hmem), List.append_assoc,
          List.singleton_append]
        congr 2
        apply List.filter_congr
        intro e' _
        have hkeys : e'.1 ∈ (t.entries ++ [(e.1, e.2)]).map Prod.fst ↔
            e'.1 ∈ t.entries.map Prod.fst ∨ e'.1 = e.1 := by
          rw [List.map_append, List.mem_append, List.map_singleton, List.mem_singleton]
        simp only [hkeys, not_or, Bool.decide_and]

theorem entries_foldl_insertIfNew_empty (es : List (κ × ν)) :
    (es.foldl (fun t e => t.insertIfNew e.1 e.2) (∅ : Table κ ν)).entries = firsts es := by
  rw [entries_foldl_insertIfNew]
  exact List.filter_eq_self.mpr fun _ _ => rfl

/-! ## Tables filled so that the last value stays -/

theorem map_fst_write_of_mem {k : κ} {v : ν} {es : List (κ × ν)} (h : k ∈ es.map Prod.fst) :
    (write k v es).map Prod.fst = es.map Prod.fst := by
  induction es with
  | nil => cases h
  | cons e rest ih =>
      by_cases he : e.1 = k
      · rw [write, if_pos he, List.map_cons, List.map_cons, he]
      · rw [write, if_neg he, List.map_cons, List.map_cons,
          ih ((List.mem_cons.mp h).resolve_left (Ne.symm he))]

/-- Writing a key and adding it where it is new give the same keys. -/
theorem keys_insert_eq {t t' : Table κ ν} (h : t.keys = t'.keys) (k : κ) (v : ν) :
    (t.insert k v).keys = (t'.insertIfNew k v).keys := by
  by_cases hmem : k ∈ t.keys
  · rw [insertIfNew_of_mem v (show k ∈ t'.keys from h ▸ hmem), ← h]
    exact map_fst_write_of_mem hmem
  · show (write k v t.entries).map Prod.fst = (t'.insertIfNew k v).entries.map Prod.fst
    rw [entries_insertIfNew_of_notMem v (show k ∉ t'.keys from h ▸ hmem), write_of_notMem hmem,
      List.map_append, List.map_append]
    exact congrArg (· ++ [k]) h

theorem keys_foldl_insert {t t' : Table κ ν} (h : t.keys = t'.keys) (es : List (κ × ν)) :
    (es.foldl (fun t e => t.insert e.1 e.2) t).keys =
      (es.foldl (fun t e => t.insertIfNew e.1 e.2) t').keys := by
  induction es generalizing t t' with
  | nil => exact h
  | cons e rest ih => exact ih (keys_insert_eq h e.1 e.2)

theorem find?_write (k j : κ) (v : ν) (es : List (κ × ν)) :
    ((write k v es).find? fun e => e.1 = j).map Prod.snd =
      if k = j then some v else (es.find? fun e => e.1 = j).map Prod.snd := by
  induction es with
  | nil => by_cases hj : k = j <;> simp [write, hj]
  | cons e rest ih =>
      by_cases he : e.1 = k
      · by_cases hj : k = j <;> simp [write, he, hj]
      · by_cases hj : e.1 = j
        · have hkj : k ≠ j := fun h => he (hj.trans h.symm)
          rw [write, if_neg he, if_neg hkj, List.find?_cons_of_pos (by simpa using hj),
            List.find?_cons_of_pos (by simpa using hj)]
        · rw [write, if_neg he, List.find?_cons_of_neg (by simpa using hj), ih,
            List.find?_cons_of_neg (by simpa using hj)]

theorem get?_insert (t : Table κ ν) (k j : κ) (v : ν) :
    (t.insert k v).get? j = if k = j then some v else t.get? j :=
  find?_write k j v t.entries

theorem get?_foldl_insert (es : List (κ × ν)) (t : Table κ ν) (k : κ) :
    (es.foldl (fun t e => t.insert e.1 e.2) t).get? k =
      ((es.reverse.find? fun e => e.1 = k).map Prod.snd).or (t.get? k) := by
  induction es generalizing t with
  | nil => rfl
  | cons e rest ih =>
      rw [List.foldl_cons, ih, get?_insert, List.reverse_cons, List.find?_append]
      cases rest.reverse.find? fun e => e.1 = k with
      | some last => rfl
      | none => by_cases hk : e.1 = k <;> simp [hk]

/-- The table has each key of the pairs at the place of its first pair, with the value of its
last. -/
structure Settles (pairs : List (κ × ν)) (t : Table κ ν) : Prop where
  keys : t.keys = (firsts pairs).map Prod.fst
  value : ∀ k, t.get? k = (pairs.reverse.find? fun e => e.1 = k).map Prod.snd

theorem settles_ofList (pairs : List (κ × ν)) : Settles pairs (ofList pairs) where
  keys := by
    have hempty : (∅ : Table κ ν).keys = (∅ : Table κ ν).keys := rfl
    refine (keys_foldl_insert hempty pairs).trans ?_
    exact congrArg (List.map Prod.fst) (entries_foldl_insertIfNew_empty pairs)
  value := by
    intro k
    rw [ofList, get?_foldl_insert]
    exact Option.or_none

theorem mem_of_get?_ofList {pairs : List (κ × ν)} {k : κ} {v : ν}
    (h : (ofList pairs).get? k = some v) : (k, v) ∈ pairs := by
  rw [(settles_ofList pairs).value] at h
  obtain ⟨e, he, rfl⟩ := Option.map_eq_some_iff.mp h
  have hkey : e.1 = k := by simpa using List.find?_some he
  rw [← hkey]
  exact List.mem_reverse.mp (List.mem_of_find?_eq_some he)

/-- Pairs with different keys become the entries as they are. -/
theorem entries_ofList {pairs : List (κ × ν)} (h : (pairs.map Prod.fst).Nodup) :
    (ofList pairs).entries = pairs := by
  suffices hfill : ∀ t : Table κ ν, (∀ e ∈ pairs, e.1 ∉ t.entries.map Prod.fst) →
      (pairs.foldl (fun t e => t.insert e.1 e.2) t).entries = t.entries ++ pairs from
    hfill ∅ fun _ _ => List.not_mem_nil
  induction pairs with
  | nil => simp
  | cons e rest ih =>
      intro t hnew
      rw [List.map_cons, List.nodup_cons] at h
      have hentries : (t.insert e.1 e.2).entries = t.entries ++ [e] :=
        write_of_notMem (hnew e List.mem_cons_self)
      rw [List.foldl_cons, ih h.2, hentries, List.append_assoc, List.singleton_append]
      intro e' he'
      rw [hentries, List.map_append, List.mem_append, not_or]
      refine ⟨hnew e' (List.mem_cons_of_mem e he'), fun heq => h.1 ?_⟩
      rw [← List.mem_singleton.mp heq]
      exact List.mem_map_of_mem he'

/-- Where at most one element of a list fits, its place does not matter. -/
theorem find?_eq_of_perm {α : Type} {p : α → Bool} {xs ys : List α} (h : xs.Perm ys)
    (hunique : ∀ a ∈ xs, ∀ b ∈ xs, p a = true → p b = true → a = b) :
    xs.find? p = ys.find? p := by
  cases hx : xs.find? p with
  | none =>
      symm
      rw [List.find?_eq_none] at hx ⊢
      exact fun y hy => hx y (h.mem_iff.mpr hy)
  | some x =>
      have hmem := List.mem_of_find?_eq_some hx
      have hp := List.find?_some hx
      cases hy : ys.find? p with
      | none => exact absurd hp (List.find?_eq_none.mp hy x (h.mem_iff.mp hmem))
      | some y =>
          have hmem' := h.mem_iff.mpr (List.mem_of_find?_eq_some hy)
          rw [hunique x hmem y hmem' hp (List.find?_some hy)]

/-- Looking for a key finds the same pair among all pairs and among the first ones. -/
theorem find?_firsts (es : List (κ × ν)) (k : κ) :
    ((firsts es).find? fun e => e.1 = k) = es.find? fun e => e.1 = k := by
  induction es with
  | nil => rfl
  | cons e rest ih =>
      rw [firsts]
      by_cases he : e.1 = k
      · rw [List.find?_cons_of_pos (by simpa using he), List.find?_cons_of_pos (by simpa using he)]
      · rw [List.find?_cons_of_neg (by simpa using he), List.find?_cons_of_neg (by simpa using he),
          List.find?_filter, ← ih]
        congr 1
        funext e'
        by_cases he' : e'.1 = k
        · simp [he', Ne.symm he]
        · simp [he']

theorem get?_foldl_insertIfNew_empty (es : List (κ × ν)) (k : κ) :
    (es.foldl (fun t e => t.insertIfNew e.1 e.2) (∅ : Table κ ν)).get? k =
      (es.find? fun e => e.1 = k).map Prod.snd := by
  rw [get?, entries_foldl_insertIfNew_empty, find?_firsts]

theorem find?_of_mem {es : List (κ × ν)} (hnodup : (es.map Prod.fst).Nodup) {e : κ × ν}
    (h : e ∈ es) : (es.find? fun e' => e'.1 = e.1) = some e := by
  induction es with
  | nil => cases h
  | cons e' rest ih =>
      rw [List.map_cons, List.nodup_cons] at hnodup
      rcases List.mem_cons.mp h with rfl | hrest
      · exact List.find?_cons_of_pos (by simp)
      · have hne : e'.1 ≠ e.1 := fun heq => hnodup.1 (heq ▸ List.mem_map_of_mem hrest)
        rw [List.find?_cons_of_neg (by simpa using hne), ih hnodup.2 hrest]

theorem get?_of_mem {t : Table κ ν} {e : κ × ν} (h : e ∈ t.entries) : t.get? e.1 = some e.2 := by
  rw [get?, find?_of_mem t.nodup h, Option.map_some]

theorem lookup_eq_find? (es : List (κ × ν)) (k : κ) :
    List.lookup k es = (es.find? fun e => e.1 = k).map Prod.snd := by
  induction es with
  | nil => rfl
  | cons e rest ih =>
      obtain ⟨k', v⟩ := e
      by_cases hk : k' = k
      · simp [hk]
      · have hne : (k == k') = false := beq_false_of_ne (Ne.symm hk)
        simp [List.lookup_cons, hne, hk, ih]

/-- The entries in another order are looked up at the same values. -/
theorem lookup_of_perm {t : Table κ ν} {es : List (κ × ν)} (h : es.Perm t.entries) (k : κ) :
    List.lookup k es = t.get? k := by
  rw [lookup_eq_find?, get?, find?_eq_of_perm h]
  have hnodup := (h.map Prod.fst).nodup_iff.mpr t.nodup
  intro a ha b hb hka hkb
  refine List.inj_on_of_nodup_map hnodup ha hb ?_
  simp only [decide_eq_true_eq] at hka hkb
  rw [hka, hkb]

theorem entries_eq_filterMap (t : Table κ ν) :
    t.entries = t.keys.filterMap fun k => (t.get? k).map (Prod.mk k) := by
  rw [keys, List.filterMap_map]
  have hsome : ∀ e ∈ t.entries, ((fun k => (t.get? k).map (Prod.mk k)) ∘ Prod.fst) e = some e := by
    intro e he
    simp [get?_of_mem he]
  rw [List.filterMap_congr hsome, List.filterMap_some]

/-- Tables with the same keys in the same order and the same value at each key are one table. -/
theorem ext_get? {t t' : Table κ ν} (hkeys : t.keys = t'.keys) (h : ∀ k, t.get? k = t'.get? k) :
    t = t' := by
  apply ext_entries
  rw [entries_eq_filterMap, entries_eq_filterMap t', hkeys, funext h]

theorem Settles.eq_ofList {pairs : List (κ × ν)} {t : Table κ ν} (h : Settles pairs t) :
    t = ofList pairs :=
  ext_get? (h.keys.trans (settles_ofList pairs).keys.symm) fun k =>
    (h.value k).trans ((settles_ofList pairs).value k).symm

end ClassAtlas.Table
