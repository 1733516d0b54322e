import ClassAtlas.Batch.Extraction

/-!
# Extraction whatever the order

An outcome is kept under the number of its record, so once every record is done
the slots hold what reading the records in turn gives. `Holds` is what an arrival
keeps up, and `Holds.foldl` what a run of arrivals comes to.
-/

namespace ClassAtlas.Batch

variable {includePrivate : Bool} {records : List LabelledRecord}

/-- The slots of the records that are done hold their outcomes, and the others are empty. -/
def Holds (includePrivate : Bool) (records : List LabelledRecord) (done : List Nat)
    (slots : List (Option Outcome)) : Prop :=
  ∀ i, slots[i]? = records[i]?.map fun r =>
    if i ∈ done then some (process includePrivate r) else none

theorem holds_replicate : Holds includePrivate records [] (List.replicate records.length none) := by
  intro i
  rw [List.getElem?_replicate]
  by_cases hi : i < records.length
  · rw [if_pos hi, List.getElem?_eq_getElem hi]
    simp
  · rw [if_neg hi, List.getElem?_eq_none (by omega)]
    rfl

/-- An arrival fills the slot of its record and no other. -/
theorem Holds.set {done : List Nat} {slots : List (Option Outcome)} {i : Nat} {r : LabelledRecord}
    (h : Holds includePrivate records done slots) (hr : records[i]? = some r) :
    Holds includePrivate records (done ++ [i]) (slots.set i (some (process includePrivate r))) := by
  intro j
  rw [List.getElem?_set]
  by_cases hij : i = j
  · subst hij
    have hslot := h i
    rw [hr, Option.map_some] at hslot
    have hlength : i < slots.length := List.getElem?_eq_some_iff.mp hslot |>.1
    simp [hlength, hr]
  · simp [hij, Ne.symm hij, h j]

/-- A number that no record has changes nothing. -/
theorem Holds.skip {done : List Nat} {slots : List (Option Outcome)} {i : Nat}
    (h : Holds includePrivate records done slots) (hr : records[i]? = none) :
    Holds includePrivate records (done ++ [i]) slots := by
  intro j
  rw [h j]
  by_cases hij : i = j
  · subst hij
    rw [hr]
    rfl
  · simp [Ne.symm hij]

theorem Holds.foldl {done order : List Nat} {slots : List (Option Outcome)}
    (h : Holds includePrivate records done slots) :
    Holds includePrivate records (done ++ order) ((arrivals includePrivate order records).foldl
      (fun slots (i, outcome) => slots.set i (some outcome)) slots) := by
  -- one arrival moves a number from `order` to `done`
  induction order generalizing done slots with
  | nil => simpa [arrivals] using h
  | cons i order ih =>
      rw [arrivals, List.filterMap_cons, List.append_cons]
      cases hr : records[i]? with
      | none => exact ih (h.skip hr)
      | some r => exact ih (h.set hr)

/-- When all are done the slots are the outcomes of the records in their order. -/
theorem Holds.eq_map {done : List Nat} {slots : List (Option Outcome)}
    (h : Holds includePrivate records done slots) (hall : ∀ i < records.length, i ∈ done) :
    slots = (records.map (process includePrivate)).map some := by
  refine List.ext_getElem? fun i => ?_
  rw [h i, List.getElem?_map, List.getElem?_map, Option.map_map]
  by_cases hi : i < records.length
  · simp [List.getElem?_eq_getElem hi, hall i hi]
  · simp [List.getElem?_eq_none (Nat.le_of_not_lt hi)]

/-- Arrivals of all records fill all slots. -/
theorem collect_arrivals {order : List Nat} (hall : ∀ i < records.length, i ∈ order) :
    collect records.length (arrivals includePrivate order records) =
      (records.map (process includePrivate)).map some := by
  have hholds : Holds includePrivate records ([] ++ order) _ := holds_replicate.foldl
  exact hholds.eq_map hall

/-- Records that are read at once and all done give what they give one after the other. -/
theorem extractAtOnce_of_all {order : List Nat} (hall : ∀ i < records.length, i ∈ order) :
    extractAtOnce includePrivate order records = .ok (records.map (process includePrivate)) := by
  have hmapM : ((records.map (process includePrivate)).map some).mapM id =
      some (records.map (process includePrivate)) := by
    rw [List.map_map, List.mapM_map]
    exact List.mapM_pure (m := Option) (f := process includePrivate)
  rw [extractAtOnce, collect_arrivals hall, hmapM]

theorem extractInTurn_of_all {inTime : Nat → Bool} (hall : ∀ i < records.length, inTime i = true) :
    extractInTurn includePrivate inTime records = .ok (records.map (process includePrivate)) := by
  have hfind : (List.range records.length).find? (fun i => !inTime i) = none := by
    simpa using hall
  rw [extractInTurn, hfind]

end ClassAtlas.Batch
