import Mathlib.Data.List.Chain
import Mathlib.Data.List.Nodup
import Mathlib.Data.List.Perm.Subperm
import ClassAtlas.Graph.Inheritance
import ClassAtlas.Proofs.Order.Table

/-!
# Superclass links and their loops

A link leads from a class to its superclass, if that is in the set. Links may run
in a loop. A loop is opened at one of its classes, and which one that is depends
on the order of the classes: the earliest class that leads into the loop enters
it somewhere, and the loop is opened right before it would come back to that
place.

A loop is given as a list, which may begin at any of its classes. Two loops that
share a class have the same classes, and a loop has one opening.
-/

namespace ClassAtlas.Graph.Inheritance

/-- `p` is the superclass of `c`, and both are in the set. -/
def Link (classes : Superclasses) (c p : String) : Prop :=
  classes.get? c = some (some p) ∧ p ∈ classes.keys

instance (classes : Superclasses) (c p : String) : Decidable (Link classes c p) :=
  inferInstanceAs (Decidable (classes.get? c = some (some p) ∧ p ∈ classes.keys))

/-- Classes each of which has the next one as its superclass, and the last one the first. -/
structure Loop (classes : Superclasses) (loop : List String) : Prop where
  nodup : loop.Nodup
  round : ∃ first rest, loop = first :: rest ∧ (loop ++ [first]).IsChain (Link classes)

/-- `f` is the first class of the loop on the way up from `c`. -/
inductive Enters (classes : Superclasses) (loop : List String) : String → String → Prop where
  | here {c : String} : c ∈ loop → Enters classes loop c c
  | above {c p f : String} : c ∉ loop → Link classes c p → Enters classes loop p f →
      Enters classes loop c f

/-- The loop is opened at `z`: the superclass of `z` is the first class of the loop that is met on
the way up from the earliest class that leads into the loop. -/
def Opens (classes : Superclasses) (loop : List String) (z : String) : Prop :=
  z ∈ loop ∧ ∃ before start behind f, classes.keys = before ++ start :: behind ∧
    (∀ c ∈ before, ∀ g, ¬ Enters classes loop c g) ∧ Enters classes loop start f ∧
    Link classes z f

section Links

variable {classes : Superclasses} {loop loop' : List String} {c c' p p' f g : String}

theorem Link.unique (h : Link classes c p) (h' : Link classes c p') : p = p' :=
  Option.some.inj (Option.some.inj (h.1.symm.trans h'.1))

theorem Link.mem_keys (h : Link classes c p) : c ∈ classes.keys :=
  Table.mem_keys_iff.mpr ⟨_, h.1⟩

namespace Loop

theorem exists_next (h : Loop classes loop) (hc : c ∈ loop) : ∃ p ∈ loop, Link classes c p := by
  obtain ⟨first, rest, hloop, hchain⟩ := h.round
  obtain ⟨before, behind, rfl⟩ := List.append_of_mem hc
  rw [List.append_assoc, List.cons_append] at hchain
  cases behind with
  | nil =>
      refine ⟨first, by rw [hloop]; exact List.mem_cons_self, ?_⟩
      exact (List.isChain_append_cons_cons.mp hchain).2.1
  | cons p behind => exact ⟨p, by simp, (List.isChain_append_cons_cons.mp hchain).2.1⟩

theorem exists_previous (h : Loop classes loop) (hp : p ∈ loop) : ∃ c ∈ loop, Link classes c p := by
  obtain ⟨first, rest, hloop, hchain⟩ := h.round
  obtain ⟨before, behind, hsplit⟩ := List.append_of_mem hp
  rcases List.eq_nil_or_concat' before with rfl | ⟨before, c, rfl⟩
  · -- the class before the first one is the last
    obtain rfl : first = p := (List.cons.inj (hloop.symm.trans hsplit)).1
    obtain ⟨front, last, hlast⟩ : ∃ front last, loop = front ++ [last] := by
      refine (List.eq_nil_or_concat' loop).resolve_left ?_
      rw [hloop]
      exact List.cons_ne_nil first rest
    rw [hlast, List.append_assoc] at hchain
    exact ⟨last, by simp [hlast], (List.isChain_append_cons_cons.mp hchain).2.1⟩
  · rw [hsplit, List.append_assoc, List.append_assoc] at hchain
    exact ⟨c, by simp [hsplit], (List.isChain_append_cons_cons.mp hchain).2.1⟩

theorem mem_of_link (h : Loop classes loop) (hc : c ∈ loop) (hlink : Link classes c p) :
    p ∈ loop := by
  obtain ⟨next, hnext, hlink'⟩ := h.exists_next hc
  rwa [hlink.unique hlink']

/-- What holds of one class of a loop and goes up along links holds of all of them. -/
theorem induction (h : Loop classes loop) (P : String → Prop)
    (carries : ∀ ⦃c p⦄, Link classes c p → P c → P p) (hc : c ∈ loop) (hP : P c) :
    ∀ x ∈ loop, P x := by
  obtain ⟨first, rest, hloop, hchain⟩ := h.round
  have hfirst : P first := by
    obtain ⟨before, behind, hsplit⟩ := List.append_of_mem hc
    rw [hsplit, List.append_assoc] at hchain
    have hup := (List.isChain_split.mp hchain).2
    exact hup.cons_induction P _ carries hP first (by simp)
  intro x hx
  refine hchain.induction P _ carries (fun _ => ?_) x (List.mem_append_left _ hx)
  simpa [hloop] using hfirst

/-- Loops that share a class are the same. -/
theorem mem_iff (h : Loop classes loop) (h' : Loop classes loop') (hc : c ∈ loop) (hc' : c ∈ loop')
    (x : String) : x ∈ loop ↔ x ∈ loop' :=
  ⟨h.induction (· ∈ loop') (fun _ _ hlink hmem => h'.mem_of_link hmem hlink) hc hc' x,
    h'.induction (· ∈ loop) (fun _ _ hlink hmem => h.mem_of_link hmem hlink) hc' hc x⟩

/-- Two classes of a loop have different superclasses. -/
theorem eq_of_links (h : Loop classes loop) (hc : c ∈ loop) (hc' : c' ∈ loop)
    (hlink : Link classes c p) (hlink' : Link classes c' p) : c = c' := by
  -- going up is onto the loop, hence one-to-one
  let up : String → String := fun x => (classes.get? x).join.getD ""
  have hup : ∀ {x y}, Link classes x y → up x = y := by
    intro x y hxy
    simp [up, hxy.1]
  have hsub : loop ⊆ loop.map up := by
    intro y hy
    obtain ⟨x, hx, hxy⟩ := h.exists_previous hy
    exact List.mem_map.mpr ⟨x, hx, hup hxy⟩
  have hperm : loop.Perm (loop.map up) :=
    (List.subperm_of_subset h.nodup hsub).perm_of_length_le (by simp)
  have hnodup : (loop.map up).Nodup := hperm.nodup_iff.mp h.nodup
  exact List.inj_on_of_nodup_map hnodup hc hc' ((hup hlink).trans (hup hlink').symm)

end Loop

namespace Enters

theorem mem (h : Enters classes loop c f) : f ∈ loop := by
  induction h with
  | here hc => exact hc
  | above _ _ _ ih => exact ih

theorem unique (h : Enters classes loop c f) (h' : Enters classes loop c g) : f = g := by
  induction h with
  | here hc =>
      cases h' with
      | here => rfl
      | above hnot => exact absurd hc hnot
  | above hnot hlink _ ih =>
      cases h' with
      | here hc => exact absurd hc hnot
      | above _ hlink' h' =>
          cases hlink.unique hlink'
          exact ih h'

/-- Only the classes of a loop matter, not the one at which it begins. -/
theorem congr (hmem : ∀ x, x ∈ loop ↔ x ∈ loop') (h : Enters classes loop c f) :
    Enters classes loop' c f := by
  induction h with
  | here hc => exact .here ((hmem _).mp hc)
  | above hnot hlink _ ih => exact .above (fun hc => hnot ((hmem _).mpr hc)) hlink ih

/-- The way up to the first class of the loop. -/
theorem of_isChain {below : List String} (hchain : (below ++ [f]).IsChain (Link classes))
    (hbelow : ∀ x ∈ below, x ∉ loop) (hf : f ∈ loop) (hc : (below ++ [f]).head? = some c) :
    Enters classes loop c f := by
  induction below generalizing c with
  | nil =>
      cases hc
      exact .here hf
  | cons x below ih =>
      cases hc
      obtain ⟨next, rest, hrest⟩ : ∃ next rest, below ++ [f] = next :: rest :=
        List.exists_cons_of_ne_nil (by simp)
      rw [List.cons_append, hrest, List.isChain_cons_cons] at hchain
      refine .above (hbelow x List.mem_cons_self) hchain.1 (ih ?_ ?_ ?_)
      · rw [hrest]
        exact hchain.2
      · exact fun y hy => hbelow y (List.mem_cons_of_mem x hy)
      · rw [hrest]
        rfl

end Enters

/-- A list has one first member with a property. -/
theorem first_unique {P : String → Prop} {before before' behind behind' : List String}
    {start start' : String} (heq : before ++ start :: behind = before' ++ start' :: behind')
    (hbefore : ∀ c ∈ before, ¬ P c) (hbefore' : ∀ c ∈ before', ¬ P c) (hstart : P start)
    (hstart' : P start') : start = start' := by
  induction before generalizing before' with
  | nil =>
      cases before' with
      | nil => exact (List.cons.inj heq).1
      | cons x before' =>
          obtain rfl : start = x := (List.cons.inj heq).1
          exact absurd hstart (hbefore' start List.mem_cons_self)
  | cons x before ih =>
      cases before' with
      | nil =>
          obtain rfl : x = start' := (List.cons.inj heq).1
          exact absurd hstart' (hbefore x List.mem_cons_self)
      | cons x' before' =>
          exact ih (List.cons.inj heq).2 (fun c hc => hbefore c (List.mem_cons_of_mem x hc))
            fun c hc => hbefore' c (List.mem_cons_of_mem x' hc)

namespace Opens

variable {z z' : String}

theorem congr (hmem : ∀ x, x ∈ loop ↔ x ∈ loop') (h : Opens classes loop z) :
    Opens classes loop' z := by
  obtain ⟨hz, before, start, behind, f, hkeys, hbefore, hstart, hlink⟩ := h
  refine ⟨(hmem z).mp hz, before, start, behind, f, hkeys, fun c hc g hg => ?_, hstart.congr hmem,
    hlink⟩
  exact hbefore c hc g (hg.congr fun x => (hmem x).symm)

/-- A loop is opened at one class only. -/
theorem unique (hloop : Loop classes loop) (h : Opens classes loop z) (h' : Opens classes loop z') :
    z = z' := by
  obtain ⟨hz, before, start, behind, f, hkeys, hbefore, hstart, hlink⟩ := h
  obtain ⟨hz', before', start', behind', f', hkeys', hbefore', hstart', hlink'⟩ := h'
  obtain rfl : start = start' :=
    first_unique (P := fun c => ∃ g, Enters classes loop c g) (hkeys.symm.trans hkeys')
      (fun c hc ⟨g, hg⟩ => hbefore c hc g hg) (fun c hc ⟨g, hg⟩ => hbefore' c hc g hg)
      ⟨f, hstart⟩ ⟨f', hstart'⟩
  obtain rfl : f = f' := hstart.unique hstart'
  exact hloop.eq_of_links hz hz' hlink hlink'

end Opens

end Links

end ClassAtlas.Graph.Inheritance
