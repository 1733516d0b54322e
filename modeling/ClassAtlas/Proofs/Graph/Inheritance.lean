import ClassAtlas.Proofs.Graph.Superclass

/-!
# Depths of a hierarchy and of its loops

A class is one deeper than its superclass, apart from roots and from one class
of each loop, where the loop is opened; these have depth zero.

The depths found so far are `Settled`: with a class they have its superclass, and
each is `Grounded`, that is, there is a reason for it. One class more keeps this,
since the climb from it ends at a root, at a class with a depth, or in a loop of
which no class has a depth yet. What depths are on loops, and that they are small,
follows from the reasons alone.

Main statement: `inheritanceDepths_measure`.
-/

namespace ClassAtlas.Graph.Inheritance

/-! ## Climbing -/

/-- The classes of a climb from `start`, topmost first: each is the superclass of the next, none
comes twice, and none has a depth yet. -/
structure Trail (classes : Superclasses) (known : Depths) (start : String) (trail : List String) :
    Prop where
  chain : trail.IsChain fun p c => Link classes c p
  nodup : trail.Nodup
  fresh : ∀ c ∈ trail, known.get? c = none
  keys : ∀ c ∈ trail, c ∈ classes.keys
  last : trail.getLast? = some start

/-- Why a climb ends at `top`, and the depth of the class on which it rests if that has one. -/
inductive Rests (classes : Superclasses) (known : Depths) (top : String) (trail : List String) :
    Option Nat → Prop where
  | root : (∀ p, ¬ Link classes top p) → Rests classes known top trail none
  | known {p : String} {depth : Nat} : Link classes top p → known.get? p = some depth →
      Rests classes known top trail (some depth)
  | loop {p : String} : Link classes top p → p ∈ trail → Rests classes known top trail none

section Climb

variable {classes : Superclasses} {known : Depths} {start top c p : String}
  {rest trail : List String}

theorem Trail.length_le (h : Trail classes known start trail) : trail.length ≤ classes.size := by
  have hle := (List.subperm_of_subset h.nodup h.keys).length_le
  rwa [Table.keys, List.length_map] at hle

theorem Trail.cons (h : Trail classes known start (top :: rest)) (hlink : Link classes top p)
    (hp : p ∉ top :: rest) (hknown : known.get? p = none) :
    Trail classes known start (p :: top :: rest) where
  chain := List.isChain_cons_cons.mpr ⟨hlink, h.chain⟩
  nodup := List.nodup_cons.mpr ⟨hp, h.nodup⟩
  fresh := List.forall_mem_cons.mpr ⟨hknown, h.fresh⟩
  keys := List.forall_mem_cons.mpr ⟨hlink.2, h.keys⟩
  last := by
    rw [List.getLast?_cons_cons]
    exact h.last

/-- **A climb ends for a reason.** The fuel is never used up, since a class is climbed once. -/
theorem climb_rests {fuel : Nat} {superclass : Option String}
    (h : Trail classes known start (top :: rest)) (htop : classes.get? top = some superclass)
    (hfuel : classes.size ≤ fuel + rest.length) :
    ∃ top' rest' base, climb classes known fuel superclass (top :: rest) = (top' :: rest', base) ∧
      Trail classes known start (top' :: rest') ∧
        Rests classes known top' (top' :: rest') base := by
  induction fuel generalizing top rest superclass with
  | zero =>
      have hlength := h.length_le
      rw [List.length_cons] at hlength
      omega
  | succ fuel ih =>
      cases superclass with
      | none =>
          refine ⟨top, rest, none, rfl, h, .root fun p hp => ?_⟩
          cases htop.symm.trans hp.1
      | some p =>
          rw [climb]
          cases hp : classes.get? p with
          | none =>
              refine ⟨top, rest, none, rfl, h, .root fun q hq => ?_⟩
              cases htop.symm.trans hq.1
              obtain ⟨_, hq⟩ := Table.mem_keys_iff.mp hq.2
              cases hp.symm.trans hq
          | some superclass =>
              have hlink : Link classes top p := ⟨htop, Table.mem_keys_iff.mpr ⟨_, hp⟩⟩
              cases hknown : known.get? p with
              | some depth => exact ⟨top, rest, some depth, rfl, h, .known hlink hknown⟩
              | none =>
                  by_cases hmem : p ∈ top :: rest
                  · exact ⟨top, rest, none, if_pos hmem, h, .loop hlink hmem⟩
                  · dsimp only
                    rw [if_neg hmem]
                    refine ih (h.cons hlink hmem hknown) hp ?_
                    rw [List.length_cons]
                    omega

/-- A climb that comes back to itself has gone round a loop. -/
theorem Trail.exists_loop (h : Trail classes known start (top :: rest))
    (hlink : Link classes top p) (hp : p ∈ top :: rest) :
    ∃ loop, Loop classes loop ∧ top ∈ loop ∧ loop ⊆ top :: rest ∧ Enters classes loop start p := by
  obtain ⟨above, below, hsplit⟩ := List.append_of_mem hp
  have hchain := h.chain
  have hnodup := h.nodup
  have hlast := h.last
  rw [hsplit] at hchain hnodup hlast ⊢
  obtain ⟨habove, hbelow⟩ := List.isChain_split.mp hchain
  rw [List.append_cons, List.nodup_append] at hnodup
  have htop : (above ++ [p]).head? = some top := by
    cases above with
    | nil => rw [(List.cons.inj hsplit).1]; rfl
    | cons x above => rw [(List.cons.inj hsplit).1]; rfl
  refine ⟨(above ++ [p]).reverse, ⟨List.nodup_reverse.mpr hnodup.1, p, above.reverse, by simp, ?_⟩,
    List.mem_reverse.mpr (List.mem_of_mem_head? htop), fun x hx => ?_, ?_⟩
  · -- from `p` up to `top`, and from there to `p` again
    rw [← List.reverse_cons, List.isChain_reverse, List.isChain_cons]
    refine ⟨fun x hx => ?_, habove⟩
    rw [htop] at hx
    cases hx
    exact hlink
  · rw [List.append_cons]
    exact List.mem_append_left below (List.mem_reverse.mp hx)
  · -- below `p` the climb has not met the loop
    have hup : (below.reverse ++ [p]).IsChain (Link classes) := by
      rw [← List.reverse_cons, List.isChain_reverse]
      exact hbelow
    refine .of_isChain hup (fun x hx hloop => ?_) (by simp) ?_
    · exact hnodup.2.2 x (List.mem_reverse.mp hloop) x (List.mem_reverse.mp hx) rfl
    · rw [← List.reverse_cons, List.head?_reverse]
      simpa using hlast

/-- A climbed class is the topmost, or stands right below its superclass. -/
theorem Trail.top_or_below (h : Trail classes known start (top :: rest)) (hc : c ∈ top :: rest) :
    c = top ∨ ∃ above p below, top :: rest = above ++ p :: c :: below ∧ Link classes c p := by
  obtain ⟨above, below, hsplit⟩ := List.append_of_mem hc
  rcases List.eq_nil_or_concat' above with rfl | ⟨above, p, rfl⟩
  · exact .inl (List.cons.inj hsplit).1.symm
  · have hchain := h.chain
    rw [List.append_assoc, List.singleton_append] at hsplit
    rw [hsplit] at hchain
    exact .inr ⟨above, p, below, hsplit, (List.isChain_append_cons_cons.mp hchain).2.1⟩

end Climb

/-! ## Giving depths -/

section Assign

variable {known : Depths} {base : Nat} {trail above below : List String} {c p : String}

theorem get?_assignDepths_of_notMem (h : c ∉ trail) :
    (assignDepths base trail known).get? c = known.get? c := by
  induction trail generalizing base known with
  | nil => rfl
  | cons x trail ih =>
      rw [List.mem_cons, not_or] at h
      rw [assignDepths, ih h.2, Table.get?_insert, if_neg (Ne.symm h.1)]

theorem get?_assignDepths_cons (base : Nat) (known : Depths) (h : (c :: below).Nodup) :
    (assignDepths base (c :: below) known).get? c = some base := by
  rw [assignDepths, get?_assignDepths_of_notMem (List.nodup_cons.mp h).1, Table.get?_insert,
    if_pos rfl]

theorem get?_assignDepths_append (base : Nat) (known : Depths) (h : (above ++ c :: below).Nodup) :
    (assignDepths base (above ++ c :: below) known).get? c = some (base + above.length) := by
  induction above generalizing base known with
  | nil => exact get?_assignDepths_cons base known h
  | cons x above ih =>
      rw [List.cons_append, assignDepths, ih _ _ (List.nodup_cons.mp h).2, List.length_cons]
      congr 1
      omega

/-- Depths go up by one from class to class. -/
theorem get?_assignDepths_neighbours (base : Nat) (known : Depths)
    (h : (above ++ p :: c :: below).Nodup) :
    (assignDepths base (above ++ p :: c :: below) known).get? p = some (base + above.length) ∧
      (assignDepths base (above ++ p :: c :: below) known).get? c =
        some (base + above.length + 1) := by
  refine ⟨get?_assignDepths_append base known h, ?_⟩
  rw [List.append_cons] at h ⊢
  rw [get?_assignDepths_append base known h, List.length_append]
  rfl

end Assign

/-! ## What is known after each class -/

/-- Why a class has its depth. -/
inductive Grounded (classes : Superclasses) (known : Depths) (c : String) : Nat → Prop where
  | root : (∀ p, ¬ Link classes c p) → Grounded classes known c 0
  | step {p : String} {depth : Nat} : Link classes c p → known.get? p = some depth →
      Grounded classes known c (depth + 1)
  | opened {loop : List String} : Loop classes loop → Opens classes loop c →
      Grounded classes known c 0

/-- The depths known when the classes `done` have been taken. -/
structure Settled (classes : Superclasses) (done : List String) (known : Depths) : Prop where
  keys : ∀ c ∈ known.keys, c ∈ classes.keys
  covers : ∀ c ∈ done, c ∈ known.keys
  closed : ∀ c p, Link classes c p → c ∈ known.keys → p ∈ known.keys
  grounded : ∀ c depth, known.get? c = some depth → Grounded classes known c depth

/-- One class: it has a depth already, or is climbed from. -/
def settle (classes : Superclasses) (known : Depths) (name : String) : Depths :=
  if known.contains name then known
  else
    let (climbed, base) := climb classes known (classes.size + 1) (some name) []
    assignDepths (base.elim 0 (· + 1)) climbed known

theorem inheritanceDepths_eq (classes : Superclasses) :
    inheritanceDepths classes = classes.keys.foldl (settle classes) ∅ := rfl

section Settle

variable {classes : Superclasses} {known after : Depths} {done todo : List String}
  {name top c f : String} {rest loop : List String} {base : Option Nat} {depth : Nat}

theorem settle_of_mem (h : name ∈ known.keys) : settle classes known name = known :=
  if_pos (Table.contains_iff.mpr h)

theorem settle_of_notMem (hname : name ∈ classes.keys) (h : name ∉ known.keys) :
    ∃ top rest base, Trail classes known name (top :: rest) ∧
      Rests classes known top (top :: rest) base ∧
        settle classes known name = assignDepths (base.elim 0 (· + 1)) (top :: rest) known := by
  obtain ⟨superclass, hsuperclass⟩ := Table.mem_keys_iff.mp hname
  have hfresh : known.get? name = none := by
    rw [Option.eq_none_iff_forall_ne_some]
    exact fun depth hdepth => h (Table.mem_keys_iff.mpr ⟨depth, hdepth⟩)
  have htrail : Trail classes known name [name] :=
    ⟨by simp, by simp, by simpa using hfresh, by simpa using hname, rfl⟩
  obtain ⟨top, rest, base, hclimb, htop, hrests⟩ :=
    climb_rests htrail hsuperclass
      (show classes.size ≤ classes.size + ([] : List String).length by simp)
  refine ⟨top, rest, base, htop, hrests, ?_⟩
  have hstart : climb classes known (classes.size + 1) (some name) [] =
      climb classes known classes.size superclass [name] := by
    rw [climb, hsuperclass, hfresh]
    rfl
  rw [settle, if_neg (fun hc => h (Table.contains_iff.mp hc)), hstart, hclimb]

theorem Grounded.mono (hkeep : ∀ x d, known.get? x = some d → after.get? x = some d)
    (h : Grounded classes known c depth) : Grounded classes after c depth := by
  cases h with
  | root hroot => exact .root hroot
  | step hlink hp => exact .step hlink (hkeep _ _ hp)
  | opened hloop hopens => exact .opened hloop hopens

theorem Settled.mem_keys_of_enters (h : Settled classes done known)
    (henters : Enters classes loop c f) (hc : c ∈ known.keys) : f ∈ known.keys := by
  induction henters with
  | here => exact hc
  | above _ hlink _ ih => exact ih (h.closed _ _ hlink hc)

/-- Where a climb comes back to itself, the loop is opened at its topmost class. -/
theorem Settled.exists_opens (h : Settled classes done known)
    (hkeys : classes.keys = done ++ name :: todo) (htrail : Trail classes known name (top :: rest))
    (hlink : Link classes top f) (hf : f ∈ top :: rest) :
    ∃ loop, Loop classes loop ∧ Opens classes loop top := by
  obtain ⟨loop, hloop, htop, hsub, henters⟩ := htrail.exists_loop hlink hf
  refine ⟨loop, hloop, htop, done, name, todo, f, hkeys, fun c hc g hg => ?_, henters, hlink⟩
  -- an earlier class that leads into the loop would have given depths to all of it
  obtain ⟨depth, hdepth⟩ := Table.mem_keys_iff.mp (h.mem_keys_of_enters hg (h.covers c hc))
  cases (htrail.fresh g (hsub hg.mem)).symm.trans hdepth

section After

variable (htrail : Trail classes known name (top :: rest)) {level : Nat}

include htrail

theorem Trail.get?_of_known (h : known.get? c = some depth) :
    (assignDepths level (top :: rest) known).get? c = some depth := by
  rw [get?_assignDepths_of_notMem, h]
  intro hc
  cases (htrail.fresh c hc).symm.trans h

theorem Trail.mem_keys_assignDepths_iff :
    c ∈ (assignDepths level (top :: rest) known).keys ↔ c ∈ top :: rest ∨ c ∈ known.keys := by
  by_cases hc : c ∈ top :: rest
  · obtain ⟨above, below, hsplit⟩ := List.append_of_mem hc
    have hnodup := htrail.nodup
    rw [hsplit] at hnodup hc ⊢
    exact ⟨fun _ => .inl hc, fun _ =>
      Table.mem_keys_iff.mpr ⟨_, get?_assignDepths_append level known hnodup⟩⟩
  · rw [Table.mem_keys_iff, get?_assignDepths_of_notMem hc, ← Table.mem_keys_iff, or_iff_right hc]

/-- The superclass of a climbed class is above it on the climb, or is where the climb ended. -/
theorem Trail.mem_of_link (hrests : Rests classes known top (top :: rest) base)
    (hc : c ∈ top :: rest) (hlink : Link classes c f) : f ∈ top :: rest ∨ f ∈ known.keys := by
  rcases htrail.top_or_below hc with rfl | ⟨above, p, below, hsplit, hlink'⟩
  · cases hrests with
    | root hroot => exact absurd hlink (hroot f)
    | known hlink' hknown =>
        rw [hlink.unique hlink']
        exact .inr (Table.mem_keys_iff.mpr ⟨_, hknown⟩)
    | loop hlink' hmem =>
        rw [hlink.unique hlink']
        exact .inl hmem
  · rw [hlink.unique hlink', hsplit]
    exact .inl (by simp)

/-- The climbed classes have their depths for a reason. -/
theorem Trail.grounded (h : Settled classes done known)
    (hkeys : classes.keys = done ++ name :: todo)
    (hrests : Rests classes known top (top :: rest) base) (hc : c ∈ top :: rest)
    (hdepth : (assignDepths (base.elim 0 (· + 1)) (top :: rest) known).get? c = some depth) :
    Grounded classes (assignDepths (base.elim 0 (· + 1)) (top :: rest) known) c depth := by
  have hnodup := htrail.nodup
  rcases htrail.top_or_below hc with rfl | ⟨above, p, below, hsplit, hlink⟩
  · rw [get?_assignDepths_cons _ _ hnodup] at hdepth
    cases hdepth
    cases hrests with
    | root hroot => exact .root hroot
    | known hlink hknown => exact .step hlink (htrail.get?_of_known hknown)
    | loop hlink hmem =>
        obtain ⟨loop, hloop, hopens⟩ := h.exists_opens hkeys htrail hlink hmem
        exact .opened hloop hopens
  · rw [hsplit] at hnodup hdepth ⊢
    obtain ⟨hupper, hlower⟩ := get?_assignDepths_neighbours (base.elim 0 (· + 1)) known hnodup
    rw [hlower] at hdepth
    cases hdepth
    exact .step hlink hupper

end After

/-- **One class more.** -/
theorem Settled.step (h : Settled classes done known)
    (hkeys : classes.keys = done ++ name :: todo) :
    Settled classes (done ++ [name]) (settle classes known name) := by
  by_cases hname : name ∈ known.keys
  · rw [settle_of_mem hname]
    refine { h with covers := fun c hc => ?_ }
    rcases List.mem_append.mp hc with hc | hc
    · exact h.covers c hc
    · rwa [List.mem_singleton.mp hc]
  · have hmem : name ∈ classes.keys := by simp [hkeys]
    obtain ⟨top, rest, base, htrail, hrests, heq⟩ := settle_of_notMem hmem hname
    rw [heq]
    constructor
    · intro c hc
      rcases htrail.mem_keys_assignDepths_iff.mp hc with hc | hc
      · exact htrail.keys c hc
      · exact h.keys c hc
    · intro c hc
      rw [htrail.mem_keys_assignDepths_iff]
      rcases List.mem_append.mp hc with hc | hc
      · exact .inr (h.covers c hc)
      · rw [List.mem_singleton.mp hc]
        exact .inl (List.mem_of_getLast? htrail.last)
    · intro c p hlink hc
      rw [htrail.mem_keys_assignDepths_iff] at hc ⊢
      rcases hc with hc | hc
      · exact htrail.mem_of_link hrests hc hlink
      · exact .inr (h.closed c p hlink hc)
    · intro c depth hdepth
      by_cases hc : c ∈ top :: rest
      · exact htrail.grounded h hkeys hrests hc hdepth
      · rw [get?_assignDepths_of_notMem hc] at hdepth
        exact (h.grounded c depth hdepth).mono fun _ _ => htrail.get?_of_known

theorem Settled.foldl (h : Settled classes done known) (hkeys : classes.keys = done ++ todo) :
    Settled classes classes.keys (todo.foldl (settle classes) known) := by
  induction todo generalizing done known with
  | nil =>
      rw [List.append_nil] at hkeys
      rw [hkeys]
      exact h
  | cons name todo ih => exact ih (h.step hkeys) (by simp [hkeys])

theorem settled_inheritanceDepths (classes : Superclasses) :
    Settled classes classes.keys (inheritanceDepths classes) := by
  have hempty : Settled classes [] ∅ := by
    constructor
    · intro c hc
      cases hc
    · intro c hc
      cases hc
    · intro c p _ hc
      cases hc
    · intro c depth hdepth
      cases hdepth
  rw [inheritanceDepths_eq]
  exact hempty.foldl rfl

end Settle

/-! ## Depths on loops and above -/

namespace Settled

variable {classes : Superclasses} {done loop cs : List String} {known : Depths} {c c' p : String}
  {depth level : Nat}

theorem get?_superclass (h : Settled classes done known) (hlink : Link classes c p)
    (hdepth : known.get? c = some (depth + 1)) : known.get? p = some depth := by
  cases h.grounded c _ hdepth with
  | step hlink' hp => rwa [hlink.unique hlink']

/-- Among classes that have their superclasses with them, every smaller depth is found too. -/
theorem exists_lower (h : Settled classes done known)
    (hclosed : ∀ c p, Link classes c p → c ∈ cs → p ∈ cs) (hc : c ∈ cs)
    (hdepth : known.get? c = some depth) (hlevel : level ≤ depth) :
    ∃ x ∈ cs, known.get? x = some level := by
  induction depth generalizing c with
  | zero =>
      obtain rfl : level = 0 := Nat.le_zero.mp hlevel
      exact ⟨c, hc, hdepth⟩
  | succ depth ih =>
      rcases Nat.le_succ_iff.mp hlevel with hle | rfl
      · cases h.grounded c _ hdepth with
        | step hlink hp => exact ih (hclosed c _ hlink hc) hp hle
      · exact ⟨c, hc, hdepth⟩

theorem depth_lt (h : Settled classes done known)
    (hclosed : ∀ c p, Link classes c p → c ∈ cs → p ∈ cs) (hc : c ∈ cs)
    (hdepth : known.get? c = some depth) : depth < cs.length := by
  have hsub : List.range (depth + 1) ⊆ cs.filterMap known.get? := by
    intro level hlevel
    obtain ⟨x, hx, hxlevel⟩ :=
      h.exists_lower hclosed hc hdepth (Nat.lt_succ_iff.mp (List.mem_range.mp hlevel))
    exact List.mem_filterMap.mpr ⟨x, hx, hxlevel⟩
  have hlength := (List.subperm_of_subset List.nodup_range hsub).length_le
  rw [List.length_range] at hlength
  exact Nat.lt_of_lt_of_le hlength (List.length_filterMap_le _ cs)

theorem opens_of_zero (h : Settled classes done known) (hloop : Loop classes loop) (hc : c ∈ loop)
    (hdepth : known.get? c = some 0) : Opens classes loop c := by
  cases h.grounded c 0 hdepth with
  | root hroot =>
      obtain ⟨p, -, hlink⟩ := hloop.exists_next hc
      exact absurd hlink (hroot p)
  | opened hloop' hopens => exact hopens.congr (hloop'.mem_iff hloop hopens.1 hc)

/-- Classes of a loop have different depths. -/
theorem eq_of_depth (h : Settled classes done known) (hloop : Loop classes loop) (hc : c ∈ loop)
    (hc' : c' ∈ loop) (hdepth : known.get? c = some depth) (hdepth' : known.get? c' = some depth) :
    c = c' := by
  induction depth generalizing c c' with
  | zero => exact (h.opens_of_zero hloop hc hdepth).unique hloop (h.opens_of_zero hloop hc' hdepth')
  | succ depth ih =>
      obtain ⟨p, hp, hlink⟩ := hloop.exists_next hc
      obtain ⟨p', hp', hlink'⟩ := hloop.exists_next hc'
      -- their superclasses have one depth, so they are one class
      obtain rfl : p = p' :=
        ih hp hp' (h.get?_superclass hlink hdepth) (h.get?_superclass hlink' hdepth')
      exact hloop.eq_of_links hc hc' hlink hlink'

theorem perm_depths (h : Settled classes done known) (hloop : Loop classes loop)
    (hknown : ∀ c ∈ loop, c ∈ known.keys) :
    (loop.map known.get?).Perm ((List.range loop.length).map some) := by
  have hnodup : (loop.map known.get?).Nodup := by
    refine hloop.nodup.map_on fun c hc c' hc' heq => ?_
    obtain ⟨depth, hdepth⟩ := Table.mem_keys_iff.mp (hknown c hc)
    exact h.eq_of_depth hloop hc hc' hdepth (heq.symm.trans hdepth)
  refine (List.subperm_of_subset hnodup fun found hfound => ?_).perm_of_length_le (by simp)
  obtain ⟨c, hc, rfl⟩ := List.mem_map.mp hfound
  obtain ⟨depth, hdepth⟩ := Table.mem_keys_iff.mp (hknown c hc)
  rw [hdepth]
  refine List.mem_map_of_mem (List.mem_range.mpr (h.depth_lt ?_ hc hdepth))
  exact fun _ _ hlink hx => hloop.mem_of_link hx hlink

end Settled

/-- **Every class has its depth.** The classes with a depth are the given ones. A class without a
superclass in the set has depth zero. On each loop one class has depth zero, the one at which the
loop is opened, and the depths on the loop are those below its length. Every other class is one
deeper than its superclass. No depth reaches the number of classes. -/
theorem inheritanceDepths_measure (classes : Superclasses) :
    (inheritanceDepths classes).keys.Perm classes.keys ∧
      (∀ c ∈ classes.keys, (∀ p, ¬ Link classes c p) →
        (inheritanceDepths classes).get? c = some 0) ∧
      (∀ loop, Loop classes loop →
        (∃ z, Opens classes loop z ∧
          ∀ c ∈ loop, (inheritanceDepths classes).get? c = some 0 ↔ c = z) ∧
        (loop.map (inheritanceDepths classes).get?).Perm ((List.range loop.length).map some)) ∧
      (∀ c p, Link classes c p → (∀ loop, Loop classes loop → ¬ Opens classes loop c) →
        ∃ depth, (inheritanceDepths classes).get? p = some depth ∧
          (inheritanceDepths classes).get? c = some (depth + 1)) ∧
      (∀ c depth, (inheritanceDepths classes).get? c = some depth → depth < classes.size) := by
  have h := settled_inheritanceDepths classes
  refine ⟨?_, fun c hc hroot => ?_, fun loop hloop => ?_, fun c p hlink hnot => ?_,
    fun c depth hdepth => ?_⟩
  · exact (List.perm_ext_iff_of_nodup (inheritanceDepths classes).nodup classes.nodup).mpr
      fun c => ⟨h.keys c, h.covers c⟩
  · obtain ⟨depth, hdepth⟩ := Table.mem_keys_iff.mp (h.covers c hc)
    cases h.grounded c depth hdepth with
    | root => exact hdepth
    | step hlink => exact absurd hlink (hroot _)
    | opened => exact hdepth
  · have hperm := h.perm_depths hloop fun c hc => by
      obtain ⟨p, -, hlink⟩ := hloop.exists_next hc
      exact h.covers c hlink.mem_keys
    refine ⟨?_, hperm⟩
    obtain ⟨z, hz, hzero⟩ : ∃ z ∈ loop, (inheritanceDepths classes).get? z = some 0 := by
      obtain ⟨first, rest, hfirst, -⟩ := hloop.round
      refine List.mem_map.mp (hperm.mem_iff.mpr (List.mem_map_of_mem (List.mem_range.mpr ?_)))
      simp [hfirst]
    refine ⟨z, h.opens_of_zero hloop hz hzero, fun c hc => ⟨fun hdepth => ?_, ?_⟩⟩
    · exact h.eq_of_depth hloop hc hz hdepth hzero
    · rintro rfl
      exact hzero
  · obtain ⟨depth, hdepth⟩ := Table.mem_keys_iff.mp (h.covers c hlink.mem_keys)
    cases h.grounded c depth hdepth with
    | root hroot => exact absurd hlink (hroot p)
    | @step _ depth hlink' hp =>
        rw [hlink.unique hlink']
        exact ⟨depth, hp, hdepth⟩
    | opened hloop hopens => exact absurd hopens (hnot _ hloop)
  · have hkeys : c ∈ classes.keys := h.keys c (Table.mem_keys_iff.mpr ⟨depth, hdepth⟩)
    have hlt := h.depth_lt (fun _ _ hlink _ => hlink.2) hkeys hdepth
    rwa [Table.keys, List.length_map] at hlt

-- `T` is the earliest class that leads into the loop, at `B`, so the loop is opened at `A`
example : (inheritanceDepths ⟨[("R", some "X"), ("T", some "B"), ("A", some "B"), ("B", some "C"),
    ("C", some "A"), ("U", some "T")], by decide⟩).entries =
    [("R", 0), ("A", 0), ("C", 1), ("B", 2), ("T", 3), ("U", 4)] := by decide

/-! ## A loop with a way into it -/

/-- The earliest class leads into a loop of three, and enters it in the middle. -/
def sampleSuperclasses : Superclasses where
  entries := [("T", some "B"), ("A", some "B"), ("B", some "C"), ("C", some "A"), ("R", none)]
  nodup := by decide

theorem sampleSuperclasses_loop : Loop sampleSuperclasses ["A", "B", "C"] where
  nodup := by decide
  round := ⟨"A", ["B", "C"], rfl, by decide⟩

/-- No class has `T` as its superclass, so `T` lies on no loop. -/
theorem sampleSuperclasses_not_opens (loop : List String) (h : Loop sampleSuperclasses loop) :
    ¬ Opens sampleSuperclasses loop "T" := by
  intro hopens
  obtain ⟨c, -, hlink⟩ := h.exists_previous hopens.1
  have hall : ∀ c ∈ sampleSuperclasses.keys, ¬ Link sampleSuperclasses c "T" := by decide
  exact hall c hlink.mem_keys hlink

theorem inheritanceDepths_measure_sample :
    Opens sampleSuperclasses ["A", "B", "C"] "A" ∧
      ∃ depth, (inheritanceDepths sampleSuperclasses).get? "B" = some depth ∧
        (inheritanceDepths sampleSuperclasses).get? "T" = some (depth + 1) := by
  obtain ⟨-, -, hloops, hothers, -⟩ := inheritanceDepths_measure sampleSuperclasses
  obtain ⟨⟨z, hopens, hzero⟩, -⟩ := hloops _ sampleSuperclasses_loop
  obtain rfl : "A" = z := (hzero "A" (by decide)).mp (by decide)
  exact ⟨hopens, hothers "T" "B" (by decide) sampleSuperclasses_not_opens⟩

end ClassAtlas.Graph.Inheritance
