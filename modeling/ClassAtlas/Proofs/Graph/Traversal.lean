import ClassAtlas.Proofs.Graph.Reach

/-!
# The traversal finds the groups

`Sound` is what the traversal keeps. The nodes that are being explored form a
path on the stack, each of which reaches everything above it. A node of the
stack that is explored no longer can go back to an earlier one, so nothing is
left on the stack when the path is empty. Whatever an explored edge leads to has
been entered, and if it is still on the stack, the `low` of the frame that is
responsible for the edge is not above it. So when a node is left whose `low` is
its own number, no edge leads from the stack above it to what is below, and this
part of the stack is the group of the node.

Main statement: the groups of the traversal are the groups of mutually reachable
nodes with two or more members.
-/

namespace ClassAtlas.Graph

open Std (HashMap HashSet)

namespace Traversal

variable {g : Adjacency} {t : Traversal} {frames : List Frame} {u v w x : String}

/-! ## What the parts of a turn change -/

theorem mem_index_enter {table : HashMap String (List String)} :
    x ∈ (enter table w t).index ↔ w = x ∨ x ∈ t.index := by
  simp [enter]

theorem number_enter (table : HashMap String (List String)) (w x : String) (t : Traversal) :
    (enter table w t).number x = if w = x then t.counter else t.number x := by
  simp [number, enter, HashMap.getD_insert]

theorem low_enter (table : HashMap String (List String)) (w x : String) (t : Traversal) :
    (enter table w t).low x = if w = x then t.counter else t.low x := by
  simp [low, enter, HashMap.getD_insert]

theorem low_lower (t : Traversal) (v x : String) (n : Nat) :
    (t.lower v n).low x = if v = x then min (t.low v) n else t.low x := by
  simp [low, lower, HashMap.getD_insert]

theorem low_lower_le (t : Traversal) (v x : String) (n : Nat) :
    (t.lower v n).low x ≤ t.low x := by
  rw [low_lower]
  split
  · rename_i heq
    rw [← heq]
    exact Nat.min_le_left _ _
  · exact Nat.le_refl _

theorem popTo_append (above below : List String) (h : v ∉ above) :
    popTo v (above ++ v :: below) = (above ++ [v], below) := by
  induction above with
  | nil => simp [popTo]
  | cons w above ih =>
      rw [List.mem_cons, not_or] at h
      simp [popTo, ih h.2, Ne.symm h.1]

theorem mem_foldl_erase (group : List String) (s : HashSet String) :
    x ∈ group.foldl (fun s w => s.erase w) s ↔ x ∈ s ∧ x ∉ group := by
  induction group generalizing s with
  | nil => simp
  | cons w group ih =>
      rw [List.foldl_cons, ih, HashSet.mem_erase]
      simp only [List.mem_cons, not_or]
      grind

/-! ## The invariant -/

/-- The nodes that are being explored, the latest first. -/
def path (frames : List Frame) : List String := frames.map Frame.node

/-- The group of a node has been found: it was entered and has left the stack. -/
def Closed (t : Traversal) (v : String) : Prop := v ∈ t.index ∧ v ∉ t.stack

/-- The latest explored node that was not entered after `x`. -/
structure Owner (number : String → Nat) (path : List String) (f x : String) : Prop where
  mem : f ∈ path
  le : number f ≤ number x
  latest : ∀ f' ∈ path, number f' ≤ number x → number f' ≤ number f

/-- The edge from `x` to `w` is still to be looked at. -/
def Waiting (frames : List Frame) (x w : String) : Prop :=
  ∃ frame ∈ frames, frame.node = x ∧ w ∈ frame.pending

/-- The edge from `x` to `w` has been looked at. -/
def Followed (t : Traversal) (path : List String) (x w : String) : Prop :=
  w ∈ t.index ∧ (w ∈ t.stack → ∀ f, Owner t.number path f x → t.low f ≤ t.number w)

/-- What holds of a traversal with these frames between any two of its steps. -/
structure Sound (g : Adjacency) (t : Traversal) (frames : List Frame) : Prop where
  numbered : ∀ v ∈ t.index, t.number v < t.counter
  known : ∀ v ∈ t.index, v ∈ g.nodes
  stack_index : ∀ v ∈ t.stack, v ∈ t.index
  onStack : ∀ v, v ∈ t.onStack ↔ v ∈ t.stack
  descending : t.stack.Pairwise fun a b => t.number b < t.number a
  path_stack : ∀ f ∈ path frames, f ∈ t.stack
  path_descending : (path frames).Pairwise fun a b => t.number b < t.number a
  /-- An explored node reaches what was entered after it and waits. -/
  spans : ∀ f ∈ path frames, ∀ x ∈ t.stack, t.number f ≤ t.number x → g.Reach f x
  /-- `low` is the number of a node that waits and can be reached. -/
  reaches_low : ∀ f ∈ path frames,
    ∃ y ∈ t.stack, t.number y = t.low f ∧ t.number y ≤ t.number f ∧ g.Reach f y
  /-- A node that has been explored and waits reaches an earlier one that waits. -/
  returns : ∀ x ∈ t.stack, x ∉ path frames →
    ∃ y ∈ t.stack, t.number y < t.number x ∧ g.Reach x y
  pending : ∀ frame ∈ frames, ∀ w ∈ frame.pending, w ∈ g.nodes → g.Edge frame.node w
  followed : ∀ x ∈ t.stack, ∀ w, g.Edge x w → Waiting frames x w ∨ Followed t (path frames) x w
  /-- No edge leaves the groups that have been found. -/
  closed : ∀ v, Closed t v → ∀ w, g.Edge v w → Closed t w
  groups : ∀ group, group ∈ t.groups ↔ IsCycle g group ∧ ∀ v ∈ group, Closed t v
  groups_nodup : t.groups.Nodup

theorem Sound.initial (g : Adjacency) : Sound g {} [] where
  numbered := by simp
  known := by simp
  stack_index := by simp
  onStack := by simp
  descending := .nil
  path_stack := by simp [path]
  path_descending := .nil
  spans := by simp [path]
  reaches_low := by simp [path]
  returns := by simp
  pending := by simp
  followed := by simp
  closed := by simp [Closed]
  groups := by
    intro group
    refine iff_of_false List.not_mem_nil ?_
    rintro ⟨hcycle, hclosed⟩
    obtain ⟨v, hv⟩ := hcycle.exists_mem
    simpa using (hclosed v hv).1
  groups_nodup := .nil

theorem Sound.withFrames {waiting : List Frame} (h : Sound g t frames) :
    Sound g { t with frames := waiting } frames := { h with }

theorem Sound.reach_closed (h : Sound g t frames) (hv : Closed t v) (hreach : g.Reach v w) :
    Closed t w := by
  induction hreach with
  | refl => exact hv
  | tail _ hedge ih => exact h.closed _ ih _ hedge

/-! ## Owners and waiting edges -/

section Owner

variable {number number' : String → Nat} {path : List String} {f : String}

/-- The latest explored node is responsible for what was not entered before it. -/
theorem Owner.head (hdescending : (v :: path).Pairwise fun a b => number b < number a)
    (hle : number v ≤ number x) : Owner number (v :: path) v x := by
  refine ⟨List.mem_cons_self, hle, fun f' hf' _ => ?_⟩
  rcases List.mem_cons.mp hf' with rfl | hf'
  · exact Nat.le_refl _
  · exact Nat.le_of_lt ((List.pairwise_cons.mp hdescending).1 f' hf')

theorem Owner.eq_head (hdescending : (v :: path).Pairwise fun a b => number b < number a)
    (h : Owner number (v :: path) f x) (hle : number v ≤ number x) : f = v := by
  refine (List.mem_cons.mp h.mem).resolve_right fun hf => ?_
  have hlt := (List.pairwise_cons.mp hdescending).1 f hf
  exact absurd (h.latest v List.mem_cons_self hle) (Nat.not_le.mpr hlt)

/-- A node that was entered later is not responsible. -/
theorem owner_cons_iff (hlt : number x < number v) :
    Owner number (v :: path) f x ↔ Owner number path f x := by
  constructor
  · intro h
    refine ⟨(List.mem_cons.mp h.mem).resolve_left ?_, h.le,
      fun f' hf' => h.latest f' (List.mem_cons_of_mem v hf')⟩
    rintro rfl
    exact absurd h.le (Nat.not_le.mpr hlt)
  · intro h
    refine ⟨List.mem_cons_of_mem v h.mem, h.le, fun f' hf' hle => ?_⟩
    rcases List.mem_cons.mp hf' with rfl | hf'
    · exact absurd hle (Nat.not_le.mpr hlt)
    · exact h.latest f' hf' hle

theorem Owner.congr (h : Owner number path f x) (hpath : ∀ y ∈ path, number y = number' y)
    (hx : number x = number' x) : Owner number' path f x := by
  refine ⟨h.mem, ?_, fun f' hf' hle => ?_⟩
  · rw [← hpath f h.mem, ← hx]
    exact h.le
  · rw [← hpath f' hf', ← hx] at hle
    rw [← hpath f' hf', ← hpath f h.mem]
    exact h.latest f' hf' hle

end Owner

/-- At a frame that has come to its end nothing waits. -/
theorem waiting_nil_cons_iff : Waiting (⟨v, []⟩ :: frames) x w ↔ Waiting frames x w := by
  simp [Waiting]

theorem Sound.path_index (h : Sound g t frames) (hv : v ∈ path frames) : v ∈ t.index :=
  h.stack_index v (h.path_stack v hv)

/-! ## Entering a node -/

section Enter

variable {table : HashMap String (List String)}

theorem number_enter_self : (enter table w t).number w = t.counter := by
  rw [number_enter, if_pos rfl]

theorem number_enter_of_mem (hnew : w ∉ t.index) (hx : x ∈ t.index) :
    (enter table w t).number x = t.number x := by
  rw [number_enter, if_neg]
  rintro rfl
  exact hnew hx

theorem low_enter_of_mem (hnew : w ∉ t.index) (hx : x ∈ t.index) :
    (enter table w t).low x = t.low x := by
  rw [low_enter, if_neg]
  rintro rfl
  exact hnew hx

theorem closed_enter (hnew : w ∉ t.index) : Closed (enter table w t) v ↔ Closed t v := by
  unfold Closed
  rw [mem_index_enter]
  simp only [enter, List.mem_cons, not_or]
  grind

variable (h : Sound g t frames) (hnew : w ∉ t.index)

include h hnew

/-- The new node has a later number than all that were entered before. -/
theorem Sound.number_lt_enter (hx : x ∈ t.index) :
    (enter table w t).number x < (enter table w t).number w := by
  rw [number_enter_of_mem hnew hx, number_enter_self]
  exact h.numbered x hx

theorem Sound.descending_enter {xs : List String} (hxs : ∀ x ∈ xs, x ∈ t.index)
    (hdescending : xs.Pairwise fun a b => t.number b < t.number a) :
    (w :: xs).Pairwise fun a b => (enter table w t).number b < (enter table w t).number a := by
  refine List.pairwise_cons.mpr ⟨fun x hx => h.number_lt_enter hnew (hxs x hx), ?_⟩
  refine hdescending.imp_of_mem fun ha hb hlt => ?_
  rwa [number_enter_of_mem hnew (hxs _ ha), number_enter_of_mem hnew (hxs _ hb)]

theorem Sound.spans_enter (hreach : ∀ f ∈ path frames, g.Reach f w) :
    ∀ f ∈ w :: path frames, ∀ x ∈ w :: t.stack,
      (enter table w t).number f ≤ (enter table w t).number x → g.Reach f x := by
  intro f hf x hx hle
  rcases List.mem_cons.mp hx with rfl | hstacked
  · rcases List.mem_cons.mp hf with rfl | hf
    · exact .refl
    · exact hreach f hf
  · have hxindex := h.stack_index x hstacked
    rcases List.mem_cons.mp hf with rfl | hexplored
    · exact absurd (h.number_lt_enter hnew hxindex) (Nat.not_lt.mpr hle)
    · rw [number_enter_of_mem hnew (h.path_index hexplored),
        number_enter_of_mem hnew hxindex] at hle
      exact h.spans f hexplored x hstacked hle

theorem Sound.reaches_low_enter :
    ∀ f ∈ w :: path frames, ∃ y ∈ w :: t.stack, (enter table w t).number y = (enter table w t).low f ∧
      (enter table w t).number y ≤ (enter table w t).number f ∧ g.Reach f y := by
  intro f hf
  rcases List.mem_cons.mp hf with rfl | hf
  · refine ⟨f, List.mem_cons_self, ?_, Nat.le_refl _, .refl⟩
    rw [number_enter_self, low_enter, if_pos rfl]
  · obtain ⟨y, hy, heq, hle, hreach⟩ := h.reaches_low f hf
    refine ⟨y, List.mem_cons_of_mem _ hy, ?_, ?_, hreach⟩
    · rw [number_enter_of_mem hnew (h.stack_index y hy), heq,
        low_enter_of_mem hnew (h.path_index hf)]
    · rwa [number_enter_of_mem hnew (h.stack_index y hy),
        number_enter_of_mem hnew (h.path_index hf)]

theorem Sound.followed_enter (hx : x ∈ t.stack) (hfollowed : Followed t (path frames) x u) :
    Followed (enter table w t) (w :: path frames) x u := by
  obtain ⟨hu, hlow⟩ := hfollowed
  have hxindex := h.stack_index x hx
  refine ⟨mem_index_enter.mpr (.inr hu), fun hstacked f howner => ?_⟩
  have hstacked : u ∈ t.stack := by
    refine (List.mem_cons.mp hstacked).resolve_left ?_
    rintro rfl
    exact hnew hu
  -- the new node is later than `x`, so that the owner of `x` is the same
  have howner : Owner t.number (path frames) f x :=
    ((owner_cons_iff (h.number_lt_enter hnew hxindex)).mp howner).congr
      (fun y hy => number_enter_of_mem hnew (h.path_index hy)) (number_enter_of_mem hnew hxindex)
  rw [low_enter_of_mem hnew (h.path_index howner.mem), number_enter_of_mem hnew hu]
  exact hlow hstacked f howner

end Enter

/-- A node can be entered that all explored nodes reach. -/
theorem Sound.enter (h : Sound g t frames) (hw : w ∈ g.nodes) (hnew : w ∉ t.index)
    (hreach : ∀ f ∈ path frames, g.Reach f w) :
    Sound g (enter g.table w t) (⟨w, sorted (g.table.getD w [])⟩ :: frames) := by
  refine
    { numbered := ?numbered
      known := ?known
      stack_index := ?stack_index
      onStack := ?onStack
      descending := h.descending_enter hnew h.stack_index h.descending
      path_stack := ?path_stack
      path_descending := h.descending_enter hnew (fun _ => h.path_index) h.path_descending
      spans := h.spans_enter hnew hreach
      reaches_low := h.reaches_low_enter hnew
      returns := ?returns
      pending := ?pending
      followed := ?followed
      closed := ?closed
      groups := ?groups
      groups_nodup := h.groups_nodup }
  case numbered =>
    intro x hx
    rcases mem_index_enter.mp hx with rfl | hx
    · rw [number_enter_self]
      exact Nat.lt_succ_self _
    · rw [number_enter_of_mem hnew hx]
      exact Nat.lt_succ_of_lt (h.numbered x hx)
  case known =>
    intro x hx
    rcases mem_index_enter.mp hx with rfl | hx
    · exact hw
    · exact h.known x hx
  case stack_index =>
    intro x hx
    rw [mem_index_enter]
    exact (List.mem_cons.mp hx).imp Eq.symm (h.stack_index x)
  case onStack =>
    intro x
    simp only [Traversal.enter, HashSet.mem_insert, beq_iff_eq, List.mem_cons, h.onStack]
    rw [eq_comm]
  case path_stack =>
    intro f hf
    exact List.mem_cons.mpr ((List.mem_cons.mp hf).imp_right (h.path_stack f))
  case returns =>
    intro x hx hnot
    rcases List.mem_cons.mp hx with rfl | hx
    · exact absurd List.mem_cons_self hnot
    · obtain ⟨y, hy, hlt, hreach⟩ := h.returns x hx fun hf => hnot (List.mem_cons_of_mem _ hf)
      refine ⟨y, List.mem_cons_of_mem _ hy, ?_, hreach⟩
      rwa [number_enter_of_mem hnew (h.stack_index y hy),
        number_enter_of_mem hnew (h.stack_index x hx)]
  case pending =>
    intro frame hframe x hx hnode
    rcases List.mem_cons.mp hframe with rfl | hframe
    · exact Adjacency.edge_iff_mem_table.mpr ⟨mem_sorted.mp hx, Adjacency.mem_table.mpr hnode⟩
    · exact h.pending frame hframe x hx hnode
  case followed =>
    intro x hx y hedge
    rcases List.mem_cons.mp hx with rfl | hx
    · exact .inl ⟨_, List.mem_cons_self, rfl,
        mem_sorted.mpr (Adjacency.edge_iff_mem_table.mp hedge).1⟩
    · rcases h.followed x hx y hedge with ⟨frame, hframe, hwaiting⟩ | hfollowed
      · exact .inl ⟨frame, List.mem_cons_of_mem _ hframe, hwaiting⟩
      · exact .inr (h.followed_enter hnew hx hfollowed)
  case closed =>
    intro x hx y hedge
    rw [closed_enter hnew] at hx ⊢
    exact h.closed x hx y hedge
  case groups =>
    intro group
    rw [show (Traversal.enter g.table w t).groups = t.groups from rfl, h.groups]
    simp only [closed_enter hnew]

/-! ## Looking at a successor -/

/-- A successor that has been looked at need not wait any longer. -/
theorem Sound.advance (before : List Frame) {rest : List String}
    (h : Sound g t (before ++ ⟨v, w :: rest⟩ :: frames))
    (hw : g.Edge v w → Followed t (path (before ++ ⟨v, w :: rest⟩ :: frames)) v w) :
    Sound g t (before ++ ⟨v, rest⟩ :: frames) := by
  have hpath : path (before ++ ⟨v, rest⟩ :: frames) = path (before ++ ⟨v, w :: rest⟩ :: frames) := by
    simp [path]
  refine
    { h with
      path_stack := ?path_stack
      path_descending := ?path_descending
      spans := ?spans
      reaches_low := ?reaches_low
      returns := ?returns
      pending := ?pending
      followed := ?followed }
  case pending =>
    intro frame hframe x hx hnode
    rcases List.mem_append.mp hframe with hframe | hframe
    · exact h.pending frame (by simp [hframe]) x hx hnode
    · rcases List.mem_cons.mp hframe with rfl | hframe
      · exact h.pending ⟨v, w :: rest⟩ (by simp) x (List.mem_cons_of_mem w hx) hnode
      · exact h.pending frame (by simp [hframe]) x hx hnode
  case followed =>
    intro x hx y hedge
    rw [hpath]
    rcases h.followed x hx y hedge with ⟨frame, hframe, rfl, hy⟩ | hfollowed
    · rcases List.mem_append.mp hframe with hframe | hframe
      · exact .inl ⟨frame, by simp [hframe], rfl, hy⟩
      · rcases List.mem_cons.mp hframe with rfl | hframe
        · rcases List.mem_cons.mp hy with rfl | hy
          · exact .inr (hw hedge)
          · exact .inl ⟨⟨v, rest⟩, by simp, rfl, hy⟩
        · exact .inl ⟨frame, by simp [hframe], rfl, hy⟩
    · exact .inr hfollowed
  all_goals rw [hpath]
  · exact h.path_stack
  · exact h.path_descending
  · exact h.spans
  · exact h.reaches_low
  · exact h.returns

/-- It may be recorded that an explored node reaches one that waits. -/
theorem Sound.lower (h : Sound g t frames) (hx : x ∈ t.stack) (hreach : g.Reach v x) :
    Sound g (t.lower v (t.number x)) frames := by
  refine { h with reaches_low := ?reaches_low, followed := ?followed }
  case reaches_low =>
    intro f hf
    obtain ⟨y, hy, heq, hle, hreach'⟩ := h.reaches_low f hf
    rw [low_lower]
    split
    · rename_i hv
      subst hv
      rcases Nat.le_total (t.low v) (t.number x) with hmin | hmin
      · exact ⟨y, hy, heq.trans (Nat.min_eq_left hmin).symm, hle, hreach'⟩
      · refine ⟨x, hx, (Nat.min_eq_right hmin).symm, ?_, hreach⟩
        exact Nat.le_trans hmin (heq ▸ hle)
    · exact ⟨y, hy, heq, hle, hreach'⟩
  case followed =>
    intro y hy z hedge
    refine (h.followed y hy z hedge).imp_right fun ⟨hz, hfollowed⟩ => ⟨hz, fun hstacked f howner => ?_⟩
    exact Nat.le_trans (low_lower_le t v f _) (hfollowed hstacked f howner)

/-- What `scan` leaves: all successors have been looked at, or it has stopped at a new one. -/
theorem Sound.scan {pending : List String} (h : Sound g t (⟨v, pending⟩ :: frames)) :
    match Traversal.scan g.table v pending t with
    | (t', none) => Sound g t' (⟨v, []⟩ :: frames)
    | (t', some (w, rest)) => Sound g t' (⟨v, w :: rest⟩ :: frames) := by
  fun_induction Traversal.scan g.table v pending t with
  | case1 t => exact h
  | case2 w rest t hno ih =>
      refine ih (Sound.advance [] h fun hedge => ?_)
      exact absurd (Adjacency.edge_iff_mem_table.mp hedge).2 hno
  | case3 w rest t hno hnew => exact h
  | case4 w rest t hno hnew hstacked ih =>
      rw [h.onStack] at hstacked
      rw [Decidable.not_not] at hno hnew
      have hedge := h.pending _ List.mem_cons_self w List.mem_cons_self (Adjacency.mem_table.mp hno)
      have hlower := h.lower hstacked hedge.reach
      refine ih (Sound.advance [] hlower fun _ => ⟨hnew, fun _ f howner => ?_⟩)
      rw [howner.eq_head hlower.path_descending (Nat.le_refl _), low_lower, if_pos rfl]
      exact Nat.min_le_right _ _
  | case5 w rest t hno hnew hleft ih =>
      rw [h.onStack] at hleft
      rw [Decidable.not_not] at hnew
      exact ih (Sound.advance [] h fun _ => ⟨hnew, fun hstacked => absurd hstacked hleft⟩)

/-- The successor at which `scan` stops is entered. -/
theorem Sound.enter_pending {rest : List String} (h : Sound g t (⟨v, w :: rest⟩ :: frames))
    (hw : w ∈ g.nodes) (hnew : w ∉ t.index) :
    Sound g (Traversal.enter g.table w t)
      (⟨w, sorted (g.table.getD w [])⟩ :: ⟨v, rest⟩ :: frames) := by
  have hedge : g.Edge v w := h.pending _ List.mem_cons_self w List.mem_cons_self hw
  have hv : v ∈ t.stack := h.path_stack v List.mem_cons_self
  have hreach : ∀ f ∈ path (⟨v, w :: rest⟩ :: frames), g.Reach f w := by
    intro f hf
    refine (h.spans f hf v hv ?_).tail hedge
    rcases List.mem_cons.mp hf with rfl | hf
    · exact Nat.le_refl _
    · exact Nat.le_of_lt ((List.pairwise_cons.mp h.path_descending).1 f hf)
  have henter := h.enter hw hnew hreach
  refine Sound.advance [_] henter fun _ => ⟨mem_index_enter.mpr (.inl rfl), ?_⟩
  intro _ f howner
  -- an owner of `v` was entered before `w`
  obtain ⟨y, -, heq, hle, -⟩ := henter.reaches_low f howner.mem
  have hlt : (Traversal.enter g.table w t).number v < (Traversal.enter g.table w t).number w :=
    h.number_lt_enter hnew (h.stack_index v hv)
  rw [← heq]
  exact Nat.le_trans (Nat.le_trans hle howner.le) (Nat.le_of_lt hlt)

/-! ## Leaving a node -/

/-- A node that reaches an earlier one is left on the stack. What it reaches has been handed on. -/
theorem Sound.retreat (h : Sound g t (⟨v, []⟩ :: frames)) (hlow : t.low v ≠ t.number v)
    (hparent : ∀ u ∈ (path frames).head?, t.low u ≤ t.low v) : Sound g t frames := by
  obtain ⟨hv, hdescending⟩ : (∀ f ∈ path frames, t.number f < t.number v) ∧
      (path frames).Pairwise fun a b => t.number b < t.number a :=
    List.pairwise_cons.mp h.path_descending
  refine
    { h with
      path_stack := fun f hf => h.path_stack f (List.mem_cons_of_mem v hf)
      path_descending := hdescending
      spans := fun f hf => h.spans f (List.mem_cons_of_mem v hf)
      reaches_low := fun f hf => h.reaches_low f (List.mem_cons_of_mem v hf)
      returns := ?returns
      pending := fun frame hframe => h.pending frame (List.mem_cons_of_mem _ hframe)
      followed := ?followed }
  case returns =>
    intro x hx hnot
    by_cases hxv : x = v
    · subst hxv
      obtain ⟨y, hy, heq, hle, hreach⟩ := h.reaches_low x List.mem_cons_self
      exact ⟨y, hy, Nat.lt_of_le_of_ne hle (heq ▸ hlow), hreach⟩
    · refine h.returns x hx fun hf => ?_
      exact hnot ((List.mem_cons.mp hf).resolve_left hxv)
  case followed =>
    intro x hx w hedge
    rcases h.followed x hx w hedge with hwaiting | ⟨hw, hfollowed⟩
    · exact .inl (waiting_nil_cons_iff.mp hwaiting)
    · refine .inr ⟨hw, fun hstacked f howner => ?_⟩
      by_cases hle : t.number v ≤ t.number x
      · -- the edge was owned by `v` and is now owned by the node before it
        have hparent : t.low f ≤ t.low v := by
          refine hparent f ?_
          cases hpath : path frames with
          | nil =>
              have hmem := howner.mem
              rw [hpath] at hmem
              exact absurd hmem List.not_mem_nil
          | cons u rest =>
              rw [hpath] at howner hdescending hv
              have hu := Nat.le_of_lt (hv u List.mem_cons_self)
              rw [howner.eq_head hdescending (Nat.le_trans hu hle)]
              rfl
        exact Nat.le_trans hparent (hfollowed hstacked v (Owner.head h.path_descending hle))
      · exact hfollowed hstacked f ((owner_cons_iff (Nat.not_le.mp hle)).mpr howner)

section Segment

variable (h : Sound g t (⟨v, []⟩ :: frames)) (hlow : t.low v = t.number v)

include h hlow

/-- No edge leads below a node whose `low` is its own number. -/
theorem Sound.edge_stays (hx : x ∈ t.stack) (hle : t.number v ≤ t.number x) (hedge : g.Edge x w) :
    (w ∈ t.stack ∧ t.number v ≤ t.number w) ∨ Closed t w := by
  obtain ⟨hv, -⟩ := List.pairwise_cons.mp h.path_descending
  have hfollowed : Followed t (path (⟨v, []⟩ :: frames)) x w := by
    refine (h.followed x hx w hedge).resolve_left fun hwaiting => ?_
    obtain ⟨frame, hframe, rfl, -⟩ := waiting_nil_cons_iff.mp hwaiting
    exact absurd (hv frame.node (List.mem_map_of_mem hframe)) (Nat.not_lt.mpr hle)
  by_cases hstacked : w ∈ t.stack
  · exact .inl ⟨hstacked, hlow ▸ hfollowed.2 hstacked v (Owner.head h.path_descending hle)⟩
  · exact .inr ⟨hfollowed.1, hstacked⟩

theorem Sound.reach_stays (hx : x ∈ t.stack) (hle : t.number v ≤ t.number x)
    (hreach : g.Reach x w) : (w ∈ t.stack ∧ t.number v ≤ t.number w) ∨ Closed t w := by
  induction hreach with
  | refl => exact .inl ⟨hx, hle⟩
  | tail _ hedge ih =>
      rcases ih with ⟨hy, hle⟩ | hclosed
      · exact h.edge_stays hlow hy hle hedge
      · exact .inr (h.closed _ hclosed _ hedge)

/-- From above such a node all goes back to it. -/
theorem Sound.comes_back (hx : x ∈ t.stack) (hle : t.number v ≤ t.number x) : g.Reach x v := by
  -- each node goes back to an earlier one, which is still not below `v`
  induction hn : t.number x using Nat.strongRecOn generalizing x with
  | ind n ih =>
      by_cases hxv : x = v
      · rw [hxv]
        exact .refl
      · have hnot : x ∉ path (⟨v, []⟩ :: frames) := by
          intro hf
          have hlt := (List.pairwise_cons.mp h.path_descending).1 x
            ((List.mem_cons.mp hf).resolve_left hxv)
          exact absurd hlt (Nat.not_lt.mpr hle)
        obtain ⟨y, hy, hlt, hreach⟩ := h.returns x hx hnot
        rcases h.reach_stays hlow hx hle hreach with ⟨-, hle'⟩ | hclosed
        · exact hreach.trans (ih _ (hn ▸ hlt) hy hle' rfl)
        · exact absurd hy hclosed.2

/-- The stack down to such a node is the group of the node. -/
theorem Sound.segment_iff :
    (x ∈ t.stack ∧ t.number v ≤ t.number x) ↔ x ∈ g.nodes ∧ g.Mutual v x := by
  have hv : v ∈ t.stack := h.path_stack v List.mem_cons_self
  constructor
  · rintro ⟨hx, hle⟩
    exact ⟨h.known x (h.stack_index x hx), h.spans v List.mem_cons_self x hx hle,
      h.comes_back hlow hx hle⟩
  · rintro ⟨-, hto, hback⟩
    refine (h.reach_stays hlow hv (Nat.le_refl _) hto).resolve_right fun hclosed => ?_
    exact absurd hv (h.reach_closed hclosed hback).2

end Segment

/-- The stack from a node on, and what is below it. -/
structure Popped (t : Traversal) (v : String) (group left : List String) : Prop where
  popTo_eq : popTo v t.stack = (group, left)
  nodup : group.Nodup
  mem_group : ∀ x, x ∈ group ↔ x ∈ t.stack ∧ t.number v ≤ t.number x
  mem_left : ∀ x, x ∈ left ↔ x ∈ t.stack ∧ t.number x < t.number v
  descending : left.Pairwise fun a b => t.number b < t.number a

theorem Sound.exists_popped (h : Sound g t frames) (hv : v ∈ t.stack) :
    ∃ group left, Popped t v group left := by
  obtain ⟨above, below, hstack⟩ := List.append_of_mem hv
  have hdescending := h.descending
  rw [hstack, List.pairwise_append] at hdescending
  obtain ⟨habove, hbelow, hbetween⟩ := hdescending
  obtain ⟨hv', hbelow⟩ := List.pairwise_cons.mp hbelow
  have hlater : ∀ x ∈ above, t.number v < t.number x :=
    fun x hx => hbetween x hx v List.mem_cons_self
  have hnot : v ∉ above := fun hmem => Nat.lt_irrefl _ (hlater v hmem)
  refine ⟨above ++ [v], below, by rw [hstack, popTo_append above below hnot], ?_, ?_, ?_, hbelow⟩
  · refine List.nodup_append.mpr ⟨habove.imp ?_, by simp, ?_⟩
    · rintro a b hlt rfl
      exact Nat.lt_irrefl _ hlt
    · rintro a ha b hb rfl
      exact hnot (List.mem_singleton.mp hb ▸ ha)
  · intro x
    rw [hstack]
    simp only [List.mem_append, List.mem_cons, List.not_mem_nil, or_false]
    grind
  · intro x
    rw [hstack]
    simp only [List.mem_append, List.mem_cons]
    grind

namespace Popped

variable {group left other : List String} (hpop : Popped t v group left)

include hpop

theorem close_eq : t.close v =
    { t with
      stack := left
      onStack := group.foldl (fun s w => s.erase w) t.onStack
      groups := if 2 ≤ group.length then t.groups ++ [sorted group] else t.groups } := by
  rw [Traversal.close, hpop.popTo_eq]

theorem mem_groups_close : other ∈ (t.close v).groups ↔
    other ∈ t.groups ∨ (2 ≤ group.length ∧ other = sorted group) := by
  rw [hpop.close_eq]
  dsimp only
  split
  · rename_i hlength
    simp [hlength]
  · rename_i hlength
    simp [hlength]

theorem closed_close_iff (h : Sound g t frames) :
    Closed (t.close v) x ↔ Closed t x ∨ x ∈ group := by
  rw [hpop.close_eq]
  simp only [Closed, hpop.mem_left, hpop.mem_group]
  have hindex := h.stack_index x
  grind

variable (h : Sound g t (⟨v, []⟩ :: frames)) (hlow : t.low v = t.number v)

include h hlow

theorem mem_group_iff : x ∈ group ↔ x ∈ g.nodes ∧ g.Mutual v x := by
  rw [hpop.mem_group, h.segment_iff hlow]

theorem isCycle (hlength : 2 ≤ group.length) : IsCycle g (sorted group) := by
  refine isCycle_iff_exists_member.mpr ⟨strictlyAscending_sorted hpop.nodup, ?_, v,
    h.known v (h.path_index List.mem_cons_self), fun x => ?_⟩
  · rwa [sorted, List.length_mergeSort]
  · rw [mem_sorted, hpop.mem_group_iff h hlow]

/-- Two groups with a common member are the same. -/
theorem eq_sorted (hother : IsCycle g other) (hx : x ∈ other) (hxgroup : x ∈ group) :
    other = sorted group := by
  have hmutual := ((hpop.mem_group_iff h hlow).mp hxgroup).2
  refine hother.ascending.eq_of_mem_iff (strictlyAscending_sorted hpop.nodup) fun y => ?_
  rw [mem_sorted, hpop.mem_group_iff h hlow, hother.members x hx]
  exact and_congr_right fun _ => ⟨hmutual.trans, hmutual.symm.trans⟩

theorem groups_close : other ∈ (t.close v).groups ↔
    IsCycle g other ∧ ∀ x ∈ other, Closed (t.close v) x := by
  have hclosed : ∀ x, Closed (t.close v) x ↔ Closed t x ∨ x ∈ group :=
    fun x => hpop.closed_close_iff h
  rw [hpop.mem_groups_close, h.groups]
  constructor
  · rintro (⟨hother, hmembers⟩ | ⟨hlength, rfl⟩)
    · exact ⟨hother, fun x hx => (hclosed x).mpr (.inl (hmembers x hx))⟩
    · exact ⟨hpop.isCycle h hlow hlength,
        fun x hx => (hclosed x).mpr (.inr (mem_sorted.mp hx))⟩
  · rintro ⟨hother, hmembers⟩
    by_cases hmeet : ∃ x ∈ other, x ∈ group
    · obtain ⟨x, hx, hxgroup⟩ := hmeet
      have heq := hpop.eq_sorted h hlow hother hx hxgroup
      have hseveral := hother.several
      rw [heq, sorted, List.length_mergeSort] at hseveral
      exact .inr ⟨hseveral, heq⟩
    · refine .inl ⟨hother, fun x hx => ((hclosed x).mp (hmembers x hx)).resolve_right ?_⟩
      exact fun hxgroup => hmeet ⟨x, hx, hxgroup⟩

end Popped

/-- A node whose `low` is its own number closes its group. -/
theorem Sound.close (h : Sound g t (⟨v, []⟩ :: frames)) (hlow : t.low v = t.number v) :
    Sound g (t.close v) frames := by
  have hv : v ∈ t.stack := h.path_stack v List.mem_cons_self
  obtain ⟨hfirst, hdescending⟩ := List.pairwise_cons.mp h.path_descending
  obtain ⟨group, left, hpop⟩ := h.exists_popped hv
  have hleft := hpop.mem_left
  refine
    { numbered := ?numbered
      known := ?known
      stack_index := ?stack_index
      onStack := ?onStack
      descending := ?descending
      path_stack := ?path_stack
      path_descending := ?path_descending
      spans := ?spans
      reaches_low := ?reaches_low
      returns := ?returns
      pending := fun frame hframe => h.pending frame (List.mem_cons_of_mem _ hframe)
      followed := ?followed
      closed := ?closed
      groups := fun other => hpop.groups_close h hlow
      groups_nodup := ?groups_nodup }
  case closed =>
    intro x hx y hedge
    rw [hpop.closed_close_iff h] at hx ⊢
    rcases hx with hx | hx
    · exact .inl (h.closed x hx y hedge)
    · obtain ⟨hstacked, hle⟩ := (hpop.mem_group x).mp hx
      rw [hpop.mem_group]
      exact (h.edge_stays hlow hstacked hle hedge).symm
  all_goals rw [hpop.close_eq]
  case numbered => exact h.numbered
  case known => exact h.known
  case descending => exact hpop.descending
  case path_descending => exact hdescending
  case groups_nodup =>
    dsimp only
    split
    · refine List.nodup_append.mpr ⟨h.groups_nodup, by simp, ?_⟩
      rintro other hother b hb rfl
      have hvgroup : v ∈ other := by
        rw [List.mem_singleton.mp hb, mem_sorted, hpop.mem_group]
        exact ⟨hv, Nat.le_refl _⟩
      exact (((h.groups other).mp hother).2 v hvgroup).2 hv
    · exact h.groups_nodup
  case onStack =>
    intro x
    simp only [mem_foldl_erase, h.onStack, hpop.mem_group, hleft]
    grind
  case stack_index =>
    intro x hx
    exact h.stack_index x ((hleft x).mp hx).1
  case path_stack =>
    intro f hf
    exact (hleft f).mpr ⟨h.path_stack f (List.mem_cons_of_mem v hf), hfirst f hf⟩
  case spans =>
    intro f hf x hx
    exact h.spans f (List.mem_cons_of_mem v hf) x ((hleft x).mp hx).1
  case reaches_low =>
    intro f hf
    obtain ⟨y, hy, heq, hle, hreach⟩ := h.reaches_low f (List.mem_cons_of_mem v hf)
    exact ⟨y, (hleft y).mpr ⟨hy, Nat.lt_of_le_of_lt hle (hfirst f hf)⟩, heq, hle, hreach⟩
  case returns =>
    intro x hx hnot
    obtain ⟨hstacked, hlt⟩ := (hleft x).mp hx
    have hnot' : x ∉ path (⟨v, []⟩ :: frames) := by
      intro hf
      rcases List.mem_cons.mp hf with rfl | hf
      · exact Nat.lt_irrefl _ hlt
      · exact hnot hf
    obtain ⟨y, hy, hlt', hreach⟩ := h.returns x hstacked hnot'
    exact ⟨y, (hleft y).mpr ⟨hy, Nat.lt_trans hlt' hlt⟩, hlt', hreach⟩
  case followed =>
    intro x hx w hedge
    obtain ⟨hstacked, hlt⟩ := (hleft x).mp hx
    rcases h.followed x hstacked w hedge with hwaiting | ⟨hw, hfollowed⟩
    · exact .inl (waiting_nil_cons_iff.mp hwaiting)
    · refine .inr ⟨hw, fun hwleft f howner => ?_⟩
      exact hfollowed ((hleft w).mp hwleft).1 f ((owner_cons_iff hlt).mpr howner)

/-- What a node reaches is handed on to the node from which it was entered. -/
theorem Sound.report (h : Sound g t (⟨v, []⟩ :: frames)) (hframes : t.frames = frames) :
    Sound g (t.report v) (⟨v, []⟩ :: frames) ∧
      ∀ u ∈ (path frames).head?, (t.report v).low u ≤ (t.report v).low v := by
  unfold Traversal.report
  rw [hframes]
  cases frames with
  | nil => exact ⟨h, by simp [path]⟩
  | cons parent frames =>
      have hlt : t.number parent.node < t.number v :=
        (List.pairwise_cons.mp h.path_descending).1 _ List.mem_cons_self
      have hne : parent.node ≠ v := fun heq => Nat.lt_irrefl _ (heq ▸ hlt)
      obtain ⟨y, hy, heq, -, hreach⟩ := h.reaches_low v List.mem_cons_self
      have hdown := h.spans parent.node (by simp [path]) v (h.path_stack v List.mem_cons_self)
        (Nat.le_of_lt hlt)
      dsimp only
      rw [← heq]
      refine ⟨h.lower hy (hdown.trans hreach), fun u hu => ?_⟩
      have hu : parent.node = u := by simpa [path] using hu
      rw [← hu, low_lower, low_lower, if_pos rfl, if_neg hne, heq]
      exact Nat.min_le_right _ _

theorem Sound.leave (h : Sound g t (⟨v, []⟩ :: frames)) (hframes : t.frames = frames) :
    Sound g (t.leave v) frames := by
  obtain ⟨hreport, hparent⟩ := h.report hframes
  unfold Traversal.leave
  dsimp only
  split
  · rename_i hlow
    exact hreport.close hlow
  · rename_i hlow
    exact hreport.retreat hlow hparent

/-! ## Turns -/

/-- **What one turn keeps.** -/
theorem Sound.turn (h : Sound g t t.frames) :
    Sound g (turn g.table t) (turn g.table t).frames := by
  unfold Traversal.turn
  split
  · exact h
  · rename_i v pending frames hframes
    rw [hframes] at h
    have hscan := h.scan
    have hindex := index_scan g.table v pending t
    split
    · rename_i t' w rest heq
      obtain ⟨hw, hnew⟩ := scan_stops (congrArg Prod.snd heq)
      rw [heq] at hindex
      replace hscan : Sound g t' (⟨v, w :: rest⟩ :: frames) := by rwa [heq] at hscan
      exact Sound.enter_pending hscan.withFrames (Adjacency.mem_table.mp hw) (hindex ▸ hnew)
    · rename_i t' heq
      replace hscan : Sound g t' (⟨v, []⟩ :: frames) := by rwa [heq] at hscan
      rw [frames_leave]
      exact Sound.leave hscan.withFrames rfl

theorem mem_index_turn {table : HashMap String (List String)} (h : x ∈ t.index) :
    x ∈ (turn table t).index := by
  unfold turn
  split
  · exact h
  · rename_i v pending frames _
    have hindex := index_scan table v pending t
    split
    · rename_i heq
      rw [heq] at hindex
      exact mem_index_enter.mpr (.inr (hindex ▸ h))
    · rename_i heq
      rw [heq] at hindex
      rw [index_leave]
      exact hindex ▸ h

/-- **What a run keeps.** At its end nothing is explored any more. -/
theorem Sound.run (h : Sound g t t.frames) :
    Sound g (run g.table t) [] ∧ (run g.table t).frames = [] ∧
      ∀ x ∈ t.index, x ∈ (run g.table t).index := by
  fun_induction Traversal.run g.table t with
  | case1 t hframes =>
      rw [hframes] at h
      exact ⟨h, hframes, fun x hx => hx⟩
  | case2 t frame frames hframes _ ih =>
      obtain ⟨hsound, hempty, hindex⟩ := ih h.turn
      exact ⟨hsound, hempty, fun x hx => hindex x (mem_index_turn hx)⟩

theorem Sound.visit (h : Sound g t []) (hframes : t.frames = []) (hv : v ∈ g.nodes) :
    Sound g (visit g.table t v) [] ∧ (visit g.table t v).frames = [] ∧
      ∀ x, x = v ∨ x ∈ t.index → x ∈ (visit g.table t v).index := by
  unfold Traversal.visit
  split
  · rename_i hmem
    exact ⟨h, hframes, by rintro x (rfl | hx) <;> assumption⟩
  · rename_i hnew
    have henter := h.enter hv hnew (by simp [path])
    have hsame : (Traversal.enter g.table v t).frames = [⟨v, sorted (g.table.getD v [])⟩] := by
      rw [Traversal.enter, hframes]
    rw [← hsame] at henter
    obtain ⟨hsound, hempty, hindex⟩ := henter.run
    refine ⟨hsound, hempty, fun x hx => hindex x (mem_index_enter.mpr ?_)⟩
    exact hx.imp_left Eq.symm

theorem Sound.visits {roots : List String} (h : Sound g t []) (hframes : t.frames = [])
    (hroots : ∀ v ∈ roots, v ∈ g.nodes) :
    Sound g (roots.foldl (Traversal.visit g.table) t) [] ∧
      ∀ x, x ∈ roots ∨ x ∈ t.index → x ∈ (roots.foldl (Traversal.visit g.table) t).index := by
  induction roots generalizing t with
  | nil => exact ⟨h, by simp⟩
  | cons v roots ih =>
      obtain ⟨hsound, hempty, hindex⟩ := h.visit hframes (hroots v List.mem_cons_self)
      obtain ⟨hend, hall⟩ := ih hsound hempty fun w hw => hroots w (List.mem_cons_of_mem v hw)
      refine ⟨hend, fun x hx => hall x ?_⟩
      rcases hx with hx | hx
      · rcases List.mem_cons.mp hx with rfl | hx
        · exact .inr (hindex _ (.inl rfl))
        · exact .inl hx
      · exact .inr (hindex x (.inr hx))

/-- Where nothing is being explored, nothing waits. -/
theorem Sound.not_mem_stack (h : Sound g t []) (x : String) : x ∉ t.stack := by
  induction hn : t.number x using Nat.strongRecOn generalizing x with
  | ind n ih =>
      intro hx
      obtain ⟨y, hy, hlt, -⟩ := h.returns x hx List.not_mem_nil
      exact ih _ (hn ▸ hlt) y rfl hy

end Traversal

variable {g : Adjacency} {group : List String}

/-- The traversal of a whole graph. -/
theorem exists_sound_traversal (g : Adjacency) :
    ∃ t : Traversal, findCycles g = sorted t.groups ∧ Traversal.Sound g t [] ∧
      ∀ v ∈ g.nodes, t.Closed v := by
  obtain ⟨hsound, hindex⟩ := (Traversal.Sound.initial g).visits rfl fun v hv => mem_ascending.mp hv
  exact ⟨_, rfl, hsound, fun v hv => ⟨hindex v (.inl (mem_ascending.mpr hv)), hsound.not_mem_stack v⟩⟩

/-- **The groups are the classes of mutual reachability.** -/
theorem mem_findCycles_iff : group ∈ findCycles g ↔ IsCycle g group := by
  obtain ⟨t, hgroups, hsound, hclosed⟩ := exists_sound_traversal g
  rw [hgroups, mem_sorted, hsound.groups]
  exact and_iff_left_of_imp fun hcycle v hv => hclosed v ((hcycle.members v hv v).mp hv).1

/-- The groups come in ascending order, and none comes twice. -/
theorem strictlyAscending_findCycles (g : Adjacency) : StrictlyAscending (findCycles g) := by
  obtain ⟨t, hgroups, hsound, -⟩ := exists_sound_traversal g
  rw [hgroups]
  exact strictlyAscending_sorted hsound.groups_nodup

/-- **The traversal finds what a comparison of reachability finds:** the groups of the nodes, those
of a single member left out. -/
theorem findCycles_eq_groupOf (g : Adjacency) :
    findCycles g = ascending ((g.nodes.map (groupOf g)).filter fun group => 2 ≤ group.length) := by
  refine (strictlyAscending_findCycles g).eq_of_mem_iff (strictlyAscending_ascending _) fun group => ?_
  rw [mem_findCycles_iff, mem_ascending, List.mem_filter, List.mem_map, decide_eq_true_iff]
  constructor
  · intro h
    obtain ⟨v, hv⟩ := h.exists_mem
    exact ⟨⟨v, ((h.members v hv v).mp hv).1, (h.eq_groupOf hv).symm⟩, h.several⟩
  · rintro ⟨⟨v, -, rfl⟩, hseveral⟩
    exact isCycle_groupOf hseveral

end ClassAtlas.Graph
