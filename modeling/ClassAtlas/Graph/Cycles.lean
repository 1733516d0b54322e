import ClassAtlas.Order.Ascending
import Std.Data.HashMap
import Std.Data.HashSet

/-!
# Cycles of a directed graph

A graph is given by the successors of each of its nodes; successors that are no
nodes are ignored. Two nodes lie on a common cycle if each can be reached from
the other. `findCycles` lists the groups of mutually reachable nodes that have
at least two members: a loop at a single node is no cycle.

The groups come from one traversal in depth. Nodes are numbered as they are
entered and wait on a stack until their group is known. The nodes that are being
explored are frames of their own, each with the successors that are still to be
looked at, so that a deep graph needs no deep recursion. For every node the
traversal keeps the least number on the stack that it is known to reach; a node
for which this is its own number, when it is left, closes a group, which is the
part of the stack down to it.
-/

namespace ClassAtlas.Graph

open Std (HashMap HashSet)

/-- Nodes with their successors, as they come. -/
abbrev Adjacency := List (String × List String)

namespace Adjacency

/-- The nodes, as they come. -/
def nodes (g : Adjacency) : List String := g.map Prod.fst

/-- The listed successors by node. Of two entries for a node the first counts. -/
def table (g : Adjacency) : HashMap String (List String) :=
  g.foldl (fun m e => m.insertIfNew e.1 e.2) ∅

end Adjacency

/-- A node that is being explored, with the successors that are still to be looked at. -/
structure Frame where
  node : String
  pending : List String

/-- How far a traversal has come. -/
structure Traversal where
  /-- The nodes that have been entered, numbered in the order of entry. -/
  index : HashMap String Nat := ∅
  /-- The least number on the stack that each node is known to reach. -/
  lowlink : HashMap String Nat := ∅
  /-- The nodes on the stack. -/
  onStack : HashSet String := ∅
  /-- The nodes whose group is not known yet, the latest first. -/
  stack : List String := []
  /-- The nodes that are being explored, the latest first. -/
  frames : List Frame := []
  /-- The groups found so far. -/
  groups : List (List String) := []
  /-- The number of the next node. -/
  counter : Nat := 0

namespace Traversal

/-- The number of a node. -/
def number (t : Traversal) (v : String) : Nat := t.index.getD v 0

/-- The least number that `v` is known to reach. -/
def low (t : Traversal) (v : String) : Nat := t.lowlink.getD v 0

/-- Records that `v` reaches the number `n`. -/
def lower (t : Traversal) (v : String) (n : Nat) : Traversal :=
  { t with lowlink := t.lowlink.insert v (min (t.low v) n) }

/-- Enters a node: it gets the next number, goes onto the stack and is explored next. -/
def enter (table : HashMap String (List String)) (w : String) (t : Traversal) : Traversal :=
  { t with
    index := t.index.insert w t.counter
    lowlink := t.lowlink.insert w t.counter
    counter := t.counter + 1
    stack := w :: t.stack
    onStack := t.onStack.insert w
    frames := ⟨w, sorted (table.getD w [])⟩ :: t.frames }

/-- Looks at successors of `v` up to the first that has not been entered, which is returned with
those behind it. -/
def scan (table : HashMap String (List String)) (v : String) :
    List String → Traversal → Traversal × Option (String × List String)
  | [], t => (t, none)
  | w :: rest, t =>
    if w ∉ table then scan table v rest t
    else if w ∉ t.index then (t, some (w, rest))
    else if w ∈ t.onStack then scan table v rest (t.lower v (t.number w))
    else scan table v rest t

/-- Splits a stack behind `v`: what is popped, and what is left. -/
def popTo (v : String) : List String → List String × List String
  | [] => ([], [])
  | w :: rest =>
    if w = v then ([w], rest)
    else
      let (popped, left) := popTo v rest
      (w :: popped, left)

/-- Takes the group of `v` from the stack. It is kept if it has two members. -/
def close (v : String) (t : Traversal) : Traversal :=
  let (group, left) := popTo v t.stack
  { t with
    stack := left
    onStack := group.foldl (fun s w => s.erase w) t.onStack
    groups := if 2 ≤ group.length then t.groups ++ [sorted group] else t.groups }

/-- Hands what `v` reaches on to the node from which it was entered. -/
def report (v : String) (t : Traversal) : Traversal :=
  match t.frames with
  | [] => t
  | parent :: _ => t.lower parent.node (t.low v)

/-- Ends the exploration of `v`, whose frame has been taken away. -/
def leave (v : String) (t : Traversal) : Traversal :=
  let t := t.report v
  if t.low v = t.number v then t.close v else t

/-- One turn at the latest frame: its next new successor is entered, or it is left. -/
def turn (table : HashMap String (List String)) (t : Traversal) : Traversal :=
  match t.frames with
  | [] => t
  | ⟨v, pending⟩ :: frames =>
    match scan table v pending t with
    | (t, some (w, rest)) => enter table w { t with frames := ⟨v, rest⟩ :: frames }
    | (t, none) => leave v { t with frames }

/-! ### Every turn enters a node or drops a frame -/

/-- How many nodes have not been entered. -/
def unentered (table : HashMap String (List String)) (t : Traversal) : Nat :=
  (table.keys.filter fun w => w ∉ t.index).length

@[simp] theorem index_lower (t : Traversal) (v : String) (n : Nat) :
    (t.lower v n).index = t.index := rfl

@[simp] theorem index_close (v : String) (t : Traversal) : (t.close v).index = t.index := rfl

@[simp] theorem frames_close (v : String) (t : Traversal) : (t.close v).frames = t.frames := rfl

@[simp] theorem index_report (v : String) (t : Traversal) : (t.report v).index = t.index := by
  unfold report
  split <;> rfl

@[simp] theorem frames_report (v : String) (t : Traversal) : (t.report v).frames = t.frames := by
  unfold report
  split <;> rfl

@[simp] theorem index_leave (v : String) (t : Traversal) : (t.leave v).index = t.index := by
  unfold leave
  dsimp only
  split <;> simp

@[simp] theorem frames_leave (v : String) (t : Traversal) : (t.leave v).frames = t.frames := by
  unfold leave
  dsimp only
  split <;> simp

@[simp] theorem index_scan (table : HashMap String (List String)) (v : String)
    (pending : List String) (t : Traversal) : (scan table v pending t).1.index = t.index := by
  fun_induction scan table v pending t <;> simp_all

/-- The successor that `scan` stops at is a node and has not been entered. -/
theorem scan_stops {table : HashMap String (List String)} {v w : String}
    {pending rest : List String} {t : Traversal}
    (h : (scan table v pending t).2 = some (w, rest)) : w ∈ table ∧ w ∉ t.index := by
  fun_induction scan table v pending t <;> simp_all

theorem unentered_enter {table : HashMap String (List String)} {w : String} {t : Traversal}
    (hw : w ∈ table) (hnew : w ∉ t.index) :
    unentered table (enter table w t) < unentered table t := by
  have hdrop : (table.keys.filter fun x => x ∉ (enter table w t).index) =
      (table.keys.filter fun x => x ∉ t.index).filter fun x => w ≠ x := by
    rw [List.filter_filter]
    refine List.filter_congr fun x _ => ?_
    simp [enter, HashMap.mem_insert]
  unfold unentered
  rw [hdrop]
  refine List.length_filter_lt_length_iff_exists.mpr ⟨w, ?_, by simp⟩
  exact List.mem_filter.mpr ⟨HashMap.mem_keys.mpr hw, decide_eq_true hnew⟩

theorem measure_turn (table : HashMap String (List String)) {t : Traversal} {frame : Frame}
    {frames : List Frame} (h : t.frames = frame :: frames) :
    2 * unentered table (turn table t) + (turn table t).frames.length <
      2 * unentered table t + t.frames.length := by
  have hindex := index_scan table frame.node frame.pending t
  unfold turn
  rw [h]
  dsimp only
  split
  · rename_i t' w rest hscan
    obtain ⟨hw, hnew⟩ := scan_stops (congrArg Prod.snd hscan)
    rw [hscan] at hindex
    have hless := unentered_enter (t := { t' with frames := ⟨frame.node, rest⟩ :: frames }) hw
      (by rwa [← hindex] at hnew)
    have hsame : unentered table { t' with frames := ⟨frame.node, rest⟩ :: frames } =
        unentered table t := by
      unfold unentered
      rw [← hindex]
    simp only [enter, List.length_cons] at hless ⊢
    omega
  · rename_i t' hscan
    rw [hscan] at hindex
    have hsame : unentered table (leave frame.node { t' with frames }) = unentered table t := by
      unfold unentered
      rw [index_leave, ← hindex]
    rw [hsame, frames_leave]
    simp

/-- Turns until no node is being explored. -/
def run (table : HashMap String (List String)) (t : Traversal) : Traversal :=
  match h : t.frames with
  | [] => t
  | _ :: _ =>
    have := measure_turn table h
    run table (turn table t)
termination_by 2 * unentered table t + t.frames.length

/-- Explores the graph from a node, unless it has been entered before. -/
def visit (table : HashMap String (List String)) (t : Traversal) (root : String) : Traversal :=
  if root ∈ t.index then t else run table (enter table root t)

end Traversal

/-- The groups of at least two mutually reachable nodes, each in ascending order, the groups
ascending too. -/
def findCycles (g : Adjacency) : List (List String) :=
  let table := g.table
  sorted ((ascending g.nodes).foldl (Traversal.visit table) {}).groups

end ClassAtlas.Graph
