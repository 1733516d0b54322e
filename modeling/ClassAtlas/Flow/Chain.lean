import ClassAtlas.Graph.Call
import ClassAtlas.Text.Case
import Std.Data.HashSet

/-!
# Call chains

A call chain is a path in the call graph along which no method occurs twice. A
chain is reported where it cannot be continued without notice: at the depth
limit, at a method that calls nothing, or at one that calls back into the chain.
Chains of one method are not reported.

The search goes depth first, callees in ascending order. It keeps the paths that
it has still to come back to as a stack of branches. A path is offered at every
callee that calls back into it, so it may be offered more than once; what has
been found is a set. The search stops as soon as a cap on the size of that set is
reached, because the number of chains can grow exponentially with the depth.
-/

namespace ClassAtlas.Flow

open ClassAtlas.Graph (CallGraph)
open Std (HashSet)

/-- The chains found so far. -/
abbrev Found := HashSet (List String)

/-- A search that may go on with what it has found, or has been stopped by the cap with it. -/
abbrev Search := Except Found Found

/-- Takes a chain that is offered, if it has two or more methods. Reaching the cap stops the
search. -/
def take (cap : Option Int) (found : Found) (chain : List String) : Search :=
  if chain.length < 2 then .ok found
  else
    let found := found.insert chain
    if cap.any fun k => k ≤ (found.size : Int) then .error found else .ok found

/-- A path with the callees of its last method that are still to be tried, and whether the path has
been extended by one of the others. -/
structure Branch where
  /-- The first method first. -/
  path : List String
  pending : List String
  extended : Bool

/-- The branch of a start. -/
def Branch.start (callees : String → List String) (id : String) : Branch where
  path := [id]
  pending := callees id
  extended := false

/-- Tries callees up to the first that is not on the path, which is returned with those behind it.
The path is offered at each callee that is on it, and at the end unless it has been extended. -/
def drain (cap : Option Int) (path : List String) (extended : Bool) :
    List String → Found → Except Found (Found × Option (String × List String))
  | [], found => if extended then .ok (found, none) else (take cap found path).map (·, none)
  | callee :: pending, found =>
    if callee ∈ path then (take cap found path).bind (drain cap path extended pending)
    else .ok (found, some (callee, pending))

/-! ### The work that branches stand for -/

/-- The number of turns that the callees of a path take, when `room` methods may be added to it. -/
def turns (callees : String → List String) : (room : Nat) → (pending : List String) → Nat
  | 0, _ => 1
  | room + 1, pending => 1 + total (pending.map fun m => turns callees room (callees m) + 1)

/-- The number of turns that a branch takes. -/
def Branch.turns (callees : String → List String) (depth : Nat) (b : Branch) : Nat :=
  Flow.turns callees (depth - b.path.length) b.pending

theorem turns_pos (callees : String → List String) (room : Nat) (pending : List String) :
    0 < turns callees room pending := by
  cases room with
  | zero => exact Nat.one_pos
  | succ room => exact Nat.lt_add_right _ Nat.one_pos

theorem turns_cons (callees : String → List String) (room : Nat) (m : String)
    (pending : List String) :
    turns callees (room + 1) (m :: pending) =
      turns callees room (callees m) + 1 + turns callees (room + 1) pending := by
  rw [turns, turns, List.map_cons, total_cons]
  omega

/-- What `drain` leaves takes fewer turns than what it began with. -/
theorem turns_drain (callees : String → List String) {cap : Option Int} {path : List String}
    {extended : Bool} {pending rest : List String} {found found' : Found} {callee : String}
    (h : drain cap path extended pending found = .ok (found', some (callee, rest))) (room : Nat) :
    turns callees room (callees callee) + turns callees (room + 1) rest <
      turns callees (room + 1) pending := by
  induction pending generalizing found with
  | nil =>
      rw [drain] at h
      cases extended with
      | true => simp at h
      | false => cases htake : take cap found path <;> simp [htake, Except.map] at h
  | cons m pending ih =>
      rw [turns_cons]
      rw [drain] at h
      split at h
      · cases htake : take cap found path with
        | error => simp [htake, Except.bind] at h
        | ok found =>
            rw [htake] at h
            have hless := ih h
            omega
      · simp only [Except.ok.injEq, Prod.mk.injEq, Option.some.injEq] at h
        obtain ⟨-, rfl, rfl⟩ := h
        omega

theorem turns_drop (callees : String → List String) (depth : Nat) (b : Branch)
    (branches : List Branch) :
    total (branches.map (Branch.turns callees depth)) <
      total ((b :: branches).map (Branch.turns callees depth)) := by
  rw [List.map_cons, total_cons]
  exact Nat.lt_add_of_pos_left (turns_pos ..)

theorem turns_extend (callees : String → List String) {depth : Nat} {cap : Option Int} {b : Branch}
    {found found' : Found} {callee : String} {rest : List String}
    (hdepth : ¬ depth ≤ b.path.length)
    (h : drain cap b.path b.extended b.pending found = .ok (found', some (callee, rest)))
    (branches : List Branch) :
    total ((⟨b.path ++ [callee], callees callee, false⟩ :: ⟨b.path, rest, true⟩ :: branches).map
        (Branch.turns callees depth)) <
      total ((b :: branches).map (Branch.turns callees depth)) := by
  obtain ⟨room, hroom⟩ : ∃ room, depth - b.path.length = room + 1 :=
    ⟨depth - b.path.length - 1, by omega⟩
  have hless := turns_drain callees h room
  have hnext : depth - (b.path ++ [callee]).length = room := by
    rw [List.length_append, List.length_singleton]
    omega
  simp only [List.map_cons, total_cons, Branch.turns, hroom, hnext]
  omega

/-- Works off a stack of branches. A path of `depth` methods is offered as it is; any other is
extended by the next callee that is not on it, and the search comes back to it later. -/
def walk (callees : String → List String) (depth : Nat) (cap : Option Int) :
    List Branch → Found → Search
  | [], found => .ok found
  | b :: branches, found =>
    have := turns_drop callees depth b branches
    if hdepth : depth ≤ b.path.length then
      (take cap found b.path).bind (walk callees depth cap branches)
    else
      match hdrain : drain cap b.path b.extended b.pending found with
      | .error found => .error found
      | .ok (found, none) => walk callees depth cap branches found
      | .ok (found, some (callee, pending)) =>
        have := turns_extend callees hdepth hdrain branches
        walk callees depth cap
          (⟨b.path ++ [callee], callees callee, false⟩ :: ⟨b.path, pending, true⟩ :: branches) found
termination_by branches => total (branches.map (Branch.turns callees depth))
decreasing_by all_goals assumption

/-- Limits of a search. -/
structure ChainLimits where
  /-- The greatest number of methods in a chain, `none` for no limit. -/
  depth : Option Int
  /-- The number of chains at which the search stops, `none` for no cap. -/
  cap : Option Int
  deriving DecidableEq, Repr

/-- The number of methods at which a path is not extended any more. A path without repetitions
never has more methods than the graph, or it is a single start. -/
def depthFor (g : CallGraph) : Option Int → Nat
  | some depth => depth.toNat
  | none => g.nodes.length + 1

/-- Searches from the entry points, or from all declared methods, one after the other. -/
def searchChains (g : CallGraph) (limits : ChainLimits) (entryPoints : Option (List String)) :
    Search :=
  if limits.depth.any (· < 1) then .ok ∅
  else
    let starts := (entryPoints.map ascending).getD g.methods
    starts.foldlM (fun found start =>
      walk g.callees (depthFor g limits.depth) limits.cap [.start g.callees start] found) ∅

/-- What a chain does, told by the name of the class it starts in. -/
def chainPurpose (methods : List String) : String :=
  match methods with
  | [] => "UNKNOWN"
  | first :: _ =>
    let name := Text.lower (Text.afterLast '.' (Text.splitFirst '#' first).1)
    let markers := [("controller", "REQUEST_HANDLING"), ("service", "BUSINESS_LOGIC"),
      ("repository", "DATA_ACCESS"), ("dao", "DATA_ACCESS")]
    ((markers.find? fun e => Text.containsText name e.1).map Prod.snd).getD "GENERAL"

/-- A call chain and what it does. -/
structure CallChain where
  methods : List String
  purpose : String
  deriving DecidableEq, Repr

/-- Chains in ascending order, and the notice given if the search was stopped. -/
structure ChainReport where
  chains : List CallChain
  notices : List String
  deriving DecidableEq, Repr

/-- Told when the cap has stopped a search. -/
def stoppedNotice (count : Nat) : String :=
  s!"Call-chain enumeration stopped at {count} chains (max_chains)"

/-- The chains found, in ascending order. -/
def listed (found : Found) : List CallChain :=
  (sorted found.toList).map fun methods => ⟨methods, chainPurpose methods⟩

/-- What is told of a search. -/
def ChainReport.ofSearch : Search → ChainReport
  | .ok found => ⟨listed found, []⟩
  | .error found => ⟨listed found, [stoppedNotice found.size]⟩

/-- The call chains of classes within limits. -/
def callChains (classes : List ClassInfo) (limits : ChainLimits)
    (entryPoints : Option (List String) := none) : ChainReport :=
  ChainReport.ofSearch (searchChains (CallGraph.build classes) limits entryPoints)

end ClassAtlas.Flow
