import Mathlib.Data.Finset.Card
import Std.Data.String.ToNat
import ClassAtlas.Flow.Diagram
import ClassAtlas.Proofs.Order.Grouping

/-!
# Diagrams line by line

The body of a diagram is made of strokes: a method gets a name, or an arrow joins
two names. Links are drawn one after the other, and drawing one declares those of
its ends that have no name yet. What has been drawn stays as it is, names
included, so that `Drawn` is kept by a declaration, by an arrow, and hence by any
number of links.

Which links are drawn is settled before, by their order alone.

Main statement: `diagram_wellDrawn`.
-/

namespace ClassAtlas.Flow

/-! ## Links in order -/

/-- The methods between which data may flow. -/
def FlowPath.ends (p : FlowPath) : String × String := (p.source, p.target)

def Link.ends (l : Link) : String × String := (l.source, l.target)

/-- The paths between two methods. -/
def pathsBetween (paths : List FlowPath) (ends : String × String) : List FlowPath :=
  paths.filter fun p => p.ends = ends

/-- More paths come first, and of equally many the lesser source and then the lesser target. -/
def Ahead (paths : List FlowPath) (a b : String × String) : Prop :=
  (pathsBetween paths b).length < (pathsBetween paths a).length ∨
    (pathsBetween paths a).length = (pathsBetween paths b).length ∧
      (a.1 < b.1 ∨ a.1 = b.1 ∧ a.2 < b.2)

/-- The links of a diagram without limit, in order. -/
def ranked (paths : List FlowPath) : List Link := (linksOf paths).mergeSort linkOrder

section Ranked

variable {paths : List FlowPath} {a b : Link}

theorem linksOf_eq (paths : List FlowPath) : linksOf paths =
    (distinct (paths.map FlowPath.ends)).map fun ends =>
      ⟨ends.1, ends.2, (pathsBetween paths ends).map (·.type)⟩ := by
  unfold linksOf
  have hentries := Table.entries_groupBy FlowPath.ends paths
  unfold FlowPath.ends at hentries
  rw [hentries, List.map_map]
  rfl

theorem types_of_mem_ranked (h : a ∈ ranked paths) :
    a.types = (pathsBetween paths a.ends).map (·.type) := by
  have hmem : a ∈ linksOf paths := (List.mergeSort_perm _ _).mem_iff.mp h
  rw [linksOf_eq] at hmem
  obtain ⟨ends, -, rfl⟩ := List.mem_map.mp hmem
  rfl

theorem map_ends_linksOf (paths : List FlowPath) :
    (linksOf paths).map Link.ends = distinct (paths.map FlowPath.ends) := by
  rw [linksOf_eq, List.map_map]
  exact List.map_id' _

theorem map_ends_ranked_perm (paths : List FlowPath) :
    ((ranked paths).map Link.ends).Perm (distinct (paths.map FlowPath.ends)) := by
  rw [← map_ends_linksOf]
  exact (List.mergeSort_perm _ _).map Link.ends

theorem nodup_map_ends_ranked (paths : List FlowPath) : ((ranked paths).map Link.ends).Nodup :=
  (map_ends_ranked_perm paths).nodup_iff.mpr (nodup_distinct _)

/-- The order of sorting as a comparison. -/
def linkCompare : Link → Link → Ordering :=
  compareLex (fun a b => compareOn (fun l : Link => l.types.length) b a)
    (compareLex (compareOn Link.source) (compareOn Link.target))

instance : Std.TransCmp linkCompare :=
  inferInstanceAs (Std.TransCmp (compareLex
    (fun a b => compareOn (fun l : Link => l.types.length) b a)
    (compareLex (compareOn Link.source) (compareOn Link.target))))

theorem linkOrder_eq (a b : Link) : linkOrder a b = (linkCompare a b).isLE := by
  have hthen : linkCompare a b = (compare b.types.length a.types.length).then
      (compareLex (compareOn Link.source) (compareOn Link.target) a b) := rfl
  rw [linkOrder, hthen]
  cases hlength : compare b.types.length a.types.length with
  | lt => simp [Nat.compare_eq_lt.mp hlength]
  | eq => simp [Nat.compare_eq_eq.mp hlength]
  | gt =>
      have hless := Nat.compare_eq_gt.mp hlength
      simp [Nat.not_lt_of_lt hless, Nat.ne_of_lt hless]

/-- Links between different methods are never equal in order. -/
theorem linkCompare_eq_lt (h : linkOrder a b = true) (hends : a.ends ≠ b.ends) :
    linkCompare a b = .lt := by
  rw [linkOrder_eq] at h
  cases hcompare : linkCompare a b with
  | lt => rfl
  | eq =>
      obtain ⟨-, hrest⟩ := Ordering.then_eq_eq.mp hcompare
      obtain ⟨hsource, htarget⟩ := Ordering.then_eq_eq.mp hrest
      refine absurd (Prod.ext ?_ ?_) hends
      · exact Std.LawfulEqCmp.eq_of_compare hsource
      · exact Std.LawfulEqCmp.eq_of_compare htarget
  | gt =>
      rw [hcompare] at h
      cases h

theorem ahead_of_linkCompare (ha : a ∈ ranked paths) (hb : b ∈ ranked paths)
    (h : linkCompare a b = .lt) : Ahead paths a.ends b.ends := by
  have hstrength : ∀ l ∈ ranked paths, l.types.length = (pathsBetween paths l.ends).length := by
    intro l hl
    rw [types_of_mem_ranked hl, List.length_map]
  rw [Ahead, ← hstrength a ha, ← hstrength b hb]
  rcases Ordering.then_eq_lt.mp h with hlength | ⟨hlength, hrest⟩
  · exact .inl (Nat.compare_eq_lt.mp hlength)
  · refine .inr ⟨(Nat.compare_eq_eq.mp hlength).symm, ?_⟩
    rcases Ordering.then_eq_lt.mp hrest with hsource | ⟨hsource, htarget⟩
    · exact .inl (compareOfLessAndEq_eq_lt.mp hsource)
    · exact .inr ⟨Std.LawfulEqCmp.eq_of_compare hsource, compareOfLessAndEq_eq_lt.mp htarget⟩

/-- **Links come in order of their paths, then of their ends.** -/
theorem pairwise_ranked (paths : List FlowPath) :
    (ranked paths).Pairwise fun a b => Ahead paths a.ends b.ends := by
  have hsorted : (ranked paths).Pairwise fun a b => linkOrder a b = true := by
    have horder : linkOrder = fun a b => (linkCompare a b).isLE :=
      funext fun a => funext fun b => linkOrder_eq a b
    rw [ranked, horder]
    exact pairwise_mergeSort_isLE _
  have hdistinct := List.pairwise_map.mp (nodup_map_ends_ranked paths)
  refine List.Pairwise.imp_of_mem ?_ (hsorted.and hdistinct)
  rintro a b ha hb ⟨hle, hends⟩
  exact ahead_of_linkCompare ha hb (linkCompare_eq_lt hle hends)

theorem length_ranked (paths : List FlowPath) :
    (ranked paths).length = (paths.map FlowPath.ends).toFinset.card := by
  have hset : (paths.map FlowPath.ends).toFinset = ((ranked paths).map Link.ends).toFinset := by
    ext ends
    rw [List.mem_toFinset, List.mem_toFinset, (map_ends_ranked_perm paths).mem_iff, mem_distinct]
  rw [hset, List.toFinset_card_of_nodup (nodup_map_ends_ranked paths), List.length_map]

end Ranked

/-! ## Strokes -/

/-- The names of methods are numbered. -/
def placeName (place : Nat) : String := "n" ++ toString place

/-- A link drawn between the names of its ends. -/
structure Arrow where
  link : Link
  sourceName : String
  targetName : String
  deriving DecidableEq, Repr

/-- Each end of an arrow, with the name that it carries. -/
def Arrow.ends (a : Arrow) : List (String × String) :=
  [(a.link.source, a.sourceName), (a.link.target, a.targetName)]

/-- What one line of the body says. -/
inductive Stroke where
  | declaration (method name : String)
  | arrow (a : Arrow)
  deriving DecidableEq, Repr

namespace Stroke

def line : Stroke → String
  | declaration method name => "rectangle \"" ++ shortId method ++ "\" as " ++ name
  | arrow a => a.sourceName ++ " --> " ++ a.targetName ++ " : " ++
      ", ".intercalate (ascending (a.link.types.map shortType))

/-- The declared methods with their names, in order. -/
def declarations (strokes : List Stroke) : List (String × String) :=
  strokes.filterMap fun
    | declaration method name => some (method, name)
    | arrow _ => none

def arrows (strokes : List Stroke) : List Arrow :=
  strokes.filterMap fun
    | declaration _ _ => none
    | arrow a => some a

/-- The ends of an arrow have been declared when it is drawn, with the names that it shows. -/
def DeclaredFirst (strokes : List Stroke) : Prop :=
  ∀ front a rest, strokes = front ++ arrow a :: rest → ∀ e ∈ a.ends, e ∈ declarations front

variable {strokes : List Stroke}

theorem declarations_append (strokes more : List Stroke) :
    declarations (strokes ++ more) = declarations strokes ++ declarations more :=
  List.filterMap_append

theorem arrows_append (strokes more : List Stroke) :
    arrows (strokes ++ more) = arrows strokes ++ arrows more :=
  List.filterMap_append

/-- One more stroke is all right if it is a declaration, or if its ends are declared. -/
theorem DeclaredFirst.concat (h : DeclaredFirst strokes) {stroke : Stroke}
    (hstroke : ∀ a, stroke = arrow a → ∀ e ∈ a.ends, e ∈ declarations strokes) :
    DeclaredFirst (strokes ++ [stroke]) := by
  intro front a rest hsplit
  rcases List.eq_nil_or_concat' rest with rfl | ⟨rest, last, rfl⟩
  · obtain ⟨rfl, hlast⟩ := List.append_inj' hsplit rfl
    exact hstroke a (List.cons.inj hlast).1
  · rw [← List.cons_append, ← List.append_assoc] at hsplit
    exact h front a rest (List.append_inj' hsplit rfl).1

end Stroke

/-! ## Drawing -/

namespace Sketch

variable {s : Sketch} {m x : String}

theorem nameOf_eq (s : Sketch) (m : String) : s.nameOf m = placeName (s.aliased.idxOf m) := rfl

theorem placeName_injective {i j : Nat} (h : placeName i = placeName j) : i = j := by
  have hchars := congrArg String.toList h
  rw [placeName, placeName, String.toList_append, String.toList_append] at hchars
  exact Nat.repr_injective (String.toList_injective (List.append_cancel_left hchars))

theorem nameOf_inj (hm : m ∈ s.aliased) : s.nameOf m = s.nameOf x ↔ m = x := by
  rw [nameOf_eq, nameOf_eq]
  constructor
  · exact fun h => (List.idxOf_inj hm).mp (placeName_injective h)
  · rintro rfl
    rfl

/-- The stroke that declares a method, if it has no name yet. -/
def declaring (s : Sketch) (m : String) : List Stroke :=
  if m ∈ s.aliased then [] else [.declaration m (placeName s.aliased.length)]

def arrowFor (s : Sketch) (link : Link) : Arrow :=
  ⟨link, s.nameOf link.source, s.nameOf link.target⟩

theorem mem_aliased_declare : x ∈ (s.declare m).aliased ↔ x ∈ s.aliased ∨ x = m := by
  unfold declare
  split
  · grind
  · simp

theorem nameOf_declare_of_mem (hx : x ∈ s.aliased) : (s.declare m).nameOf x = s.nameOf x := by
  rw [nameOf_eq, nameOf_eq]
  unfold declare
  split
  · rfl
  · rw [List.idxOf_append_of_mem hx]

section New

variable (hm : m ∉ s.aliased)

include hm

theorem aliased_declare_of_notMem : (s.declare m).aliased = s.aliased ++ [m] := by
  rw [Sketch.declare, if_neg hm]

theorem nameOf_declare_self : (s.declare m).nameOf m = placeName s.aliased.length := by
  rw [nameOf_eq, aliased_declare_of_notMem hm, List.idxOf_append_of_notMem hm]
  simp

theorem lines_declare_of_notMem : (s.declare m).lines =
    s.lines ++ [(Stroke.declaration m (placeName s.aliased.length)).line] := by
  have hquote : "\" as " ++ placeName s.aliased.length = "\" as n" ++ toString s.aliased.length :=
    (String.append_assoc ..).symm
  rw [Sketch.declare, if_neg hm, Stroke.line]
  simp only [String.append_assoc, hquote]

end New

/-- The strokes that have been drawn for some links, and the sketch they led to. -/
structure Drawn (links : List Link) (s : Sketch) (strokes : List Stroke) : Prop where
  lines : s.lines = "@startuml" :: strokes.map Stroke.line
  nodup : s.aliased.Nodup
  declared : Stroke.declarations strokes = s.aliased.map fun m => (m, s.nameOf m)
  numbered : s.aliased.map s.nameOf = (List.range s.aliased.length).map placeName
  arrows : Stroke.arrows strokes = links.map s.arrowFor
  known : ∀ l ∈ links, l.source ∈ s.aliased ∧ l.target ∈ s.aliased
  declaredFirst : Stroke.DeclaredFirst strokes

variable {links : List Link} {strokes : List Stroke}

theorem Drawn.declare (h : Drawn links s strokes) (m : String) :
    Drawn links (s.declare m) (strokes ++ s.declaring m) := by
  by_cases hm : m ∈ s.aliased
  · rw [Sketch.declare, declaring, if_pos hm, if_pos hm, List.append_nil]
    exact h
  · have haliased := aliased_declare_of_notMem hm
    have hnames : ∀ x ∈ s.aliased, (s.declare m).nameOf x = s.nameOf x :=
      fun _ => nameOf_declare_of_mem
    have hself := nameOf_declare_self hm
    rw [declaring, if_neg hm]
    constructor
    case lines =>
      rw [lines_declare_of_notMem hm, h.lines, List.map_append]
      rfl
    case nodup =>
      rw [haliased, List.nodup_append]
      refine ⟨h.nodup, List.nodup_singleton m, ?_⟩
      rintro x hx y hy rfl
      exact hm (List.mem_singleton.mp hy ▸ hx)
    case declared =>
      rw [Stroke.declarations_append, h.declared, haliased, List.map_append, List.map_singleton,
        hself]
      congr 1
      exact List.map_congr_left fun x hx => by rw [hnames x hx]
    case numbered =>
      rw [haliased, List.map_append, List.map_congr_left hnames, h.numbered, List.map_singleton,
        hself, List.length_append, List.length_singleton, List.range_succ, List.map_append,
        List.map_singleton]
    case arrows =>
      rw [Stroke.arrows_append, h.arrows]
      refine (List.append_nil _).trans (List.map_congr_left fun l hl => ?_)
      obtain ⟨hsource, htarget⟩ := h.known l hl
      rw [arrowFor, arrowFor, hnames _ hsource, hnames _ htarget]
    case known =>
      intro l hl
      rw [mem_aliased_declare, mem_aliased_declare]
      exact ⟨.inl (h.known l hl).1, .inl (h.known l hl).2⟩
    case declaredFirst =>
      exact h.declaredFirst.concat fun a ha => by cases ha

theorem Drawn.arrow (h : Drawn links s strokes) {link : Link} (hsource : link.source ∈ s.aliased)
    (htarget : link.target ∈ s.aliased) :
    Drawn (links ++ [link]) { s with lines := s.lines ++ [(Stroke.arrow (s.arrowFor link)).line] }
      (strokes ++ [.arrow (s.arrowFor link)]) := by
  constructor
  case lines =>
    rw [h.lines, List.map_append]
    rfl
  case nodup =>
    exact h.nodup
  case declared =>
    rw [Stroke.declarations_append, h.declared]
    exact List.append_nil _
  case numbered =>
    exact h.numbered
  case arrows =>
    rw [Stroke.arrows_append, h.arrows, List.map_append]
    rfl
  case known =>
    exact List.forall_mem_append.mpr ⟨h.known, by simpa using ⟨hsource, htarget⟩⟩
  case declaredFirst =>
    refine h.declaredFirst.concat fun a ha e he => ?_
    cases ha
    rw [h.declared]
    rcases List.mem_pair.mp he with rfl | rfl
    · exact List.mem_map_of_mem hsource
    · exact List.mem_map_of_mem htarget

/-- **One link more.** Its ends are declared where they are new, then comes its arrow. -/
theorem Drawn.draw (h : Drawn links s strokes) (link : Link) :
    ∃ more, Drawn (links ++ [link]) (s.draw link) (strokes ++ more) := by
  have hends := (h.declare link.source).declare link.target
  have hsource : link.source ∈ ((s.declare link.source).declare link.target).aliased := by
    rw [mem_aliased_declare, mem_aliased_declare]
    exact .inl (.inr rfl)
  have htarget : link.target ∈ ((s.declare link.source).declare link.target).aliased := by
    rw [mem_aliased_declare]
    exact .inr rfl
  have hdrawn := hends.arrow hsource htarget
  rw [List.append_assoc, List.append_assoc] at hdrawn
  exact ⟨_, hdrawn⟩

/-- Any number of links are drawn one after the other. -/
theorem Drawn.foldl (h : Drawn links s strokes) (more : List Link) :
    ∃ strokes', Drawn (links ++ more) (more.foldl Sketch.draw s) (strokes ++ strokes') := by
  induction more generalizing links s strokes with
  | nil =>
      refine ⟨[], ?_⟩
      rw [List.append_nil, List.append_nil]
      exact h
  | cons link more ih =>
      obtain ⟨first, hfirst⟩ := h.draw link
      obtain ⟨rest, hrest⟩ := ih hfirst
      refine ⟨first ++ rest, ?_⟩
      rw [List.append_assoc, List.append_assoc] at hrest
      exact hrest

/-- Nothing has been drawn yet. -/
def blank : Sketch := ⟨[], ["@startuml"]⟩

theorem drawn_blank : Drawn [] blank [] where
  lines := rfl
  nodup := List.nodup_nil
  declared := rfl
  numbered := rfl
  arrows := rfl
  known := by simp
  declaredFirst := by
    intro front a rest hsplit
    simp at hsplit

end Sketch

/-! ## The whole diagram -/

/-- A body that shows the strongest links of some paths, at most `n` of them. -/
structure WellDrawn (paths : List FlowPath) (n : Int) (strokes : List Stroke) : Prop where
  /-- As many arrows as there are pairs of ends, up to the limit. -/
  count : ((Stroke.arrows strokes).length : Int) =
    min (max n 0) ((paths.map FlowPath.ends).toFinset.card)
  /-- An arrow stands for the paths between its ends, of which there are some. -/
  shown : ∀ a ∈ Stroke.arrows strokes, a.link.ends ∈ paths.map FlowPath.ends ∧
    a.link.types = (pathsBetween paths a.link.ends).map (·.type)
  ordered : (Stroke.arrows strokes).Pairwise fun a b => Ahead paths a.link.ends b.link.ends
  /-- What is not shown comes behind all that is shown. -/
  strongest : ∀ p ∈ paths, (∀ a ∈ Stroke.arrows strokes, a.link.ends ≠ p.ends) →
    ∀ a ∈ Stroke.arrows strokes, Ahead paths a.link.ends p.ends
  /-- Names are numbered in order of declaration. -/
  numbered : (Stroke.declarations strokes).map Prod.snd =
    (List.range (Stroke.declarations strokes).length).map placeName
  /-- No method is declared twice. -/
  once : ((Stroke.declarations strokes).map Prod.fst).Nodup
  declaredFirst : Stroke.DeclaredFirst strokes
  /-- Ends with one name are one method. -/
  faithful : ∀ e ∈ (Stroke.arrows strokes).flatMap Arrow.ends,
    ∀ e' ∈ (Stroke.arrows strokes).flatMap Arrow.ends, e.2 = e'.2 ↔ e.1 = e'.1
  /-- Arrows are the lines that begin with a name. -/
  lines : (strokes.map Stroke.line).filter (Text.startsWith · "n") =
    (Stroke.arrows strokes).map fun a => (Stroke.arrow a).line

theorem startsWith_arrow {a : Arrow} (h : ∃ place, a.sourceName = placeName place) :
    Text.startsWith (Stroke.arrow a).line "n" = true := by
  obtain ⟨place, hplace⟩ := h
  rw [Stroke.line, hplace, placeName]
  simp [Text.startsWith, String.toList_append]

theorem startsWith_declaration (method name : String) :
    Text.startsWith (Stroke.declaration method name).line "n" = false := by
  simp [Stroke.line, Text.startsWith, String.toList_append, List.isPrefixOf]

theorem filter_lines {strokes : List Stroke}
    (h : ∀ a ∈ Stroke.arrows strokes, ∃ place, a.sourceName = placeName place) :
    (strokes.map Stroke.line).filter (Text.startsWith · "n") =
      (Stroke.arrows strokes).map fun a => (Stroke.arrow a).line := by
  induction strokes with
  | nil => rfl
  | cons stroke rest ih =>
      cases stroke with
      | declaration method name =>
          rw [List.map_cons, List.filter_cons_of_neg (by simp [startsWith_declaration])]
          exact ih h
      | arrow a =>
          obtain ⟨ha, hrest⟩ := List.forall_mem_cons.mp
            (show ∀ b ∈ a :: Stroke.arrows rest, ∃ place, b.sourceName = placeName place from h)
          rw [List.map_cons, List.filter_cons_of_pos (by simpa using startsWith_arrow ha),
            ih hrest]
          rfl

/-- The links that are drawn. -/
def drawnLinks (paths : List FlowPath) (n : Int) : List Link := (ranked paths).take n.toNat

section Whole

variable {paths : List FlowPath} {n : Int} {s : Sketch} {strokes : List Stroke}

/-- A link that is not drawn stands behind those that are. -/
theorem ahead_of_notMem {a : Link} {p : FlowPath} (ha : a ∈ drawnLinks paths n) (hp : p ∈ paths)
    (hnot : ∀ b ∈ drawnLinks paths n, b.ends ≠ p.ends) : Ahead paths a.ends p.ends := by
  have hlisted : p.ends ∈ (ranked paths).map Link.ends := by
    rw [(map_ends_ranked_perm paths).mem_iff, mem_distinct]
    exact List.mem_map_of_mem hp
  obtain ⟨l, hl, hends⟩ := List.mem_map.mp hlisted
  have hpairwise := pairwise_ranked paths
  rw [← List.take_append_drop n.toNat (ranked paths)] at hl hpairwise
  rw [← hends]
  refine (List.pairwise_append.mp hpairwise).2.2 a ha l ?_
  exact (List.mem_append.mp hl).resolve_left fun hdrawn => hnot l hdrawn hends

theorem wellDrawn_of_drawn (h : Sketch.Drawn (drawnLinks paths n) s strokes) :
    WellDrawn paths n strokes := by
  have hlinks : (Stroke.arrows strokes).map Arrow.link = drawnLinks paths n := by
    rw [h.arrows, List.map_map]
    exact List.map_id' _
  have hmem : ∀ a ∈ Stroke.arrows strokes, a.link ∈ drawnLinks paths n := by
    intro a ha
    rw [← hlinks]
    exact List.mem_map_of_mem ha
  have hnames : ∀ e ∈ (Stroke.arrows strokes).flatMap Arrow.ends,
      e.1 ∈ s.aliased ∧ e.2 = s.nameOf e.1 := by
    intro e he
    obtain ⟨a, ha, he⟩ := List.mem_flatMap.mp he
    obtain ⟨hsource, htarget⟩ := h.known a.link (hmem a ha)
    rw [h.arrows] at ha
    obtain ⟨l, hl, rfl⟩ := List.mem_map.mp ha
    rcases List.mem_pair.mp he with rfl | rfl
    · exact ⟨hsource, rfl⟩
    · exact ⟨htarget, rfl⟩
  constructor
  case count =>
    rw [← List.length_map Arrow.link, hlinks, drawnLinks, List.length_take, length_ranked]
    omega
  case shown =>
    intro a ha
    have hranked : a.link ∈ ranked paths := List.mem_of_mem_take (hmem a ha)
    refine ⟨?_, types_of_mem_ranked hranked⟩
    rw [← mem_distinct, ← (map_ends_ranked_perm paths).mem_iff]
    exact List.mem_map_of_mem hranked
  case ordered =>
    have hpairwise := (pairwise_ranked paths).sublist (List.take_sublist n.toNat _)
    rw [← drawnLinks, ← hlinks] at hpairwise
    exact (List.pairwise_map (f := Arrow.link)).mp hpairwise
  case strongest =>
    intro p hp hnot a ha
    refine ahead_of_notMem (hmem a ha) hp fun b hb => ?_
    rw [← hlinks] at hb
    obtain ⟨arrow, harrow, rfl⟩ := List.mem_map.mp hb
    exact hnot arrow harrow
  case numbered =>
    rw [h.declared, List.map_map, List.length_map]
    exact h.numbered
  case once =>
    rw [h.declared, List.map_map]
    exact (List.map_id' s.aliased).symm ▸ h.nodup
  case declaredFirst =>
    exact h.declaredFirst
  case faithful =>
    intro e he e' he'
    rw [(hnames e he).2, (hnames e' he').2]
    exact Sketch.nameOf_inj (hnames e he).1
  case lines =>
    refine filter_lines fun a ha => ?_
    rw [h.arrows] at ha
    obtain ⟨l, -, rfl⟩ := List.mem_map.mp ha
    exact ⟨_, Sketch.nameOf_eq s l.source⟩

theorem diagramLines_eq (flow : DataFlow) (n : Int) : diagramLines flow n =
    ((drawnLinks flow.paths n).foldl Sketch.draw Sketch.blank).lines ++ ["@enduml"] := rfl

theorem exists_drawn (paths : List FlowPath) (n : Int) :
    ∃ strokes, Sketch.Drawn (drawnLinks paths n)
      ((drawnLinks paths n).foldl Sketch.draw Sketch.blank) strokes :=
  Sketch.drawn_blank.foldl (drawnLinks paths n)

/-- Lines that are drawn stay when more links are drawn. -/
theorem lines_grow (paths : List FlowPath) (n : Int) :
    ((drawnLinks paths n).foldl Sketch.draw Sketch.blank).lines <+:
      ((drawnLinks paths (n + 1)).foldl Sketch.draw Sketch.blank).lines := by
  obtain ⟨strokes, hdrawn⟩ := exists_drawn paths n
  obtain ⟨more, hmore⟩ : drawnLinks paths n <+: drawnLinks paths (n + 1) :=
    List.take_prefix_take_left (by omega)
  obtain ⟨strokes', hlonger⟩ := hdrawn.foldl more
  rw [← hmore, List.foldl_append, hlonger.lines, hdrawn.lines, List.map_append, ← List.cons_append]
  exact List.prefix_append _ _

end Whole

theorem join_lines (first : String) (rest : List String) :
    String.join ((first :: rest).map (· ++ "\n")) = "\n".intercalate (first :: rest) ++ "\n" := by
  induction rest generalizing first with
  | nil => simp
  | cons next rest ih =>
      rw [List.map_cons, String.join_cons, ih, String.intercalate_cons_cons,
        ← String.append_assoc]

/-- **A diagram is well formed and grows by prefixes.** Its lines are a body between two marks. The
body has an arrow for each of the strongest links, in order and up to the limit; names are numbered
in order of declaration, stand for one method each, and are declared before they are used. One link
more adds lines at the end of the body. -/
theorem diagram_wellDrawn (flow : DataFlow) (n : Int) :
    diagram flow n = "\n".intercalate (diagramLines flow n) ++ "\n" ∧
      (∃ strokes, diagramLines flow n = "@startuml" :: strokes.map Stroke.line ++ ["@enduml"] ∧
        WellDrawn flow.paths n strokes) ∧
      (diagramLines flow n).dropLast <+: diagramLines flow (n + 1) := by
  obtain ⟨strokes, hdrawn⟩ := exists_drawn flow.paths n
  have hlines : diagramLines flow n = "@startuml" :: strokes.map Stroke.line ++ ["@enduml"] := by
    rw [diagramLines_eq, hdrawn.lines]
  refine ⟨?_, ⟨strokes, hlines, wellDrawn_of_drawn hdrawn⟩, ?_⟩
  · rw [diagram, hlines, List.cons_append, join_lines]
  · rw [diagramLines_eq, List.dropLast_concat, diagramLines_eq]
    exact (lines_grow flow.paths n).trans (List.prefix_append _ _)

end ClassAtlas.Flow
