import ClassAtlas.Proofs.Endpoint.Agreement

/-!
# Paths by their segments

The segments of a path are its non-empty pieces between slashes. Slashes are
collapsed and trimmed in several steps; what comes out of them depends on the
segments alone. A path is taken apart piece by piece, so that each step has to
be looked at for one piece and what is behind the next slash.

Main statement: `normalize_by_segments`.
-/

namespace ClassAtlas

namespace Path

open ClassAtlas.Text (Points)

/-! ## Segments -/

/-- The non-empty pieces of a path between slashes. -/
def segments (path : Points) : List Points := (path.splitOn slash).filter (· ≠ [])

/-- A slash before each segment; one slash if there is none. -/
def assemble (ss : List Points) : Points := slash :: [slash].intercalate ss

/-- Pieces of a path between slashes that are not empty. -/
def AreSegments (ss : List Points) : Prop := ∀ s ∈ ss, s ≠ [] ∧ slash ∉ s

/-- A path is one piece, or a piece before a slash and the path behind it. -/
@[elab_as_elim]
theorem pieces_induction {P : Points → Prop} (cs : Points) (last : ∀ w, slash ∉ w → P w)
    (more : ∀ w cs, slash ∉ w → P cs → P (w ++ slash :: cs)) : P cs := by
  suffices h : ∀ w, slash ∉ w → P (w ++ cs) from h [] List.not_mem_nil
  induction cs with
  | nil =>
      intro w hw
      rw [List.append_nil]
      exact last w hw
  | cons c cs ih =>
      intro w hw
      by_cases hc : c = slash
      · subst hc
        exact more w cs hw (ih [] List.not_mem_nil)
      · rw [List.append_cons]
        apply ih
        rw [List.mem_append, List.mem_singleton, not_or]
        exact ⟨hw, Ne.symm hc⟩

section Segments

variable {w cs : Points} {ss : List Points}

/-- **Segments come apart at every slash.** -/
theorem segments_append_slash (a b : Points) :
    segments (a ++ slash :: b) = segments a ++ segments b := by
  rw [segments, List.splitOn_append_cons_self, List.filter_append]
  rfl

theorem segments_slash_cons (cs : Points) : segments (slash :: cs) = segments cs :=
  segments_append_slash [] cs

theorem segments_piece (hw : slash ∉ w) : segments w = if w = [] then [] else [w] := by
  rw [segments, List.splitOn_eq_singleton hw]
  by_cases hempty : w = []
  · simp [hempty]
  · simp [hempty]

theorem areSegments_segments (cs : Points) : AreSegments (segments cs) := by
  have hpiece : ∀ w, slash ∉ w → AreSegments (segments w) := by
    intro w hw s hs
    rw [segments_piece hw] at hs
    split at hs
    · cases hs
    · rename_i hne
      rw [List.mem_singleton.mp hs]
      exact ⟨hne, hw⟩
  induction cs using pieces_induction with
  | last w hw => exact hpiece w hw
  | more w cs hw ih =>
      rw [segments_append_slash]
      exact List.forall_mem_append.mpr ⟨hpiece w hw, ih⟩

/-- What is assembled from segments has these segments. -/
theorem segments_assemble (h : AreSegments ss) : segments (assemble ss) = ss := by
  rw [assemble, segments_slash_cons, segments]
  by_cases hempty : ss = []
  · simp [hempty]
  · rw [List.splitOn_intercalate slash (fun s hs => (h s hs).2) hempty, List.filter_eq_self]
    exact fun s hs => decide_eq_true (h s hs).1

/-! ## Collapsing -/

theorem assemble_ne_nil (ss : List Points) : assemble ss ≠ [] := List.cons_ne_nil _ _

theorem assemble_cons (hss : ss ≠ []) : assemble (w :: ss) = slash :: w ++ assemble ss := by
  obtain ⟨s, rest, rfl⟩ := List.exists_cons_of_ne_nil hss
  rw [assemble, List.intercalate_cons_cons, assemble, List.append_assoc]
  rfl

/-- Only a slash before a slash is dropped. -/
theorem collapseSlashes_cons {c : Nat} (h : c = slash → cs.head? ≠ some slash) :
    collapseSlashes (c :: cs) = c :: collapseSlashes cs := by
  cases cs with
  | nil => rfl
  | cons d cs =>
      rw [collapseSlashes, if_neg]
      rintro ⟨hc, rfl⟩
      exact h hc rfl

theorem collapseSlashes_append (hw : slash ∉ w) (cs : Points) :
    collapseSlashes (w ++ cs) = w ++ collapseSlashes cs := by
  induction w with
  | nil => rfl
  | cons c w ih =>
      rw [List.mem_cons, not_or] at hw
      rw [List.cons_append, collapseSlashes_cons fun hc => absurd hc.symm hw.1, ih hw.2,
        List.cons_append]

/-- A slash before a piece that is not empty stays. -/
theorem collapseSlashes_slash_append (hw : slash ∉ w) (hne : w ≠ []) (cs : Points) :
    collapseSlashes (slash :: w ++ cs) = slash :: w ++ collapseSlashes cs := by
  have hhead : (w ++ cs).head? ≠ some slash := by
    rw [List.head?_append_of_ne_nil _ hne]
    exact fun h => hw (List.mem_of_mem_head? h)
  rw [List.cons_append, collapseSlashes_cons fun _ => hhead, collapseSlashes_append hw,
    List.cons_append]

/-- **Collapsed slashes leave the segments**, and behind the last one at most a slash. -/
theorem collapseSlashes_slash_cons (cs : Points) :
    collapseSlashes (slash :: cs) = assemble (segments cs) ∨
      segments cs ≠ [] ∧ collapseSlashes (slash :: cs) = assemble (segments cs) ++ [slash] := by
  induction cs using pieces_induction with
  | last w hw =>
      left
      rw [segments_piece hw]
      by_cases hempty : w = []
      · subst hempty
        rfl
      · rw [if_neg hempty, assemble, List.intercalate_singleton]
        simpa [collapseSlashes] using collapseSlashes_slash_append hw hempty []
  | more w cs hw ih =>
      rw [segments_append_slash, segments_piece hw]
      by_cases hempty : w = []
      · subst hempty
        exact ih
      · rw [if_neg hempty, List.singleton_append, ← List.cons_append,
          collapseSlashes_slash_append hw hempty]
        rcases ih with ih | ⟨hss, ih⟩
        · by_cases hss : segments cs = []
          -- only slashes are behind this piece, and one of them is left
          · right
            rw [ih, hss, assemble, assemble, List.intercalate_singleton]
            exact ⟨List.cons_ne_nil w [], rfl⟩
          · left
            rw [ih, assemble_cons hss]
        · right
          rw [ih, assemble_cons hss, List.append_assoc]
          exact ⟨List.cons_ne_nil w _, rfl⟩

/-! ## What stands at both ends -/

theorem getLast?_assemble (h : AreSegments ss) (hss : ss ≠ []) :
    (assemble ss).getLast? ≠ some slash := by
  induction ss with
  | nil => exact absurd rfl hss
  | cons s rest ih =>
      intro hlast
      obtain ⟨hs, hrest⟩ := List.forall_mem_cons.mp h
      by_cases hempty : rest = []
      · rw [hempty, assemble, List.intercalate_singleton, ← List.singleton_append,
          List.getLast?_append_of_ne_nil _ hs.1] at hlast
        exact hs.2 (List.mem_of_getLast? hlast)
      · rw [assemble_cons hempty, List.getLast?_append_of_ne_nil _ (assemble_ne_nil rest)] at hlast
        exact ih hrest hempty hlast

theorem dropTrailingSlash_assemble (h : AreSegments ss) :
    dropTrailingSlash (assemble ss) = assemble ss := by
  rw [dropTrailingSlash, if_neg]
  rintro ⟨hlength, hlast⟩
  by_cases hempty : ss = []
  · rw [hempty] at hlength
    cases Nat.lt_irrefl 1 hlength
  · exact getLast?_assemble h hempty hlast

theorem dropTrailingSlash_append_slash (hcs : cs ≠ []) : dropTrailingSlash (cs ++ [slash]) = cs := by
  have hlength : 1 < (cs ++ [slash]).length := by
    rw [List.length_append, List.length_singleton]
    exact Nat.succ_lt_succ (List.length_pos_iff.mpr hcs)
  rw [dropTrailingSlash, if_pos ⟨hlength, List.getLast?_concat⟩, List.dropLast_concat]

theorem dropTrailingSlash_collapseSlashes (cs : Points) :
    dropTrailingSlash (collapseSlashes (slash :: cs)) = assemble (segments cs) := by
  rcases collapseSlashes_slash_cons cs with h | ⟨-, h⟩
  · rw [h, dropTrailingSlash_assemble (areSegments_segments cs)]
  · rw [h, dropTrailingSlash_append_slash (assemble_ne_nil _)]

theorem trimSlashes_slash_cons (cs : Points) : trimSlashes (slash :: cs) = trimSlashes cs := rfl

theorem trimSlashes_of_ends (hfirst : cs.head? ≠ some slash) (hlast : cs.getLast? ≠ some slash) :
    trimSlashes cs = cs := by
  have hkeep : ∀ ds : Points, ds.head? ≠ some slash → ds.dropWhile (· = slash) = ds := by
    intro ds hds
    cases ds with
    | nil => rfl
    | cons d ds => exact List.dropWhile_cons_of_neg (by simpa using hds)
  rw [trimSlashes, hkeep cs hfirst, hkeep _ (by rwa [List.head?_reverse]), List.reverse_reverse]

/-- Behind the first segment stands nothing, or a slash. -/
theorem takeWhile_trimSlashes_assemble (h : AreSegments ss) :
    (trimSlashes (assemble ss)).takeWhile (· ≠ slash) = ss.headD [] := by
  cases ss with
  | nil => rfl
  | cons s rest =>
      obtain ⟨hs, -⟩ := List.forall_mem_cons.mp h
      obtain ⟨behind, hassemble, hbehind⟩ : ∃ behind, assemble (s :: rest) = slash :: (s ++ behind) ∧
          behind.head? ∈ [none, some slash] := by
        by_cases hempty : rest = []
        · exact ⟨[], by simp [hempty, assemble], by simp⟩
        · exact ⟨assemble rest, assemble_cons hempty, by simp [assemble]⟩
      have hfirst : (s ++ behind).head? ≠ some slash := by
        rw [List.head?_append_of_ne_nil _ hs.1]
        exact fun hhead => hs.2 (List.mem_of_mem_head? hhead)
      have hlast : (s ++ behind).getLast? ≠ some slash := by
        have hne : s ++ behind ≠ [] := List.append_ne_nil_of_left_ne_nil hs.1 behind
        rw [← List.getLast?_append_of_ne_nil [slash] hne, List.singleton_append, ← hassemble]
        exact getLast?_assemble h (List.cons_ne_nil s rest)
      have hword : ∀ c ∈ s, (decide (c ≠ slash)) = true := by
        intro c hc
        exact decide_eq_true fun heq => hs.2 (heq ▸ hc)
      rw [hassemble, trimSlashes_slash_cons, trimSlashes_of_ends hfirst hlast,
        List.takeWhile_append_of_pos hword]
      cases behind with
      | nil => simp
      | cons c behind => simp_all

end Segments

/-! ## Canonical paths -/

/-- **The canonical form of a path is made of its segments.** -/
theorem normalize_eq (p : Points) : normalize p = assemble (segments p) :=
  dropTrailingSlash_collapseSlashes p

theorem segments_normalize (p : Points) : segments (normalize p) = segments p := by
  rw [normalize_eq, segments_assemble (areSegments_segments p)]

theorem normalize_eq_of_segments {p q : Points} (h : segments p = segments q) :
    normalize p = normalize q := by
  rw [normalize_eq, normalize_eq, h]

theorem firstSegment_normalize (p : Points) :
    firstSegment (normalize p) = slash :: (segments p).headD [] := by
  rw [firstSegment, normalize_eq, takeWhile_trimSlashes_assemble (areSegments_segments p)]

end Path

namespace Endpoint

/-! ## Paths of endpoints -/

theorem mem_detect_iff {routes : List String} {classes : List ClassInfo} {e : Endpoint} :
    e ∈ detect routes classes ↔ ∃ c ∈ classes, isController c = true ∧
      ∃ m ∈ c.methods, ofMethod? routes c m = some e := by
  simp only [detect, List.mem_flatMap, List.mem_filter, List.mem_filterMap, and_assoc]

theorem path_of_ofMethod? {routes : List String} {c : ClassInfo} {m : MethodInfo} {e : Endpoint}
    (h : ofMethod? routes c m = some e) :
    e.path = Path.normalize (basePath c ++ Path.slash :: (Route.of m).path) := by
  unfold ofMethod? at h
  dsimp only at h
  split at h
  · cases h
    rfl
  · cases h

end Endpoint

namespace Path

open ClassAtlas.Endpoint (Route detect ofMethod? basePath)
open ClassAtlas.Text (points)

/-- **Paths have one canonical form.** It is made of the segments of a path, so that it does not
change when it is taken again. The path of an endpoint is made of the segments of the base path and
those of the method's path. A base path may be in canonical form already or not. The first segment
of a path is found in its canonical form. -/
theorem normalize_by_segments :
    (∀ p, normalize p = slash :: [slash].intercalate (segments p)) ∧
      (∀ p, normalize (normalize p) = normalize p) ∧
      (∀ routes classes, ∀ e ∈ detect routes classes,
        ∃ c ∈ classes, ∃ m ∈ c.methods, ofMethod? routes c m = some e ∧
          e.path =
            slash :: [slash].intercalate (segments (basePath c) ++ segments (Route.of m).path)) ∧
      (∀ a b, normalize (normalize a ++ slash :: b) = normalize (a ++ slash :: b)) ∧
      (∀ p, firstSegment (normalize p) = slash :: (segments p).headD []) := by
  refine ⟨normalize_eq, fun p => ?_, fun routes classes e he => ?_, fun a b => ?_,
    firstSegment_normalize⟩
  · exact normalize_eq_of_segments (segments_normalize p)
  · obtain ⟨c, hc, -, m, hm, hmethod⟩ := Endpoint.mem_detect_iff.mp he
    refine ⟨c, hc, m, hm, hmethod, ?_⟩
    rw [Endpoint.path_of_ofMethod? hmethod, normalize_eq, segments_append_slash]
    rfl
  · apply normalize_eq_of_segments
    rw [segments_append_slash, segments_append_slash, segments_normalize]

example : normalize (points "//api///v1/") = points "/api/v1" ∧ normalize [] = points "/" := by
  decide

/-! ## A controller with a base path -/

/-- A table with one path. -/
def samplePath (path : String) : ClassFile.ElementTable := .ofList [("path", .list [.text path])]

def sampleHandler : MethodInfo :=
  { Endpoint.sampleMethod "getOrder" "com.example.Order" [Endpoint.requestMapping] with
    annotationValues := .ofList [(Endpoint.requestMapping, samplePath "orders//open/")] }

/-- Both paths have slashes that are left out of the canonical form. -/
def sampleController : ClassInfo :=
  { Endpoint.sampleService with
    annotations := ["org.springframework.stereotype.Controller", Endpoint.requestMapping]
    annotationValues := .ofList [(Endpoint.requestMapping, samplePath "//api/")]
    methods := [sampleHandler] }

theorem normalize_by_segments_sample :
    ∃ e ∈ detect routeAnnotations [sampleController],
      e.methodName = "getOrder" ∧ e.path = points "/api/orders/open" := by
  obtain ⟨e, he⟩ : ∃ e, e ∈ detect routeAnnotations [sampleController] :=
    List.exists_mem_of_ne_nil _ (by decide)
  obtain ⟨c, hc, m, hm, hmethod, hpath⟩ :=
    normalize_by_segments.2.2.1 routeAnnotations [sampleController] e he
  cases List.mem_singleton.mp hc
  cases List.mem_singleton.mp hm
  refine ⟨e, he, (Endpoint.standsFor_of_ofMethod? hmethod).2.methodName, ?_⟩
  rw [hpath]
  decide

end Path

end ClassAtlas
