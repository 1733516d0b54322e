import Mathlib.Data.List.Forall2
import ClassAtlas.Endpoint.Detect

/-!
# Endpoints among the points of entry

Whether a method handles requests is asked twice, with tables of annotations that
are kept apart. A method is a point of entry by the route annotations. It is an
endpoint if it is one of a controller and if, besides, an annotation gives it a
verb. So endpoints are found, in order, among the points of entry, whatever the
route annotations are.

For the usual ones the tables fit together: each annotation that gives a verb is
a route annotation, and of the route annotations only the service path gives
none. Main statement: the endpoints are one for each method of a controller with
a mapping or a verb among its annotations, accessors and constructors included.
-/

namespace ClassAtlas

open ClassAtlas.ClassFile (Annotations)

namespace Endpoint

/-! ## Annotations by their full names -/

/-- Annotations of the web framework that map requests to a method. -/
def webMappings : List String :=
  ["org.springframework.web.bind.annotation.RequestMapping",
    "org.springframework.web.bind.annotation.GetMapping",
    "org.springframework.web.bind.annotation.PostMapping",
    "org.springframework.web.bind.annotation.PutMapping",
    "org.springframework.web.bind.annotation.DeleteMapping",
    "org.springframework.web.bind.annotation.PatchMapping"]

/-- Annotations of the service standard for one verb each, under its older name. -/
def olderVerbs : List String :=
  ["javax.ws.rs.GET", "javax.ws.rs.POST", "javax.ws.rs.PUT", "javax.ws.rs.DELETE",
    "javax.ws.rs.PATCH", "javax.ws.rs.HEAD", "javax.ws.rs.OPTIONS"]

/-- The same under its newer name. -/
def newerVerbs : List String :=
  ["jakarta.ws.rs.GET", "jakarta.ws.rs.POST", "jakarta.ws.rs.PUT", "jakarta.ws.rs.DELETE",
    "jakarta.ws.rs.PATCH", "jakarta.ws.rs.HEAD", "jakarta.ws.rs.OPTIONS"]

/-- Annotations that make the method that carries them answer to a verb. -/
def mappingAnnotations : List String := webMappings ++ olderVerbs ++ newerVerbs

/-- Annotations that give a path and no verb. -/
def pathAnnotations : List String := ["javax.ws.rs.Path", "jakarta.ws.rs.Path"]

/-- Annotations by which a class is a controller. -/
def controllerMarks : List String :=
  ["org.springframework.stereotype.Controller",
    "org.springframework.web.bind.annotation.RestController"] ++ pathAnnotations

/-- Whether one of the annotations is among the names. -/
def carries (names annotations : List String) : Bool := annotations.any fun a => names.contains a

theorem carries_iff {names annotations : List String} :
    carries names annotations = true ↔ ∃ a ∈ annotations, a ∈ names := by
  simp [carries]

/-- The usual route annotations are those for mappings and those for paths. -/
theorem mem_routeAnnotations_iff {a : String} :
    a ∈ routeAnnotations ↔ a ∈ mappingAnnotations ∨ a ∈ pathAnnotations := by
  have htables : routeAnnotations = webMappings ++ (olderVerbs ++ ["javax.ws.rs.Path"]) ++
      (newerVerbs ++ ["jakarta.ws.rs.Path"]) := by decide +kernel
  simp only [htables, mappingAnnotations, pathAnnotations, List.mem_append, List.mem_cons,
    List.not_mem_nil, or_false]
  grind

theorem isController_eq (c : ClassInfo) : isController c = carries controllerMarks c.annotations := by
  have hmarks : controllerMarks = controllerAnnotations ++ servicePaths := rfl
  simp only [isController, carries, hmarks, List.contains_eq_mem, List.mem_append, Bool.decide_or]

/-! ## The verb of a route -/

/-- The verb that an annotation gives to the method that carries it. -/
def verbGiven? (values : Annotations) (name : String) : Option Text.Points :=
  match webVerbs.lookup name with
  | some verb => some (Text.points verb)
  | none =>
    if name = requestMapping then some (verbOf (elementsOf values name))
    else (serviceVerb? name).map Text.points

/-- One more annotation: its verb, if it gives one, replaces what was known. -/
theorem verb_add (values : Annotations) (route : Route) (name : String) :
    (route.add values name).verb = (verbGiven? values name).or route.verb := by
  unfold Route.add verbGiven?
  dsimp only
  cases webVerbs.lookup name with
  | some verb => rfl
  | none =>
      by_cases hmapping : name = requestMapping
      · rw [if_pos hmapping, if_pos hmapping]
        rfl
      · rw [if_neg hmapping, if_neg hmapping]
        cases serviceVerb? name with
        | some verb => rfl
        | none =>
            dsimp only
            split
            · rfl
            · rfl

theorem verb_foldl_add (values : Annotations) (names : List String) (route : Route) :
    (names.foldl (Route.add values) route).verb =
      (names.filterMap (verbGiven? values)).getLast?.or route.verb := by
  induction names generalizing route with
  | nil => rfl
  | cons name rest ih =>
      rw [List.foldl_cons, ih, verb_add]
      cases hgiven : verbGiven? values name with
      | none => rw [List.filterMap_cons_none hgiven, Option.none_or]
      | some verb =>
          rw [List.filterMap_cons_some hgiven, List.getLast?_cons]
          cases (rest.filterMap (verbGiven? values)).getLast? with
          | none => rfl
          | some later => rfl

/-- The last annotation that gives a verb decides. -/
theorem verb_of (m : MethodInfo) :
    (Route.of m).verb = (m.annotations.filterMap (verbGiven? m.annotationValues)).getLast? := by
  rw [Route.of, verb_foldl_add, Option.or_none]

theorem isSome_serviceVerb?_iff {name : String} :
    (serviceVerb? name).isSome = true ↔ name ∈ serviceAnnotations serviceVerbs := by
  rw [serviceVerb?, List.find?_isSome]
  simp only [serviceAnnotations, List.contains_eq_mem, decide_eq_true_eq, List.mem_flatMap,
    List.mem_map, List.mem_singleton]
  constructor
  · rintro ⟨verb, hverb, ns, hns, v, rfl, hname⟩
    exact ⟨ns, hns, v, hverb, hname⟩
  · rintro ⟨ns, hns, verb, hverb, hname⟩
    exact ⟨verb, hverb, ns, hns, verb, rfl, hname⟩

/-- The annotations that give a verb are the mappings. -/
theorem isSome_verbGiven?_iff {values : Annotations} {name : String} :
    (verbGiven? values name).isSome = true ↔ name ∈ mappingAnnotations := by
  have htables : mappingAnnotations =
      requestMapping :: webVerbs.map Prod.fst ++ serviceAnnotations serviceVerbs := by
    decide +kernel
  rw [htables, List.mem_append, List.mem_cons, verbGiven?]
  cases hlookup : webVerbs.lookup name with
  | some verb =>
      obtain ⟨pair, hpair, hname⟩ :=
        List.lookup_isSome_iff.mp (Option.isSome_iff_exists.mpr ⟨verb, hlookup⟩)
      have hweb : name ∈ webVerbs.map Prod.fst :=
        List.mem_map.mpr ⟨pair, hpair, (beq_iff_eq.mp hname).symm⟩
      simp [hweb]
  | none =>
      have hweb : name ∉ webVerbs.map Prod.fst := by
        intro hmem
        obtain ⟨pair, hpair, rfl⟩ := List.mem_map.mp hmem
        exact absurd (List.lookup_eq_none_iff.mp hlookup pair hpair) (by simp)
      by_cases hmapping : name = requestMapping
      · simp [hmapping]
      · simp only [hmapping, hweb, if_false, false_or, Option.isSome_map]
        exact isSome_serviceVerb?_iff

theorem isSome_verb_iff (m : MethodInfo) :
    (Route.of m).verb.isSome = true ↔ carries mappingAnnotations m.annotations = true := by
  rw [verb_of, List.getLast?_isSome, carries_iff]
  constructor
  · intro hne
    obtain ⟨verb, hverb⟩ := List.exists_mem_of_ne_nil _ hne
    obtain ⟨a, ha, hgiven⟩ := List.mem_filterMap.mp hverb
    exact ⟨a, ha, isSome_verbGiven?_iff.mp (Option.isSome_iff_exists.mpr ⟨verb, hgiven⟩)⟩
  · rintro ⟨a, ha, hmapping⟩
    obtain ⟨verb, hverb⟩ := Option.isSome_iff_exists.mp (isSome_verbGiven?_iff.mpr hmapping)
    exact List.ne_nil_of_mem (List.mem_filterMap.mpr ⟨a, ha, hverb⟩)

/-! ## The endpoint of a method -/

/-- `e` stands for the method `m` of the class `c`, under the verb that its last mapping gives. -/
structure StandsFor (e : Endpoint) (c : ClassInfo) (m : MethodInfo) : Prop where
  controller : e.controller = c.name
  methodName : e.methodName = m.name
  responseType : e.responseType = m.returnType
  parameters : e.parameters = m.parameters
  verb : (m.annotations.filterMap (verbGiven? m.annotationValues)).getLast? = some e.verb

theorem StandsFor.id_eq {e : Endpoint} {c : ClassInfo} {m : MethodInfo} (h : e.StandsFor c m) :
    e.id = c.methodId m := by
  rw [Endpoint.id, h.controller, h.methodName]
  rfl

theorem standsFor_of_ofMethod? {routes : List String} {c : ClassInfo} {m : MethodInfo} {e : Endpoint}
    (h : ofMethod? routes c m = some e) : m.isRouteHandler routes = true ∧ e.StandsFor c m := by
  unfold ofMethod? at h
  dsimp only at h
  split at h
  · rename_i hroute hverb
    cases h
    exact ⟨hroute, rfl, rfl, rfl, rfl, by rw [← verb_of, hverb]⟩
  · cases h

theorem isSome_ofMethod?_iff {routes : List String} {c : ClassInfo} {m : MethodInfo} :
    (ofMethod? routes c m).isSome = true ↔
      m.isRouteHandler routes = true ∧ (Route.of m).verb.isSome = true := by
  unfold ofMethod?
  dsimp only
  cases m.isRouteHandler routes with
  | false => simp
  | true =>
      cases (Route.of m).verb with
      | none => simp
      | some verb => simp

/-- With the usual route annotations, a verb alone makes an endpoint. -/
theorem isSome_ofMethod?_routeAnnotations (c : ClassInfo) (m : MethodInfo) :
    (ofMethod? routeAnnotations c m).isSome = carries mappingAnnotations m.annotations := by
  rw [Bool.eq_iff_iff, isSome_ofMethod?_iff, isSome_verb_iff]
  refine ⟨fun h => h.2, fun hmapping => ⟨?_, hmapping⟩⟩
  obtain ⟨a, ha, hname⟩ := carries_iff.mp hmapping
  exact carries_iff.mpr ⟨a, ha, mem_routeAnnotations_iff.mpr (.inl hname)⟩

/-! ## All classes -/

/-- Each controller with each of its methods that carry a mapping, in order of declaration. -/
def mappedMethods (classes : List ClassInfo) : List (ClassInfo × MethodInfo) :=
  (classes.filter fun c => carries controllerMarks c.annotations).flatMap fun c =>
    (c.methods.filter fun m => carries mappingAnnotations m.annotations).map fun m => (c, m)

/-- What a partial function makes of a list, against the elements at which it is defined. -/
theorem forall₂_filterMap {α β : Type} {f : α → Option β} {p : α → Bool} {rel : α → β → Prop}
    (hdefined : ∀ a, (f a).isSome = p a) (hrel : ∀ a b, f a = some b → rel a b) (xs : List α) :
    List.Forall₂ rel (xs.filter p) (xs.filterMap f) := by
  induction xs with
  | nil => exact .nil
  | cons a rest ih =>
      have ha := hdefined a
      cases hf : f a with
      | none =>
          rw [hf] at ha
          rw [List.filterMap_cons_none hf, List.filter_cons_of_neg (by simp [← ha])]
          exact ih
      | some b =>
          rw [hf] at ha
          rw [List.filterMap_cons_some hf, List.filter_cons_of_pos (by simp [← ha])]
          exact .cons (hrel a b hf) ih

theorem forall₂_detect (classes : List ClassInfo) :
    List.Forall₂ (fun cm e => StandsFor e cm.1 cm.2) (mappedMethods classes)
      (detect routeAnnotations classes) := by
  have hcontrollers : isController = fun c => carries controllerMarks c.annotations :=
    funext isController_eq
  unfold mappedMethods detect
  rw [hcontrollers]
  induction classes.filter (fun c => carries controllerMarks c.annotations) with
  | nil => exact .nil
  | cons c rest ih =>
      rw [List.flatMap_cons, List.flatMap_cons]
      refine List.rel_append ?_ ih
      rw [List.forall₂_map_left_iff]
      exact forall₂_filterMap (isSome_ofMethod?_routeAnnotations c)
        (fun m e he => (standsFor_of_ofMethod? he).2) c.methods

theorem map_id_filterMap_ofMethod? (routes : List String) (c : ClassInfo) :
    (c.methods.filterMap (ofMethod? routes c)).map Endpoint.id =
      (c.methods.filter fun m => (ofMethod? routes c m).isSome).map c.methodId := by
  symm
  rw [← List.forall₂_eq_eq_eq, List.forall₂_map_left_iff, List.forall₂_map_right_iff]
  exact forall₂_filterMap (fun _ => rfl) (fun m e he => (standsFor_of_ofMethod? he).2.id_eq.symm)
    c.methods

/-- The endpoints of one class are found, in order, among its points of entry. -/
theorem map_id_sublist_entryPoints_singleton (routes : List String) (c : ClassInfo) :
    ((c.methods.filterMap (ofMethod? routes c)).map Endpoint.id).Sublist
      ((entryPoints routes [c]).map CataloguedMethod.id) := by
  rw [map_id_filterMap_ofMethod?, entryPoints, catalogue, List.flatMap_singleton, List.filter_map,
    List.map_map]
  refine List.Sublist.map _ (List.monotone_filter_right c.methods fun m hm => ?_)
  have hroute := (isSome_ofMethod?_iff.mp hm).1
  simp [CataloguedMethod.of, hroute]

theorem entryPoints_cons (routes : List String) (c : ClassInfo) (rest : List ClassInfo) :
    entryPoints routes (c :: rest) = entryPoints routes [c] ++ entryPoints routes rest := by
  simp only [entryPoints, catalogue, List.flatMap_cons, List.flatMap_nil, List.append_nil,
    List.filter_append]

theorem map_id_detect_sublist (routes : List String) (classes : List ClassInfo) :
    ((detect routes classes).map Endpoint.id).Sublist
      ((entryPoints routes classes).map CataloguedMethod.id) := by
  induction classes with
  | nil => exact List.Sublist.slnil
  | cons c rest ih =>
      rw [entryPoints_cons, List.map_append]
      by_cases hc : isController c = true
      · rw [detect, List.filter_cons_of_pos hc, List.flatMap_cons, List.map_append]
        exact (map_id_sublist_entryPoints_singleton routes c).append ih
      · rw [detect, List.filter_cons_of_neg hc]
        exact ih.trans (List.sublist_append_right _ _)

theorem mem_entryPoints_of_isRouteHandler {routes : List String} {classes : List ClassInfo}
    {c : ClassInfo} {m : MethodInfo} (hc : c ∈ classes) (hm : m ∈ c.methods)
    (hroute : m.isRouteHandler routes = true) :
    CataloguedMethod.of routes c m ∈ entryPoints routes classes := by
  refine List.mem_filter.mpr ⟨?_, ?_⟩
  · exact List.mem_flatMap.mpr ⟨c, hc, List.mem_map_of_mem hm⟩
  · simp [CataloguedMethod.of, hroute]

/-- **Endpoints agree with points of entry.** For any route annotations the endpoints stand, in
order, among the points of entry. With the usual ones there is one endpoint for each method of a
controller that carries a mapping, in order of declaration, and no other; a method with a path and
no mapping is a point of entry all the same. -/
theorem detect_agrees (routes : List String) (classes : List ClassInfo) :
    ((detect routes classes).map Endpoint.id).Sublist
        ((entryPoints routes classes).map CataloguedMethod.id) ∧
      List.Forall₂ (fun cm e => StandsFor e cm.1 cm.2) (mappedMethods classes)
        (detect routeAnnotations classes) ∧
      ∀ c ∈ classes, ∀ m ∈ c.methods, carries pathAnnotations m.annotations = true →
        carries mappingAnnotations m.annotations = false →
          CataloguedMethod.of routeAnnotations c m ∈ entryPoints routeAnnotations classes ∧
            ofMethod? routeAnnotations c m = none := by
  refine ⟨map_id_detect_sublist routes classes, forall₂_detect classes, ?_⟩
  intro c hc m hm hpath hmapping
  constructor
  · obtain ⟨a, ha, hname⟩ := carries_iff.mp hpath
    refine mem_entryPoints_of_isRouteHandler hc hm (carries_iff.mpr ⟨a, ha, ?_⟩)
    exact mem_routeAnnotations_iff.mpr (.inr hname)
  · rw [← Option.isNone_iff_eq_none, ← Option.not_isSome, isSome_ofMethod?_routeAnnotations, hmapping]
    rfl

/-! ## A service with a locator -/

/-- A public method without parameters. -/
def sampleMethod (name returnType : String) (annotations : List String) : MethodInfo where
  name := name
  returnType := returnType
  parameters := []
  modifiers := ["public"]
  annotations := annotations
  calls := []
  isStatic := false
  isAbstract := false
  descriptor := ""
  exceptions := []
  annotationValues := ∅

/-- A service with an accessor that answers to a verb, and one that only hands on to a service
below its path. -/
def sampleService : ClassInfo where
  name := "com.example.Orders"
  simpleName := "Orders"
  packageName := "com.example"
  kind := .ordinary
  superclass := none
  interfaces := []
  annotations := ["jakarta.ws.rs.Path"]
  modifiers := ["public"]
  fields := []
  methods := [sampleMethod "getAll" "java.util.List" ["jakarta.ws.rs.GET"],
    sampleMethod "getItems" "com.example.Items" ["jakarta.ws.rs.Path"]]
  isAbstract := false
  sourceFile := none
  major := 61
  minor := 0
  annotationValues := ∅

/-- The locator is a point of entry and no endpoint; the accessor is the one endpoint. -/
theorem detect_agrees_sample :
    (mappedMethods [sampleService]).map (fun cm => cm.2.name) = ["getAll"] ∧
      (detect routeAnnotations [sampleService]).length = 1 ∧
      CataloguedMethod.of routeAnnotations sampleService
          (sampleMethod "getItems" "com.example.Items" ["jakarta.ws.rs.Path"]) ∈
        entryPoints routeAnnotations [sampleService] := by
  obtain ⟨-, hendpoints, hlocators⟩ := detect_agrees routeAnnotations [sampleService]
  refine ⟨by decide, ?_, ?_⟩
  · rw [← hendpoints.length_eq]
    decide
  · exact (hlocators sampleService (by simp) _ (by simp [sampleService]) (by decide) (by decide)).1

end Endpoint

end ClassAtlas
