import ClassAtlas.Proofs.Notices
import ClassAtlas.Settings.Basic

/-!
# The settings of a table

Settings are read by name. A table gives some names a value and says nothing about
the others, so the settings of a table are known name by name: the last value that
the table gives, in the form in which it is stored, or else what was there before.

`applyTable` goes through the pairs one by one. It has a result exactly if every
value for a known name can be stored, and the result is the one described.
-/

namespace ClassAtlas.Settings

/-! ## Settings by name -/

/-- What is stored under a name. -/
def shown (s : Settings) : SettingName → Setting
  | .workers => s.workers
  | .timeout => s.timeout
  | .maxCallDepth => s.maxCallDepth
  | .maxChains => s.maxChains
  | .includePrivate => s.includePrivate
  | .excludedBeginnings => .list s.excludedBeginnings
  | .extraAnnotations => .table (s.extraAnnotations.map .list).entries

/-- The form in which a value is stored under a name. -/
def stored (name : SettingName) (value : Setting) : Except SettingFault Setting :=
  match name with
  | .excludedBeginnings => value.items.map .list
  | .extraAnnotations => (readAnnotations value).map fun t => .table (t.map .list).entries
  | _ => .ok value

theorem table_eq_of_lists {t u : Table String (List Setting)}
    (h : (t.map Setting.list).entries = (u.map Setting.list).entries) : t = u := by
  have hentries : t.entries = u.entries := by
    refine List.map_inj_right ?_ |>.mp h
    rintro ⟨role, names⟩ ⟨role', names'⟩ heq
    simpa using heq
  cases t
  cases u
  cases hentries
  rfl

/-- Settings are what they show. -/
theorem eq_of_shown {s t : Settings} (h : ∀ name, s.shown name = t.shown name) : s = t := by
  have hlist := Setting.list.inj (h .excludedBeginnings)
  have htable := table_eq_of_lists (Setting.table.inj (h .extraAnnotations))
  have hworkers : s.workers = t.workers := h .workers
  have htimeout : s.timeout = t.timeout := h .timeout
  have hdepth : s.maxCallDepth = t.maxCallDepth := h .maxCallDepth
  have hchains : s.maxChains = t.maxChains := h .maxChains
  have hprivate : s.includePrivate = t.includePrivate := h .includePrivate
  cases s
  cases t
  simp_all

/-- Giving a setting a value stores the value under its name and leaves all others as they are. -/
theorem assign_cases (s : Settings) (name : SettingName) (value : Setting) :
    (∃ s', s.assign name value = .ok s' ∧ stored name value = .ok (s'.shown name) ∧
        ∀ other, other ≠ name → s'.shown other = s.shown other) ∨
      ∃ fault, s.assign name value = .error fault ∧ stored name value = .error fault := by
  cases name with
  | excludedBeginnings =>
      unfold assign stored
      cases value.items with
      | error fault => exact .inr ⟨fault, rfl, rfl⟩
      | ok items => exact .inl ⟨_, rfl, rfl, by rintro (_ | _) <;> simp [shown]⟩
  | extraAnnotations =>
      unfold assign stored
      cases readAnnotations value with
      | error fault => exact .inr ⟨fault, rfl, rfl⟩
      | ok t => exact .inl ⟨_, rfl, rfl, by rintro (_ | _) <;> simp [shown]⟩
  | _ => exact .inl ⟨_, rfl, rfl, by rintro (_ | _) <;> simp [shown]⟩

/-! ## What a table gives -/

/-- The value that a table gives a setting. Of two keys that name it the later one counts. -/
def given? (pairs : List (String × Setting)) (name : SettingName) : Option Setting :=
  (pairs.reverse.find? fun e => SettingName.ofFileKey? e.1 = some name).map Prod.snd

/-- The value of a pair can be stored, if its key names a setting. -/
def Storable (e : String × Setting) : Prop :=
  ∀ name, SettingName.ofFileKey? e.1 = some name → ∃ kept, stored name e.2 = .ok kept

/-- `s` are the settings that a table makes of others. -/
structure Decodes (initial : Settings) (pairs : List (String × Setting)) (s : Settings) : Prop where
  storable : ∀ e ∈ pairs, Storable e
  given : ∀ name value, given? pairs name = some value → stored name value = .ok (s.shown name)
  kept : ∀ name, given? pairs name = none → s.shown name = initial.shown name

theorem given?_cons (e : String × Setting) (rest : List (String × Setting)) (name : SettingName) :
    given? (e :: rest) name = (given? rest name).or (given? [e] name) := by
  rw [given?, given?, given?, List.reverse_cons, List.find?_append, Option.map_or]
  rfl

theorem given?_single (e : String × Setting) (name : SettingName) :
    given? [e] name = if SettingName.ofFileKey? e.1 = some name then some e.2 else none := by
  by_cases h : SettingName.ofFileKey? e.1 = some name <;> simp [given?, h]

variable {s s' t : Settings} {e : String × Setting} {pairs : List (String × Setting)}

theorem Decodes.unique (hs : Decodes s pairs s') (ht : Decodes s pairs t) : s' = t := by
  refine eq_of_shown fun name => ?_
  cases hgiven : given? pairs name with
  | none => rw [hs.kept name hgiven, ht.kept name hgiven]
  | some value =>
      have hstored := hs.given name value hgiven
      rw [ht.given name value hgiven] at hstored
      exact (Except.ok.inj hstored).symm

theorem decodes_nil (s : Settings) : Decodes s [] s :=
  ⟨by simp, by simp [given?], fun _ _ => rfl⟩

theorem decodes_single_of_unknown (hkey : SettingName.ofFileKey? e.1 = none) : Decodes s [e] s := by
  have hgiven (name : SettingName) : given? [e] name = none := by simp [given?_single, hkey]
  refine ⟨?_, by simp [hgiven], fun _ _ => rfl⟩
  simp [Storable, hkey]

theorem decodes_single_of_stored {name : SettingName} (hkey : SettingName.ofFileKey? e.1 = some name)
    (hstored : stored name e.2 = .ok (s'.shown name))
    (hother : ∀ other, other ≠ name → s'.shown other = s.shown other) : Decodes s [e] s' := by
  refine ⟨?_, ?_, ?_⟩
  · simp [Storable, hkey, hstored]
  · intro other value hgiven
    rw [given?_single, hkey] at hgiven
    obtain ⟨hname, hvalue⟩ := Option.ite_none_right_eq_some.mp hgiven
    cases hname
    cases hvalue
    exact hstored
  · intro other hgiven
    refine hother other fun hname => ?_
    simp [given?_single, hkey, hname] at hgiven

/-- A table whose first pair changes the settings goes on from there. -/
theorem Decodes.cons (hfirst : Decodes s [e] s') (hrest : Decodes s' pairs t) :
    Decodes s (e :: pairs) t := by
  refine ⟨?_, ?_, ?_⟩
  · intro f hf
    rcases List.mem_cons.mp hf with rfl | hf
    · exact hfirst.storable f (.head _)
    · exact hrest.storable f hf
  · intro name value hgiven
    rw [given?_cons] at hgiven
    rcases Option.or_eq_some_iff.mp hgiven with hgiven | ⟨hnone, hgiven⟩
    · exact hrest.given name value hgiven
    · rw [hrest.kept name hnone]
      exact hfirst.given name value hgiven
  · intro name hgiven
    rw [given?_cons] at hgiven
    obtain ⟨hnone, hgiven⟩ := Option.or_eq_none_iff.mp hgiven
    rw [hrest.kept name hnone, hfirst.kept name hgiven]

/-- What the rest of a table makes of the settings after its first pair. -/
theorem Decodes.tail (hfirst : Decodes s [e] s') (h : Decodes s (e :: pairs) t) :
    Decodes s' pairs t := by
  refine ⟨fun f hf => h.storable f (.tail e hf), ?_, ?_⟩
  · intro name value hgiven
    refine h.given name value ?_
    rw [given?_cons, hgiven, Option.some_or]
  · intro name hnone
    have hcons : given? (e :: pairs) name = given? [e] name := by
      rw [given?_cons, hnone, Option.none_or]
    cases hgiven : given? [e] name with
    | none => rw [h.kept name (hcons.trans hgiven), hfirst.kept name hgiven]
    | some value =>
        have hstored := h.given name value (hcons.trans hgiven)
        rw [hfirst.given name value hgiven] at hstored
        exact (Except.ok.inj hstored).symm

/-! ## Going through a table -/

/-- Notices about keys that name no setting. -/
def ArePassed (source : String) (notices : List String) : Prop :=
  ∀ notice ∈ notices, ∃ key, SettingName.ofFileKey? key = none ∧ notice = unknownKeyNotice key source

theorem arePassed_nil (source : String) : ArePassed source [] := nofun

theorem ArePassed.append {source : String} {xs ys : List String} (hxs : ArePassed source xs)
    (hys : ArePassed source ys) : ArePassed source (xs ++ ys) := by
  intro notice hmem
  rcases List.mem_append.mp hmem with hmem | hmem
  · exact hxs notice hmem
  · exact hys notice hmem

theorem appends_assignEntry (source : String) (s : Settings) (e : String × Setting) :
    Noted.Appends (assignEntry source s e) := by
  unfold assignEntry
  split
  · exact (Noted.appends_note _).bind fun _ => Noted.appends_pure s
  · exact Noted.appends_ofExcept _

theorem appends_applyTable (s : Settings) (source : String) (pairs : List (String × Setting)) :
    Noted.Appends (s.applyTable source pairs) :=
  .foldlM (appends_assignEntry source) pairs s

theorem assignEntry_results (source : String) (s : Settings) (e : String × Setting) :
    ∃ passed, ArePassed source passed ∧
      ((∃ s', Decodes s [e] s' ∧ (assignEntry source s e).results = (.ok s', passed)) ∨
        (¬ Storable e ∧ ∃ fault, (assignEntry source s e).results = (.error fault, passed))) := by
  unfold assignEntry
  cases hkey : SettingName.ofFileKey? e.1 with
  | none =>
      refine ⟨[unknownKeyNotice e.1 source], ?_, .inl ⟨s, decodes_single_of_unknown hkey, rfl⟩⟩
      simpa [ArePassed] using ⟨e.1, hkey, rfl⟩
  | some name =>
      refine ⟨[], arePassed_nil source, ?_⟩
      rcases s.assign_cases name e.2 with ⟨s', hassign, hstored, hother⟩ | ⟨fault, hassign, hstored⟩
      · refine .inl ⟨s', decodes_single_of_stored hkey hstored hother, ?_⟩
        simp only [hassign]
        rfl
      · refine .inr ⟨fun h => ?_, fault, ?_⟩
        · obtain ⟨kept, hkept⟩ := h name hkey
          rw [hstored] at hkept
          cases hkept
        · simp only [hassign]
          rfl

/-- Going through a table gives its settings, or else it has none. -/
theorem applyTable_results (source : String) (s : Settings) (pairs : List (String × Setting)) :
    ∃ passed, ArePassed source passed ∧
      ((∃ t, Decodes s pairs t ∧ (s.applyTable source pairs).results = (.ok t, passed)) ∨
        ((¬ ∃ t, Decodes s pairs t) ∧
          ∃ fault, (s.applyTable source pairs).results = (.error fault, passed))) := by
  induction pairs generalizing s with
  | nil => exact ⟨[], arePassed_nil source, .inl ⟨s, decodes_nil s, rfl⟩⟩
  | cons e pairs ih =>
      have hrun : s.applyTable source (e :: pairs) =
          assignEntry source s e >>= fun s' => s'.applyTable source pairs := List.foldlM_cons
      rw [hrun]
      obtain ⟨passed, hpassed, ⟨s', hfirst, hentry⟩ | ⟨hbad, fault, hentry⟩⟩ :=
        assignEntry_results source s e
      · obtain ⟨later, hlater, hrest⟩ := ih s'
        refine ⟨passed ++ later, hpassed.append hlater, ?_⟩
        rw [Noted.results_bind_of_ok (congrArg Prod.fst hentry) (appends_applyTable s' source pairs),
          hentry]
        rcases hrest with ⟨t, hdecodes, hresult⟩ | ⟨hnone, fault, hresult⟩
        · exact .inl ⟨t, hfirst.cons hdecodes, by rw [hresult]⟩
        · refine .inr ⟨fun ⟨t, ht⟩ => hnone ⟨t, hfirst.tail ht⟩, fault, by rw [hresult]⟩
      · refine ⟨passed, hpassed, .inr ⟨fun ⟨t, ht⟩ => hbad (ht.storable e (.head _)), fault, ?_⟩⟩
        rw [Noted.results_bind_of_error (congrArg Prod.fst hentry), hentry]

end ClassAtlas.Settings
