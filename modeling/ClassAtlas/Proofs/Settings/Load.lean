import ClassAtlas.Proofs.Settings.Table
import ClassAtlas.Settings.Load

/-!
# Which settings file counts

A settings file is a source: a place, and where in a document the table with
settings stands. A source gives settings, or has nothing to say, or is there and
cannot be used. Reading it comes to the settings or to none, with a notice exactly
if it cannot be used.

From there the two files of a project follow. The first counts if it gives
settings, else the second, else the settings stay as they were. Only bytes that
are no text stand in the way: they are a fault of another kind, which nothing on
the way catches.
-/

namespace ClassAtlas.Settings

/-! ## What a place holds -/

/-- The file at a place is a document with this root table. -/
def HoldsTable (root : FileTree) (p : Place) (entries : Toml.Entries) : Prop :=
  ∃ data source, root.content? p = some data ∧ Text.ofUtf8? data = some source ∧
    Toml.parse? source = some entries

/-- The bytes at a place are no text. -/
def HoldsNoText (root : FileTree) (p : Place) : Prop :=
  ∃ data, root.content? p = some data ∧ Text.ofUtf8? data = none

section Read

variable {root : FileTree} {p : Place} {entries : Toml.Entries}

theorem readFile_eq_some_iff : readFile root p = .ok (some entries) ↔ HoldsTable root p entries := by
  unfold readFile HoldsTable
  cases hdata : root.content? p with
  | none => simp
  | some data => cases htext : Text.ofUtf8? data <;> simp [htext]

theorem readFile_eq_error_iff : readFile root p = .error .notUtf8 ↔ HoldsNoText root p := by
  unfold readFile HoldsNoText
  cases hdata : root.content? p with
  | none => simp
  | some data => cases htext : Text.ofUtf8? data <;> simp [htext]

theorem HoldsTable.unique {entries' : Toml.Entries} (h : HoldsTable root p entries)
    (h' : HoldsTable root p entries') : entries = entries' := by
  have hread := readFile_eq_some_iff.mpr h
  rw [readFile_eq_some_iff.mpr h'] at hread
  exact (Option.some.inj (Except.ok.inj hread)).symm

theorem HoldsTable.not_holdsNoText (h : HoldsTable root p entries) : ¬ HoldsNoText root p := by
  intro hbytes
  have hread := readFile_eq_some_iff.mpr h
  rw [readFile_eq_error_iff.mpr hbytes] at hread
  cases hread

theorem not_holdsNoText_of_missing (h : root.find? p = none) : ¬ HoldsNoText root p := by
  simp [HoldsNoText, FileTree.content?, h]

theorem HoldsTable.isSome_find? (h : HoldsTable root p entries) : (root.find? p).isSome := by
  obtain ⟨data, source, hdata, -⟩ := h
  cases hfind : root.find? p with
  | none => simp [FileTree.content?, hfind] at hdata
  | some t => rfl

end Read

/-! ## Sources of settings -/

/-- A file that may give settings, and where its documents have them. -/
structure Source where
  place : Place
  /-- The pairs of the table with settings. -/
  Pairs : Toml.Entries → List (String × Setting) → Prop
  /-- The document has no such table, nor anything in its place. -/
  Silent : Toml.Entries → Prop

/-- The file for settings alone. It speaks even without a table; then no pair is in it. -/
def ownSource (directory : Place) : Source where
  place := directory ++ [".classlens.toml"]
  Pairs entries pairs := entries.lookup "classlens" = some (.table pairs) ∨
    entries.lookup "classlens" = none ∧ pairs = []
  Silent _ := False

/-- The file that describes the project. -/
def projectSource (directory : Place) : Source where
  place := directory ++ ["pyproject.toml"]
  Pairs entries pairs := ∃ tools, entries.lookup "tool" = some (.table tools) ∧
    tools.lookup "classlens" = some (.table pairs)
  Silent entries := entries.lookup "tool" = none ∨
    ∃ tools, entries.lookup "tool" = some (.table tools) ∧ tools.lookup "classlens" = none

namespace Source

/-- The source can be read, and its table makes these settings of others. -/
def Gives (src : Source) (initial : Settings) (root : FileTree) (s : Settings) : Prop :=
  ∃ entries pairs, HoldsTable root src.place entries ∧ src.Pairs entries pairs ∧
    Decodes initial pairs s

/-- The source can be read and has nothing to say. -/
def SaysNothing (src : Source) (root : FileTree) : Prop :=
  ∃ entries, HoldsTable root src.place entries ∧ src.Silent entries

/-- The source is there, but it cannot be read or decoded. -/
structure Unusable (src : Source) (initial : Settings) (root : FileTree) : Prop where
  found : (root.find? src.place).isSome
  speaks : ¬ src.SaysNothing root
  givesNone : ¬ ∃ s, src.Gives initial root s

/-- `choose` finds the table of a source. -/
structure FoundBy (src : Source) (choose : Toml.Entries → Except SettingFault (Option Setting)) :
    Prop where
  pairs_iff : ∀ entries pairs, src.Pairs entries pairs ↔ choose entries = .ok (some (.table pairs))
  silent_iff : ∀ entries, src.Silent entries ↔ choose entries = .ok none

end Source

theorem ownSource_foundBy (directory : Place) : (ownSource directory).FoundBy ownTable := by
  refine ⟨fun entries pairs => ?_, fun entries => by simp [ownSource, ownTable]⟩
  simp only [ownSource, ownTable]
  cases entries.lookup "classlens" with
  | none => simp [eq_comm]
  | some table => simp

theorem toolTable_eq_ok_iff {entries : Toml.Entries} {table : Option Setting} :
    toolTable entries = .ok table ↔
      (entries.lookup "tool" = none ∧ table = none) ∨
        ∃ tools, entries.lookup "tool" = some (.table tools) ∧ tools.lookup "classlens" = table := by
  unfold toolTable
  cases entries.lookup "tool" with
  | none => simp [Setting.entries, bind, Except.bind, pure, Except.pure, eq_comm]
  | some value => cases value <;> simp [Setting.entries, bind, Except.bind, pure, Except.pure]

theorem projectSource_foundBy (directory : Place) :
    (projectSource directory).FoundBy toolTable :=
  ⟨fun entries pairs => by simp [projectSource, toolTable_eq_ok_iff],
    fun entries => by simp [projectSource, toolTable_eq_ok_iff]⟩

/-! ## Notices about a source -/

theorem head?_unknownKeyNotice (key source : String) :
    (unknownKeyNotice key source).toList.head? = some 'I' := by
  have hshape : unknownKeyNotice key source =
      "Ignoring unknown setting " ++ (Text.quoted key ++ (" in " ++ source)) := by
    show "Ignoring unknown setting " ++ Text.quoted key ++ " in " ++ source = _
    rw [String.append_assoc, String.append_assoc]
  rw [hshape, String.toList_append]
  generalize (Text.quoted key ++ (" in " ++ source)).toList = rest
  rfl

theorem head?_unreadableNotice (source : String) :
    (unreadableNotice source).toList.head? = some 'C' := by
  show ("Could not read " ++ source).toList.head? = some 'C'
  rw [String.toList_append]
  rfl

theorem unreadableNotice_ne_unknownKeyNotice (place key source : String) :
    unreadableNotice place ≠ unknownKeyNotice key source := by
  intro h
  have hhead : some 'C' = some 'I' := calc
    some 'C' = (unreadableNotice place).toList.head? := (head?_unreadableNotice place).symm
    _ = (unknownKeyNotice key source).toList.head? := congrArg (fun s => s.toList.head?) h
    _ = some 'I' := head?_unknownKeyNotice key source
  exact absurd hhead (by decide)

/-- Two files of one directory have different notices. -/
theorem unreadableNotice_ne {directory : Place} {x y : String} (hne : x ≠ y) :
    unreadableNotice (Place.text (directory ++ [x])) ≠
      unreadableNotice (Place.text (directory ++ [y])) := by
  intro h
  have htext := (String.append_right_inj _).mp ((String.append_right_inj _).mp h)
  cases directory with
  | nil => exact hne (by simpa using htext)
  | cons part rest =>
      rw [String.intercalate_append_of_ne_nil (by simp) (by simp),
        String.intercalate_append_of_ne_nil (by simp) (by simp), String.append_right_inj] at htext
      exact hne (by simpa using htext)

namespace Source

variable {src : Source} {initial : Settings} {root : FileTree} {notices passed : List String}

/-- A source is noticed exactly if it is unusable, and other notices only pass over a key. -/
structure Noticed (src : Source) (initial : Settings) (root : FileTree) (notices : List String) :
    Prop where
  mem_iff : unreadableNotice src.place.text ∈ notices ↔ src.Unusable initial root
  others : ∀ notice ∈ notices, notice = unreadableNotice src.place.text ∨
    ∃ key, SettingName.ofFileKey? key = none ∧ notice = unknownKeyNotice key src.place.text

theorem noticed_of_arePassed (hpassed : ArePassed src.place.text passed)
    (husable : ¬ src.Unusable initial root) : src.Noticed initial root passed := by
  refine ⟨iff_of_false (fun hmem => ?_) husable, fun notice hmem => .inr (hpassed notice hmem)⟩
  obtain ⟨key, -, hkey⟩ := hpassed _ hmem
  exact unreadableNotice_ne_unknownKeyNotice _ _ _ hkey

theorem noticed_of_unusable (hpassed : ArePassed src.place.text passed)
    (hunusable : src.Unusable initial root) :
    src.Noticed initial root (passed ++ [unreadableNotice src.place.text]) := by
  refine ⟨iff_of_true (by simp) hunusable, fun notice hmem => ?_⟩
  rcases List.mem_append.mp hmem with hmem | hmem
  · exact .inr (hpassed notice hmem)
  · exact .inl (List.mem_singleton.mp hmem)

end Source

/-! ## Reading a source -/

section Results

variable {initial : Settings} {source : String} {root : FileTree} {p : Place}
  {choose : Toml.Entries → Except SettingFault (Option Setting)} {entries : Toml.Entries}

theorem fromRoot_of_none (h : choose entries = .ok none) :
    (fromRoot initial source choose (some entries)).results = (.ok none, []) := by
  simp only [fromRoot, h]
  rfl

theorem fromRoot_of_table {pairs : List (String × Setting)}
    (h : choose entries = .ok (some (.table pairs))) :
    fromRoot initial source choose (some entries) = some <$> initial.applyTable source pairs := by
  simp only [fromRoot, h, map_eq_pure_bind]
  rfl

theorem fromRoot_of_neither (hnone : choose entries ≠ .ok none)
    (htable : ∀ pairs, choose entries ≠ .ok (some (.table pairs))) :
    ∃ fault, (fromRoot initial source choose (some entries)).results = (.error fault, []) := by
  simp only [fromRoot]
  cases hchoice : choose entries with
  | error fault => exact ⟨fault, rfl⟩
  | ok choice =>
      cases choice with
      | none => exact absurd hchoice hnone
      | some value =>
          cases value with
          | table pairs => exact absurd hchoice (htable pairs)
          | _ => exact ⟨.notTable, rfl⟩

theorem fromFile_of_missing (h : root.find? p = none) :
    (fromFile initial root p choose).results = (.ok none, []) := by
  simp only [fromFile, h]
  rfl

/-- A file that is there fails where its bytes are no text. -/
theorem fromFile_of_error {fault : EncodingFault} (hfound : (root.find? p).isSome)
    (hread : readFile root p = .error fault) :
    (fromFile initial root p choose).results = (.error fault, []) := by
  have hhere : (root.find? p).isNone = false := by simpa using hfound
  simp only [fromFile, hhere, hread]
  rfl

section Read

variable {content : Option Toml.Entries} {notices : List String}

theorem fromFile_of_ok {found : Option Settings} (hfound : (root.find? p).isSome)
    (hread : readFile root p = .ok content)
    (hroot : (fromRoot initial p.text choose content).results = (.ok found, notices)) :
    (fromFile initial root p choose).results = (.ok found, notices) := by
  have hhere : (root.find? p).isNone = false := by simpa using hfound
  simp only [fromFile, hhere, hread, Bool.false_eq_true, if_false, Noted.ofExcept_ok_bind]
  rw [Noted.results_bind_of_ok (a := .ok found), Noted.results_attempt, hroot]
  · exact Prod.ext rfl (List.append_nil notices)
  · rw [Noted.results_attempt, hroot]
  · exact Noted.appends_pure found

/-- A fault of the table ends at the file. -/
theorem fromFile_of_fault {fault : SettingFault} (hfound : (root.find? p).isSome)
    (hread : readFile root p = .ok content)
    (hroot : (fromRoot initial p.text choose content).results = (.error fault, notices)) :
    (fromFile initial root p choose).results =
      (.ok none, notices ++ [unreadableNotice p.text]) := by
  have hhere : (root.find? p).isNone = false := by simpa using hfound
  simp only [fromFile, hhere, hread, Bool.false_eq_true, if_false, Noted.ofExcept_ok_bind]
  rw [Noted.results_bind_of_ok (a := .error fault), Noted.results_attempt, hroot]
  · rfl
  · rw [Noted.results_attempt, hroot]
  · exact (Noted.appends_note _).bind fun _ => Noted.appends_pure none

end Read

end Results

namespace Source

variable {src : Source} {choose : Toml.Entries → Except SettingFault (Option Setting)}
  {initial : Settings} {root : FileTree} {entries : Toml.Entries}

theorem gives_iff (hread : HoldsTable root src.place entries) {s : Settings} :
    src.Gives initial root s ↔ ∃ pairs, src.Pairs entries pairs ∧ Decodes initial pairs s := by
  constructor
  · rintro ⟨entries', pairs, hread', hpairs, hs⟩
    cases hread.unique hread'
    exact ⟨pairs, hpairs, hs⟩
  · rintro ⟨pairs, hpairs, hs⟩
    exact ⟨entries, pairs, hread, hpairs, hs⟩

theorem saysNothing_iff (hread : HoldsTable root src.place entries) :
    src.SaysNothing root ↔ src.Silent entries := by
  constructor
  · rintro ⟨entries', hread', hsilent⟩
    cases hread.unique hread'
    exact hsilent
  · exact fun hsilent => ⟨entries, hread, hsilent⟩

/-- What a source comes to when it is read. -/
inductive Outcome (src : Source) (initial : Settings) (root : FileTree) :
    Except EncodingFault (Option Settings) × List String → Prop
  | noText : HoldsNoText root src.place → Outcome src initial root (.error .notUtf8, [])
  | gives {s : Settings} {notices : List String} :
      src.Gives initial root s → src.Noticed initial root notices →
      Outcome src initial root (.ok (some s), notices)
  | nothing {notices : List String} :
      ¬ HoldsNoText root src.place → (¬ ∃ s, src.Gives initial root s) →
      src.Noticed initial root notices → Outcome src initial root (.ok none, notices)

/-- A source that is not there, or is no document, gives no settings. -/
theorem not_gives_of_no_table (h : ∀ entries, ¬ HoldsTable root src.place entries) :
    ¬ ∃ s, src.Gives initial root s := by
  rintro ⟨s, entries, pairs, hread, -⟩
  exact h entries hread

theorem outcome_of_missing (h : root.find? src.place = none) :
    src.Outcome initial root (fromFile initial root src.place choose).results := by
  have hno : ∀ entries, ¬ HoldsTable root src.place entries := by
    intro entries hread
    simpa [h] using hread.isSome_find?
  rw [fromFile_of_missing h]
  refine .nothing (not_holdsNoText_of_missing h) (not_gives_of_no_table hno)
    (noticed_of_arePassed (arePassed_nil _) fun hunusable => ?_)
  simpa [h] using hunusable.found

theorem outcome_of_fault {content : Option Toml.Entries} {fault : SettingFault} {passed : List String}
    (hread : readFile root src.place = .ok content)
    (hroot : (fromRoot initial src.place.text choose content).results = (.error fault, passed))
    (hpassed : ArePassed src.place.text passed) (hunusable : src.Unusable initial root) :
    src.Outcome initial root (fromFile initial root src.place choose).results := by
  have htext : ¬ HoldsNoText root src.place := by
    rw [← readFile_eq_error_iff, hread]
    exact nofun
  rw [fromFile_of_fault hunusable.found hread hroot]
  exact .nothing htext hunusable.givesNone (noticed_of_unusable hpassed hunusable)

/-- A document either has no table with settings, or one that decodes, or is unusable. -/
theorem FoundBy.outcome_of_table (h : src.FoundBy choose) (htable : HoldsTable root src.place entries) :
    src.Outcome initial root (fromFile initial root src.place choose).results := by
  have hfound := htable.isSome_find?
  have hread := readFile_eq_some_iff.mpr htable
  have hgives (s : Settings) : src.Gives initial root s ↔
      ∃ pairs, choose entries = .ok (some (.table pairs)) ∧ Decodes initial pairs s := by
    simp only [gives_iff htable, h.pairs_iff]
  have hquiet : src.SaysNothing root ↔ choose entries = .ok none := by
    rw [saysNothing_iff htable, h.silent_iff]
  by_cases hsilent : choose entries = .ok none
  · rw [fromFile_of_ok hfound hread (fromRoot_of_none hsilent)]
    refine .nothing htable.not_holdsNoText ?_
      (noticed_of_arePassed (arePassed_nil _) fun hunusable => hunusable.speaks (hquiet.mpr hsilent))
    simp [hgives, hsilent]
  · have hspeaks : ¬ src.SaysNothing root := fun hnothing => hsilent (hquiet.mp hnothing)
    by_cases hpairs : ∃ pairs, choose entries = .ok (some (.table pairs))
    · obtain ⟨pairs, hpairs⟩ := hpairs
      obtain ⟨passed, hpassed, ⟨s, hs, happly⟩ | ⟨hnone, fault, happly⟩⟩ :=
        applyTable_results src.place.text initial pairs
      · have hs : src.Gives initial root s := (hgives s).mpr ⟨pairs, hpairs, hs⟩
        have hroot : (fromRoot initial src.place.text choose (some entries)).results =
            (.ok (some s), passed) := by
          rw [fromRoot_of_table hpairs, Noted.results_map, happly]
          rfl
        rw [fromFile_of_ok hfound hread hroot]
        exact .gives hs
          (noticed_of_arePassed hpassed fun hunusable => hunusable.givesNone ⟨s, hs⟩)
      · have hroot : (fromRoot initial src.place.text choose (some entries)).results =
            (.error fault, passed) := by
          rw [fromRoot_of_table hpairs, Noted.results_map, happly]
          rfl
        refine outcome_of_fault hread hroot hpassed ⟨hfound, hspeaks, ?_⟩
        simpa [hgives, hpairs] using hnone
    · obtain ⟨fault, hroot⟩ := fromRoot_of_neither hsilent (not_exists.mp hpairs)
      refine outcome_of_fault hread hroot (arePassed_nil _) ⟨hfound, hspeaks, ?_⟩
      rintro ⟨s, hs⟩
      obtain ⟨pairs, htable, -⟩ := (hgives s).mp hs
      exact hpairs ⟨pairs, htable⟩

theorem FoundBy.fromFile_outcome (h : src.FoundBy choose) (initial : Settings) (root : FileTree) :
    src.Outcome initial root (fromFile initial root src.place choose).results := by
  cases hfind : root.find? src.place with
  | none => exact outcome_of_missing hfind
  | some there =>
      have hfound : (root.find? src.place).isSome := by simp [hfind]
      cases hread : readFile root src.place with
      | error fault =>
          rw [fromFile_of_error hfound hread]
          exact .noText (readFile_eq_error_iff.mp hread)
      | ok content =>
          cases content with
          | some entries => exact h.outcome_of_table (readFile_eq_some_iff.mp hread)
          | none =>
              have hno : ∀ entries, ¬ HoldsTable root src.place entries := by
                intro entries
                rw [← readFile_eq_some_iff, hread]
                exact nofun
              have hspeaks : ¬ src.SaysNothing root := fun ⟨entries, htable, _⟩ => hno entries htable
              exact outcome_of_fault hread rfl (arePassed_nil _)
                ⟨hfound, hspeaks, not_gives_of_no_table hno⟩

/-- A source gives one value of all settings at most. -/
theorem FoundBy.gives_unique (h : src.FoundBy choose) {s t : Settings}
    (hs : src.Gives initial root s) (ht : src.Gives initial root t) : s = t := by
  obtain ⟨entries, pairs, hread, hpairs, hs⟩ := hs
  obtain ⟨pairs', hpairs', ht⟩ := (gives_iff hread).mp ht
  rw [h.pairs_iff] at hpairs hpairs'
  rw [hpairs] at hpairs'
  cases hpairs'
  exact hs.unique ht

theorem Gives.not_holdsNoText {s : Settings} (h : src.Gives initial root s) :
    ¬ HoldsNoText root src.place := by
  obtain ⟨entries, pairs, hread, -⟩ := h
  exact hread.not_holdsNoText

end Source

/-! ## The two files of a project -/

section Load

variable {initial : Settings} {root : FileTree} {directory : Place}

theorem appends_fromRoot (initial : Settings) (source : String)
    (choose : Toml.Entries → Except SettingFault (Option Setting)) (content : Option Toml.Entries) :
    Noted.Appends (fromRoot initial source choose content) := by
  cases content with
  | none => exact Noted.appends_ofExcept (.error SettingFault.notTable)
  | some entries =>
      refine (Noted.appends_ofExcept (choose entries)).bind fun choice => ?_
      cases choice with
      | none => exact Noted.appends_pure none
      | some table =>
          exact (Noted.appends_ofExcept table.entries).bind fun pairs =>
            (appends_applyTable initial source pairs).bind fun s => Noted.appends_pure (some s)

theorem appends_fromFile (initial : Settings) (root : FileTree) (p : Place)
    (choose : Toml.Entries → Except SettingFault (Option Setting)) :
    Noted.Appends (fromFile initial root p choose) := by
  unfold fromFile
  split
  · exact Noted.appends_pure none
  · refine (Noted.appends_ofExcept (readFile root p)).bind fun content => ?_
    refine (appends_fromRoot initial p.text choose content).attempt.bind fun found => ?_
    cases found with
    | ok settings => exact Noted.appends_pure settings
    | error fault => exact (Noted.appends_note _).bind fun _ => Noted.appends_pure none

theorem load_eq (initial : Settings) (root : FileTree) (directory : Place) :
    load initial root directory = (do
      let own ← fromFile initial root (ownSource directory).place ownTable
      own.elim ((fun found => found.getD initial) <$>
        fromFile initial root (projectSource directory).place toolTable) pure) := by
  refine congrArg (fromFile initial root (ownSource directory).place ownTable >>= ·) ?_
  funext own
  cases own with
  | some s => rfl
  | none =>
      rw [Option.elim_none, map_eq_pure_bind]
      refine congrArg (fromFile initial root (projectSource directory).place toolTable >>= ·) ?_
      funext found
      cases found <;> rfl

/-! What the load comes to, by what the two files come to. -/

section Results

variable {xs ys : List String} {fault : EncodingFault}

theorem load_of_own_error
    (hown : (fromFile initial root (ownSource directory).place ownTable).results =
      (.error fault, xs)) :
    (load initial root directory).results = (.error fault, xs) := by
  rw [load_eq, Noted.results_bind_of_error (congrArg Prod.fst hown), hown]

theorem load_of_own {s : Settings}
    (hown : (fromFile initial root (ownSource directory).place ownTable).results =
      (.ok (some s), xs)) :
    (load initial root directory).results = (.ok s, xs) := by
  rw [load_eq, Noted.results_bind_of_ok (congrArg Prod.fst hown) (Noted.appends_pure s), hown]
  exact Prod.ext rfl (List.append_nil xs)

/-- Where the first file comes to nothing the second counts, and its notices come behind. -/
theorem load_of_own_none {found : Except EncodingFault (Option Settings)}
    (hown : (fromFile initial root (ownSource directory).place ownTable).results = (.ok none, xs))
    (hproject : (fromFile initial root (projectSource directory).place toolTable).results =
      (found, ys)) :
    (load initial root directory).results =
      (found.map fun found => found.getD initial, xs ++ ys) := by
  have happends := (appends_fromFile initial root (projectSource directory).place toolTable).map
    fun found => found.getD initial
  rw [load_eq, Noted.results_bind_of_ok (congrArg Prod.fst hown) happends, hown,
    Option.elim_none, Noted.results_map, hproject]

end Results

/-- The settings that count for a directory. -/
inductive Counts (initial : Settings) (root : FileTree) (directory : Place) : Settings → Prop
  | own {s : Settings} : (ownSource directory).Gives initial root s → Counts initial root directory s
  | project {s : Settings} : (¬ ∃ t, (ownSource directory).Gives initial root t) →
      (projectSource directory).Gives initial root s → Counts initial root directory s
  | initial : (¬ ∃ t, (ownSource directory).Gives initial root t) →
      (¬ ∃ t, (projectSource directory).Gives initial root t) → Counts initial root directory initial

/-- A load that falls back from file to file. It has the settings that count, and the notices name
each file that was looked at and cannot be used. -/
structure FallsBack (initial : Settings) (root : FileTree) (directory : Place) (s : Settings)
    (notices : List String) : Prop where
  counts : Counts initial root directory s
  only : ∀ t, Counts initial root directory t → t = s
  own_noticed : unreadableNotice (ownSource directory).place.text ∈ notices ↔
    (ownSource directory).Unusable initial root
  project_noticed : unreadableNotice (projectSource directory).place.text ∈ notices ↔
    (¬ ∃ t, (ownSource directory).Gives initial root t) ∧
      (projectSource directory).Unusable initial root
  others : ∀ notice ∈ notices, notice = unreadableNotice (ownSource directory).place.text ∨
    notice = unreadableNotice (projectSource directory).place.text ∨
    ∃ key source, SettingName.ofFileKey? key = none ∧ notice = unknownKeyNotice key source

/-- A file that the load looks at holds bytes that are no text. -/
def MeetsNoText (initial : Settings) (root : FileTree) (directory : Place) : Prop :=
  HoldsNoText root (ownSource directory).place ∨
    (¬ ∃ t, (ownSource directory).Gives initial root t) ∧
      HoldsNoText root (projectSource directory).place

theorem Counts.unique {s t : Settings} (hs : Counts initial root directory s)
    (ht : Counts initial root directory t) : t = s := by
  cases hs with
  | own hs =>
      cases ht with
      | own ht => exact (ownSource_foundBy directory).gives_unique ht hs
      | project hnone _ => exact absurd ⟨s, hs⟩ hnone
      | initial hnone _ => exact absurd ⟨s, hs⟩ hnone
  | project hnone hs =>
      cases ht with
      | own ht => exact absurd ⟨t, ht⟩ hnone
      | project _ ht => exact (projectSource_foundBy directory).gives_unique ht hs
      | initial _ hnone' => exact absurd ⟨s, hs⟩ hnone'
  | initial hnone hnone' =>
      cases ht with
      | own ht => exact absurd ⟨t, ht⟩ hnone
      | project _ ht => exact absurd ⟨t, ht⟩ hnone'
      | initial _ _ => rfl

/-- The notices about one source say nothing about another. -/
theorem Source.Noticed.not_mem {src : Source} {notices : List String}
    (h : src.Noticed initial root notices) {text : String}
    (hne : unreadableNotice text ≠ unreadableNotice src.place.text) :
    unreadableNotice text ∉ notices := by
  intro hmem
  rcases h.others _ hmem with hsame | ⟨key, -, hkey⟩
  · exact hne hsame
  · exact unreadableNotice_ne_unknownKeyNotice _ _ _ hkey

section FallsBack

variable {s : Settings} {xs ys : List String}

theorem fallsBack_of_own (hs : (ownSource directory).Gives initial root s)
    (hxs : (ownSource directory).Noticed initial root xs) :
    FallsBack initial root directory s xs where
  counts := .own hs
  only _ ht := (Counts.own hs).unique ht
  own_noticed := hxs.mem_iff
  project_noticed :=
    iff_of_false (hxs.not_mem (unreadableNotice_ne (by decide))) fun h => h.1 ⟨s, hs⟩
  others notice hmem := by
    rcases hxs.others notice hmem with hsame | ⟨key, hkey⟩
    · exact .inl hsame
    · exact .inr (.inr ⟨key, _, hkey⟩)

theorem fallsBack_of_own_none (hs : Counts initial root directory s)
    (hnone : ¬ ∃ t, (ownSource directory).Gives initial root t)
    (hxs : (ownSource directory).Noticed initial root xs)
    (hys : (projectSource directory).Noticed initial root ys) :
    FallsBack initial root directory s (xs ++ ys) where
  counts := hs
  only _ ht := hs.unique ht
  own_noticed := by
    have hother : unreadableNotice (ownSource directory).place.text ∉ ys :=
      hys.not_mem (unreadableNotice_ne (by decide))
    rw [List.mem_append, hxs.mem_iff, or_iff_left hother]
  project_noticed := by
    have hother : unreadableNotice (projectSource directory).place.text ∉ xs :=
      hxs.not_mem (unreadableNotice_ne (by decide))
    rw [List.mem_append, hys.mem_iff, or_iff_right hother, and_iff_right hnone]
  others notice hmem := by
    rcases List.mem_append.mp hmem with hmem | hmem
    · rcases hxs.others notice hmem with hsame | ⟨key, hkey⟩
      · exact .inl hsame
      · exact .inr (.inr ⟨key, _, hkey⟩)
    · rcases hys.others notice hmem with hsame | ⟨key, hkey⟩
      · exact .inr (.inl hsame)
      · exact .inr (.inr ⟨key, _, hkey⟩)

end FallsBack

theorem load_cases (initial : Settings) (root : FileTree) (directory : Place) :
    (MeetsNoText initial root directory ∧
        (load initial root directory).results.1 = .error .notUtf8) ∨
      (¬ MeetsNoText initial root directory ∧
        ∃ s notices, (load initial root directory).results = (.ok s, notices) ∧
          FallsBack initial root directory s notices) := by
  have hown := (ownSource_foundBy directory).fromFile_outcome initial root
  have hproject := (projectSource_foundBy directory).fromFile_outcome initial root
  generalize hx : (fromFile initial root (ownSource directory).place ownTable).results = x at hown
  generalize hy : (fromFile initial root (projectSource directory).place toolTable).results = y
    at hproject
  cases hown with
  | noText hbytes => exact .inl ⟨.inl hbytes, congrArg Prod.fst (load_of_own_error hx)⟩
  | @gives s xs hs hxs =>
      refine .inr ⟨?_, s, xs, load_of_own hx, fallsBack_of_own hs hxs⟩
      rintro (hbytes | ⟨hnone, -⟩)
      · exact hs.not_holdsNoText hbytes
      · exact hnone ⟨s, hs⟩
  | @nothing xs htext hnone hxs =>
      have hload := load_of_own_none hx hy
      cases hproject with
      | noText hbytes => exact .inl ⟨.inr ⟨hnone, hbytes⟩, congrArg Prod.fst hload⟩
      | @gives s ys hs hys =>
          have hmeets : ¬ MeetsNoText initial root directory :=
            not_or.mpr ⟨htext, fun h => hs.not_holdsNoText h.2⟩
          exact .inr ⟨hmeets, s, xs ++ ys, hload,
            fallsBack_of_own_none (.project hnone hs) hnone hxs hys⟩
      | @nothing ys htext' hnone' hys =>
          have hmeets : ¬ MeetsNoText initial root directory :=
            not_or.mpr ⟨htext, fun h => htext' h.2⟩
          exact .inr ⟨hmeets, initial, xs ++ ys, hload,
            fallsBack_of_own_none (.initial hnone hnone') hnone hxs hys⟩

end Load

/-- **When settings fall back.** Whatever the two files of a directory hold, the load has the
settings that count and names each file it could not use, exactly if no file that it looks at holds
bytes that are no text. Such bytes end it with a fault. -/
theorem load_falls_back_iff (initial : Settings) (root : FileTree) (directory : Place) :
    ((∃ s notices, (load initial root directory).results = (.ok s, notices) ∧
        FallsBack initial root directory s notices) ↔ ¬ MeetsNoText initial root directory) ∧
      (MeetsNoText initial root directory ↔
        (load initial root directory).results.1 = .error .notUtf8) := by
  rcases load_cases initial root directory with ⟨hmeets, hfail⟩ | ⟨hfree, s, notices, hload, hback⟩
  · refine ⟨iff_of_false ?_ (not_not_intro hmeets), iff_of_true hmeets hfail⟩
    rintro ⟨s, notices, hload, -⟩
    rw [hload] at hfail
    cases hfail
  · refine ⟨iff_of_true ⟨s, notices, hload, hback⟩ hfree, iff_of_false hfree ?_⟩
    rw [hload]
    exact nofun

/-- The settings file is one byte that is no text, and there is no other file. The settings stay as
they were by right, and the load still has none. -/
theorem load_not_falling_back :
    Counts (default (some 1)) (.directory [(".classlens.toml", .file [0xff])]) []
        (default (some 1)) ∧
      (load (default (some 1)) (.directory [(".classlens.toml", .file [0xff])]) []).results =
        (.error .notUtf8, []) := by
  have hbytes : HoldsNoText (.directory [(".classlens.toml", .file [0xff])])
      (ownSource []).place := ⟨[0xff], rfl, by decide⟩
  have hmissing : (FileTree.directory [(".classlens.toml", .file [0xff])]).find?
      (projectSource []).place = none := by decide
  refine ⟨.initial ?_ ?_, ?_⟩
  · rintro ⟨t, ht⟩
    exact ht.not_holdsNoText hbytes
  · rintro ⟨t, entries, pairs, hread, -⟩
    simpa [hmissing] using hread.isSome_find?
  · exact load_of_own_error (fromFile_of_error rfl (readFile_eq_error_iff.mpr hbytes))

end ClassAtlas.Settings
