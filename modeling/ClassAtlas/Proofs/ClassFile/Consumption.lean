import Mathlib.Data.List.Forall2
import ClassAtlas.ClassFile.Cursor

/-!
# What a decoder uses up

`Consumes d used a` pins a decoder down on one run of bytes: it reads `used` as
`a`, leaves alone whatever follows, and refuses every part of `used` that stops
short. Both halves go through sequencing together, because a part of `used ++
used'` that stops short either stops inside `used` or inside `used'`.

`Local d` says that each success of `d` is such a consumption, so the result
never rests on bytes behind the cursor it leaves. `FailsOn d used fault` is the
other side of `Consumes`: what `used` begins with is reason enough to fail.
-/

namespace ClassAtlas.ClassFile

@[simp] theorem Cursor.advance_rest (c : Cursor) (n : Nat) :
    (c.advance n).rest = c.rest.drop n := rfl

@[simp] theorem Cursor.advance_position (c : Cursor) (n : Nat) :
    (c.advance n).position = c.position + n := rfl

theorem Cursor.advance_zero (c : Cursor) : c.advance 0 = c := rfl

theorem Cursor.advance_add (c : Cursor) (m n : Nat) :
    c.advance (m + n) = (c.advance m).advance n := by
  simp only [Cursor.advance, List.drop_drop, Nat.add_assoc]

/-- A list whose items each stand for some value stands for a list of values. -/
theorem exists_forall₂ {ι α : Type} {stands : ι → α → Prop} {items : List ι}
    (h : ∀ i ∈ items, ∃ v, stands i v) : ∃ values, List.Forall₂ stands items values := by
  induction items with
  | nil => exact ⟨[], .nil⟩
  | cons i rest ih =>
      obtain ⟨v, hv⟩ := h i (by simp)
      obtain ⟨values, hvalues⟩ := ih fun j hj => h j (by simp [hj])
      exact ⟨v :: values, .cons hv hvalues⟩

theorem exists_mem_of_forall₂ {ι α : Type} {R : ι → α → Prop} {items : List ι} {values : List α}
    (h : List.Forall₂ R items values) {i : ι} (hi : i ∈ items) : ∃ v ∈ values, R i v := by
  induction h with
  | nil => cases hi
  | cons hv _ ih =>
      rcases List.mem_cons.mp hi with rfl | hi
      · exact ⟨_, List.mem_cons_self, hv⟩
      · obtain ⟨v, hmem, hR⟩ := ih hi
        exact ⟨v, List.mem_cons_of_mem _ hmem, hR⟩

namespace Decoder

variable {α β : Type}

/-- `d` reads exactly `used` as `a`: with anything behind it `d` stops right there, and where only
a part of it is left `d` fails. -/
structure Consumes (d : Decoder α) (used : Bytes) (a : α) : Prop where
  accepts : ∀ (c : Cursor) (more : Bytes), c.overrun = 0 → c.rest = used ++ more →
    d.run c = .ok (a, c.advance used.length)
  refuses : ∀ (c : Cursor) (missing : Bytes), c.overrun = 0 → missing ≠ [] →
    used = c.rest ++ missing → ∃ fault, d.run c = .error fault

/-- Each success of `d` is the consumption of the bytes that it moved over. -/
def Local (d : Decoder α) : Prop :=
  ∀ (c c' : Cursor) (a : α), c.overrun = 0 → d.run c = .ok (a, c') →
    ∃ used more, c.rest = used ++ more ∧ c' = c.advance used.length ∧ d.Consumes used a

/-! ## Sequencing -/

theorem outcome_bind_ok {d : Decoder α} {f : α → Decoder β} {c c' : Cursor} {a : α}
    (h : d.outcome c = (.ok a, c')) : (d >>= f).outcome c = (f a).outcome c' := by
  rw [outcome, ExceptT.run_bind, StateT.run_bind, show StateT.run (ExceptT.run d) c = _ from h]
  rfl

theorem outcome_bind_error {d : Decoder α} {f : α → Decoder β} {c c' : Cursor} {fault : Fault}
    (h : d.outcome c = (.error fault, c')) : (d >>= f).outcome c = (.error fault, c') := by
  rw [outcome, ExceptT.run_bind, StateT.run_bind, show StateT.run (ExceptT.run d) c = _ from h]
  rfl

theorem run_eq_ok_iff {d : Decoder α} {c c' : Cursor} {a : α} :
    d.run c = .ok (a, c') ↔ d.outcome c = (.ok a, c') := by
  rw [run]
  rcases d.outcome c with ⟨_ | b, c₁⟩ <;> simp

theorem run_eq_error_iff {d : Decoder α} {c : Cursor} {fault : Fault} :
    d.run c = .error fault ↔ ∃ c', d.outcome c = (.error fault, c') := by
  rw [run]
  rcases d.outcome c with ⟨_ | b, c₁⟩ <;> simp

theorem run_bind_ok {d : Decoder α} {f : α → Decoder β} {c c' : Cursor} {a : α}
    (h : d.run c = .ok (a, c')) : (d >>= f).run c = (f a).run c' := by
  rw [run, run, outcome_bind_ok (run_eq_ok_iff.mp h)]

theorem run_bind_error {d : Decoder α} {f : α → Decoder β} {c : Cursor} {fault : Fault}
    (h : d.run c = .error fault) : (d >>= f).run c = .error fault := by
  obtain ⟨c', hc'⟩ := run_eq_error_iff.mp h
  exact run_eq_error_iff.mpr ⟨c', outcome_bind_error hc'⟩

theorem run_bind_eq_ok {d : Decoder α} {f : α → Decoder β} {c c' : Cursor} {b : β}
    (h : (d >>= f).run c = .ok (b, c')) :
    ∃ a c₁, d.run c = .ok (a, c₁) ∧ (f a).run c₁ = .ok (b, c') := by
  cases hd : d.run c with
  | error fault =>
      rw [run_bind_error hd] at h
      cases h
  | ok p =>
      obtain ⟨a, c₁⟩ := p
      rw [run_bind_ok hd] at h
      exact ⟨a, c₁, rfl, h⟩

theorem Consumes.pure (a : α) : (Pure.pure a : Decoder α).Consumes [] a where
  accepts := fun c _ _ _ => by rw [List.length_nil, Cursor.advance_zero]; rfl
  refuses := fun _ _ _ hne h => absurd (List.append_eq_nil_iff.mp h.symm).2 hne

theorem Consumes.bind {d : Decoder α} {f : α → Decoder β} {used used' : Bytes} {a : α} {b : β}
    (hd : d.Consumes used a) (hf : (f a).Consumes used' b) :
    (d >>= f).Consumes (used ++ used') b where
  accepts := by
    intro c more hc hrest
    rw [List.append_assoc] at hrest
    rw [run_bind_ok (hd.accepts c _ hc hrest),
      hf.accepts (c.advance used.length) more hc (by simp [hrest]), List.length_append,
      Cursor.advance_add]
  refuses := by
    intro c missing hc hne h
    -- the part that is there ends inside `used'` or inside `used`
    rcases List.append_eq_append_iff.mp h with ⟨there, hrest, hused'⟩ | ⟨gap, hused, hmissing⟩
    · obtain ⟨fault, hfault⟩ :=
        hf.refuses (c.advance used.length) missing hc hne (by simp [hrest, hused'])
      exact ⟨fault, by rw [run_bind_ok (hd.accepts c there hc hrest), hfault]⟩
    · by_cases hgap : gap = []
      · subst hgap
        rw [List.append_nil] at hused
        rw [List.nil_append] at hmissing
        obtain ⟨fault, hfault⟩ :=
          hf.refuses (c.advance used.length) missing hc hne (by simp [hused, hmissing])
        refine ⟨fault, ?_⟩
        rw [run_bind_ok (hd.accepts c [] hc (by rw [hused, List.append_nil])), hfault]
      · obtain ⟨fault, hfault⟩ := hd.refuses c gap hc hgap hused
        exact ⟨fault, run_bind_error hfault⟩

/-- A second step that reads nothing, such as a check of the first one's value. -/
theorem Consumes.check {d : Decoder α} {f : α → Decoder β} {used : Bytes} {a : α} {b : β}
    (hd : d.Consumes used a) (hf : (f a).Consumes [] b) : (d >>= f).Consumes used b := by
  have h := hd.bind hf
  rwa [List.append_nil] at h

theorem Consumes.map {d : Decoder α} {used : Bytes} {a : α} (hd : d.Consumes used a)
    (f : α → β) : (do return f (← d) : Decoder β).Consumes used (f a) :=
  hd.check (Consumes.pure (f a))

theorem Local.pure (a : α) : (Pure.pure a : Decoder α).Local := by
  intro c c' b _ h
  cases h
  exact ⟨[], c.rest, rfl, rfl, Consumes.pure a⟩

theorem Local.bind {d : Decoder α} {f : α → Decoder β} (hd : d.Local)
    (hf : ∀ a, (f a).Local) : (d >>= f).Local := by
  intro c c' b hc h
  obtain ⟨a, c₁, h₁, h₂⟩ := run_bind_eq_ok h
  obtain ⟨used, more, hrest, rfl, hcons⟩ := hd c c₁ a hc h₁
  obtain ⟨used', more', hrest', rfl, hcons'⟩ := hf a (c.advance used.length) c' b hc h₂
  rw [Cursor.advance_rest, hrest, List.drop_left] at hrest'
  refine ⟨used ++ used', more', ?_, ?_, hcons.bind hcons'⟩
  · rw [hrest, hrest', List.append_assoc]
  · rw [List.length_append, Cursor.advance_add]

theorem Local.map {d : Decoder α} (hd : d.Local) (f : α → β) :
    (do return f (← d) : Decoder β).Local :=
  hd.bind fun a => Local.pure (f a)

/-! ## Single reads -/

theorem outcome_require (n : Int) (c : Cursor) :
    (require n).outcome c =
      if n < 0 ∨ ¬ c.holds n.toNat then (.error (c.shortOf n), c) else (.ok (), c) := by
  show StateT.run (ExceptT.run (if n < 0 ∨ ¬ c.holds n.toNat then fail (c.shortOf n)
    else Pure.pure () : Decoder Unit)) c = _
  split <;> rfl

/-- The bytes are there: they are taken, and the cursor moves behind them. -/
theorem outcome_read {n : Int} {c : Cursor} (hc : c.overrun = 0) (h : 0 ≤ n)
    (hn : n ≤ c.rest.length) :
    (read n).outcome c = (.ok (c.rest.take n.toNat), c.advance n.toNat) := by
  have hrequire : (require n).outcome c = (.ok (), c) := by
    have hlength : min n.toNat c.rest.length = n.toNat := by omega
    rw [outcome_require, if_neg]
    simp [Cursor.holds, hc, hlength, h]
  rw [read, outcome_bind_ok hrequire]
  rfl

/-- **A single read that fails moves nothing**: it has not come past its first step. -/
theorem outcome_read_short {n : Int} {c : Cursor}
    (h : n < 0 ∨ c.overrun ≠ 0 ∨ (c.rest.length : Int) < n) :
    (read n).outcome c = (.error (c.shortOf n), c) := by
  have hrequire : (require n).outcome c = (.error (c.shortOf n), c) := by
    rw [outcome_require, if_pos]
    rcases h with h | h | h
    · exact .inl h
    · exact .inr (by simp [Cursor.holds, h])
    · have hlength : min n.toNat c.rest.length ≠ n.toNat := by omega
      exact .inr (by simp [Cursor.holds, hlength])
  exact outcome_bind_error hrequire

/-- A number is made of the bytes that a read takes. -/
theorem unsigned_eq (n : Nat) : unsigned n = (do return bigEndian (← take n) : Decoder Nat) := by
  simp [unsigned, take, read]

theorem s4_eq : s4 = (do return signed 32 (← u4) : Decoder Int) := by
  simp [s4, u4, unsigned]

theorem s8_eq : s8 = (do return signed 64 (← unsigned 8) : Decoder Int) := by
  simp [s8, unsigned_eq, take]

theorem skip_eq (n : Int) : skip n = (do let _ ← read n; return () : Decoder Unit) := by
  simp only [skip, read, bind_assoc, pure_bind, bind_pure_unit]
  rfl

theorem run_take {n : Nat} {c : Cursor} (hc : c.overrun = 0) (hn : n ≤ c.rest.length) :
    (take n).run c = .ok (c.rest.take n, c.advance n) :=
  run_eq_ok_iff.mpr (outcome_read hc (by omega) (by omega))

theorem run_take_short {n : Nat} {c : Cursor} (hn : c.rest.length < n) :
    (take n).run c = .error (c.shortOf n) :=
  run_eq_error_iff.mpr ⟨c, outcome_read_short (.inr (.inr (by omega)))⟩

theorem Consumes.take {n : Nat} {bs : Bytes} (h : bs.length = n) :
    (Decoder.take n).Consumes bs bs where
  accepts := by
    intro c more hc hrest
    have hn : n ≤ c.rest.length := by
      rw [hrest, List.length_append]
      omega
    rw [run_take hc hn, h, hrest, List.take_left' h]
  refuses := by
    intro c missing _ hne hbs
    have hpos := List.length_pos_iff.mpr hne
    have hlen := congrArg List.length hbs
    rw [List.length_append] at hlen
    exact ⟨_, run_take_short (by omega)⟩

theorem Local.take (n : Nat) : (Decoder.take n).Local := by
  intro c c' bs hc h
  by_cases hn : n ≤ c.rest.length
  · rw [run_take hc hn] at h
    cases h
    have hlen : (c.rest.take n).length = n := List.length_take_of_le hn
    exact ⟨_, c.rest.drop n, (List.take_append_drop n c.rest).symm, by rw [hlen],
      Consumes.take hlen⟩
  · rw [run_take_short (by omega)] at h
    cases h

theorem run_unsigned_eq_ok {n v : Nat} {c c' : Cursor} (hc : c.overrun = 0)
    (h : (unsigned n).run c = .ok (v, c')) : n ≤ c.rest.length ∧ c' = c.advance n := by
  rw [unsigned_eq] at h
  obtain ⟨bs, c₁, htake, hpure⟩ := run_bind_eq_ok h
  cases hpure
  by_cases hn : n ≤ c.rest.length
  · rw [run_take hc hn] at htake
    cases htake
    exact ⟨hn, rfl⟩
  · rw [run_take_short (by omega)] at htake
    cases htake

theorem Consumes.lift {x : Except Fault α} {a : α} (h : x = .ok a) :
    (Decoder.lift x).Consumes [] a := by
  subst h
  exact Consumes.pure a

/-- A first step that reads nothing. -/
theorem Consumes.lift_bind {x : Except Fault α} {f : α → Decoder β} {used : Bytes} {a : α} {b : β}
    (h : x = .ok a) (hf : (f a).Consumes used b) : (Decoder.lift x >>= f).Consumes used b :=
  (Consumes.lift h).bind hf

theorem Local.lift (x : Except Fault α) : (Decoder.lift x).Local := by
  cases x with
  | ok a => exact Local.pure a
  | error fault =>
      intro c c' a _ h
      cases h

theorem Local.fail (fault : Fault) : (Decoder.fail fault : Decoder α).Local := by
  intro c c' a _ h
  cases h

theorem Local.unsigned (n : Nat) : (Decoder.unsigned n).Local := by
  rw [unsigned_eq]
  exact (Local.take n).map bigEndian

theorem Local.u1 : Decoder.u1.Local := Local.unsigned 1

theorem Local.u2 : Decoder.u2.Local := Local.unsigned 2

theorem Local.u4 : Decoder.u4.Local := Local.unsigned 4

theorem Local.s4 : Decoder.s4.Local := by
  rw [s4_eq]
  exact Local.u4.map (signed 32)

theorem Local.s8 : Decoder.s8.Local := by
  rw [s8_eq]
  exact (Local.unsigned 8).map (signed 64)

theorem run_read_of_neg {n : Int} {c : Cursor} (h : n < 0) :
    (read n).run c = .error (c.shortOf n) :=
  run_eq_error_iff.mpr ⟨c, outcome_read_short (.inl h)⟩

theorem Local.skip (n : Int) : (Decoder.skip n).Local := by
  rw [skip_eq]
  refine Local.bind ?_ fun _ => Local.pure ()
  by_cases hneg : n < 0
  · intro c c' a _ h
    rw [run_read_of_neg hneg] at h
    cases h
  · obtain ⟨k, rfl⟩ := Int.eq_ofNat_of_zero_le (Int.not_lt.mp hneg)
    exact Local.take k

/-! ## Repeated reads -/

/-- A decoder that consumes each item of a list in its written form, as a value that the item stands
for, consumes their concatenation. -/
theorem Consumes.times {ι : Type} {d : Decoder α} {written : ι → Bytes} {stands : ι → α → Prop}
    {items : List ι} {values : List α} (h : List.Forall₂ stands items values)
    (hread : ∀ i ∈ items, ∀ v, stands i v → d.Consumes (written i) v) :
    (Decoder.times values.length d).Consumes (items.flatMap written) values := by
  induction h with
  | nil => exact Consumes.pure []
  | cons hhead _ ih =>
      rw [List.flatMap_cons, List.length_cons, Decoder.times]
      have hrest := ih fun i hi => hread i (by simp [hi])
      exact (hread _ (by simp) _ hhead).bind (hrest.map _)

theorem Local.times {d : Decoder α} (hd : d.Local) (n : Nat) : (Decoder.times n d).Local := by
  induction n with
  | zero => exact Local.pure []
  | succ n ih => exact hd.bind fun a => ih.map (a :: ·)

theorem Local.counted {d : Decoder α} (hd : d.Local) : (Decoder.counted d).Local :=
  Local.u2.bind fun n => hd.times n

/-! ## Runs on whole bodies -/

theorem Consumes.runOn_append {d : Decoder α} {used : Bytes} {a : α} (h : d.Consumes used a)
    (subject : String) (behind : Bytes) : d.runOn subject (used ++ behind) = .ok a := by
  rw [Decoder.runOn, h.accepts (Cursor.at subject (used ++ behind)) behind (by simp [Cursor.at])
    (by simp [Cursor.at])]
  rfl

theorem Local.exists_of_runOn {d : Decoder α} (hd : d.Local) {subject : String} {data : Bytes}
    {a : α} (h : d.runOn subject data = .ok a) :
    ∃ used behind, data = used ++ behind ∧ d.Consumes used a := by
  cases hrun : d.run (Cursor.at subject data) with
  | error fault =>
      rw [Decoder.runOn, hrun] at h
      cases h
  | ok p =>
      obtain ⟨b, c⟩ := p
      rw [Decoder.runOn, hrun] at h
      cases h
      obtain ⟨used, behind, hrest, -, hused⟩ := hd _ _ _ (by simp [Cursor.at]) hrun
      exact ⟨used, behind, hrest, hused⟩

/-! ## Failures -/

/-- `d` fails on `used` for the given reason, whatever follows. -/
def FailsOn (d : Decoder α) (used : Bytes) (fault : Fault) : Prop :=
  ∀ (c : Cursor) (more : Bytes), c.overrun = 0 → c.rest = used ++ more → d.run c = .error fault

theorem FailsOn.bind_left {d : Decoder α} {f : α → Decoder β} {used : Bytes} {fault : Fault}
    (hd : d.FailsOn used fault) (used' : Bytes) : (d >>= f).FailsOn (used ++ used') fault := by
  intro c more hc hrest
  rw [List.append_assoc] at hrest
  exact run_bind_error (hd c _ hc hrest)

theorem FailsOn.bind_right {d : Decoder α} {f : α → Decoder β} {used used' : Bytes} {a : α}
    {fault : Fault} (hd : d.Consumes used a) (hf : (f a).FailsOn used' fault) :
    (d >>= f).FailsOn (used ++ used') fault := by
  intro c more hc hrest
  rw [List.append_assoc] at hrest
  rw [run_bind_ok (hd.accepts c _ hc hrest)]
  exact hf (c.advance used.length) more hc (by simp [hrest])

theorem FailsOn.map {d : Decoder α} {used : Bytes} {fault : Fault} (hd : d.FailsOn used fault)
    (f : α → β) : (do return f (← d) : Decoder β).FailsOn used fault := by
  have h := hd.bind_left (f := fun a => Pure.pure (f a)) []
  rwa [List.append_nil] at h

/-- A run of items of which each is consumed or fails for one reason, and one does, fails for it:
those in front of the first failure are consumed. -/
theorem FailsOn.times {ι : Type} {d : Decoder α} {written : ι → Bytes} {fault : Fault}
    {items : List ι}
    (h : ∀ i ∈ items, (∃ v, d.Consumes (written i) v) ∨ d.FailsOn (written i) fault)
    (hfails : ∃ i ∈ items, d.FailsOn (written i) fault) :
    (Decoder.times items.length d).FailsOn (items.flatMap written) fault := by
  induction items with
  | nil =>
      obtain ⟨i, hi, -⟩ := hfails
      cases hi
  | cons i rest ih =>
      rw [List.flatMap_cons, List.length_cons, Decoder.times]
      obtain ⟨hhead, hrest⟩ := List.forall_mem_cons.mp h
      by_cases hi : d.FailsOn (written i) fault
      · exact hi.bind_left _
      · obtain ⟨v, hv⟩ := hhead.resolve_right hi
        have hlater : ∃ j ∈ rest, d.FailsOn (written j) fault := by
          obtain ⟨j, hj, hfail⟩ := hfails
          rcases List.mem_cons.mp hj with rfl | hj
          · exact absurd hfail hi
          · exact ⟨j, hj, hfail⟩
        exact .bind_right hv ((ih hrest hlater).map (v :: ·))

end Decoder

end ClassAtlas.ClassFile
