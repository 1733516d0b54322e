import ClassAtlas.Notices

/-!
# Work that only adds notices

Nothing a run does looks back at the notices left so far: work goes the same way
whatever they are, and its own notices come behind them. So the result of a
sequence of such steps is the sequence of their results.
-/

namespace ClassAtlas.Noted

variable {ε α β σ : Type}

/-- Work that has the same result behind all notices, and puts its own behind them. -/
def Appends (work : Noted ε α) : Prop :=
  ∀ notices, StateT.run (ExceptT.run work) notices = (work.results.1, notices ++ work.results.2)

theorem run_bind_of_ok {x : Noted ε α} {f : α → Noted ε β} {a : α} {notices notices' : List String}
    (h : StateT.run (ExceptT.run x) notices = (.ok a, notices')) :
    StateT.run (ExceptT.run (x >>= f)) notices = StateT.run (ExceptT.run (f a)) notices' := by
  rw [ExceptT.run_bind, StateT.run_bind, h]
  rfl

theorem run_bind_of_error {x : Noted ε α} {f : α → Noted ε β} {e : ε}
    {notices notices' : List String}
    (h : StateT.run (ExceptT.run x) notices = (.error e, notices')) :
    StateT.run (ExceptT.run (x >>= f)) notices = (.error e, notices') := by
  rw [ExceptT.run_bind, StateT.run_bind, h]
  rfl

theorem appends_pure (a : α) : Appends (pure a : Noted ε α) := by
  intro notices
  show (Except.ok a, notices) = (Except.ok a, notices ++ [])
  rw [List.append_nil]

theorem appends_ofExcept (result : Except ε α) : Appends (ofExcept result) := by
  intro notices
  show (result, notices) = (result, notices ++ [])
  rw [List.append_nil]

theorem ofExcept_ok_bind (a : α) (f : α → Noted ε β) : ofExcept (.ok a) >>= f = f a := rfl

theorem appends_noteAll (texts : List String) : Appends (noteAll texts : Noted ε Unit) := by
  intro notices
  rfl

theorem appends_note (text : String) : Appends (note text : Noted ε Unit) :=
  appends_noteAll [text]

theorem results_attempt {ε' : Type} (work : Noted ε α) :
    (work.attempt : Noted ε' (Except ε α)).results = (.ok work.results.1, work.results.2) := rfl

theorem Appends.attempt {ε' : Type} {work : Noted ε α} (h : Appends work) :
    Appends (work.attempt : Noted ε' (Except ε α)) := by
  intro notices
  show (Except.ok (StateT.run (ExceptT.run work) notices).1,
    (StateT.run (ExceptT.run work) notices).2) = _
  rw [h notices]
  rfl

theorem results_bind_of_error {x : Noted ε α} {f : α → Noted ε β} {e : ε}
    (h : x.results.1 = .error e) : (x >>= f).results = (.error e, x.results.2) :=
  run_bind_of_error (Prod.ext h rfl)

theorem results_bind_of_ok {x : Noted ε α} {f : α → Noted ε β} {a : α} (h : x.results.1 = .ok a)
    (hf : Appends (f a)) :
    (x >>= f).results = ((f a).results.1, x.results.2 ++ (f a).results.2) :=
  (run_bind_of_ok (Prod.ext h rfl)).trans (hf x.results.2)

theorem Appends.bind {x : Noted ε α} {f : α → Noted ε β} (hx : Appends x)
    (hf : ∀ a, Appends (f a)) : Appends (x >>= f) := by
  intro notices
  have hrun := hx notices
  cases hresult : x.results.1 with
  | error e =>
      rw [hresult] at hrun
      rw [run_bind_of_error hrun, results_bind_of_error hresult]
  | ok a =>
      rw [hresult] at hrun
      rw [run_bind_of_ok hrun, hf a, results_bind_of_ok hresult (hf a), List.append_assoc]

theorem Appends.map {work : Noted ε α} (h : Appends work) (f : α → β) : Appends (f <$> work) := by
  rw [map_eq_pure_bind]
  exact h.bind fun a => appends_pure (f a)

theorem Appends.foldlM {step : σ → α → Noted ε σ} (hstep : ∀ s a, Appends (step s a)) (xs : List α)
    (s : σ) : Appends (xs.foldlM step s) := by
  induction xs generalizing s with
  | nil => exact appends_pure s
  | cons x xs ih =>
      rw [List.foldlM_cons]
      exact (hstep s x).bind ih

theorem exists_of_bind_eq_ok {x : Except ε α} {f : α → Except ε β} {b : β} (h : x >>= f = .ok b) :
    ∃ a, x = .ok a ∧ f a = .ok b := by
  cases x with
  | error e => cases h
  | ok a => exact ⟨a, rfl, h⟩

theorem map_eq_ok_iff {x : Except ε α} {f : α → β} {b : β} :
    x.map f = .ok b ↔ ∃ a, x = .ok a ∧ f a = b := by
  constructor
  · intro h
    cases x with
    | error e => cases h
    | ok a =>
        cases h
        exact ⟨a, rfl, rfl⟩
  · rintro ⟨a, rfl, rfl⟩
    rfl

theorem mapError_eq_ok_iff {ε' : Type} {x : Except ε α} {f : ε → ε'} {a : α} :
    x.mapError f = .ok a ↔ x = .ok a := by
  constructor
  · intro h
    cases x with
    | error e => cases h
    | ok b =>
        cases h
        rfl
  · rintro rfl
    rfl

/-- The result of a sequence is the sequence of the results. -/
theorem results_bind {x : Noted ε α} {f : α → Noted ε β} (hf : ∀ a, Appends (f a)) :
    (x >>= f).results.1 = x.results.1 >>= fun a => (f a).results.1 := by
  cases hresult : x.results.1 with
  | error e =>
      rw [results_bind_of_error hresult]
      rfl
  | ok a =>
      rw [results_bind_of_ok hresult (hf a)]
      rfl

/-- Where a sequence has a result, each part of it has one. -/
theorem exists_of_results_bind {x : Noted ε α} {f : α → Noted ε β} {b : β}
    (hf : ∀ a, Appends (f a)) (h : (x >>= f).results.1 = .ok b) :
    ∃ a, x.results.1 = .ok a ∧ (f a).results.1 = .ok b := by
  rw [results_bind hf] at h
  exact exists_of_bind_eq_ok h

theorem results_map (f : α → β) (x : Noted ε α) :
    (f <$> x).results = (x.results.1.map f, x.results.2) := by
  rw [map_eq_pure_bind]
  cases hresult : x.results.1 with
  | error e =>
      rw [results_bind_of_error hresult]
      rfl
  | ok a =>
      rw [results_bind_of_ok hresult (appends_pure (f a))]
      exact Prod.ext rfl (List.append_nil _)

end ClassAtlas.Noted
