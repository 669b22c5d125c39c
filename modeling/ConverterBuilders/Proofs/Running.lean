/-!
# Running effects

How work that may fail goes on, with a state and without one.

Main statements:

* `bind_eq_ok_iff`, `bind_eq_error_iff`: a result needs the results of both parts, and a fault is that of
  the first part or, after its result, of the second;
* `foldlM_congr`: a run through a list depends on what the steps do at its members only;
* `run_bind_of_ok`, `run_bind_of_error`: what the first part does decides how work goes on;
* `exists_of_run_bind`, `run_bind_error_cases`: work that ended did so in one of both parts.
-/

namespace ConverterBuilders

variable {ε σ α β : Type}

theorem bind_eq_ok_iff {x : Except ε α} {f : α → Except ε β} {b : β} :
    (x >>= f) = .ok b ↔ ∃ a, x = .ok a ∧ f a = .ok b := by
  cases x <;> simp [bind, Except.bind]

theorem bind_eq_error_iff {x : Except ε α} {f : α → Except ε β} {e : ε} :
    (x >>= f) = .error e ↔ x = .error e ∨ ∃ a, x = .ok a ∧ f a = .error e := by
  cases x <;> simp [bind, Except.bind]

/-- A list is refused for a fault of one of its members. -/
theorem exists_of_mapM_error {f : α → Except ε β} {items : List α} {e : ε}
    (h : items.mapM f = .error e) : ∃ item ∈ items, f item = .error e := by
  induction items with
  | nil => cases h
  | cons item rest ih =>
    rw [List.mapM_cons] at h
    rcases bind_eq_error_iff.1 h with hitem | ⟨b, -, h⟩
    · exact ⟨item, List.mem_cons_self .., hitem⟩
    · rcases bind_eq_error_iff.1 h with hrest | ⟨bs, -, hpure⟩
      · obtain ⟨found, hm, hf⟩ := ih hrest
        exact ⟨found, List.mem_cons_of_mem _ hm, hf⟩
      · cases hpure

/-- A list is read only if each of its members is. -/
theorem exists_of_mapM_ok {f : α → Except ε β} {items : List α} {results : List β} {item : α}
    (h : items.mapM f = .ok results) (hm : item ∈ items) : ∃ b, f item = .ok b := by
  induction items generalizing results with
  | nil => cases hm
  | cons first rest ih =>
    rw [List.mapM_cons] at h
    obtain ⟨b, hb, h⟩ := bind_eq_ok_iff.1 h
    obtain ⟨bs, hbs, -⟩ := bind_eq_ok_iff.1 h
    rcases List.mem_cons.1 hm with rfl | hm
    · exact ⟨b, hb⟩
    · exact ih hbs hm

/-- A list whose members are read as some function says is mapped by this function. -/
theorem eq_map_of_mapM_ok {f : α → Except ε β} {g : α → β} {items : List α} {results : List β}
    (h : items.mapM f = .ok results) (hg : ∀ item b, f item = .ok b → b = g item) :
    results = items.map g := by
  induction items generalizing results with
  | nil =>
    cases h
    rfl
  | cons item rest ih =>
    rw [List.mapM_cons] at h
    obtain ⟨b, hb, h⟩ := bind_eq_ok_iff.1 h
    obtain ⟨bs, hbs, h⟩ := bind_eq_ok_iff.1 h
    cases h
    rw [hg item b hb, ih hbs, List.map_cons]

/-- A run through a list that failed did so in a step at one of its members. -/
theorem exists_of_foldlM_error {step : β → α → Except ε β} {items : List α} {b : β} {e : ε}
    (h : items.foldlM step b = .error e) : ∃ before, ∃ item ∈ items, step before item = .error e := by
  induction items generalizing b with
  | nil => cases h
  | cons item items ih =>
    rw [List.foldlM_cons] at h
    rcases bind_eq_error_iff.1 h with hstep | ⟨next, -, hrest⟩
    · exact ⟨b, item, List.mem_cons_self .., hstep⟩
    · obtain ⟨before, other, hm, hother⟩ := ih hrest
      exact ⟨before, other, List.mem_cons_of_mem _ hm, hother⟩

/-- A run through a list depends on what the steps do at its members only. -/
theorem foldlM_congr {step other : β → α → Except ε β} {items : List α}
    (h : ∀ b, ∀ item ∈ items, step b item = other b item) (b : β) :
    items.foldlM step b = items.foldlM other b := by
  induction items generalizing b with
  | nil => rfl
  | cons item items ih =>
    rw [List.foldlM_cons, List.foldlM_cons, h b item (List.mem_cons_self ..)]
    congr 1
    funext next
    exact ih (fun b item hm => h b item (List.mem_cons_of_mem _ hm)) next

section State

variable {x : ExceptT ε (StateM σ) α} {f : α → ExceptT ε (StateM σ) β} {s s' : σ}

theorem run_bind_of_ok {a : α} (h : x.run.run s = (.ok a, s')) :
    (x >>= f).run.run s = (f a).run.run s' := by
  rw [ExceptT.run_bind, StateT.run_bind, h]
  rfl

theorem run_bind_of_error {e : ε} (h : x.run.run s = (.error e, s')) :
    (x >>= f).run.run s = (.error e, s') := by
  rw [ExceptT.run_bind, StateT.run_bind, h]
  rfl

/-- Work that ended with what the first part does not fail with went on to the second. -/
theorem exists_of_run_bind {result : Except ε β} {s'' : σ} (h : (x >>= f).run.run s = (result, s''))
    (hx : ∀ e s', x.run.run s = (.error e, s') → result ≠ .error e) :
    ∃ a s', x.run.run s = (.ok a, s') ∧ (f a).run.run s' = (result, s'') := by
  cases hr : x.run.run s with
  | mk first s' =>
    cases first with
    | ok a => exact ⟨a, s', rfl, (run_bind_of_ok hr).symm.trans h⟩
    | error e =>
      have he := congrArg Prod.fst ((run_bind_of_error hr).symm.trans h)
      exact absurd he.symm (hx e s' hr)

theorem exists_of_run_bind_ok {b : β} {s'' : σ} (h : (x >>= f).run.run s = (.ok b, s'')) :
    ∃ a s', x.run.run s = (.ok a, s') ∧ (f a).run.run s' = (.ok b, s'') :=
  exists_of_run_bind h fun _ _ _ he => nomatch he

/-- Work that failed did so in one of both parts. -/
theorem run_bind_error_cases {e : ε} {s'' : σ} (h : (x >>= f).run.run s = (.error e, s'')) :
    (∃ s', x.run.run s = (.error e, s')) ∨
      ∃ a s', x.run.run s = (.ok a, s') ∧ (f a).run.run s' = (.error e, s'') := by
  by_cases hx : ∃ s', x.run.run s = (.error e, s')
  · exact .inl hx
  · refine .inr (exists_of_run_bind h fun other s' ho he => hx ⟨s', ?_⟩)
    cases he
    exact ho

end State

end ConverterBuilders
