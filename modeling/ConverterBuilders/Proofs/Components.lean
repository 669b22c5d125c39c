import ConverterBuilders.Path
import ConverterBuilders.Proofs.Pieces

/-!
# The components of joined paths

Joining puts the components of one path behind those of another, as long as the second begins with none
of its own accord, neither the root nor a single dot.

Main statements:

* `components_join`: the components of a joined path;
* `components_plain`: a plain name is its own component;
* `key_eq_iff`: two paths have the same key exactly if they have the same components.
-/

namespace ConverterBuilders.Path

open Text

/-! ## Components of characters -/

def componentsOf (cs : List Char) : List Component :=
  (lead cs).1.toList ++ bodyComponents (lead cs).2

theorem components_eq (path : Path) : path.components = componentsOf path.text.toList := rfl

theorem bodyComponents_append (front back : List Char) :
    bodyComponents (front ++ '/' :: back) = bodyComponents front ++ bodyComponents back := by
  simp [bodyComponents, split_append]

theorem bodyComponents_nil : bodyComponents [] = [] := rfl

/-- What the characters of a path can begin with. -/
theorem lead_cases (cs : List Char) :
    (lead cs).1 = none ∨ (∃ rest, cs = '/' :: rest) ∨ cs = ['.'] ∨
      ∃ rest, cs = '.' :: '/' :: rest := by
  unfold lead
  split
  · exact .inr (.inl ⟨_, rfl⟩)
  · exact .inr (.inr (.inl rfl))
  · exact .inr (.inr (.inr ⟨_, rfl⟩))
  · exact .inl rfl

/-- A path that begins with no component of its own accord is all body. -/
theorem lead_of_none {cs : List Char} (h : (lead cs).1 = none) : (lead cs).2 = cs := by
  unfold lead at h ⊢
  split at h <;> simp_all

theorem componentsOf_of_none {cs : List Char} (h : (lead cs).1 = none) :
    componentsOf cs = bodyComponents cs := by
  rw [componentsOf, lead_of_none h, h]
  rfl

theorem not_isAbsolute_of_none {path : Path} (h : (lead path.text.toList).1 = none) :
    path.isAbsolute = false := by
  unfold isAbsolute
  cases hc : path.text.toList with
  | nil => rfl
  | cons c rest =>
    have hne : c ≠ '/' := by
      rintro rfl
      rw [hc] at h
      cases h
    simpa using hne

/-- A path that holds names only begins with none of its own accord. -/
theorem lead_of_names {path : Path}
    (h : ∀ component ∈ path.components, ∃ name, component = .name name) :
    (lead path.text.toList).1 = none := by
  rw [components_eq, componentsOf] at h
  generalize path.text.toList = cs at h ⊢
  unfold lead at h ⊢
  split
  · obtain ⟨name, hn⟩ := h .root (by simp)
    cases hn
  · obtain ⟨name, hn⟩ := h .current (by simp)
    cases hn
  · obtain ⟨name, hn⟩ := h .current (by simp)
    cases hn
  · rfl

/-- What a path begins with does not change if something is put behind a slash at its end. -/
theorem lead_append {front : List Char} (h : front ≠ []) (back : List Char) :
    lead (front ++ '/' :: back) = ((lead front).1, (lead front).2 ++ '/' :: back) := by
  match front, h with
  | '/' :: rest, _ => rfl
  | ['.'], _ => rfl
  | '.' :: '/' :: rest, _ => rfl
  | c :: rest, _ =>
    by_cases hs : c = '/'
    · subst hs
      rfl
    · by_cases hd : c = '.'
      · subst hd
        cases rest with
        | nil => rfl
        | cons d rest =>
          by_cases hds : d = '/'
          · subst hds
            rfl
          · simp [lead, hds]
      · simp [lead, hs, hd]

theorem componentsOf_append {front : List Char} (h : front ≠ []) (back : List Char) :
    componentsOf (front ++ '/' :: back) = componentsOf front ++ bodyComponents back := by
  rw [componentsOf, lead_append h, bodyComponents_append, componentsOf, List.append_assoc]

/-- A slash at the end of a path does not count. -/
theorem componentsOf_slash {front : List Char} (h : front ≠ []) :
    componentsOf (front ++ ['/']) = componentsOf front := by
  rw [componentsOf_append h, bodyComponents_nil, List.append_nil]

/-! ## Joining -/

/-- **Joining puts components behind components.** -/
theorem components_join (base : Path) {sub : Path} (h : (lead sub.text.toList).1 = none) :
    (base.join sub).components = base.components ++ sub.components := by
  have hsub : sub.components = bodyComponents sub.text.toList := componentsOf_of_none h
  unfold join
  rw [not_isAbsolute_of_none h, hsub]
  simp only [Bool.false_eq_true, ↓reduceIte, components_eq]
  by_cases hb : base.text.toList = []
  · simp [hb, componentsOf_of_none h, String.toList_append]
    rfl
  · obtain ⟨front, last, hl⟩ := (List.eq_nil_or_concat base.text.toList).resolve_left hb
    rw [List.concat_eq_append] at hl
    by_cases hs : last = '/'
    · subst hs
      have hjoin : (base.text ++ sub.text).toList = front ++ '/' :: sub.text.toList := by
        simp [String.toList_append, hl]
      rw [if_neg (by simp [hl]), hjoin, hl]
      by_cases hf : front = []
      · subst hf
        rfl
      · rw [componentsOf_append hf, componentsOf_slash hf]
    · have hjoin : (base.text ++ "/" ++ sub.text).toList =
          base.text.toList ++ '/' :: sub.text.toList := by
        simp [String.toList_append]
      rw [if_pos (by simp [hl, hs]), hjoin, componentsOf_append hb]

/-! ## Plain names -/

structure Plain (cs : List Char) : Prop where
  ne_nil : cs ≠ []
  ne_dot : cs ≠ ['.']
  ne_dots : cs ≠ ['.', '.']
  no_slash : '/' ∉ cs

theorem Plain.lead {cs : List Char} (h : Plain cs) : (lead cs).1 = none := by
  unfold Path.lead
  split
  · exact absurd (List.mem_cons_self ..) h.no_slash
  · exact absurd rfl h.ne_dot
  · exact absurd (List.mem_cons_of_mem _ (List.mem_cons_self ..)) h.no_slash
  · rfl

theorem Plain.bodyComponents {cs : List Char} (h : Plain cs) :
    bodyComponents cs = [.name (String.ofList cs)] := by
  simp [Path.bodyComponents, split_of_not_mem h.no_slash, isIdle, Component.ofPiece, h.ne_nil, h.ne_dot,
    h.ne_dots]

/-- **A plain name is its own component.** -/
theorem components_plain {name : String} (h : Plain name.toList) :
    (Path.mk name).components = [.name name] := by
  rw [components_eq, componentsOf_of_none h.lead, h.bodyComponents, String.ofList_toList]

theorem components_join_name (base : Path) {name : String} (h : Plain name.toList) :
    (base.join ⟨name⟩).components = base.components ++ [.name name] := by
  rw [components_join base h.lead, components_plain h]

theorem components_foldl_join {names : List String} (h : ∀ name ∈ names, Plain name.toList)
    (base : Path) :
    (names.foldl (fun path name => path.join ⟨name⟩) base).components =
      base.components ++ names.map Component.name := by
  induction names generalizing base with
  | nil => simp
  | cons name names ih =>
    have hname := h name (List.mem_cons_self ..)
    rw [List.foldl_cons, ih (fun other ho => h other (List.mem_cons_of_mem _ ho)),
      components_join_name base hname]
    simp

/-! ## Keys -/

theorem rank_injective {a b : Component} (h : a.rank = b.rank) : a = b := by
  have hhead := congrArg (fun text => text.toList.head?) h
  cases a <;> cases b <;> simp [Component.rank, String.toList_append] at h hhead ⊢
  exact h

/-- **Two paths have the same key exactly if they have the same components.** -/
theorem key_eq_iff {left right : Path} : left.key = right.key ↔ left.components = right.components :=
  List.map_inj_right fun _ _ => rank_injective

end ConverterBuilders.Path
