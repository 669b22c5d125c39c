import ConverterBuilders.Proofs.Components
import ConverterBuilders.Proofs.NameParts

/-!
# The last component of a path

The parent of a path has all its components but the last, and the ancestors of a path have the components
that it begins with.  The name of the file is the last component.

Main statements:

* `components_parent`: the parent drops the last component;
* `components_of_no_parent`, `exists_parent`: which paths have a parent;
* `components_of_mem_ancestors`: ancestors have the components in front;
* `components_of_fileName`: the file name is the last component.
-/

namespace ConverterBuilders.Path

open Text

/-! ## The steps of pieces -/

def stepsOf (pieces : List (List Char)) : List Component :=
  (pieces.filter fun piece => !isIdle piece).map Component.ofPiece

theorem bodyComponents_eq (body : List Char) : bodyComponents body = stepsOf (split '/' body) := rfl

/-- The components of a path: its lead, if any, and the steps of all its pieces. -/
theorem components_eq_stepsOf (path : Path) :
    path.components = (lead path.text.toList).1.toList ++ stepsOf (split '/' path.text.toList) := by
  rcases lead_cases path.text.toList with hn | ⟨rest, hc⟩ | hc | ⟨rest, hc⟩
  · rw [components_eq, componentsOf, lead_of_none hn, bodyComponents_eq]
  · rw [components_eq, hc]
    rfl
  · rw [components_eq, hc]
    rfl
  · rw [components_eq, hc]
    rfl

theorem stepsOf_append (front back : List (List Char)) :
    stepsOf (front ++ back) = stepsOf front ++ stepsOf back := by
  simp [stepsOf]

theorem stepsOf_of_idle {pieces : List (List Char)} (h : ∀ piece ∈ pieces, isIdle piece = true) :
    stepsOf pieces = [] := by
  have hnone : (pieces.filter fun piece => !isIdle piece) = [] :=
    List.filter_eq_nil_iff.2 fun piece hm => by simp [h piece hm]
  rw [stepsOf, hnone, List.map_nil]

/-- Plain names are their own steps. -/
theorem stepsOf_plain {names : List String} (h : ∀ name ∈ names, Plain name.toList) :
    stepsOf (names.map String.toList) = names.map Component.name := by
  induction names with
  | nil => rfl
  | cons name names ih =>
    have hname := h name (List.mem_cons_self ..)
    have hidle : isIdle name.toList = false := by simp [isIdle, hname.ne_nil, hname.ne_dot]
    have hrest := ih fun other ho => h other (List.mem_cons_of_mem _ ho)
    rw [stepsOf] at hrest ⊢
    rw [List.map_cons, List.filter_cons_of_pos (by simp [hidle]), List.map_cons, List.map_cons, hrest,
      Component.ofPiece, if_neg hname.ne_dots, String.ofList_toList]

/-- If the last piece is a plain name, then it is the last component. -/
theorem exists_stepsOf_of_getLast? {pieces : List (List Char)} {name : String} (hp : Plain name.toList)
    (h : (pieces.map String.ofList).getLast? = some name) :
    ∃ others, stepsOf pieces = others ++ [.name name] := by
  rcases List.eq_nil_or_concat pieces with rfl | ⟨more, last, rfl⟩
  · cases h
  · have hlast : last = name.toList := by
      rw [List.concat_eq_append, List.map_append, List.map_singleton, List.getLast?_concat,
        Option.some.injEq] at h
      rw [← h, String.toList_ofList]
    have hplain : ∀ other ∈ [name], Plain other.toList := by simpa using hp
    have hone : stepsOf [name.toList] = [.name name] := stepsOf_plain hplain
    exact ⟨stepsOf more, by rw [List.concat_eq_append, stepsOf_append, hlast, hone]⟩

/-! ## The last piece -/

/-- Pieces in reverse with the idle ones in front taken away. -/
theorem stepsOf_reverse_dropWhile (pieces : List (List Char)) :
    stepsOf (pieces.dropWhile isIdle).reverse = stepsOf pieces.reverse := by
  have hsplit := congrArg List.reverse (List.takeWhile_append_dropWhile (p := isIdle) (l := pieces))
  have hidle : ∀ piece ∈ (pieces.takeWhile isIdle).reverse, isIdle piece = true := fun piece hm =>
    List.all_eq_true.1 List.all_takeWhile piece (List.mem_reverse.1 hm)
  rw [← hsplit, List.reverse_append, stepsOf_append, stepsOf_of_idle hidle, List.append_nil]

/-- Without a last piece there are no steps. -/
theorem bodyComponents_of_no_backPieces {body : List Char} (h : backPieces body = []) :
    bodyComponents body = [] := by
  rw [bodyComponents_eq, ← List.reverse_reverse (split '/' body), ← stepsOf_reverse_dropWhile]
  rw [backPieces] at h
  rw [h]
  rfl

/-- **The last piece is the last step**, and in front of it stand the steps of the others. -/
theorem bodyComponents_of_backPieces {body last : List Char} {before : List (List Char)}
    (h : backPieces body = last :: before) :
    isIdle last = false ∧ bodyComponents body = stepsOf before.reverse ++ [Component.ofPiece last] := by
  have hhead := List.head?_dropWhile_not isIdle (split '/' body).reverse
  rw [backPieces] at h
  simp only [h, List.head?_cons] at hhead
  have hlast : isIdle last = false := by simpa using hhead
  refine ⟨hlast, ?_⟩
  rw [bodyComponents_eq, ← List.reverse_reverse (split '/' body), ← stepsOf_reverse_dropWhile, h,
    List.reverse_cons, stepsOf_append]
  simp [stepsOf, hlast]

/-- The pieces in front of the last are the first of all pieces. -/
theorem prefix_of_backPieces {body last : List Char} {before : List (List Char)}
    (h : backPieces body = last :: before) :
    ∃ back, split '/' body = (before.dropWhile isIdle).reverse ++ back ∧ back ≠ [] := by
  rw [backPieces] at h
  obtain ⟨idle, hidle⟩ : (last :: before) <:+ (split '/' body).reverse := h ▸ List.dropWhile_suffix _
  obtain ⟨more, hmore⟩ : before.dropWhile isIdle <:+ before := List.dropWhile_suffix _
  refine ⟨more.reverse ++ (idle ++ [last]).reverse, ?_, by simp⟩
  have hreverse := congrArg List.reverse hidle
  rw [List.reverse_reverse, ← hmore] at hreverse
  rw [← hreverse]
  simp

/-! ## The parent -/

/-- The steps of pieces that are joined. -/
theorem bodyComponents_intercalate {pieces : List (List Char)} (h : ∀ piece ∈ pieces, '/' ∉ piece) :
    bodyComponents (List.intercalate ['/'] pieces) = stepsOf pieces := by
  cases pieces with
  | nil => rfl
  | cons piece rest => rw [bodyComponents_eq, split_intercalate (List.cons_ne_nil _ _) h]

/-- The first pieces of a body, joined behind the text of the lead, have the same lead. -/
theorem lead_intercalate {cs body : List Char} {start : Option Component} (h : lead cs = (start, body))
    {kept back : List (List Char)} (hs : split '/' body = kept ++ back) (hb : back ≠ []) :
    lead (leadText start ++ List.intercalate ['/'] kept) = (start, List.intercalate ['/'] kept) := by
  rcases lead_cases cs with hn | ⟨rest, rfl⟩ | rfl | ⟨rest, rfl⟩
  · have hstart : start = none := by
      rw [h] at hn
      exact hn
    have hbody : body = cs := by
      have hcs := lead_of_none hn
      rw [h] at hcs
      exact hcs
    subst hstart hbody
    cases kept with
    | nil => rfl
    | cons piece pieces =>
      have hjoined := intercalate_split '/' body
      rw [hs, intercalate_append (List.cons_ne_nil _ _) hb] at hjoined
      by_cases he : List.intercalate ['/'] (piece :: pieces) = []
      · rw [he] at hjoined ⊢
        rfl
      · have hfront := lead_append he (List.intercalate ['/'] back)
        rw [hjoined, h] at hfront
        have hnone : (lead (List.intercalate ['/'] (piece :: pieces))).1 = none :=
          (congrArg Prod.fst hfront).symm
        exact Prod.ext hnone (lead_of_none hnone)
  · cases h
    rfl
  · cases h
    cases kept with
    | nil => rfl
    | cons piece pieces =>
      obtain ⟨-, hnil⟩ := List.append_eq_nil_iff.1 (List.cons.inj hs).2.symm
      exact absurd hnil hb
  · cases h
    cases kept with
    | nil => rfl
    | cons piece pieces =>
      obtain ⟨rfl, -⟩ := List.cons.inj ((show [] :: split '/' rest = piece :: (pieces ++ back) by
        rw [← List.cons_append, ← hs, split, if_pos rfl]))
      cases pieces with
      | nil => rfl
      | cons next others =>
        rw [List.intercalate_cons_cons]
        rfl

/-- **The parent of a path drops the last component.** -/
theorem components_parent {path up : Path} (h : path.parent = some up) :
    ∃ last, path.components = up.components ++ [last] := by
  unfold parent at h
  rw [components_eq, componentsOf]
  generalize hlead : lead path.text.toList = led at h ⊢
  obtain ⟨start, body⟩ := led
  simp only at h ⊢
  cases hb : backPieces body with
  | nil =>
    rw [hb] at h
    simp only [Option.ite_none_right_eq_some, Option.some.injEq] at h
    obtain ⟨rfl, rfl⟩ := h
    exact ⟨.current, by rw [bodyComponents_of_no_backPieces hb]; rfl⟩
  | cons last before =>
    rw [hb] at h
    simp only [Option.some.injEq] at h
    subst h
    obtain ⟨back, hsplit, hback⟩ := prefix_of_backPieces hb
    have hslash : ∀ piece ∈ (before.dropWhile isIdle).reverse, '/' ∉ piece := fun piece hm =>
      not_mem_of_mem_split (hsplit ▸ List.mem_append_left _ hm)
    refine ⟨Component.ofPiece last, ?_⟩
    rw [components_eq, String.toList_ofList, componentsOf, lead_intercalate hlead hsplit hback,
      bodyComponents_intercalate hslash, stepsOf_reverse_dropWhile, (bodyComponents_of_backPieces hb).2,
      List.append_assoc]

theorem text_of_no_components {path : Path} (h : path.components = []) : path.text = "" := by
  rw [components_eq_stepsOf] at h
  obtain ⟨hlead, hsteps⟩ := List.append_eq_nil_iff.1 h
  rw [← String.toList_eq_nil_iff]
  rcases lead_cases path.text.toList with hn | ⟨rest, hc⟩ | hc | ⟨rest, hc⟩
  · cases hc : path.text.toList with
    | nil => rfl
    | cons c rest =>
      rw [hc] at hn hsteps
      have hslash : c ≠ '/' := by
        rintro rfl
        cases hn
      obtain ⟨piece, pieces, hpieces, hsplit⟩ := split_cons_of_ne hslash rest
      have hidle : isIdle (c :: piece) = true := by
        have hnone := List.filter_eq_nil_iff.1 (List.map_eq_nil_iff.1 hsteps) (c :: piece)
          (hsplit ▸ List.mem_cons_self ..)
        simpa using hnone
      obtain ⟨rfl, rfl⟩ : c = '.' ∧ piece = [] := by simpa [isIdle] using hidle
      cases rest with
      | nil => cases hn
      | cons d rest =>
        by_cases hd : d = '/'
        · subst hd
          cases hn
        · obtain ⟨first, others, -, hd⟩ := split_cons_of_ne hd rest
          rw [hpieces] at hd
          cases hd
  · rw [hc] at hlead
    cases hlead
  · rw [hc] at hlead
    cases hlead
  · rw [hc] at hlead
    cases hlead

/-- What a path can begin with of its own accord. -/
theorem lead_eq_some {cs : List Char} {component : Component} (h : (lead cs).1 = some component) :
    component = .root ∨ component = .current := by
  rcases lead_cases cs with hn | ⟨rest, rfl⟩ | rfl | ⟨rest, rfl⟩
  · rw [hn] at h
    cases h
  · exact .inl (Option.some.inj h).symm
  · exact .inr (Option.some.inj h).symm
  · exact .inr (Option.some.inj h).symm

/-- No component holds a slash. -/
theorem not_mem_of_mem_components {path : Path} {name : String} (h : .name name ∈ path.components) :
    '/' ∉ name.toList := by
  rw [components_eq_stepsOf, List.mem_append] at h
  rcases h with hlead | hstep
  · rcases lead_eq_some (Option.mem_toList.1 hlead) with he | he <;> cases he
  · obtain ⟨piece, hm, hpiece⟩ := List.mem_map.1 hstep
    rw [Component.ofPiece] at hpiece
    split at hpiece
    · cases hpiece
    · cases hpiece
      rw [String.toList_ofList]
      exact not_mem_of_mem_split (List.mem_filter.1 hm).1

/-- **Only the empty path and the root have no parent.** -/
theorem components_of_no_parent {path : Path} (h : path.parent = none) :
    path.components = [] ∨ path.components = [.root] := by
  have hbegins := @lead_eq_some path.text.toList
  unfold parent at h
  rw [components_eq, componentsOf]
  generalize lead path.text.toList = led at h hbegins ⊢
  obtain ⟨start, body⟩ := led
  simp only at h hbegins ⊢
  cases hb : backPieces body with
  | cons last before =>
    rw [hb] at h
    cases h
  | nil =>
    rw [hb] at h
    simp only [ite_eq_right_iff, reduceCtorEq, imp_false] at h
    rw [bodyComponents_of_no_backPieces hb, List.append_nil]
    cases start with
    | none => exact .inl rfl
    | some component =>
      rcases hbegins rfl with rfl | rfl
      · exact .inr rfl
      · exact absurd rfl h

/-- **A path that ends in a name has a parent**, which has the components in front of the name. -/
theorem exists_parent {path : Path} {front : List Component} {name : String}
    (h : path.components = front ++ [.name name]) :
    ∃ up, path.parent = some up ∧ up.components = front := by
  cases hp : path.parent with
  | none =>
    rcases components_of_no_parent hp with hc | hc
    · rw [hc] at h
      exact absurd h.symm (List.append_ne_nil_of_right_ne_nil _ (List.cons_ne_nil _ _))
    · rw [hc, ← List.nil_append [Component.root]] at h
      cases (List.append_inj' h rfl).2
  | some up =>
    obtain ⟨last, hc⟩ := components_parent hp
    rw [hc] at h
    exact ⟨up, rfl, (List.append_inj' h rfl).1⟩

theorem components_of_mem_ancestorsWithin {fuel : Nat} {path up : Path}
    (h : up ∈ ancestorsWithin fuel path) : up.components <+: path.components := by
  induction fuel generalizing path with
  | zero => cases h
  | succ fuel ih =>
    rw [ancestorsWithin] at h
    cases hp : path.parent with
    | none =>
      rw [hp] at h
      obtain rfl := List.mem_singleton.1 h
      exact List.prefix_rfl
    | some next =>
      rw [hp] at h
      rcases List.mem_cons.1 h with rfl | h
      · exact List.prefix_rfl
      · obtain ⟨last, hlast⟩ := components_parent hp
        exact (ih h).trans ⟨[last], hlast.symm⟩

/-- **The ancestors of a path have the components in front.** -/
theorem components_of_mem_ancestors {path up : Path} (h : up ∈ path.ancestors) :
    up.components <+: path.components :=
  components_of_mem_ancestorsWithin h

/-! ## The file name -/

/-- **The name of the file is the last component.** -/
theorem components_of_fileName {path : Path} {name : String} (h : path.fileName = some name) :
    ∃ front, path.components = front ++ [.name name] := by
  unfold fileName at h
  cases hb : backPieces (lead path.text.toList).2 with
  | nil =>
    rw [hb] at h
    cases h
  | cons last before =>
    rw [hb] at h
    simp only [Option.ite_none_left_eq_some, Option.some.injEq] at h
    obtain ⟨hdots, rfl⟩ := h
    refine ⟨(lead path.text.toList).1.toList ++ stepsOf before.reverse, ?_⟩
    rw [components_eq, componentsOf, (bodyComponents_of_backPieces hb).2, Component.ofPiece, if_neg hdots,
      List.append_assoc]

end ConverterBuilders.Path
