import ConverterBuilders.FileTree.Writing
import ConverterBuilders.Proofs.LastComponents

/-!
# Where paths lead

Without links a path leads to one location, wherever it is followed: its components are taken one by one.
So what stands below a root path is found below the location of the root.

Main statements:

* `locationOf_eq_foldl`: the location of a path by its components;
* `locationOf_join`: what is put below a root is found below the location of the root;
* `eq_of_follow`, `eq_of_textPlace`: a path that is followed leads to its location;
* `directoryPlace_eq_ok_iff`, `textPlace_eq_ok_iff`: where a directory or a text may be put.
-/

namespace ConverterBuilders

open Text
open FileTree (locationOf)

namespace Path

def Component.from (here : Location) : Component → Location
  | .root => []
  | .current => here
  | .parent => here.dropLast
  | .name text => here ++ [text]

def Component.name? : Component → Option String
  | .name text => some text
  | _ => none

def names (path : Path) : List String := path.components.filterMap Component.name?

/-- Where a piece of a path leads; empty pieces and single dots lead nowhere else. -/
def turn (here : Location) (piece : String) : Location :=
  if piece = "" ∨ piece = "." then here
  else if piece = ".." then here.dropLast
  else here ++ [piece]

theorem locationOf_eq (directory : Location) (path : Path) :
    locationOf directory path =
      (splitText '/' path.text).foldl turn (FileTree.start directory path) := rfl

/-! ## By components -/

theorem turn_of_idle {piece : List Char} (h : isIdle piece = true) (here : Location) :
    turn here (String.ofList piece) = here := by
  have hpiece : piece = [] ∨ piece = ['.'] := by simpa [isIdle] using h
  rcases hpiece with rfl | rfl <;> rfl

theorem turn_of_step {piece : List Char} (h : isIdle piece = false) (here : Location) :
    turn here (String.ofList piece) = (Component.ofPiece piece).from here := by
  have heq : ∀ s : String, String.ofList piece = s ↔ piece = s.toList := fun s => by
    rw [← String.toList_inj, String.toList_ofList]
  have hpiece : piece ≠ [] ∧ piece ≠ ['.'] := by simpa [isIdle] using h
  have hidle : ¬ (String.ofList piece = "" ∨ String.ofList piece = ".") := by
    rw [heq, heq]
    exact fun hor => hor.elim hpiece.1 hpiece.2
  rw [turn, if_neg hidle, Component.ofPiece]
  by_cases hd : piece = ['.', '.']
  · rw [if_pos ((heq "..").2 hd), if_pos hd]
    rfl
  · rw [if_neg fun he => hd ((heq "..").1 he), if_neg hd]
    rfl

/-- Pieces lead where their steps lead. -/
theorem foldl_turn (pieces : List (List Char)) (here : Location) :
    (pieces.map String.ofList).foldl turn here = (stepsOf pieces).foldl Component.from here := by
  induction pieces generalizing here with
  | nil => rfl
  | cons piece pieces ih =>
    rw [List.map_cons, List.foldl_cons, stepsOf]
    cases hi : isIdle piece with
    | true =>
      rw [turn_of_idle hi, ih, List.filter_cons_of_neg (by simp [hi])]
      rfl
    | false =>
      rw [turn_of_step hi, ih, List.filter_cons_of_pos (by simp [hi]), List.map_cons, List.foldl_cons]
      rfl

/-- The lead of a path leads to where the path begins. -/
theorem foldl_lead (directory : Location) (path : Path) :
    (lead path.text.toList).1.toList.foldl Component.from directory =
      FileTree.start directory path := by
  rw [FileTree.start]
  rcases lead_cases path.text.toList with hn | ⟨rest, hc⟩ | hc | ⟨rest, hc⟩
  · rw [not_isAbsolute_of_none hn, hn]
    rfl
  · rw [isAbsolute, hc]
    rfl
  · rw [isAbsolute, hc]
    rfl
  · rw [isAbsolute, hc]
    rfl

/-- **The location of a path by its components.** -/
theorem locationOf_eq_foldl (directory : Location) (path : Path) :
    locationOf directory path = path.components.foldl Component.from directory := by
  rw [locationOf_eq, splitText, components_eq_stepsOf, List.foldl_append, foldl_lead, foldl_turn]

/-- A path of names leads to what has these names below the directory. -/
theorem foldl_from_of_names {components : List Component}
    (h : ∀ component ∈ components, ∃ name, component = .name name) (here : Location) :
    components.foldl Component.from here = here ++ components.filterMap Component.name? := by
  induction components generalizing here with
  | nil => simp
  | cons component rest ih =>
    obtain ⟨name, rfl⟩ := h component (List.mem_cons_self ..)
    have hcons : (Component.name name :: rest).filterMap Component.name? =
        name :: rest.filterMap Component.name? := rfl
    rw [List.foldl_cons, ih (fun other ho => h other (List.mem_cons_of_mem _ ho)), hcons,
      Component.from, List.append_assoc, List.singleton_append]

/-- **What is put below a root is found below the location of the root.** -/
theorem locationOf_join (directory : Location) (root : Path) {sub : Path}
    (h : ∀ component ∈ sub.components, ∃ name, component = .name name) :
    locationOf directory (root.join sub) = locationOf directory root ++ sub.names := by
  rw [locationOf_eq_foldl, components_join root (lead_of_names h), List.foldl_append,
    foldl_from_of_names h, ← locationOf_eq_foldl directory root]
  rfl

end Path

namespace FileTree

/-! ## Following paths -/

variable {tree : FileTree} {here directory location : Location}

theorem eq_of_step {piece : String} (h : tree.step here piece = .ok location) :
    location = Path.turn here piece := by
  unfold step at h
  split at h
  · cases h
  · split at h
    · rename_i he
      cases h
      rw [Path.turn, if_pos (Or.inl he)]
    · rename_i he
      split at h
      · cases h
      · split at h
        · rename_i hd
          cases h
          rw [Path.turn, if_pos (Or.inr hd)]
        · rename_i hd
          rw [Path.turn, if_neg (not_or.2 ⟨he, hd⟩)]
          split at h
          · rename_i hp
            cases h
            rw [if_pos hp]
          · rename_i hp
            rw [if_neg hp]
            split at h <;> cases h
            rfl

/-- **Pieces that are followed lead to their location.** -/
theorem eq_of_follow {pieces : List String} (h : tree.follow here pieces = .ok location) :
    location = pieces.foldl Path.turn here := by
  induction pieces generalizing here with
  | nil =>
    cases h
    rfl
  | cons piece pieces ih =>
    rw [follow] at h
    cases hs : tree.step here piece with
    | error fault =>
      rw [hs] at h
      cases h
    | ok next =>
      rw [hs] at h
      rw [List.foldl_cons, ← eq_of_step hs]
      exact ih h

/-! ## Last names -/

theorem turn_of_isEmpty {piece : String} (h : piece.isEmpty = true) : Path.turn here piece = here := by
  rw [Path.turn, if_pos (Or.inl (String.isEmpty_iff.1 h))]

theorem foldl_turn_of_isEmpty {pieces : List String} (h : ∀ piece ∈ pieces, piece.isEmpty = true) :
    pieces.foldl Path.turn here = here := by
  induction pieces generalizing here with
  | nil => rfl
  | cons piece pieces ih =>
    rw [List.foldl_cons, turn_of_isEmpty (h piece (List.mem_cons_self ..))]
    exact ih fun other ho => h other (List.mem_cons_of_mem _ ho)

/-- The pieces of a path with a last name: those in front of it, the name and empty ones. -/
theorem exists_of_splitLast {path : Path} {front : List String} {last : String} {slash : Bool}
    (h : splitLast path = some (front, last, slash)) :
    last.isEmpty = false ∧ ∃ back, splitText '/' path.text = front ++ last :: back ∧
      ∀ piece ∈ back, piece.isEmpty = true := by
  unfold splitLast at h
  have hsplit := List.takeWhile_append_dropWhile (p := fun piece : String => piece.isEmpty)
    (l := (splitText '/' path.text).reverse)
  have hempty : ∀ piece ∈ (splitText '/' path.text).reverse.takeWhile (·.isEmpty),
      piece.isEmpty = true :=
    List.all_eq_true.1 List.all_takeWhile
  cases hd : (splitText '/' path.text).reverse.dropWhile (·.isEmpty) with
  | nil => simp [hd] at h
  | cons name before =>
    have hhead := List.head?_dropWhile_not (fun piece : String => piece.isEmpty)
      (splitText '/' path.text).reverse
    simp only [hd, List.head?_cons] at hhead
    simp only [hd, Option.some.injEq, Prod.mk.injEq] at h
    obtain ⟨rfl, rfl, -⟩ := h
    refine ⟨hhead, _, ?_, fun piece hm => hempty piece (List.mem_reverse.1 hm)⟩
    rw [hd] at hsplit
    have hreverse := congrArg List.reverse hsplit
    rw [List.reverse_reverse, List.reverse_append, List.reverse_cons, List.append_assoc,
      List.singleton_append] at hreverse
    exact hreverse.symm

/-- The place of a last name that is no dots. -/
theorem turn_of_last {last : String} (he : last.isEmpty = false) (hd : isDots last = false) :
    Path.turn here last = here ++ [last] := by
  have hne : last ≠ "" := fun h => by simp [h] at he
  have hdots : last ≠ "." ∧ last ≠ ".." := by simpa [isDots] using hd
  rw [Path.turn, if_neg (not_or.2 ⟨hne, hdots.1⟩), if_neg hdots.2]

theorem enter_eq_ok_iff {pieces : List String} :
    tree.enter here pieces = .ok location ↔
      tree.follow here pieces = .ok location ∧ tree.hasDirectory location = true ∧
        tree.isClosed location = false := by
  constructor
  · intro h
    unfold enter at h
    split at h
    · cases h
    · rename_i found hf
      split_ifs at h with hd hc
      cases h
      exact ⟨hf, by simpa using hd, by simpa using hc⟩
  · rintro ⟨hf, hd, hc⟩
    simp [enter, hf, hd, hc]

/-- The last name of a path that is no dots is a plain one. -/
theorem plain_of_splitLast {path : Path} {front : List String} {last : String} {slash : Bool}
    (h : splitLast path = some (front, last, slash)) (hd : isDots last = false) :
    Path.Plain last.toList := by
  obtain ⟨hlast, back, hpieces, -⟩ := exists_of_splitLast h
  have hdots : last ≠ "." ∧ last ≠ ".." := by simpa [isDots] using hd
  have hpiece : last ∈ splitText '/' path.text := by simp [hpieces]
  obtain ⟨piece, hm, rfl⟩ := List.mem_map.1 hpiece
  refine ⟨fun he => ?_, fun he => hdots.1 (String.toList_inj.1 he),
    fun he => hdots.2 (String.toList_inj.1 he), ?_⟩
  · simp [String.toList_eq_nil_iff.1 he] at hlast
  · rw [String.toList_ofList]
    exact not_mem_of_mem_split hm

/-- **A new directory gets a free name in a directory that may be entered.** -/
theorem directoryPlace_eq_ok_iff {path : Path} :
    tree.directoryPlace directory path = .ok location ↔
      path.text.isEmpty = false ∧ ∃ front last slash found,
        splitLast path = some (front, last, slash) ∧
        tree.enter (start directory path) front = .ok found ∧ isDots last = false ∧
        tree.node? (found ++ [last]) = none ∧ location = found ++ [last] := by
  constructor
  · intro h
    unfold directoryPlace at h
    split at h
    · cases h
    · rename_i hne
      split at h
      · cases h
      · rename_i front last slash hs
        split at h
        · cases h
        · rename_i found he
          split at h
          · cases h
          · rename_i hfree
            cases h
            simp only [Bool.or_eq_true, not_or, Bool.not_eq_true, Option.isSome_eq_false_iff,
              Option.isNone_iff_eq_none] at hfree
            exact ⟨Bool.eq_false_iff.2 hne, front, last, slash, found, hs, he, hfree.1, hfree.2, rfl⟩
  · rintro ⟨hne, front, last, slash, found, hs, he, hd, hn, rfl⟩
    simp [directoryPlace, hne, hs, he, hd, hn]

/-- **A text gets a name in a directory that may be entered, unless a directory has it.** -/
theorem textPlace_eq_ok_iff {path : Path} :
    tree.textPlace directory path = .ok location ↔
      path.text.isEmpty = false ∧ ∃ front last found,
        splitLast path = some (front, last, false) ∧
        tree.enter (start directory path) front = .ok found ∧ isDots last = false ∧
        tree.hasDirectory (found ++ [last]) = false ∧ location = found ++ [last] := by
  constructor
  · intro h
    unfold textPlace at h
    split at h
    · cases h
    · rename_i hne
      split at h
      · cases h
      · rename_i front last slash hs
        split at h
        · cases h
        · rename_i found he
          split at h
          · cases h
          · rename_i hrefused
            cases h
            simp only [Bool.or_eq_true, not_or, Bool.not_eq_true] at hrefused
            obtain ⟨⟨rfl, hd⟩, hn⟩ := hrefused
            exact ⟨Bool.eq_false_iff.2 hne, front, last, found, hs, he, hd, hn, rfl⟩
  · rintro ⟨hne, front, last, found, hs, he, hd, hn, rfl⟩
    simp [textPlace, hne, hs, he, hd, hn]

/-- **A text is written where its path leads.** -/
theorem eq_of_textPlace {path : Path} (h : tree.textPlace directory path = .ok location) :
    location = locationOf directory path := by
  obtain ⟨-, front, last, found, hs, he, hd, -, rfl⟩ := textPlace_eq_ok_iff.1 h
  obtain ⟨hlast, back, hpieces, hback⟩ := exists_of_splitLast hs
  rw [Path.locationOf_eq, hpieces, List.foldl_append, ← eq_of_follow (enter_eq_ok_iff.1 he).1,
    List.foldl_cons, turn_of_last hlast hd, foldl_turn_of_isEmpty hback]

end FileTree

end ConverterBuilders
