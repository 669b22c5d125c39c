import ConverterBuilders.OrderedMap
import Mathlib.Data.List.Forall2

/-!
# What a map that is made from entries holds

A map forgets the order and the repetitions of the entries that it is made from, and answers as its
entries tell.

Main statements:

* `lookup_rel`: maps with related values under the same keys answer with related values;
* `perm_insertEntry`: an entry under a new key is put among the others;
* `mem_ofList_iff`: a map holds the entries that it is made from, if none of them has the key of another;
* `ofList_congr`: such entries make the same map in any order and with any repetitions;
* `filterMap_entries_congr`: maps that share the entries that count give the same when these are picked out.
-/

namespace ConverterBuilders

namespace OrderedMap

variable {κ α : Type} [Ord κ]

/-- Related values stand under the same keys. -/
theorem lookup_rel {related : α → α → Prop} {left right : List (κ × α)}
    (h : List.Forall₂ (fun entry other => entry.1 = other.1 ∧ related entry.2 other.2) left right)
    (key : κ) : Option.Rel related (lookup key left) (lookup key right) := by
  induction h with
  | nil => exact .none
  | cons hentry _ ih =>
    rw [lookup, lookup, hentry.1]
    split
    · exact .some hentry.2
    · exact ih

/-- Related values are put at the same place. -/
theorem insertEntry_rel {related : α → α → Prop} {left right : List (κ × α)}
    (h : List.Forall₂ (fun entry other => entry.1 = other.1 ∧ related entry.2 other.2) left right)
    (key : κ) {value other : α} (hv : related value other) :
    List.Forall₂ (fun entry other => entry.1 = other.1 ∧ related entry.2 other.2)
      (insertEntry key value left) (insertEntry key other right) := by
  induction h with
  | nil => exact .cons ⟨rfl, hv⟩ .nil
  | cons hentry hrest ih =>
    rw [insertEntry, insertEntry, hentry.1]
    split
    · exact .cons ⟨rfl, hv⟩ (.cons hentry hrest)
    · exact .cons ⟨rfl, hv⟩ hrest
    · exact .cons hentry ih

/-- An entry under a new key is put among the others. -/
theorem perm_insertEntry {key : κ} {value : α} {entries : List (κ × α)}
    (h : lookup key entries = none) : (insertEntry key value entries).Perm ((key, value) :: entries) := by
  induction entries with
  | nil => exact .refl _
  | cons entry rest ih =>
    rw [lookup] at h
    rw [insertEntry]
    split
    · exact .refl _
    · rename_i heq
      rw [if_pos heq] at h
      cases h
    · rename_i hgt
      rw [if_neg (by rw [hgt]; decide)] at h
      exact ((ih h).cons entry).trans (.swap ..)

variable [Std.TransOrd κ]

theorem mem_of_mem_foldl_insert {rest : List (κ × α)} {map : OrderedMap κ α} {entry : κ × α}
    (h : entry ∈ (rest.foldl (fun map entry => map.insert entry.1 entry.2) map).entries) :
    entry ∈ map.entries ∨ entry ∈ rest := by
  induction rest generalizing map with
  | nil => exact .inl h
  | cons first rest ih =>
    rcases ih h with h | h
    · rcases mem_insertEntry h with rfl | h
      · exact .inr (List.mem_cons_self ..)
      · exact .inl h
    · exact .inr (List.mem_cons_of_mem _ h)

theorem mem_of_mem_ofList {entries : List (κ × α)} {entry : κ × α}
    (h : entry ∈ (ofList entries).entries) : entry ∈ entries := by
  rcases mem_of_mem_foldl_insert h with h | h
  · cases h
  · exact h

section Lawful

variable [Std.LawfulEqOrd κ]

theorem mem_insert_self (map : OrderedMap κ α) (entry : κ × α) :
    entry ∈ (map.insert entry.1 entry.2).entries :=
  (get?_eq_some_iff _).1 (get?_insert_self map entry.1 entry.2)

theorem mem_insert_of_ne {map : OrderedMap κ α} {entry other : κ × α} (h : entry ∈ map.entries)
    (hne : other.1 ≠ entry.1) : entry ∈ (map.insert other.1 other.2).entries := by
  have hcompare : compare entry.1 other.1 ≠ .eq := fun he =>
    hne (Std.LawfulEqOrd.eq_of_compare he).symm
  rw [← get?_eq_some_iff, get?_insert_of_ne _ _ hcompare, get?_eq_some_iff]
  exact h

/-- An entry that no other replaces stays. -/
theorem mem_foldl_insert {rest : List (κ × α)} {map : OrderedMap κ α} {entry : κ × α}
    (hkey : ∀ other ∈ rest, other.1 = entry.1 → other = entry)
    (h : entry ∈ map.entries ∨ entry ∈ rest) :
    entry ∈ (rest.foldl (fun map entry => map.insert entry.1 entry.2) map).entries := by
  induction rest generalizing map with
  | nil => exact h.resolve_right List.not_mem_nil
  | cons first rest ih =>
    refine ih (fun other ho => hkey other (List.mem_cons_of_mem _ ho)) ?_
    by_cases he : first.1 = entry.1
    · have hfirst := hkey first (List.mem_cons_self ..) he
      subst hfirst
      exact .inl (mem_insert_self map first)
    · rcases h with h | h
      · exact .inl (mem_insert_of_ne h he)
      · rcases List.mem_cons.1 h with rfl | h
        · exact absurd rfl he
        · exact .inr h

/-- **A map holds the entries that it is made from, if none of them has the key of another.** -/
theorem mem_ofList_iff {entries : List (κ × α)}
    (hkeys : ∀ a ∈ entries, ∀ b ∈ entries, b.1 = a.1 → b = a) {entry : κ × α} :
    entry ∈ (ofList entries).entries ↔ entry ∈ entries :=
  ⟨mem_of_mem_ofList, fun h => mem_foldl_insert (hkeys entry h) (.inr h)⟩

/-- **The same entries make the same map in any order and with any repetitions.** -/
theorem ofList_congr {left right : List (κ × α)}
    (hkeys : ∀ a ∈ left, ∀ b ∈ left, b.1 = a.1 → b = a) (h : ∀ entry, entry ∈ left ↔ entry ∈ right) :
    ofList left = ofList right := by
  have hright : ∀ a ∈ right, ∀ b ∈ right, b.1 = a.1 → b = a := fun a ha b hb =>
    hkeys a ((h a).2 ha) b ((h b).2 hb)
  refine eq_of_entries (eq_of_ascending Prod.fst (ofList left).ascending (ofList right).ascending ?_)
  intro entry
  rw [mem_ofList_iff hkeys, mem_ofList_iff hright, h]

end Lawful

/-- **Maps that share the entries that count give the same when these are picked out.** -/
theorem filterMap_entries_congr {β : Type} {left right : OrderedMap κ α} (pick : κ × α → Option β)
    (h : ∀ entry, (pick entry).isSome = true → (entry ∈ left.entries ↔ entry ∈ right.entries)) :
    left.entries.filterMap pick = right.entries.filterMap pick := by
  have hskip : ∀ entries : List (κ × α), entries.filterMap pick =
      (entries.filter fun entry => (pick entry).isSome).filterMap pick := by
    intro entries
    rw [List.filterMap_filter]
    refine List.filterMap_congr fun entry _ => ?_
    cases pick entry <;> rfl
  have hcount : left.entries.filter (fun entry => (pick entry).isSome) =
      right.entries.filter fun entry => (pick entry).isSome := by
    refine eq_of_ascending Prod.fst (left.ascending.filter _) (right.ascending.filter _) fun entry => ?_
    rw [List.mem_filter, List.mem_filter]
    exact and_congr_left (h entry)
  rw [hskip, hcount, ← hskip]

end OrderedMap

end ConverterBuilders
