/-!
# Maps with their keys in ascending order

An `OrderedMap κ α` is a list of key and value pairs whose keys strictly ascend, so a map has one
representation and its order is part of the type.

Main statements:

* `get?_insert_self`, `get?_insert_of_ne`: insertion sets one key and leaves the others alone;
* `ascending_insertEntry`: insertion keeps the order;
* `eq_of_ascending`: what strictly ascends is determined by its members;
* `ext_get?`: two maps that answer every look-up alike are equal;
* `ofList_entries`: a map is made again from its entries.
-/

namespace ConverterBuilders

/-- A finite map as a list of entries with strictly ascending keys. -/
structure OrderedMap (κ : Type) (α : Type) [Ord κ] where
  entries : List (κ × α)
  ascending : entries.Pairwise fun a b => compare a.1 b.1 = .lt

namespace OrderedMap

variable {κ α : Type} [Ord κ]

/-! ## Insertion into a list of entries -/

/-- Put `key` at its place, in front of the first greater key; an equal key is replaced. -/
def insertEntry (key : κ) (value : α) : List (κ × α) → List (κ × α)
  | [] => [(key, value)]
  | entry :: rest =>
    match compare key entry.1 with
    | .lt => (key, value) :: entry :: rest
    | .eq => (key, value) :: rest
    | .gt => entry :: insertEntry key value rest

def lookup (key : κ) : List (κ × α) → Option α
  | [] => none
  | entry :: rest => if compare key entry.1 = .eq then some entry.2 else lookup key rest

theorem mem_insertEntry {key : κ} {value : α} {entries : List (κ × α)} {e : κ × α}
    (h : e ∈ insertEntry key value entries) : e = (key, value) ∨ e ∈ entries := by
  induction entries with
  | nil => simpa [insertEntry] using h
  | cons entry rest ih =>
    rw [insertEntry] at h
    split at h
    · simpa using h
    · rcases List.mem_cons.mp h with rfl | hr
      · exact Or.inl rfl
      · exact Or.inr (List.mem_cons_of_mem _ hr)
    · rcases List.mem_cons.mp h with rfl | hr
      · exact Or.inr (List.mem_cons_self ..)
      · exact (ih hr).imp_right (List.mem_cons_of_mem _)

theorem ascending_insertEntry [Std.TransOrd κ] (key : κ) (value : α) {entries : List (κ × α)}
    (h : entries.Pairwise fun a b => compare a.1 b.1 = .lt) :
    (insertEntry key value entries).Pairwise fun a b => compare a.1 b.1 = .lt := by
  induction entries with
  | nil => simp [insertEntry]
  | cons entry rest ih =>
    have hr := List.pairwise_cons.mp h
    rw [insertEntry]
    split
    · rename_i hlt
      refine List.pairwise_cons.mpr ⟨fun e he => ?_, h⟩
      rcases List.mem_cons.mp he with rfl | he
      · exact hlt
      · exact Std.TransCmp.lt_trans hlt (hr.1 e he)
    · rename_i heq
      refine List.pairwise_cons.mpr ⟨fun e he => ?_, hr.2⟩
      rw [Std.TransCmp.congr_left heq]
      exact hr.1 e he
    · rename_i hgt
      refine List.pairwise_cons.mpr ⟨fun e he => ?_, ih hr.2⟩
      rcases mem_insertEntry he with rfl | he
      · exact Std.OrientedCmp.gt_iff_lt.mp hgt
      · exact hr.1 e he

/-! ## The operations -/

def empty : OrderedMap κ α := ⟨[], List.Pairwise.nil⟩

instance : Inhabited (OrderedMap κ α) := ⟨empty⟩

/-- Set `key` to `value`. -/
def insert [Std.TransOrd κ] (map : OrderedMap κ α) (key : κ) (value : α) : OrderedMap κ α :=
  ⟨insertEntry key value map.entries, ascending_insertEntry key value map.ascending⟩

/-- The value at `key`, if there is one. -/
def get? (map : OrderedMap κ α) (key : κ) : Option α := lookup key map.entries

/-- Whether `key` has a value. -/
def contains (map : OrderedMap κ α) (key : κ) : Bool := (map.get? key).isSome

def size (map : OrderedMap κ α) : Nat := map.entries.length

def values (map : OrderedMap κ α) : List α := map.entries.map Prod.snd

/-- Insert all entries from left to right, so the last one of a key stays. -/
def ofList [Std.TransOrd κ] (entries : List (κ × α)) : OrderedMap κ α :=
  entries.foldl (fun map entry => map.insert entry.1 entry.2) empty

/-! ## Looking up -/

@[simp] theorem get?_empty (key : κ) : (empty : OrderedMap κ α).get? key = none := rfl

theorem get?_insert_self [Std.TransOrd κ] (map : OrderedMap κ α) (key : κ) (value : α) :
    (map.insert key value).get? key = some value := by
  show lookup key (insertEntry key value map.entries) = some value
  induction map.entries with
  | nil => simp [insertEntry, lookup]
  | cons entry rest ih =>
    rw [insertEntry]
    split
    · simp [lookup]
    · simp [lookup]
    · rename_i hgt
      simp [lookup, hgt, ih]

theorem get?_insert_of_ne [Std.TransOrd κ] (map : OrderedMap κ α) {key other : κ} (value : α)
    (h : compare other key ≠ .eq) : (map.insert key value).get? other = map.get? other := by
  show lookup other (insertEntry key value map.entries) = lookup other map.entries
  induction map.entries with
  | nil => simp [insertEntry, lookup, h]
  | cons entry rest ih =>
    rw [insertEntry]
    split
    · simp [lookup, h]
    · rename_i heq
      have hne : compare other entry.1 ≠ .eq := fun he =>
        h (Std.TransCmp.eq_trans he (Std.OrientedCmp.eq_symm heq))
      simp [lookup, h, hne]
    · simp [lookup, ih]

theorem mem_of_lookup {key : κ} [Std.LawfulEqOrd κ] {entries : List (κ × α)} {value : α}
    (h : lookup key entries = some value) : (key, value) ∈ entries := by
  induction entries with
  | nil => simp [lookup] at h
  | cons entry rest ih =>
    rw [lookup] at h
    split at h
    · rename_i heq
      have hk : key = entry.1 := Std.LawfulEqOrd.eq_of_compare heq
      have hv : entry.2 = value := by simpa using h
      rw [hk, ← hv]
      exact List.mem_cons_self ..
    · exact List.mem_cons_of_mem _ (ih h)

theorem lookup_of_mem [Std.TransOrd κ] {entries : List (κ × α)} {entry : κ × α}
    (ascending : entries.Pairwise fun a b => compare a.1 b.1 = .lt) (h : entry ∈ entries) :
    lookup entry.1 entries = some entry.2 := by
  induction entries with
  | nil => simp at h
  | cons first rest ih =>
    have hr := List.pairwise_cons.mp ascending
    rw [lookup]
    rcases List.mem_cons.mp h with rfl | h
    · simp
    · have hgt : compare entry.1 first.1 = .gt := Std.OrientedCmp.gt_iff_lt.mpr (hr.1 entry h)
      simp [hgt, ih hr.2 h]

/-- The look-up of a map finds exactly its entries. -/
theorem get?_eq_some_iff [Std.TransOrd κ] [Std.LawfulEqOrd κ] (map : OrderedMap κ α) {k : κ}
    {v : α} : map.get? k = some v ↔ (k, v) ∈ map.entries :=
  ⟨mem_of_lookup, lookup_of_mem map.ascending⟩

/-! ## Equality -/

/-- Lists with the same members whose keys strictly ascend are equal. -/
theorem eq_of_ascending {β : Type} [Std.TransOrd κ] (key : β → κ) {left right : List β}
    (hleft : left.Pairwise fun a b => compare (key a) (key b) = .lt)
    (hright : right.Pairwise fun a b => compare (key a) (key b) = .lt)
    (h : ∀ e, e ∈ left ↔ e ∈ right) : left = right := by
  have irrefl : ∀ k : κ, compare k k ≠ .lt := by simp
  induction left generalizing right with
  | nil =>
    cases right with
    | nil => rfl
    | cons b _ => exact absurd ((h b).mpr (List.mem_cons_self ..)) (by simp)
  | cons a rest ih =>
    cases right with
    | nil => exact absurd ((h a).mp (List.mem_cons_self ..)) (by simp)
    | cons b rest' =>
      have ha := List.pairwise_cons.mp hleft
      have hb := List.pairwise_cons.mp hright
      have hab : a = b := by
        rcases List.mem_cons.mp ((h a).mp (List.mem_cons_self ..)) with e | ma
        · exact e
        rcases List.mem_cons.mp ((h b).mpr (List.mem_cons_self ..)) with e | mb
        · exact e.symm
        exact absurd (Std.TransCmp.lt_trans (ha.1 b mb) (hb.1 a ma)) (irrefl _)
      subst hab
      have tails : ∀ e, e ∈ rest ↔ e ∈ rest' := fun e => by
        constructor
        · intro he
          rcases List.mem_cons.mp ((h e).mp (List.mem_cons_of_mem _ he)) with rfl | m
          · exact absurd (ha.1 _ he) (irrefl _)
          · exact m
        · intro he
          rcases List.mem_cons.mp ((h e).mpr (List.mem_cons_of_mem _ he)) with rfl | m
          · exact absurd (hb.1 _ he) (irrefl _)
          · exact m
      rw [ih ha.2 hb.2 tails]

/-- A map is determined by its entries. -/
theorem eq_of_entries {left right : OrderedMap κ α} (h : left.entries = right.entries) :
    left = right := by
  cases left
  cases right
  cases h
  rfl

/-- A map is determined by what its look-ups answer. -/
theorem ext_get? [Std.TransOrd κ] [Std.LawfulEqOrd κ] {left right : OrderedMap κ α}
    (h : ∀ key, left.get? key = right.get? key) : left = right := by
  have hmem : ∀ e, e ∈ left.entries ↔ e ∈ right.entries := fun e => by
    have hl := get?_eq_some_iff left (k := e.1) (v := e.2)
    have hr := get?_eq_some_iff right (k := e.1) (v := e.2)
    rw [← hl, ← hr, h]
  exact eq_of_entries (eq_of_ascending Prod.fst left.ascending right.ascending hmem)

/-! ## Building a map from its entries -/

theorem insertEntry_append [Std.TransOrd κ] {key : κ} {value : α} {entries : List (κ × α)}
    (h : ∀ e ∈ entries, compare e.1 key = .lt) :
    insertEntry key value entries = entries ++ [(key, value)] := by
  induction entries with
  | nil => rfl
  | cons entry rest ih =>
    have hgt : compare key entry.1 = .gt :=
      Std.OrientedCmp.gt_iff_lt.mpr (h entry (List.mem_cons_self ..))
    rw [insertEntry, hgt]
    simp [ih fun e he => h e (List.mem_cons_of_mem _ he)]

theorem entries_foldl_insert [Std.TransOrd κ] (rest : List (κ × α)) (map : OrderedMap κ α)
    (h : (map.entries ++ rest).Pairwise fun a b => compare a.1 b.1 = .lt) :
    (rest.foldl (fun map entry => map.insert entry.1 entry.2) map).entries = map.entries ++ rest := by
  induction rest generalizing map with
  | nil => simp
  | cons entry rest ih =>
    have hlast : ∀ e ∈ map.entries, compare e.1 entry.1 = .lt := fun e he =>
      (List.pairwise_append.mp h).2.2 e he entry (List.mem_cons_self ..)
    have hins : (map.insert entry.1 entry.2).entries = map.entries ++ [entry] :=
      insertEntry_append hlast
    rw [List.foldl_cons, ih _ (by simpa [hins] using h), hins, List.append_assoc, List.singleton_append]

/-- **The entries of a map, inserted one by one, make the map again.** -/
theorem ofList_entries [Std.TransOrd κ] (map : OrderedMap κ α) : ofList map.entries = map := by
  have h := entries_foldl_insert map.entries empty (by simpa [empty] using map.ascending)
  cases map with
  | mk entries ascending =>
    show (⟨_, _⟩ : OrderedMap κ α) = _
    congr

end OrderedMap

end ConverterBuilders
