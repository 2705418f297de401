import Mathlib.Data.List.AList
import Mathlib.Tactic

/-!
# Finite tables

A finite map is Mathlib's association list without duplicate keys.  This
module adds mapping over all values, modifying the value of one key and dropping
values.

Main results:

- Theorem `lookup_mapValues`: mapping acts on the value of every key.
- Theorem `lookup_modify`: modifying acts on the value of one key.
- Theorem `lookup_filterMapValues`: dropping acts on the value of every key.
- Theorem `lookup_of_findEntry`: what a search finds is an entry of the table.
- Theorem `Unique.insert`: a new value of a column keeps the column unique.
- Theorems `Evolves.insert`, `Evolves.erase`, `Evolves.modify`: no key of a numbered
  table is used again.
-/

namespace Driscord
namespace Library

/-- A finite map with keys in `κ` and values in `α`. -/
abbrev Table (κ α : Type*) := AList fun _ : κ => α

namespace Table

variable {κ α β : Type*}

/-- Replace every value by a function of its key and itself. -/
def mapValues (f : κ → α → β) (table : Table κ α) : Table κ β where
  entries := table.entries.map fun entry => ⟨entry.1, f entry.1 entry.2⟩
  nodupKeys := by
    have hkeys : (table.entries.map fun entry => (⟨entry.1, f entry.1 entry.2⟩ :
        Sigma fun _ : κ => β)).keys = table.entries.keys := by
      simp [List.keys, Function.comp_def]
    rw [List.NodupKeys, hkeys]
    exact table.nodupKeys

@[simp]
theorem keys_mapValues (f : κ → α → β) (table : Table κ α) :
    (mapValues f table).keys = table.keys := by
  simp [mapValues, AList.keys, List.keys, Function.comp_def]

@[simp]
theorem mem_mapValues (f : κ → α → β) (table : Table κ α) (key : κ) :
    key ∈ mapValues f table ↔ key ∈ table := by
  rw [AList.mem_keys, AList.mem_keys, keys_mapValues]

variable [DecidableEq κ]

@[simp]
theorem lookup_mapValues (f : κ → α → β) (table : Table κ α) (key : κ) :
    (mapValues f table).lookup key = (table.lookup key).map (f key) := by
  unfold mapValues AList.lookup
  dsimp only
  induction table.entries with
  | nil => rfl
  | cons entry entries ih =>
      rcases entry with ⟨other, value⟩
      by_cases hkey : other = key
      · subst hkey
        simp
      · simpa [List.dlookup_cons_ne, Ne.symm hkey] using ih

/-- Modify the value of one key. -/
def modify (key : κ) (f : α → α) (table : Table κ α) : Table κ α :=
  mapValues (fun other value => if other = key then f value else value) table

@[simp]
theorem mem_modify (key : κ) (f : α → α) (table : Table κ α) (other : κ) :
    other ∈ modify key f table ↔ other ∈ table :=
  mem_mapValues _ _ _

@[simp]
theorem keys_modify (key : κ) (f : α → α) (table : Table κ α) :
    (modify key f table).keys = table.keys :=
  keys_mapValues _ _

theorem lookup_modify (key : κ) (f : α → α) (table : Table κ α) (other : κ) :
    (modify key f table).lookup other =
      (table.lookup other).map fun value => if other = key then f value else value :=
  lookup_mapValues _ _ _

@[simp]
theorem lookup_modify_self (key : κ) (f : α → α) (table : Table κ α) :
    (modify key f table).lookup key = (table.lookup key).map f := by
  simp [lookup_modify]

theorem lookup_modify_ne {key other : κ} (f : α → α) (table : Table κ α)
    (hne : other ≠ key) : (modify key f table).lookup other = table.lookup other := by
  simp [lookup_modify, hne]

/-- Replace or drop every value by a function of its key and itself. -/
def filterMapValues (f : κ → α → Option β) (table : Table κ α) : Table κ β where
  entries := table.entries.filterMap fun entry => (f entry.1 entry.2).map fun value =>
    ⟨entry.1, value⟩
  nodupKeys := by
    have hkeys : (table.entries.filterMap fun entry => (f entry.1 entry.2).map fun value =>
        (⟨entry.1, value⟩ : Sigma fun _ : κ => β)).keys.Sublist table.entries.keys := by
      induction table.entries with
      | nil => simp
      | cons entry entries ih =>
          rw [List.filterMap_cons]
          cases f entry.1 entry.2 with
          | none => exact ih.trans (List.sublist_cons_self _ _)
          | some value => exact ih.cons_cons _
    exact List.Nodup.sublist hkeys table.nodupKeys

theorem lookup_filterMapValues (f : κ → α → Option β) (table : Table κ α) (key : κ) :
    (filterMapValues f table).lookup key = (table.lookup key).bind (f key) := by
  rcases table with ⟨entries, hnodup⟩
  simp only [filterMapValues, AList.lookup]
  induction entries with
  | nil => rfl
  | cons entry entries ih =>
      rcases entry with ⟨other, value⟩
      have htail := List.nodupKeys_cons.mp hnodup
      rw [List.filterMap_cons]
      by_cases hkey : other = key
      · subst hkey
        cases hvalue : f other value with
        | none =>
            have hnone : List.dlookup other entries = none :=
              List.dlookup_eq_none.mpr htail.1
            simp [ih htail.2, hnone, hvalue]
        | some result => simp [hvalue]
      · have hne : key ≠ other := fun h => hkey h.symm
        rw [List.dlookup_cons_ne entries ⟨other, value⟩ hne]
        cases f other value with
        | none => exact ih htail.2
        | some result =>
            exact (List.dlookup_cons_ne _ ⟨other, result⟩ hne).trans (ih htail.2)

theorem mem_iff_exists_lookup {table : Table κ α} {key : κ} :
    key ∈ table ↔ ∃ value, table.lookup key = some value := by
  rw [← AList.lookup_isSome, Option.isSome_iff_exists]

theorem mem_of_lookup {table : Table κ α} {key : κ} {value : α}
    (h : table.lookup key = some value) : key ∈ table :=
  mem_iff_exists_lookup.mpr ⟨value, h⟩

/-- The first entry that passes a test. -/
def findEntry (test : κ → α → Bool) (table : Table κ α) : Option (κ × α) :=
  (table.entries.find? fun entry => test entry.1 entry.2).map fun entry => (entry.1, entry.2)

theorem lookup_of_findEntry {test : κ → α → Bool} {table : Table κ α} {key : κ} {value : α}
    (h : findEntry test table = some (key, value)) :
    table.lookup key = some value ∧ test key value = true := by
  rcases Option.map_eq_some_iff.mp h with ⟨entry, hentry, hpair⟩
  obtain ⟨rfl, rfl⟩ := Prod.mk.inj hpair
  have htest := List.find?_some hentry
  exact ⟨AList.mem_lookup_iff.mpr (List.mem_of_find?_eq_some hentry), htest⟩

theorem findEntry_eq_none_iff {test : κ → α → Bool} {table : Table κ α} :
    findEntry test table = none ↔
      ∀ key value, table.lookup key = some value → test key value = false := by
  rw [findEntry, Option.map_eq_none_iff, List.find?_eq_none]
  constructor
  · intro h key value hlookup
    simpa using h ⟨key, value⟩ (AList.mem_lookup_iff.mp hlookup)
  · intro h entry hmem
    simpa using h entry.1 entry.2 (AList.mem_lookup_iff.mpr hmem)

/-! ## Constraints -/

/-- Every entry satisfies a condition. -/
def All (condition : κ → α → Prop) (table : Table κ α) : Prop :=
  ∀ key value, table.lookup key = some value → condition key value

/-- No two entries have the same value of a column. -/
def Unique (column : α → β) (table : Table κ α) : Prop :=
  ∀ first second left right, table.lookup first = some left →
    table.lookup second = some right → column left = column right → first = second

section

variable {condition condition' : κ → α → Prop} {column : α → β} {table : Table κ α}

theorem lookup_insert_cases {key other : κ} {value found : α}
    (h : (table.insert key value).lookup other = some found) :
    other = key ∧ found = value ∨ other ≠ key ∧ table.lookup other = some found := by
  by_cases hkey : other = key
  · subst hkey
    rw [AList.lookup_insert, Option.some.injEq] at h
    exact Or.inl ⟨rfl, h.symm⟩
  · rw [AList.lookup_insert_ne hkey] at h
    exact Or.inr ⟨hkey, h⟩

theorem lookup_of_lookup_erase {key other : κ} {found : α}
    (h : (table.erase key).lookup other = some found) :
    other ≠ key ∧ table.lookup other = some found := by
  by_cases hkey : other = key
  · subst hkey
    rw [AList.lookup_erase] at h
    contradiction
  · rw [AList.lookup_erase_ne hkey] at h
    exact ⟨hkey, h⟩

theorem All.mono (h : All condition table)
    (himp : ∀ key value, condition key value → condition' key value) :
    All condition' table :=
  fun key value hlookup => himp key value (h key value hlookup)

theorem All.insert (h : All condition table) {key : κ} {value : α}
    (hnew : condition key value) : All condition (table.insert key value) := by
  intro other found hlookup
  rcases lookup_insert_cases hlookup with ⟨rfl, rfl⟩ | ⟨-, hold⟩
  · exact hnew
  · exact h other found hold

theorem All.erase (h : All condition table) (key : κ) : All condition (table.erase key) :=
  fun other found hlookup => h other found (lookup_of_lookup_erase hlookup).2

theorem All.modify (h : All condition table) (key : κ) {f : α → α}
    (hkept : ∀ value, condition key value → condition key (f value)) :
    All condition (modify key f table) := by
  intro other found hlookup
  rw [lookup_modify] at hlookup
  rcases Option.map_eq_some_iff.mp hlookup with ⟨value, hvalue, rfl⟩
  have hold := h other value hvalue
  by_cases hkey : other = key
  · subst hkey
    rw [if_pos rfl]
    exact hkept value hold
  · rw [if_neg hkey]
    exact hold

/-- Of the entries that are kept, the condition and the reason to keep them hold. -/
theorem All.reject (h : All condition table) (test : α → Prop) [DecidablePred test] :
    All (fun key value => condition key value ∧ ¬ test value)
      (filterMapValues (fun _ value => if test value then none else some value) table) := by
  intro key found hlookup
  rw [lookup_filterMapValues] at hlookup
  rcases Option.bind_eq_some_iff.mp hlookup with ⟨value, hvalue, hkept⟩
  by_cases htest : test value
  · rw [if_pos htest] at hkept
    contradiction
  · rw [if_neg htest, Option.some.injEq] at hkept
    subst hkept
    exact ⟨h key value hvalue, htest⟩

theorem Unique.insert (h : Unique column table) {key : κ} {value : α}
    (hnew : All (fun _ other => column other ≠ column value) table) :
    Unique column (table.insert key value) := by
  intro first second left right hfirst hsecond hsame
  rcases lookup_insert_cases hfirst with ⟨rfl, rfl⟩ | ⟨-, hleft⟩ <;>
    rcases lookup_insert_cases hsecond with ⟨rfl, rfl⟩ | ⟨-, hright⟩
  · rfl
  · exact (hnew second right hright hsame.symm).elim
  · exact (hnew first left hleft hsame).elim
  · exact h first second left right hleft hright hsame

theorem Unique.erase (h : Unique column table) (key : κ) : Unique column (table.erase key) :=
  fun first second left right hfirst hsecond =>
    h first second left right (lookup_of_lookup_erase hfirst).2
      (lookup_of_lookup_erase hsecond).2

theorem Unique.modify (h : Unique column table) (key : κ) {f : α → α}
    (hkept : ∀ value, column (f value) = column value) : Unique column (modify key f table) := by
  have hcolumn : ∀ other found, (Table.modify key f table).lookup other = some found →
      ∃ value, table.lookup other = some value ∧ column found = column value := by
    intro other found hlookup
    rw [lookup_modify] at hlookup
    rcases Option.map_eq_some_iff.mp hlookup with ⟨value, hvalue, rfl⟩
    refine ⟨value, hvalue, ?_⟩
    split
    · exact hkept value
    · rfl
  intro first second left right hfirst hsecond hsame
  rcases hcolumn first left hfirst with ⟨value, hvalue, hleft⟩
  rcases hcolumn second right hsecond with ⟨value', hvalue', hright⟩
  apply h first second value value' hvalue hvalue'
  rw [← hleft, ← hright, hsame]

/-- An entry that is kept was there before. -/
theorem lookup_of_lookup_reject {test : α → Prop} [DecidablePred test] {key : κ} {found : α}
    (h : (filterMapValues (fun _ value => if test value then none else some value)
      table).lookup key = some found) :
    table.lookup key = some found := by
  have hall : All (fun other value => table.lookup other = some value) table :=
    fun _ _ hlookup => hlookup
  exact (hall.reject test key found h).1

theorem Unique.reject (h : Unique column table) (test : α → Prop) [DecidablePred test] :
    Unique column
      (filterMapValues (fun _ value => if test value then none else some value) table) :=
  fun first second left right hfirst hsecond =>
    h first second left right (lookup_of_lookup_reject hfirst)
      (lookup_of_lookup_reject hsecond)

end

/-! ## Numbered tables -/

/-- A table and the number of its next row, and both later: a row whose number was
given before is still that row. -/
def Evolves (same : α → α → Prop) (next later : ℕ) (before after : Table ℕ α) : Prop :=
  next ≤ later ∧ ∀ key found, key < next → after.lookup key = some found →
    ∃ value, before.lookup key = some value ∧ same value found

section

variable {same : α → α → Prop} {next later : ℕ} {before after : Table ℕ α}

theorem Evolves.refl (hrefl : ∀ value, same value value) (next : ℕ) (table : Table ℕ α) :
    Evolves same next next table table :=
  ⟨le_rfl, fun _ found _ hlookup => ⟨found, hlookup, hrefl found⟩⟩

theorem Evolves.insert (h : Evolves same next later before after) (value : α) :
    Evolves same next (later + 1) before (after.insert later value) := by
  refine ⟨h.1.trans (Nat.le_succ later), fun key found hkey hlookup => ?_⟩
  rcases lookup_insert_cases hlookup with ⟨rfl, -⟩ | ⟨-, hold⟩
  · have hbound := h.1
    omega
  · exact h.2 key found hkey hold

theorem Evolves.erase (h : Evolves same next later before after) (key : ℕ) :
    Evolves same next later before (after.erase key) :=
  ⟨h.1, fun other found hother hlookup =>
    h.2 other found hother (lookup_of_lookup_erase hlookup).2⟩

theorem Evolves.reject (h : Evolves same next later before after) (test : α → Prop)
    [DecidablePred test] :
    Evolves same next later before
      (filterMapValues (fun _ value => if test value then none else some value) after) :=
  ⟨h.1, fun key found hkey hlookup => h.2 key found hkey (lookup_of_lookup_reject hlookup)⟩

theorem Evolves.modify (h : Evolves same next later before after) (key : ℕ) {f : α → α}
    (hsame : ∀ value found, same value found → same value (f found)) :
    Evolves same next later before (modify key f after) := by
  refine ⟨h.1, fun other found hother hlookup => ?_⟩
  rw [lookup_modify] at hlookup
  rcases Option.map_eq_some_iff.mp hlookup with ⟨held, hheld, rfl⟩
  rcases h.2 other held hother hheld with ⟨value, hvalue, hkept⟩
  refine ⟨value, hvalue, ?_⟩
  by_cases hkey : other = key
  · rw [if_pos hkey]
    exact hsame value held hkept
  · rw [if_neg hkey]
    exact hkept

/-- Of a row that was there before, only what may change is different. -/
theorem Evolves.same_of_lookup (h : Evolves same next later before after)
    (hbelow : All (fun key _ => key < next) before) {key : ℕ} {value found : α}
    (hbefore : before.lookup key = some value) (hafter : after.lookup key = some found) :
    same value found := by
  rcases h.2 key found (hbelow key value hbefore) hafter with ⟨other, hother, hsame⟩
  obtain rfl := Option.some.inj (hother.symm.trans hbefore)
  exact hsame

end

end Table

end Library
end Driscord
