import Mathlib.Order.Lattice
import WarehouseAccounting.Foundations.Json

/-!
# Ordered maps

A map whose entries are kept in the order of their keys, each key once.

- `OrderedMap.lookup_insert`: what is found after an insertion.
- `OrderedMap.nodup_keys`: each key is there once.
-/

/-- A map that is gone through in the order of its keys. -/
structure OrderedMap (κ β : Type) [LT κ] where
  entries : List (κ × β)
  sorted : entries.Pairwise fun first second => first.1 < second.1

namespace OrderedMap

variable {κ β : Type} [LinearOrder κ]

/-- The map with no entry. -/
def empty : OrderedMap κ β := ⟨[], .nil⟩

/-- The value of a key. -/
def lookup (key : κ) (map : OrderedMap κ β) : Option β := map.entries.lookup key

/-- Put an entry in the order of its key, unless the key is there. -/
def insertEntry (key : κ) (value : β) : List (κ × β) → List (κ × β)
  | [] => [(key, value)]
  | (key', value') :: entries =>
    if key < key' then
      (key, value) :: (key', value') :: entries
    else if key = key' then
      (key', value') :: entries
    else
      (key', value') :: insertEntry key value entries

/-- No key but the inserted one is new. -/
theorem fst_of_mem_insertEntry {key : κ} {value : β} {entries : List (κ × β)} {entry : κ × β}
    (h : entry ∈ insertEntry key value entries) : entry.1 = key ∨ entry ∈ entries := by
  induction entries with
  | nil => exact .inl (by rw [List.mem_singleton.mp h])
  | cons first entries ih =>
    obtain ⟨key', value'⟩ := first
    rw [insertEntry] at h
    split at h
    · rcases List.mem_cons.mp h with rfl | h
      · exact .inl rfl
      · exact .inr h
    · split at h
      · exact .inr h
      · rcases List.mem_cons.mp h with rfl | h
        · exact .inr List.mem_cons_self
        · exact (ih h).imp_right (List.mem_cons_of_mem _)

/-- The order is kept. -/
theorem sorted_insertEntry (key : κ) (value : β) {entries : List (κ × β)}
    (hsorted : entries.Pairwise fun first second => first.1 < second.1) :
    (insertEntry key value entries).Pairwise fun first second => first.1 < second.1 := by
  induction entries with
  | nil => exact List.pairwise_singleton _ _
  | cons first entries ih =>
    obtain ⟨key', value'⟩ := first
    obtain ⟨hfirst, hentries⟩ := List.pairwise_cons.mp hsorted
    rw [insertEntry]
    split
    · rename_i hless
      refine List.pairwise_cons.mpr ⟨fun entry hentry => ?_, hsorted⟩
      rcases List.mem_cons.mp hentry with rfl | hentry
      · exact hless
      · exact lt_trans hless (hfirst entry hentry)
    · rename_i hless
      split
      · exact hsorted
      · rename_i hne
        refine List.pairwise_cons.mpr ⟨fun entry hentry => ?_, ih hentries⟩
        rcases fst_of_mem_insertEntry hentry with hkey | hentry
        · rw [hkey]
          exact lt_of_le_of_ne (not_lt.mp hless) fun heq => hne heq.symm
        · exact hfirst entry hentry

/-- `insert`: a key that is there keeps its value. -/
def insert (key : κ) (value : β) (map : OrderedMap κ β) : OrderedMap κ β :=
  ⟨insertEntry key value map.entries, sorted_insertEntry key value map.sorted⟩

@[simp]
theorem lookup_empty (key : κ) : (empty : OrderedMap κ β).lookup key = none := rfl

/-- A key that no entry has is not found. -/
theorem lookup_eq_none_of_notMem {key : κ} {entries : List (κ × β)}
    (h : key ∉ entries.map Prod.fst) : entries.lookup key = none := by
  refine List.lookup_eq_none_iff.mpr fun entry hentry => bne_iff_ne.mpr fun heq => h ?_
  rw [heq]
  exact List.mem_map_of_mem hentry

/-- What is found after an insertion. -/
theorem lookup_insert (key key' : κ) (value : β) (map : OrderedMap κ β) :
    (map.insert key value).lookup key' =
      if key' = key then some ((map.lookup key).getD value) else map.lookup key' := by
  obtain ⟨entries, hsorted⟩ := map
  show (insertEntry key value entries).lookup key' =
    if key' = key then some ((entries.lookup key).getD value) else entries.lookup key'
  induction entries with
  | nil => rw [insertEntry, Json.lookup_cons_ite]; rfl
  | cons first entries ih =>
    obtain ⟨other, otherValue⟩ := first
    obtain ⟨hfirst, hentries⟩ := List.pairwise_cons.mp hsorted
    rw [insertEntry]
    split
    · rename_i hless
      -- The key is below all that are there, so it is new.
      have hnone : ((other, otherValue) :: entries).lookup key = none := by
        refine lookup_eq_none_of_notMem fun hmem => ?_
        obtain ⟨entry, hentry, rfl⟩ := List.mem_map.mp hmem
        rcases List.mem_cons.mp hentry with rfl | hentry
        · exact lt_irrefl _ hless
        · exact lt_asymm hless (hfirst entry hentry)
      rw [Json.lookup_cons_ite key key', hnone, Option.getD_none]
    · split
      · rename_i hkey
        subst hkey
        rw [Json.lookup_cons_ite key key, if_pos rfl, Json.lookup_cons_ite key key',
          Option.getD_some]
        split <;> rfl
      · rename_i hkey
        rw [Json.lookup_cons_ite other key', ih hentries, Json.lookup_cons_ite other key,
          if_neg hkey, Json.lookup_cons_ite other key']
        by_cases hother : key' = other
        · rw [if_pos hother, if_pos hother, if_neg fun heq => hkey (heq.symm.trans hother)]
        · rw [if_neg hother, if_neg hother]

/-- Each key is there once. -/
theorem nodup_keys (map : OrderedMap κ β) : (map.entries.map Prod.fst).Nodup :=
  List.Pairwise.map _ (fun _ _ hless => ne_of_lt hless) map.sorted

end OrderedMap
