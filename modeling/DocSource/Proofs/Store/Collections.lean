import DocSource.Store.Basic
import DocSource.Proofs.Text.Utf8
import Mathlib.Data.String.Basic

/-! Names of the collections of a store: each is there once, and they are in the order of bytes. -/

namespace DocSource

/-- The keys after a put are that key and those from before. -/
theorem mem_keys_insertOrdered {α : Type} {key name : String} {value : α}
    {entries : List (String × α)} :
    name ∈ (insertOrdered key value entries).map (·.1) ↔
      name = key ∨ name ∈ entries.map (·.1) := by
  -- A key that is put again was there before, so the names stay the same.
  induction entries with
  | nil => simp [insertOrdered]
  | cons entry rest ih =>
    obtain ⟨other, old⟩ := entry
    rw [insertOrdered]
    split
    -- The key takes the place of an equal one.
    case isTrue same => simp [same]
    case isFalse =>
      split
      · -- The key stands in front of a greater one.
        simp
      · -- The key goes further down, and the order of a disjunction does not matter.
        rw [List.map_cons, List.mem_cons, ih, List.map_cons, List.mem_cons]
        exact or_left_comm

/-- A put keeps the keys in order, each of them once. -/
theorem pairwise_keys_insertOrdered {α : Type} (key : String) (value : α)
    {entries : List (String × α)} (ordered : (entries.map (·.1)).Pairwise (· < ·)) :
    ((insertOrdered key value entries).map (·.1)).Pairwise (· < ·) := by
  -- The induction goes down to the first key that is not before the new one.
  induction entries with
  | nil => simp [insertOrdered]
  | cons entry rest ih =>
    obtain ⟨other, old⟩ := entry
    obtain ⟨first, others⟩ := List.pairwise_cons.mp ordered
    rw [insertOrdered]
    split
    case isTrue same =>
      subst same
      exact ordered
    case isFalse differs =>
      split
      case isTrue before =>
        refine List.pairwise_cons.mpr ⟨fun name among => ?_, ordered⟩
        rcases List.mem_cons.mp among with rfl | later
        · exact before
        · exact before.trans (first name later)
      case isFalse notBefore =>
        refine List.pairwise_cons.mpr ⟨fun name among => ?_, ih others⟩
        rcases mem_keys_insertOrdered.mp among with rfl | later
        · exact lt_of_le_of_ne (not_lt.mp notBefore) (Ne.symm differs)
        · exact first name later

/-- Strings are in the order of their bytes. -/
theorem toUTF8_lt {name next : String} (lt : name < next) :
    name.toUTF8.data.toList < next.toUTF8.data.toList := by
  -- Code points and their bytes are in the same order, so comparing characters compares bytes.
  rw [Text.data_toUTF8, Text.data_toUTF8]
  exact Text.utf8_lt (String.lt_iff.mp lt)

namespace Store

/-- The names of the collections of a database. -/
def names (store : Store) (database : String) : List String :=
  (store.collections database).map (·.1)

/-- A put changes the collections of its own database only. -/
theorem collections_insert (database collection : String) (documents : List Document)
    (store : Store) (other : String) :
    (store.insert database collection documents).collections other =
      if other = database then insertOrdered collection documents (store.collections database)
      else store.collections other := by
  -- The outer map answers for one database, and hands the others through.
  rw [collections, insert, lookup_insertOrdered]
  split <;> rfl

/-- The names of a database are those that were put there. -/
theorem mem_names_insert {database collection : String} {documents : List Document}
    {store : Store} {other name : String} :
    name ∈ (store.insert database collection documents).names other ↔
      (other = database ∧ name = collection) ∨ name ∈ store.names other := by
  -- In the database of the put, the names are the keys of its map; elsewhere they stay.
  rw [names, collections_insert]
  split
  case isTrue same =>
    rw [mem_keys_insertOrdered, names, same]
    simp
  case isFalse differs => simp [differs, names]

/-- A put keeps the names of each database in order. -/
theorem pairwise_names_insert {database collection : String} {documents : List Document}
    {store : Store} {other : String} (ordered : (store.names other).Pairwise (· < ·)) :
    ((store.insert database collection documents).names other).Pairwise (· < ·) := by
  -- The map of names is ordered, and a put keeps an ordered list so.
  rw [names, collections_insert]
  split
  case isTrue same =>
    subst same
    exact pairwise_keys_insertOrdered collection documents ordered
  case isFalse => exact ordered

end Store

end DocSource
