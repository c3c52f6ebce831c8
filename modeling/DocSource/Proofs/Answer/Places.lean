import Mathlib.Data.List.Nodup
import Mathlib.Logic.Function.Basic

/-! Names in the order they were first seen, an index of their places, and lists kept by name. -/

namespace DocSource

/-- One more name is distinct from those before it, or it changes nothing. -/
theorem eraseDups_concat (names : List String) (name : String) :
    (names ++ [name]).eraseDups =
      if name ∈ names then names.eraseDups else names.eraseDups ++ [name] := by
  -- The name is erased exactly when it stands among those before it.
  rw [List.eraseDups_append]
  by_cases seen : name ∈ names <;> simp [List.removeAll, seen, List.eraseDups_cons]

/-- The names seen first are seen first in any longer list. -/
theorem eraseDups_prefix (names more : List String) :
    names.eraseDups <+: (names ++ more).eraseDups := by
  -- What more names add comes behind, without those that were there.
  rw [List.eraseDups_append]
  exact List.prefix_append _ _

/-- An index holds each name of a list under its place, and nothing else. -/
def Indexed (index : List (String × Nat)) (names : List String) : Prop :=
  ∀ name place, index.lookup name = some place ↔ names[place]? = some name

namespace Indexed

variable {index : List (String × Nat)} {names : List String}

/-- An index of no names is empty. -/
theorem nil : Indexed [] [] := by
  -- Nothing is found in the index, and nothing stands at any place.
  intro name place
  simp

/-- Indexed names are distinct. -/
theorem nodup (indexed : Indexed index names) : names.Nodup := by
  -- Two places of one name are both what the index holds.
  rw [List.nodup_iff_injective_getElem]
  intro first second same
  have same : names[first] = names[second] := same
  have early := (indexed names[first] first).mpr (List.getElem?_eq_getElem first.isLt)
  have late := (indexed names[second] second).mpr (List.getElem?_eq_getElem second.isLt)
  rw [same, late] at early
  exact Fin.ext (Option.some.inj early).symm

/-- A name that the index does not hold is not among the names. -/
theorem lookup_eq_none_iff (indexed : Indexed index names) {name : String} :
    index.lookup name = none ↔ name ∉ names := by
  -- A name stands at some place exactly when the index finds a place for it.
  rw [List.mem_iff_getElem?, Option.eq_none_iff_forall_ne_some, not_exists]
  exact forall_congr' fun place => not_congr (indexed name place)

/-- A new name is indexed by the place that it gets at the end. -/
theorem concat (indexed : Indexed index names) {name : String}
    (fresh : index.lookup name = none) :
    Indexed ((name, names.length) :: index) (names ++ [name]) := by
  intro other place
  by_cases same : other = name
  · subst same
    -- The name stands at no earlier place.
    have absent : names[place]? ≠ some other := fun found =>
      indexed.lookup_eq_none_iff.mp fresh (List.mem_of_getElem? found)
    rw [List.lookup_cons_self, List.getElem?_append, Option.some.injEq]
    split
    case isTrue within => exact ⟨fun last => by omega, fun found => absurd found absent⟩
    case isFalse beyond =>
      rw [List.getElem?_singleton]
      constructor
      · intro last
        rw [if_pos (by omega)]
      · intro found
        split at found
        · omega
        · simp at found
  · have differs : (other == name) = false := by simpa using same
    rw [List.lookup_cons, differs, indexed other place, List.getElem?_append]
    split
    case isTrue within => rfl
    case isFalse beyond =>
      -- Only the new name stands beyond the others.
      rw [List.getElem?_eq_none (by omega), List.getElem?_singleton]
      split <;> simp [Ne.symm same]

end Indexed

/-- The place of a name among names is its place among the first of them, if it is one of those. -/
theorem getElem?_first {first names : List String} (initial : first <+: names) {name : String}
    {place : Nat} (standing : names.idxOf? name = some place) :
    first[place]? = if name ∈ first then some name else none := by
  obtain ⟨within, there, earliest⟩ := List.idxOf?_eq_some_iff.mp standing
  split
  case isTrue among =>
    -- The name has a place among the first names, and no earlier one.
    obtain ⟨other, inside, same⟩ := List.getElem_of_mem among
    have reached : ¬ other < place := fun before =>
      earliest other before ((initial.getElem inside).symm.trans same)
    have inside : place < first.length := by omega
    rw [List.getElem?_eq_getElem inside, initial.getElem inside, there]
  case isFalse absent =>
    refine List.getElem?_eq_none (Nat.le_of_not_lt fun inside => absent ?_)
    have same : first[place] = name := (initial.getElem inside).trans there
    exact same ▸ List.getElem_mem inside

/-- Changing the entry of a name changes the entry that its name calls for, and no other. -/
theorem modify_map {α : Type} {names : List String} (distinct : names.Nodup) {name : String}
    {place : Nat} (found : names[place]? = some name) (entry : String → α) (change : α → α) :
    (names.map entry).modify place change =
      names.map (Function.update entry name (change (entry name))) := by
  refine List.ext_getElem? fun other => ?_
  rw [List.getElem?_modify, List.getElem?_map, List.getElem?_map]
  cases there : names[other]? with
  | none => rfl
  | some standing =>
    by_cases same : place = other
    · subst same
      rw [found] at there
      obtain rfl := Option.some.inj there
      simp
    · -- The names are distinct, so another place has another name.
      have differs : standing ≠ name := by
        rintro rfl
        have within := (List.getElem?_eq_some_iff.mp found).1
        exact same ((List.getElem?_inj within distinct).mp (found.trans there.symm))
      simp [same, Function.update_of_ne differs]

end DocSource
