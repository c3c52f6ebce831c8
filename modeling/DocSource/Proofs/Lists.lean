import Mathlib.Data.List.Forall2

/-! Functions on lists that go element by element, as those on the lists inside a value do. -/

namespace DocSource.Lists

variable {α β : Type}

/-- A function on lists that treats one element after the other maps the elements. -/
theorem eq_map_of_cons {each : List α → List β} {f : α → β} (empty : each [] = [])
    (step : ∀ element rest, each (element :: rest) = f element :: each rest)
    (elements : List α) : each elements = elements.map f := by
  -- The two equations are those of the map.
  induction elements with
  | nil => exact empty
  | cons element rest ih => rw [step, ih, List.map_cons]

/-- A function on lists that gathers from one element after the other has all they give. -/
theorem mem_iff_of_cons (each : List α → List β) {f : α → List β} (empty : each [] = [])
    (step : ∀ element rest, each (element :: rest) = f element ++ each rest)
    {elements : List α} {result : β} :
    result ∈ each elements ↔ ∃ element ∈ elements, result ∈ f element := by
  -- The two equations are those of the flat map.
  have flat : each elements = elements.flatMap f := by
    induction elements with
    | nil => exact empty
    | cons element rest ih => rw [step, ih, List.flatMap_cons]
  rw [flat, List.mem_flatMap]

/-- A function on lists that reads one element after the other relates the elements in order. -/
theorem eq_some_iff_of_cons (each : List α → Option (List β)) {Reads : α → β → Prop}
    (empty : each [] = some [])
    (step : ∀ element rest results, each (element :: rest) = some results ↔
      ∃ first others, Reads element first ∧ each rest = some others ∧ first :: others = results)
    {elements : List α} {results : List β} :
    each elements = some results ↔ List.Forall₂ Reads elements results := by
  -- Each step relates one more element, and the rest is read before it.
  induction elements generalizing results with
  | nil => rw [empty, List.forall₂_nil_left_iff, Option.some.injEq, eq_comm]
  | cons element rest ih =>
    rw [step, List.forall₂_cons_left_iff]
    constructor
    · rintro ⟨first, others, own, tail, rfl⟩
      exact ⟨first, others, own, ih.mp tail, rfl⟩
    · rintro ⟨first, others, own, tail, rfl⟩
      exact ⟨first, others, own, ih.mpr tail, rfl⟩

variable {Reads : α → β → Prop} {elements : List α} {results : List β}

/-- Every result comes from an element. -/
theorem exists_of_mem_results (related : List.Forall₂ Reads elements results) {result : β}
    (among : result ∈ results) : ∃ element ∈ elements, Reads element result := by
  -- The element has the place of the result.
  induction related with
  | nil => simp at among
  | cons own _ ih =>
    rcases List.mem_cons.mp among with rfl | among
    · exact ⟨_, List.mem_cons_self, own⟩
    · obtain ⟨element, inside, reads⟩ := ih among
      exact ⟨element, List.mem_cons_of_mem _ inside, reads⟩

/-- The element at a position has its result at that position. -/
theorem exists_of_getElem? (related : List.Forall₂ Reads elements results) {index : Nat}
    {element : α} (found : elements[index]? = some element) :
    ∃ result, Reads element result ∧ results[index]? = some result := by
  -- Both lists are of one length.
  obtain ⟨within, rfl⟩ := List.getElem?_eq_some_iff.mp found
  have inside : index < results.length := related.length_eq ▸ within
  exact ⟨results[index], related.get within inside, List.getElem?_eq_getElem inside⟩

/-- A function that leaves each element leaves the list. -/
theorem map_eq_self {f : α → α} (each : ∀ element ∈ elements, f element = element) :
    elements.map f = elements :=
  -- Mapping agrees with the identity wherever the list has an element.
  (List.map_congr_left each).trans elements.map_id

/-- A list that was written is read back when each of its elements is good, and not otherwise. -/
theorem mapM_map_eq {γ : Type} {write : α → β} {read : β → Option γ} {good : α → Bool}
    {value : α → γ} (elements : List α)
    (each : ∀ element ∈ elements,
      read (write element) = if good element then some (value element) else none) :
    (elements.map write).mapM read =
      if elements.all good then some (elements.map value) else none := by
  -- The first element that is not good ends the reading.
  induction elements with
  | nil => rfl
  | cons element rest ih =>
    rw [List.forall_mem_cons] at each
    rw [List.map_cons, List.mapM_cons, each.1, List.all_cons, ih each.2]
    cases good element
    · rfl
    · cases rest.all good <;> rfl

end DocSource.Lists
