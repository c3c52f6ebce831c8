import DocSource.Answer.Response

/-! Feeding documents to an accumulator: all of them are taken, or one of them is refused. -/

namespace DocSource

variable {α : Type}

/-- An accumulator after documents, whether or not it took them. -/
def pushAll (push : α → Document → Except Error Unit × α) (state : α)
    (documents : List Document) : α :=
  documents.foldl (fun state document => (push state document).2) state

/--
Feeding gives the accumulator after all documents when it takes each of them, and nothing otherwise.

This holds of accumulators that judge a document by itself, whatever they hold already.
-/
theorem feed_eq_ok_iff {push : α → Document → Except Error Unit × α} {Takes : Document → Prop}
    (judged : ∀ state document, (push state document).1 = .ok () ↔ Takes document)
    (documents : List Document) (state last : α) :
    (feed push state (documents.map .ok)).1 = .ok last ↔
      (∀ document ∈ documents, Takes document) ∧ pushAll push state documents = last := by
  induction documents generalizing state with
  | nil => simp [feed, pushAll]
  | cons document rest ih =>
    have own := judged state document
    rw [List.map_cons, feed, List.forall_mem_cons, pushAll, List.foldl_cons]
    cases pushed : push state document with
    | mk verdict after =>
      rw [pushed] at own
      cases verdict with
      | error fault =>
        -- The document is refused, and feeding ends here.
        have refused : ¬ Takes document := fun taken => nomatch own.mpr taken
        simp [refused]
      | ok done =>
        have taken : Takes document := own.mp rfl
        simp only [taken, true_and]
        exact ih after

/-- What is made of the accumulator at the end is made when every document is taken. -/
theorem map_feed_eq_ok_iff {β : Type} {push : α → Document → Except Error Unit × α}
    {Takes : Document → Prop}
    (judged : ∀ state document, (push state document).1 = .ok () ↔ Takes document)
    (finish : α → β) (documents : List Document) (state : α) (made : β) :
    (feed push state (documents.map .ok)).1.map finish = .ok made ↔
      (∀ document ∈ documents, Takes document) ∧
        finish (pushAll push state documents) = made := by
  have taken := feed_eq_ok_iff judged documents state
  cases fed : (feed push state (documents.map .ok)).1 with
  | error fault =>
    -- An accumulator would be given if every document were taken.
    have refused : ¬ ∀ document ∈ documents, Takes document := fun all =>
      nomatch fed.symm.trans ((taken _).mpr ⟨all, rfl⟩)
    simp [Except.map, refused]
  | ok last =>
    obtain ⟨all, rfl⟩ := (taken last).mp fed
    simp only [Except.map, Except.ok.injEq]
    exact ⟨fun same => ⟨all, same⟩, fun same => same.2⟩

end DocSource
