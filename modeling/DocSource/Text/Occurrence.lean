/-! Occurrences in a text: replacing a token, and dividing at a character. -/

namespace DocSource.Text

/-- Replaces each occurrence of `token`, after passing over `skip` characters already replaced. -/
def replaceAfter (token new : List Char) : Nat → List Char → List Char
  | _, [] => []
  | skip + 1, _ :: rest => replaceAfter token new skip rest
  | 0, c :: rest =>
    -- An occurrence is written as the new text, and its characters are passed over.
    if token.isPrefixOf (c :: rest) then new ++ replaceAfter token new (token.length - 1) rest
    else c :: replaceAfter token new 0 rest

/-- Replaces each occurrence of a non-empty token, from the left and without overlap. -/
def replace (token new text : List Char) : List Char := replaceAfter token new 0 text

/-- A token stands somewhere in a text. -/
def occurs (token : List Char) : List Char → Bool
  | [] => token.isEmpty
  | c :: rest => token.isPrefixOf (c :: rest) || occurs token rest

/-- What stands before and after the first occurrence of a mark. -/
def divideFirst (mark : Char) : List Char → Option (List Char × List Char)
  | [] => none
  | c :: rest =>
    if c = mark then some ([], rest)
    else (divideFirst mark rest).map fun (before, after) => (c :: before, after)

/-- What stands before and after the last occurrence of a mark. -/
def divideLast (mark : Char) : List Char → Option (List Char × List Char)
  | [] => none
  | c :: rest =>
    -- A later occurrence wins over this one.
    match divideLast mark rest with
    | some (before, after) => some (c :: before, after)
    | none => if c = mark then some ([], rest) else none

/-- The items between marks; the last mark may be missing and adds no line of its own. -/
def lines {α : Type} [DecidableEq α] (mark : α) : List α → List (List α)
  | [] => []
  | c :: rest =>
    if c = mark then [] :: lines mark rest
    else match lines mark rest with
      | [] => [[c]]
      | line :: more => (c :: line) :: more

/-- The texts in order, with a separator between each two. -/
def joined (separator : List Char) : List (List Char) → List Char
  | [] => []
  | [text] => text
  | text :: next :: more => text ++ separator ++ joined separator (next :: more)

/-- A token occurs in a text exactly when it is one of its segments. -/
theorem occurs_iff {token text : List Char} : occurs token text = true ↔ token <:+: text := by
  -- A segment starts at the front of the text or within the rest.
  induction text with
  | nil => simp [occurs]
  | cons c rest ih => simp [occurs, ih, List.infix_cons_iff]

/-- The first division gives the text back, and nothing before the mark is a mark. -/
theorem divideFirst_eq_some_iff {mark : Char} {text before after : List Char} :
    divideFirst mark text = some (before, after) ↔
      text = before ++ mark :: after ∧ mark ∉ before := by
  -- The induction follows the scan for the mark.
  induction text generalizing before with
  | nil => simp [divideFirst]
  | cons c rest ih =>
    by_cases same : c = mark
    · subst same
      simp only [divideFirst, if_pos, Option.some.injEq, Prod.mk.injEq]
      constructor
      · rintro ⟨rfl, rfl⟩; simp
      · rintro ⟨shape, absent⟩
        cases before with
        | nil => simp_all
        | cons b more => simp_all
    · simp only [divideFirst, if_neg same, Option.map_eq_some_iff, Prod.exists, Prod.mk.injEq]
      constructor
      · rintro ⟨front, back, found, rfl, rfl⟩
        obtain ⟨rfl, absent⟩ := ih.1 found
        simp [absent, Ne.symm same]
      · rintro ⟨shape, absent⟩
        cases before with
        | nil => simp_all
        | cons b more =>
          simp only [List.cons_append, List.cons.injEq] at shape
          obtain ⟨rfl, shape⟩ := shape
          simp only [List.mem_cons, not_or] at absent
          exact ⟨more, after, ih.2 ⟨shape, absent.2⟩, rfl, rfl⟩

/-- No mark in a text means no last division of it. -/
theorem divideLast_eq_none_iff {mark : Char} {text : List Char} :
    divideLast mark text = none ↔ mark ∉ text := by
  -- Only a text without the mark ends the scan empty-handed.
  induction text with
  | nil => simp [divideLast]
  | cons c rest ih =>
    cases found : divideLast mark rest with
    | none =>
      have absent := ih.1 found
      by_cases same : c = mark
      · simp [divideLast, found, same]
      · simp [divideLast, found, same, absent, Ne.symm same]
    | some pair =>
      have present : mark ∈ rest := by
        by_cases member : mark ∈ rest
        · exact member
        · simp [ih.2 member] at found
      simp [divideLast, found, present]

/-- The last division gives the text back, and nothing after the mark is a mark. -/
theorem divideLast_eq_some_iff {mark : Char} {text before after : List Char} :
    divideLast mark text = some (before, after) ↔
      text = before ++ mark :: after ∧ mark ∉ after := by
  -- The induction follows the scan, which keeps the latest mark it meets.
  induction text generalizing before with
  | nil => simp [divideLast]
  | cons c rest ih =>
    cases found : divideLast mark rest with
    | none =>
      have absent := divideLast_eq_none_iff.1 found
      simp only [divideLast, found]
      constructor
      · intro taken
        split at taken
        · rename_i same
          simp only [Option.some.injEq, Prod.mk.injEq] at taken
          obtain ⟨rfl, rfl⟩ := taken
          simp [same, absent]
        · simp at taken
      · rintro ⟨shape, _⟩
        cases before with
        | nil => simp_all
        | cons b more => simp_all
    | some pair =>
      obtain ⟨front, back⟩ := pair
      simp only [divideLast, found, Option.some.injEq, Prod.mk.injEq]
      constructor
      · rintro ⟨rfl, rfl⟩
        obtain ⟨rfl, absent⟩ := ih.1 found
        simp [absent]
      · rintro ⟨shape, absent⟩
        cases before with
        | nil =>
          simp only [List.nil_append, List.cons.injEq] at shape
          obtain ⟨rfl, rfl⟩ := shape
          have := divideLast_eq_none_iff.2 absent
          simp [this] at found
        | cons b more =>
          simp only [List.cons_append, List.cons.injEq] at shape
          obtain ⟨rfl, shape⟩ := shape
          have := ih.2 ⟨shape, absent⟩
          rw [found] at this
          simp only [Option.some.injEq, Prod.mk.injEq] at this
          simp [this]

end DocSource.Text
