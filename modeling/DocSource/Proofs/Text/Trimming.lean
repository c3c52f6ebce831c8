import DocSource.Text.Blank
import DocSource.Text.Occurrence
import Mathlib.Data.List.DropRight

/-! Texts without the blanks at their ends: what trimming leaves, and where what is left divides. -/

namespace DocSource.Text

/-- Nothing is trimmed off a text whose two ends are no blanks. -/
theorem trim_enclosed (opening closing : Char) (text : List Char)
    (front : isBlank opening = false) (back : isBlank closing = false) :
    trim (opening :: text ++ [closing]) = opening :: text ++ [closing] := by
  -- Each end stops the trimming at once.
  simp [trim, front, back]

/-- Blanks in front of a text are trimmed off. -/
theorem trim_blank_append {blanks : List Char} (blank : ∀ c ∈ blanks, isBlank c = true)
    (text : List Char) : trim (blanks ++ text) = trim text := by
  -- The first pass drops them before it looks at the text.
  rw [trim, trim, List.dropWhile_append_of_pos blank]

/-- Blanks behind a text are trimmed off with those that it ends with. -/
theorem trim_append_blank {blanks : List Char} (blank : ∀ c ∈ blanks, isBlank c = true)
    (text : List Char) : trim (text ++ blanks) = trim text := by
  have tail : ∀ c ∈ blanks.reverse, isBlank c = true := by simpa using blank
  by_cases empty : text.dropWhile isBlank = []
  · -- Where the text is blank as well, nothing is left of either.
    have all := dropWhile_isBlank_eq_nil_iff.mp empty
    have both : ∀ c ∈ text ++ blanks, isBlank c = true := by
      intro c among
      exact (List.mem_append.mp among).elim (all c) (blank c)
    rw [trim_eq_nil_iff.mpr both, trim_eq_nil_iff.mpr all]
  · -- Otherwise the trimming at the end meets the blanks first.
    rw [trim, trim, List.dropWhile_append, if_neg (by simpa using empty), List.reverse_append,
      List.dropWhile_append_of_pos tail]

/-- Solid characters stop the trimming at the end. -/
theorem dropWhile_reverse_of_solid {front : List Char} (solid : ∀ c ∈ front, isBlank c = false) :
    front.reverse.dropWhile isBlank = front.reverse := by
  -- The last character is the first that the pass meets, and it is no blank.
  cases backwards : front.reverse with
  | nil => rfl
  | cons c more =>
    have dark := solid c (by rw [← List.mem_reverse, backwards]; exact List.mem_cons_self)
    rw [List.dropWhile_cons_of_neg (by simp [dark])]

/-- A text without its blanks starts with solid characters where the blanks in front of it end. -/
theorem prefix_trim_iff {front text : List Char} (solid : ∀ c ∈ front, isBlank c = false) :
    front <+: trim text ↔ front <+: text.dropWhile isBlank := by
  rw [trim]
  constructor
  · intro found
    -- What is left when the end is trimmed stands in front of what was trimmed.
    have kept := List.reverse_prefix.mpr
      (List.dropWhile_suffix (l := (text.dropWhile isBlank).reverse) isBlank)
    rw [List.reverse_reverse] at kept
    exact found.trans kept
  · rintro ⟨rest, parts⟩
    -- The trimming at the end comes to a halt at the last of the solid characters.
    rw [← parts, List.reverse_append, List.dropWhile_append, dropWhile_reverse_of_solid solid]
    split
    · -- Nothing is left behind the solid characters.
      exact ⟨[], by rw [List.append_nil, List.reverse_reverse]⟩
    · rw [List.reverse_append, List.reverse_reverse]
      exact List.prefix_append front _

/-- A text without the mark adds to what stands behind the last one. -/
theorem divideLast_append {mark : Char} {after : List Char} (absent : mark ∉ after)
    (text : List Char) :
    divideLast mark (text ++ after) =
      (divideLast mark text).map fun (before, behind) => (before, behind ++ after) := by
  -- The last mark, if there is any, stands in the text.
  cases found : divideLast mark text with
  -- Neither part has the mark.
  | none =>
    have none := divideLast_eq_none_iff.mp found
    rw [Option.map_none, divideLast_eq_none_iff, List.mem_append, not_or]
    exact ⟨none, absent⟩
  | some parts =>
    -- The part behind the last mark grows, and still has none.
    obtain ⟨before, behind⟩ := parts
    obtain ⟨rfl, last⟩ := divideLast_eq_some_iff.mp found
    rw [Option.map_some, divideLast_eq_some_iff, List.mem_append, not_or]
    exact ⟨by simp, last, absent⟩

/-- The blanks that a text ends with stand behind its last mark, where no blank is a mark. -/
theorem divideLast_rdropWhile {mark : Char} (solid : isBlank mark = false) (text : List Char) :
    divideLast mark text =
      (divideLast mark (text.rdropWhile isBlank)).map fun (before, behind) =>
        (before, behind ++ text.rtakeWhile isBlank) := by
  -- A blank is no mark, so the text without its last blanks has the same last mark.
  have absent : mark ∉ text.rtakeWhile isBlank := by
    intro inside
    rw [List.mem_rtakeWhile_imp inside] at solid
    cases solid
  rw [← divideLast_append absent, List.rdropWhile_append_rtakeWhile]

/-- What holds no mark and stands in front of a text stands in front of its first mark. -/
theorem prefix_of_prefix_divided {mark : Char} {front before after : List Char}
    (absent : mark ∉ front) (found : front <+: before ++ mark :: after) : front <+: before := by
  rcases List.prefix_or_prefix_of_prefix found (List.prefix_append before _) with within | beyond
  · exact within
  · -- Whatever is longer than what stands before the mark holds the mark.
    obtain ⟨more, rfl⟩ := beyond
    rw [List.prefix_append_right_inj] at found
    cases more with
    | nil => simp
    | cons c rest =>
      obtain ⟨rfl, -⟩ := List.cons_prefix_cons.mp found
      exact absurd (by simp) absent

/-- A text is trimmed at its end alone when it starts with solid characters. -/
theorem trim_append_of_solid {front : List Char} (solid : ∀ c ∈ front, isBlank c = false)
    (some : front ≠ []) (text : List Char) :
    trim (front ++ text) = front ++ text.rdropWhile isBlank := by
  -- The first character ends the trimming in front, and the last solid one that behind.
  have begins : (front ++ text).dropWhile isBlank = front ++ text := by
    cases front with
    | nil => exact absurd rfl some
    | cons c more =>
      have dark := solid c List.mem_cons_self
      simp [dark]
  rw [trim, begins, List.reverse_append, List.dropWhile_append, dropWhile_reverse_of_solid solid,
    List.rdropWhile]
  split
  · next none =>
    rw [List.isEmpty_iff.mp none, List.reverse_nil, List.append_nil, List.reverse_reverse]
  · rw [List.reverse_append, List.reverse_reverse]

end DocSource.Text
