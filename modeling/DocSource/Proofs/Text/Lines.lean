import DocSource.Proofs.Text.Trimming
import DocSource.Proofs.Text.Utf8
import Mathlib.Logic.Relation

/-!
Lines of a text: they are those of its bytes, and how lines end and what blanks stand around them
makes no difference to what is solid in them.
-/

namespace DocSource.Text

section

variable {α : Type} [DecidableEq α] {mark : α}

/-- What holds no mark belongs to the line that starts behind it. -/
theorem lines_append {front : List α} (absent : mark ∉ front) (some : front ≠ [])
    (text : List α) :
    lines mark (front ++ text) =
      match lines mark text with
      | [] => [front]
      | line :: more => (front ++ line) :: more := by
  -- None of the items in front starts a new line, so each of them joins the first one.
  induction front with
  | nil => exact absurd rfl some
  | cons item rest ih =>
    have differs : item ≠ mark := fun same => absent (by simp [same])
    have others : mark ∉ rest := fun among => absent (by simp [among])
    rw [List.cons_append, lines, if_neg differs]
    by_cases last : rest = []
    · -- The last item in front meets the first line behind.
      subst last
      rw [List.nil_append]
      cases lines mark text <;> rfl
    · rw [ih others last]
      cases lines mark text <;> rfl

/-- Splitting at the marks gives the lines, with an empty one more where no line is begun. -/
theorem splitOn_eq_lines (mark : α) (text : List α) :
    ∃ last, text.splitOn mark = lines mark text ++ last ∧ (last = [] ∨ last = [[]]) := by
  induction text with
  | nil => exact ⟨[[]], rfl, .inr rfl⟩
  | cons item rest ih =>
    obtain ⟨last, split, shape⟩ := ih
    rw [List.splitOn_cons_eq_if_modifyHead, split, lines]
    by_cases same : item = mark
    · exact ⟨last, by simp [same], shape⟩
    · rw [if_neg (by simpa using same), if_neg same]
      cases begun : lines mark rest with
      | cons line more => exact ⟨last, rfl, shape⟩
      | nil =>
        -- The item begins the line that was empty so far.
        refine ⟨[], ?_, .inl rfl⟩
        rcases shape with rfl | rfl
        · rw [begun] at split
          exact absurd split (List.splitOn_ne_nil mark rest)
        · rfl

end

/-- The byte of a newline stands for nothing else. -/
theorem not_mem_utf8EncodeChar {c : Char} (other : c ≠ '\n') :
    10 ∉ String.utf8EncodeChar c := by
  have differs : c.val.toNat ≠ 10 := by
    intro same
    exact other (Char.ext (UInt32.toNat_inj.mp same))
  have bound : c.val.toNat < 0x110000 := by
    rcases c.valid with low | ⟨_, high⟩ <;> omega
  simp only [String.utf8EncodeChar]
  generalize c.val.toNat = n at *
  -- The bytes of a longer character are all out of the ASCII range.
  repeat' split
  all_goals
    simp only [List.mem_cons, List.not_mem_nil, or_false, not_or, ← UInt8.toNat_inj,
      UInt8.toNat_ofNat', UInt8.reduceToNat]
    simp (disch := omega) only [Nat.mod_eq_of_lt]
    omega

/-- The lines of the bytes of a text are the bytes of its lines. -/
theorem lines_utf8 (text : List Char) : lines 10 (utf8 text) = (lines '\n' text).map utf8 := by
  -- No byte of another character is taken for a newline.
  induction text with
  | nil => rfl
  | cons c rest ih =>
    rw [utf8, List.flatMap_cons, ← utf8]
    by_cases newline : c = '\n'
    · subst newline
      exact congrArg ([] :: ·) ih
    · rw [lines_append (not_mem_utf8EncodeChar newline) String.utf8EncodeChar_ne_nil, ih, lines,
        if_neg newline]
      cases lines '\n' rest <;> simp [utf8]

/-- Those lines that are not blank, without the blanks around them. -/
def solid (lines : List (List Char)) : List (List Char) := (lines.map trim).filter (· ≠ [])

/-- A line in front is solid or not. -/
theorem solid_cons (line : List Char) (rest : List (List Char)) :
    solid (line :: rest) = if trim line = [] then solid rest else trim line :: solid rest := by
  -- A line without anything but blanks is left out, and any other one is trimmed.
  by_cases blank : trim line = [] <;> simp [solid, blank]

/-- The solid lines of a text. -/
def solidLines (text : List Char) : List (List Char) := solid (text.splitOn '\n')

/-- A newline ends what is solid before it and begins what is solid behind it. -/
theorem solidLines_append_newline (before after : List Char) :
    solidLines (before ++ '\n' :: after) = solidLines before ++ solidLines after := by
  -- The division at newlines falls apart at this one.
  simp [solidLines, solid, List.splitOn_append_cons_self]

/-- There is nothing solid in an empty text. -/
@[simp]
theorem solidLines_nil : solidLines [] = [] := rfl

/-- There is nothing solid in front of a newline that a text starts with. -/
theorem solidLines_newline (text : List Char) : solidLines ('\n' :: text) = solidLines text :=
  solidLines_append_newline [] text

/-- A text without newlines is one line. -/
theorem solidLines_of_not_mem {line : List Char} (absent : '\n' ∉ line) :
    solidLines line = [trim line].filter (· ≠ []) := by
  -- The one line is kept unless it is blank.
  rw [solidLines, List.splitOn_eq_singleton absent, solid, List.map_singleton]

/-- Blanks that end no line. -/
def Margin (blanks : List Char) : Prop := ∀ c ∈ blanks, isBlank c = true ∧ c ≠ '\n'

namespace Margin

variable {blanks : List Char} (margin : Margin blanks)
include margin

/-- There is no newline in a margin. -/
theorem not_mem : '\n' ∉ blanks := fun among => (margin _ among).2 rfl

/-- A margin in front of the first line is nothing solid. -/
theorem solidLines_append (text : List Char) : solidLines (blanks ++ text) = solidLines text := by
  have blank : ∀ c ∈ blanks, isBlank c = true := fun c among => (margin c among).1
  have one : ∀ line : List Char, '\n' ∉ line → solidLines (blanks ++ line) = solidLines line := by
    intro line absent
    have both : '\n' ∉ blanks ++ line := fun among =>
      (List.mem_append.mp among).elim margin.not_mem absent
    rw [solidLines_of_not_mem both, solidLines_of_not_mem absent, trim_blank_append blank]
  -- Only the line in front of the first newline meets the margin.
  by_cases more : '\n' ∈ text
  · obtain ⟨line, rest, rfl, absent⟩ := List.eq_append_cons_of_mem more
    rw [← List.append_assoc, solidLines_append_newline, solidLines_append_newline, one line absent]
  · exact one text more

/-- A margin behind the last line is nothing solid. -/
theorem append_solidLines (text : List Char) : solidLines (text ++ blanks) = solidLines text := by
  have blank : ∀ c ∈ blanks, isBlank c = true := fun c among => (margin c among).1
  have one : ∀ line : List Char, '\n' ∉ line → solidLines (line ++ blanks) = solidLines line := by
    intro line absent
    have both : '\n' ∉ line ++ blanks := fun among =>
      (List.mem_append.mp among).elim absent margin.not_mem
    rw [solidLines_of_not_mem both, solidLines_of_not_mem absent, trim_append_blank blank]
  -- Only the line behind the last newline meets the margin.
  cases found : divideLast '\n' text with
  | none => exact one text (divideLast_eq_none_iff.mp found)
  | some parts =>
    obtain ⟨before, line⟩ := parts
    obtain ⟨rfl, absent⟩ := divideLast_eq_some_iff.mp found
    rw [List.append_assoc, List.cons_append, solidLines_append_newline, solidLines_append_newline,
      one line absent]

end Margin

/-- A line starts behind these characters. -/
def StartsLine (before : List Char) : Prop := before = [] ∨ ∃ earlier, before = earlier ++ ['\n']

/-- A line ends in front of these characters. -/
def EndsLine (after : List Char) : Prop := after = [] ∨ ∃ later, after = '\n' :: later

/-- Where a line starts, what is solid is divided. -/
theorem StartsLine.solidLines_append {before : List Char} (start : StartsLine before)
    (text : List Char) : solidLines (before ++ text) = solidLines before ++ solidLines text := by
  -- A text divides at its start, and behind a newline.
  rcases start with rfl | ⟨earlier, rfl⟩
  · simp
  · rw [List.append_assoc, List.singleton_append, solidLines_append_newline,
      solidLines_append_newline, solidLines_nil, List.append_nil]

/-- Where a line ends, what is solid is divided. -/
theorem EndsLine.append_solidLines {after : List Char} (finish : EndsLine after)
    (text : List Char) : solidLines (text ++ after) = solidLines text ++ solidLines after := by
  -- A text divides at its end, and in front of a newline.
  rcases finish with rfl | ⟨later, rfl⟩
  · simp
  · rw [solidLines_append_newline, solidLines_newline]

/-- One change to how a text is laid out in lines. -/
inductive Relaid : List Char → List Char → Prop
  -- A line of blanks comes in where a line starts.
  | blankLine {before blanks : List Char} (start : StartsLine before) (margin : Margin blanks)
    (after : List Char) : Relaid (before ++ after) (before ++ (blanks ++ '\n' :: after))
  -- A newline gets a carriage return in front of it.
  | carriage (before after : List Char) :
    Relaid (before ++ '\n' :: after) (before ++ '\r' :: '\n' :: after)
  -- Blanks come in where a line starts or ends.
  | front {before blanks : List Char} (start : StartsLine before) (margin : Margin blanks)
    (after : List Char) : Relaid (before ++ after) (before ++ (blanks ++ after))
  | behind (before : List Char) {blanks after : List Char} (margin : Margin blanks)
    (finish : EndsLine after) : Relaid (before ++ after) (before ++ (blanks ++ after))
  -- One newline more ends the text.
  | newline (text : List Char) : Relaid text (text ++ ['\n'])

/-- A margin where a line ends is nothing solid. -/
theorem solidLines_behind (before : List Char) {blanks after : List Char} (margin : Margin blanks)
    (finish : EndsLine after) :
    solidLines (before ++ (blanks ++ after)) = solidLines (before ++ after) := by
  -- The margin goes to the line that it ends, which is solid without it.
  rw [← List.append_assoc, finish.append_solidLines, finish.append_solidLines,
    margin.append_solidLines]

/-- One change to the layout keeps what is solid. -/
theorem Relaid.solidLines_eq {text other : List Char} (relaid : Relaid text other) :
    solidLines other = solidLines text := by
  -- Each change stands where a line starts or ends, and what it moves is blank.
  cases relaid with
  | blankLine start margin after =>
    rw [start.solidLines_append, start.solidLines_append, margin.solidLines_append,
      solidLines_newline]
  | carriage before after =>
    -- A carriage return is a blank that ends no line.
    have margin : Margin ['\r'] := by
      intro c among
      rw [List.mem_singleton.mp among]
      decide
    exact solidLines_behind before margin (.inr ⟨after, rfl⟩)
  | front start margin after =>
    rw [start.solidLines_append, start.solidLines_append, margin.solidLines_append]
  | behind before margin finish => exact solidLines_behind before margin finish
  | newline text => rw [solidLines_append_newline, solidLines_nil, List.append_nil]

/-- Any changes to the layout, made or undone, keep what is solid. -/
theorem solidLines_eq_of_eqvGen {text other : List Char}
    (relaid : Relation.EqvGen Relaid text other) : solidLines text = solidLines other := by
  -- Sameness of what is solid is an equivalence, and each change is in it.
  induction relaid with
  | rel text other one => exact one.solidLines_eq.symm
  | refl text => rfl
  | symm text other _ ih => exact ih.symm
  | trans text middle other _ _ first second => exact first.trans second

end DocSource.Text
