import DocSource.Files.Lines
import DocSource.Proofs.Text.Lines
import Mathlib.Data.List.Forall2

/-! Document files: what is read of one is what its solid lines hold, up to the first bad line. -/

namespace DocSource

/-- The lines of texts as a file gives them. -/
def linesOfTexts (texts : List (List Char)) : List (Option String) :=
  texts.map fun text => some (String.ofList text)

/-- The error of a line that holds no document. -/
def lineError (path : String) (number : Nat) (fault : TextFault) : Error :=
  let reason := fault.message
  .io s!"{path}:{number}: {reason}"

/-- What is read of a line is what it holds without the blanks around it. -/
theorem lineDocument_ofList (text : List Char) :
    lineDocument (String.ofList text) =
      if Text.trim text = [] then .ok none else (readDocument (Text.trim text)).map some := by
  -- A trimmed line that is empty is a blank one.
  simp [lineDocument]

/-- A file that holds a text has the lines of the text. -/
theorem fileLines_toUTF8 (text : String) :
    fileLines text.toUTF8 = linesOfTexts (Text.lines '\n' text.toList) := by
  -- The mark is one byte that no other character has in its bytes, so bytes and text divide alike.
  rw [fileLines, Text.data_toUTF8, lineEnd, Text.lines_utf8, List.map_map, linesOfTexts]
  exact List.map_congr_left fun line _ => Text.fromUTF8?_utf8 line

section

variable (path : String) (number : Nat) {text : List Char} {rest : List (Option String)}

/-- A blank line is passed over. -/
theorem readLines_blank (blank : Text.trim text = []) :
    readLines path number (some (String.ofList text) :: rest) =
      readLines path (number + 1) rest := by
  -- The number goes on to the next line, so a blank line counts.
  rw [readLines, lineDocument_ofList, if_pos blank]

/-- A line that holds a document gives it, in front of those that the other lines give. -/
theorem readLines_good (solid : Text.trim text ≠ []) {document : Document}
    (good : readDocument (Text.trim text) = .ok document) :
    readLines path number (some (String.ofList text) :: rest) =
      (readLines path (number + 1) rest).map (document :: ·) := by
  -- What the other lines fail with goes through.
  rw [readLines, lineDocument_ofList, if_neg solid, good]
  cases readLines path (number + 1) rest <;> rfl

/-- A line that holds no document is the error, whatever follows. -/
theorem readLines_bad (solid : Text.trim text ≠ []) {fault : TextFault}
    (bad : readDocument (Text.trim text) = .error fault) :
    readLines path number (some (String.ofList text) :: rest) =
      .error (lineError path number fault) := by
  -- Reading stops here, so the lines behind it are not looked at.
  rw [readLines, lineDocument_ofList, if_neg solid, bad]
  rfl

end

/-- Solid lines hold documents, one each. -/
def Held (lines : List (List Char)) (documents : List Document) : Prop :=
  List.Forall₂ (fun line document => readDocument line = .ok document) lines documents

/-- Lines that hold a document each hold documents. -/
theorem exists_held {lines : List (List Char)}
    (each : ∀ line ∈ lines, ∃ document, readDocument line = .ok document) :
    ∃ documents, Held lines documents := by
  -- A document is chosen for each line in turn.
  induction lines with
  | nil => exact ⟨[], .nil⟩
  | cons line rest ih =>
    obtain ⟨document, good⟩ := each line List.mem_cons_self
    obtain ⟨documents, held⟩ := ih fun line among => each line (List.mem_cons_of_mem _ among)
    exact ⟨document :: documents, .cons good held⟩

/-- Where the first lines are blank or hold documents, the others are read behind them. -/
theorem readLines_append (path : String) (number : Nat) {before : List (List Char)}
    {documents : List Document} (held : Held (Text.solid before) documents)
    (rest : List (Option String)) :
    readLines path number (linesOfTexts before ++ rest) =
      (readLines path (number + before.length) rest).map (documents ++ ·) := by
  -- The induction reads line by line, and every line counts, a blank one as well.
  induction before generalizing number documents with
  | nil =>
    cases held
    rw [linesOfTexts, List.map_nil, List.nil_append, List.length_nil, Nat.add_zero]
    cases readLines path number rest <;> rfl
  | cons text more ih =>
    rw [Text.solid_cons] at held
    rw [linesOfTexts, List.map_cons, List.cons_append, ← linesOfTexts, List.length_cons,
      ← Nat.succ_add_eq_add_succ]
    split at held
    case isTrue blank => rw [readLines_blank path number blank, ih _ held]
    case isFalse solid =>
      cases held with
      | cons good others =>
        rw [readLines_good path number solid good, ih _ others]
        cases readLines path (number.succ + more.length) rest <;> rfl

/-- The first bad line of some lines: those before it are blank or hold a document. -/
structure FirstBad (lines before : List (List Char)) (line : List Char)
    (after : List (List Char)) (fault : TextFault) : Prop where
  /-- The line is counted by those before it, blank ones included. -/
  lines_eq : lines = before ++ line :: after
  /-- What stands before is solid only where it holds a document. -/
  held : ∀ earlier ∈ Text.solid before, ∃ document, readDocument earlier = .ok document
  /-- A blank line is never bad. -/
  solid : Text.trim line ≠ []
  bad : readDocument (Text.trim line) = .error fault

/-- Lines hold documents, or one of them is the first bad line. -/
theorem exists_held_or_firstBad (lines : List (List Char)) :
    (∃ documents, Held (Text.solid lines) documents) ∨
      ∃ before line after fault, FirstBad lines before line after fault := by
  -- What the rest of the lines is decides, unless the first one is bad.
  induction lines with
  | nil => exact .inl ⟨[], .nil⟩
  | cons text rest ih =>
    rw [Text.solid_cons]
    by_cases blank : Text.trim text = []
    · -- A blank line is neither bad nor does it hold anything.
      rw [if_pos blank]
      refine ih.imp_right ?_
      rintro ⟨before, line, after, fault, rfl, held, solid, bad⟩
      refine ⟨text :: before, line, after, fault, rfl, ?_, solid, bad⟩
      rwa [Text.solid_cons, if_pos blank]
    · rw [if_neg blank]
      cases good : readDocument (Text.trim text) with
      | error fault =>
        have nothing : Text.solid [] = [] := rfl
        exact .inr ⟨[], text, rest, fault, rfl, by simp [nothing], blank, good⟩
      | ok document =>
        rcases ih with ⟨documents, held⟩ | ⟨before, line, after, fault, rfl, held, solid, bad⟩
        · exact .inl ⟨document :: documents, .cons good held⟩
        · refine .inr ⟨text :: before, line, after, fault, rfl, ?_, solid, bad⟩
          rw [Text.solid_cons, if_neg blank]
          exact List.forall_mem_cons.mpr ⟨⟨document, good⟩, held⟩

section

variable {lines before after : List (List Char)} {line : List Char} {fault : TextFault}
  {documents : List Document}

/-- Lines that hold documents are read as these, and blank ones behind them as nothing. -/
theorem readLines_of_held (path : String) (number : Nat)
    (held : Held (Text.solid lines) documents) {last : List (List Char)}
    (empty : last = [] ∨ last = [[]]) :
    readLines path number (linesOfTexts (lines ++ last)) = .ok documents := by
  -- The number at which the last lines are read makes no difference, as they hold nothing.
  have none : readLines path (number + lines.length) (linesOfTexts last) = .ok [] := by
    rcases empty with rfl | rfl <;> rfl
  rw [linesOfTexts, List.map_append, ← linesOfTexts, ← linesOfTexts,
    readLines_append path number held, none, Except.map, List.append_nil]

/-- The first bad line is the error, whatever follows it. -/
theorem FirstBad.readLines_eq (first : FirstBad lines before line after fault) (path : String)
    (number : Nat) (last : List (List Char)) :
    readLines path number (linesOfTexts (lines ++ last)) =
      .error (lineError path (number + before.length) fault) := by
  -- The lines before the bad one hold documents, so the number at the bad one is known.
  obtain ⟨documents, held⟩ := exists_held first.held
  rw [first.lines_eq, List.append_assoc, linesOfTexts, List.map_append, ← linesOfTexts,
    readLines_append path number held, List.cons_append, List.map_cons,
    readLines_bad path _ first.solid first.bad]
  rfl

end

/-- A file whose text can be read holds the bytes of that text. -/
theorem FileTree.read_of_readText {tree : FileTree} {path text : String}
    (readable : tree.readText path = .ok text) : tree.read path = .ok text.toUTF8 := by
  -- Bytes are a text only when they are its encoding, so nothing else reads as this text.
  unfold readText at readable
  cases found : tree.read path with
  | error fault =>
    rw [found] at readable
    cases readable
  | ok content =>
    rw [found] at readable
    simp only [bind, Except.bind] at readable
    unfold String.fromUTF8? at readable
    split at readable
    -- A decoded text carries its own bytes.
    case h_1 other valid =>
      split at valid
      · cases valid
        cases readable
        rfl
      · cases valid
    case h_2 => cases readable

/-- A readable file is read line by line, as newlines divide its text. -/
theorem readDocuments_eq {tree : FileTree} {path text : String}
    (readable : tree.readText path = .ok text) :
    readDocuments tree path = readLines path 1 (linesOfTexts (text.toList.splitOn '\n')) := by
  have whole : readDocuments tree path =
      readLines path 1 (linesOfTexts (Text.lines '\n' text.toList ++ [])) := by
    unfold readDocuments
    rw [FileTree.read_of_readText readable, List.append_nil, ← fileLines_toUTF8]
  obtain ⟨last, split, empty⟩ := Text.splitOn_eq_lines '\n' text.toList
  rw [whole, split]
  -- An empty line at the end is read as nothing, or not at all behind a bad line.
  rcases exists_held_or_firstBad (Text.lines '\n' text.toList) with
    ⟨documents, held⟩ | ⟨before, line, after, fault, first⟩
  · rw [readLines_of_held path 1 held (.inl rfl), readLines_of_held path 1 held empty]
  · rw [first.readLines_eq path 1 [], first.readLines_eq path 1 last]

section

variable {tree : FileTree} {path text : String} (readable : tree.readText path = .ok text)
include readable

/-- A file whose solid lines hold documents is read to these. -/
theorem readDocuments_of_held {documents : List Document}
    (held : Held (Text.solidLines text.toList) documents) :
    readDocuments tree path = .ok documents := by
  -- A file has lines up to its last newline or its end, and nothing behind them.
  have whole := readLines_of_held path 1 held (.inl rfl)
  rwa [List.append_nil, ← readDocuments_eq readable] at whole

/-- The error of a file with a bad line tells the first one, whatever follows it. -/
theorem readDocuments_of_firstBad {before after : List (List Char)} {line : List Char}
    {fault : TextFault} (first : FirstBad (text.toList.splitOn '\n') before line after fault) :
    readDocuments tree path = .error (lineError path (before.length + 1) fault) := by
  -- Lines are counted from one, so the number is one more than those before.
  have whole := first.readLines_eq path 1 []
  rwa [List.append_nil, ← readDocuments_eq readable, Nat.add_comm] at whole

/-- A file is read to the documents that its solid lines hold. -/
theorem readDocuments_eq_ok_iff {documents : List Document} :
    readDocuments tree path = .ok documents ↔
      Held (Text.solidLines text.toList) documents := by
  -- Either every solid line holds a document, or one is the first that does not.
  refine ⟨fun read => ?_, readDocuments_of_held readable⟩
  rcases exists_held_or_firstBad (text.toList.splitOn '\n') with
    ⟨others, held⟩ | ⟨before, line, after, fault, first⟩
  · rw [readDocuments_of_held readable held] at read
    cases read
    exact held
  · rw [readDocuments_of_firstBad readable first] at read
    cases read

/-- A file is not read exactly when one of its lines is the first bad one, which the error tells. -/
theorem readDocuments_eq_error_iff {error : Error} :
    readDocuments tree path = .error error ↔
      ∃ before line after fault, FirstBad (text.toList.splitOn '\n') before line after fault ∧
        error = lineError path (before.length + 1) fault := by
  -- Either every solid line holds a document, or one is the first that does not.
  constructor
  · intro read
    rcases exists_held_or_firstBad (text.toList.splitOn '\n') with
      ⟨others, held⟩ | ⟨before, line, after, fault, first⟩
    · rw [readDocuments_of_held readable held] at read
      cases read
    · rw [readDocuments_of_firstBad readable first] at read
      cases read
      exact ⟨before, line, after, fault, first, rfl⟩
  · rintro ⟨before, line, after, fault, first, rfl⟩
    exact readDocuments_of_firstBad readable first

/--
A readable file gives documents exactly when each line that is not blank holds one, and then these
documents in the order of the lines. Otherwise the error names the path and, counted from one and
with the blank lines, the first line that holds none. Other layouts of the same lines, in this file
or another, are read to the same documents: blank lines more or less, carriage returns in front of
newlines or not, blanks around lines, and a newline at the end or none.
-/
theorem readDocuments_lines :
    (∀ documents, readDocuments tree path = .ok documents ↔
      Held (Text.solidLines text.toList) documents) ∧
    (∀ error, readDocuments tree path = .error error ↔
      ∃ before line after fault, FirstBad (text.toList.splitOn '\n') before line after fault ∧
        error = lineError path (before.length + 1) fault) ∧
    ∀ (tree' : FileTree) (path' text' : String), tree'.readText path' = .ok text' →
      Relation.EqvGen Text.Relaid text.toList text'.toList →
        ∀ documents, readDocuments tree path = .ok documents →
          readDocuments tree' path' = .ok documents := by
  -- The first two parts are those of the file alone; the third goes by way of the solid lines.
  refine ⟨fun documents => readDocuments_eq_ok_iff readable,
    fun error => readDocuments_eq_error_iff readable, ?_⟩
  intro tree' path' text' readable' relaid documents read
  -- Both files have the same solid lines, and so hold the same documents.
  have held := (readDocuments_eq_ok_iff readable).mp read
  rw [Text.solidLines_eq_of_eqvGen relaid] at held
  exact (readDocuments_eq_ok_iff readable').mpr held

end

/-- A document in two layouts, and a file whose third line is an array. -/
theorem readDocuments_lines_layouts :
    let tree : FileTree := ⟨fun path => .ok (.file (
      if path = "unix" then "\x7b\x7d\n".toUTF8
      else if path = "dos" then "\n \x7b\x7d\r\n".toUTF8
      else "\x7b\x7d\n\n[]\nmore".toUTF8))⟩
    readDocuments tree "dos" = .ok [[]] ∧
      readDocuments tree "bad" = .error (lineError "bad" 3 (.notObject "array")) := by
  intro tree
  have unix : tree.readText "unix" = .ok "\x7b\x7d\n" := rfl
  have dos : tree.readText "dos" = .ok "\n \x7b\x7d\r\n" := rfl
  have bad : tree.readText "bad" = .ok "\x7b\x7d\n\n[]\nmore" := rfl
  -- A blank line, a blank in front of the document, and a carriage return behind it.
  have blankLine : Text.Relaid "\x7b\x7d\n".toList "\n\x7b\x7d\n".toList :=
    @Text.Relaid.blankLine [] [] (.inl rfl) (by simp [Text.Margin]) ['\x7b', '\x7d', '\n']
  have margin : Text.Relaid "\n\x7b\x7d\n".toList "\n \x7b\x7d\n".toList :=
    @Text.Relaid.front ['\n'] [' '] (.inr ⟨[], rfl⟩) (by simp [Text.Margin, Text.isBlank])
      ['\x7b', '\x7d', '\n']
  have carriage : Text.Relaid "\n \x7b\x7d\n".toList "\n \x7b\x7d\r\n".toList :=
    Text.Relaid.carriage ['\n', ' ', '\x7b', '\x7d'] []
  have relaid : Relation.EqvGen Text.Relaid "\x7b\x7d\n".toList "\n \x7b\x7d\r\n".toList :=
    .trans _ _ _ (.rel _ _ blankLine) (.trans _ _ _ (.rel _ _ margin) (.rel _ _ carriage))
  have whole := readDocuments_lines unix
  refine ⟨whole.2.2 tree "dos" _ dos relaid [[]] ((whole.1 [[]]).mpr (.cons rfl .nil)), ?_⟩
  -- The second line is blank but counts, and what follows the third one is not read.
  have third : FirstBad ("\x7b\x7d\n\n[]\nmore".toList.splitOn '\n') ["\x7b\x7d".toList, []]
      "[]".toList ["more".toList] (.notObject "array") := by
    refine ⟨rfl, ?_, by decide, rfl⟩
    intro earlier among
    rw [List.mem_singleton.mp among]
    exact ⟨[], rfl⟩
  exact ((readDocuments_lines bad).2.1 _).mpr ⟨_, _, _, _, third, rfl⟩

end DocSource
