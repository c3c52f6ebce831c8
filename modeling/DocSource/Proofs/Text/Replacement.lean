import DocSource.Text.Blank
import DocSource.Text.Occurrence

/-!
Texts that replacing a token leaves alone, tokens in texts that a character divides, and what a
replacement does to the two ends of a text.
-/

namespace DocSource.Text

/-- A text in which a token does not occur stays as it is. -/
theorem replace_eq_self {token new text : List Char} (absent : occurs token text = false) :
    replace token new text = text := by
  -- The scan meets no occurrence, so each character is written for itself.
  unfold replace
  induction text with
  | nil => rfl
  | cons c rest ih =>
    simp only [occurs, Bool.or_eq_false_iff] at absent
    rw [replaceAfter, absent.1, ih absent.2]
    rfl

/-- A token without some character stands at the front of a text only up to that character. -/
theorem isPrefixOf_divided {token : List Char} {c : Char} (apart : c ∉ token)
    (before after : List Char) :
    token.isPrefixOf (before ++ c :: after) = token.isPrefixOf before := by
  rw [Bool.eq_iff_iff, List.isPrefixOf_iff_prefix, List.isPrefixOf_iff_prefix]
  constructor
  · intro front
    -- Were the token longer than what stands before the character, it would hold it.
    rcases List.prefix_or_prefix_of_prefix front (List.prefix_append before (c :: after)) with
      within | ⟨more, rfl⟩
    · exact within
    · rw [List.prefix_append_right_inj, List.prefix_cons_iff] at front
      rcases front with rfl | ⟨tail, rfl, _⟩
      · simp
      · simp at apart
  · intro front
    exact front.trans (List.prefix_append before (c :: after))

/-- A token without some character occurs before that character or after it. -/
theorem occurs_divided {token : List Char} {c : Char} (some : token ≠ []) (apart : c ∉ token)
    (before after : List Char) :
    occurs token (before ++ c :: after) = (occurs token before || occurs token after) := by
  -- An occurrence starts before the character or behind it, and does not cross it.
  induction before with
  | nil =>
    have front := isPrefixOf_divided apart [] after
    cases token with
    | nil => exact absurd rfl some
    | cons first more => simp_all [occurs]
  | cons b rest ih =>
    have front := isPrefixOf_divided apart (b :: rest) after
    rw [List.cons_append] at front
    rw [List.cons_append, occurs, occurs, front, ih, Bool.or_assoc]

section

variable {token new : List Char} {first last : Char}

/-- A character that opens no token is written for itself. -/
theorem replace_cons_apart (starts : token.head? = some first) {c : Char} (apart : first ≠ c)
    (text : List Char) : replace token new (c :: text) = c :: replace token new text := by
  -- A token at this place would start with the character.
  have elsewhere : token.isPrefixOf (c :: text) = false := by
    obtain ⟨more, rfl⟩ := List.head?_eq_some_iff.mp starts
    simp [List.isPrefixOf, apart]
  show replaceAfter token new 0 (c :: text) = _
  rw [replaceAfter, elsewhere]
  rfl

/-- A text in which no token opens stays in front of another. -/
theorem replace_append_left (starts : token.head? = some first) {before : List Char}
    (apart : first ∉ before) (text : List Char) :
    replace token new (before ++ text) = before ++ replace token new text := by
  -- The induction passes over one character after the other.
  induction before with
  | nil => rfl
  | cons c more ih =>
    simp only [List.mem_cons, not_or] at apart
    rw [List.cons_append, replace_cons_apart starts apart.1, ih apart.2, List.cons_append]

/-- A token does not reach into a text without its last character. -/
theorem isPrefixOf_append_apart (ends : token.getLast? = some last) {after : List Char}
    (apart : last ∉ after) (text : List Char) :
    token.isPrefixOf (text ++ after) = token.isPrefixOf text := by
  rw [Bool.eq_iff_iff, List.isPrefixOf_iff_prefix, List.isPrefixOf_iff_prefix]
  constructor
  · intro front
    rcases List.prefix_or_prefix_of_prefix front (List.prefix_append text after) with
      within | ⟨more, rfl⟩
    · exact within
    · -- What reaches beyond the text would end with the last character of the token.
      rw [List.prefix_append_right_inj] at front
      cases more with
      | nil => simp
      | cons c rest =>
        have ending : (c :: rest).getLast? = some last := by
          simpa [List.getLast?_append, List.getLast?_cons] using ends
        exact absurd (front.subset (List.mem_of_getLast? ending)) apart
  · intro front
    exact front.trans (List.prefix_append text after)

/-- A text in which no token closes stays behind another. -/
theorem replace_append_right (ends : token.getLast? = some last) {after : List Char}
    (apart : last ∉ after) (text : List Char) :
    replace token new (text ++ after) = replace token new text ++ after := by
  -- The characters that are passed over belong to the first text, as the token does.
  have general : ∀ (text : List Char) (skip : Nat), skip ≤ text.length →
      replaceAfter token new skip (text ++ after) = replaceAfter token new skip text ++ after := by
    intro text
    induction text with
    | nil =>
      intro skip within
      have none : skip = 0 := Nat.le_zero.mp within
      subst none
      refine replace_eq_self ?_
      rw [Bool.eq_false_iff, Ne, occurs_iff]
      intro inside
      exact apart (inside.subset (List.mem_of_getLast? ends))
    | cons c rest ih =>
      intro skip within
      cases skip with
      | succ skip => exact ih skip (Nat.le_of_succ_le_succ within)
      | zero =>
        have same := isPrefixOf_append_apart ends apart (c :: rest)
        rw [List.cons_append] at same
        rw [List.cons_append, replaceAfter, replaceAfter, same]
        by_cases found : token.isPrefixOf (c :: rest) = true
        · -- A token that stands here ends within the first text.
          have short : token.length - 1 ≤ rest.length := by
            have whole := (List.isPrefixOf_iff_prefix.mp found).length_le
            rw [List.length_cons] at whole
            omega
          rw [if_pos found, if_pos found, ih _ short, List.append_assoc]
        · rw [if_neg found, if_neg found, ih 0 (Nat.zero_le _), List.cons_append]
  exact general text 0 (Nat.zero_le _)

variable {arrival : Char} (arrives : new.head? = some arrival)
include arrives

/-- A replacement brings a text to the front only by the character that it starts with. -/
theorem prefix_of_prefix_replace {front text : List Char} (apart : arrival ∉ front)
    (found : front <+: replace token new text) : front <+: text := by
  obtain ⟨more, rfl⟩ := List.head?_eq_some_iff.mp arrives
  -- Each character of the front is one of the text, as it is none that came in.
  induction front generalizing text with
  | nil => exact List.nil_prefix
  | cons f rest ih =>
    simp only [List.mem_cons, not_or] at apart
    cases text with
    | nil => simp [replace, replaceAfter] at found
    | cons c others =>
      have opened : f :: rest <+: replaceAfter token (arrival :: more) 0 (c :: others) := found
      rw [replaceAfter] at opened
      split at opened
      · rw [List.cons_append, List.cons_prefix_cons] at opened
        exact absurd opened.1.symm apart.1
      · rw [List.cons_prefix_cons] at opened ⊢
        exact ⟨opened.1, ih apart.2 opened.2⟩

/-- A replacement that starts where the token did, with no blank, keeps the blanks in front. -/
theorem dropWhile_replace (starts : token.head? = some first) (solid : isBlank first = false)
    (dark : isBlank arrival = false) (text : List Char) :
    (replace token new text).dropWhile isBlank = replace token new (text.dropWhile isBlank) := by
  -- The first character that is no blank is kept, or gives way to one that is none either.
  induction text with
  | nil => rfl
  | cons c rest ih =>
    by_cases blank : isBlank c = true
    · have differs : first ≠ c := by
        rintro rfl
        rw [blank] at solid
        cases solid
      rw [replace_cons_apart starts differs, List.dropWhile_cons_of_pos blank,
        List.dropWhile_cons_of_pos blank, ih]
    · rw [List.dropWhile_cons_of_neg blank]
      obtain ⟨more, rfl⟩ := List.head?_eq_some_iff.mp arrives
      show (replaceAfter token (arrival :: more) 0 (c :: rest)).dropWhile isBlank =
        replaceAfter token (arrival :: more) 0 (c :: rest)
      rw [replaceAfter]
      split
      · rw [List.cons_append, List.dropWhile_cons_of_neg (by simp [dark])]
      · rw [List.dropWhile_cons_of_neg blank]

/-- A mark that no replacement brings in or touches stands where the token does not. -/
theorem exists_of_infix_replace {mark text : List Char} {departure : Char}
    (leaves : new.getLast? = some departure) (front : arrival ∉ mark) (back : departure ∉ mark)
    (absent : ¬ mark <:+: new) (found : mark <:+: replace token new text) :
    ∃ rest, rest <:+ text ∧ mark <+: rest ∧ ¬ token <+: rest := by
  have solid : mark ≠ [] := by
    rintro rfl
    exact absent List.nil_infix
  -- The induction follows the scan, whatever it has still to pass over.
  have general : ∀ (text : List Char) (skip : Nat), mark <:+: replaceAfter token new skip text →
      ∃ rest, rest <:+ text ∧ mark <+: rest ∧ ¬ token <+: rest := by
    intro text
    induction text with
    | nil =>
      intro skip found
      rw [replaceAfter, List.infix_nil] at found
      exact absurd found solid
    | cons c more ih =>
      -- What stands in the rest of the text stands in the text.
      have deeper : ∀ skip, mark <:+: replaceAfter token new skip more →
          ∃ rest, rest <:+ c :: more ∧ mark <+: rest ∧ ¬ token <+: rest := by
        intro skip found
        obtain ⟨rest, behind, stands, other⟩ := ih skip found
        exact ⟨rest, behind.trans (List.suffix_cons c more), stands, other⟩
      intro skip found
      cases skip with
      | succ skip => exact deeper skip found
      | zero =>
        by_cases here : token <+: c :: more
        · -- The mark is cut off from what comes in by its last character.
          obtain ⟨body, rfl⟩ := List.getLast?_eq_some_iff.mp leaves
          rw [replaceAfter, if_pos (List.isPrefixOf_iff_prefix.mpr here), List.append_assoc,
            List.singleton_append, ← occurs_iff, occurs_divided solid back,
            Bool.or_eq_true, occurs_iff, occurs_iff] at found
          rcases found with inside | behind
          · exact absurd (inside.trans (List.prefix_append body _).isInfix) absent
          · exact deeper _ behind
        · -- What starts here is a piece of the text, as it starts with no character that came in.
          have kept : mark <+: replace token new (c :: more) → mark <+: c :: more :=
            prefix_of_prefix_replace arrives front
          rw [replace, replaceAfter, if_neg fun same => here (List.isPrefixOf_iff_prefix.mp same)]
            at kept
          rw [replaceAfter, if_neg fun same => here (List.isPrefixOf_iff_prefix.mp same),
            List.infix_cons_iff] at found
          rcases found with starts | behind
          · exact ⟨c :: more, List.suffix_refl _, kept starts, here⟩
          · exact deeper 0 behind
  exact general text 0 found

end

end DocSource.Text
