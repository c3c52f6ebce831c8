import DocSource.Proofs.Json.Composition

/-!
Reading is local: what is taken from the front of a text is taken from it whatever follows, and
whatever fuel is left over.
-/

namespace DocSource.Json

/-- What follows a text shows once its blanks are passed over and there is nothing else. -/
theorem skipSpace_append_nil {text : List Char} (blank : skipSpace text = []) (rest : List Char) :
    skipSpace (text ++ rest) = skipSpace rest := by
  -- The blanks go up to the end of the text, and may go on behind it.
  simp only [skipSpace] at blank ⊢
  rw [List.dropWhile_append, blank]
  rfl

/-- Behind blanks stands the same, whatever follows. -/
theorem skipSpace_append {text : List Char} {c : Char} {more : List Char}
    (front : skipSpace text = c :: more) (rest : List Char) :
    skipSpace (text ++ rest) = c :: (more ++ rest) := by
  -- The blanks stop at a character of the text, so what follows is not reached.
  simp only [skipSpace] at front ⊢
  rw [List.dropWhile_append, front]
  rfl

section

variable {text left rest : List Char} (ends : left = [] → Ends rest)
include ends

/-- The same digits are taken, unless the text ends with them and others follow. -/
theorem takeDigits_local {digits : List Char} (taken : Literal.takeDigits text = (digits, left)) :
    Literal.takeDigits (text ++ rest) = (digits, left ++ rest) := by
  simp only [Literal.takeDigits, Prod.mk.injEq] at taken
  obtain ⟨rfl, rfl⟩ := taken
  have digit : ∀ c ∈ text.takeWhile Char.isDigit, c.isDigit = true :=
    fun c among => List.mem_takeWhile_imp among
  have shape : text.takeWhile Char.isDigit ++ (text.dropWhile Char.isDigit ++ rest) =
      text ++ rest := by
    rw [← List.append_assoc, List.takeWhile_append_dropWhile]
  rw [← shape]
  -- Behind the digits stands what ended them in the text, or else what ends the text.
  cases behind : text.dropWhile Char.isDigit with
  | nil => exact takeDigits_append digit (ends behind)
  | cons c more =>
    have stops : c.isDigit = false := by
      have := List.head?_dropWhile_not Char.isDigit text
      simpa [behind] using this
    exact takeDigits_stop digit (by simpa using stops)

/-- The same fraction is taken. -/
theorem takeFraction_local {fraction : Option (List Char)}
    (taken : takeFraction text = some (fraction, left)) :
    takeFraction (text ++ rest) = some (fraction, left ++ rest) := by
  cases text with
  | nil =>
    obtain ⟨rfl, rfl⟩ : none = fraction ∧ [] = left := by simpa [takeFraction] using taken
    exact takeFraction_ends (ends rfl)
  | cons c more =>
    by_cases point : c = '.'
    · subst point
      rcases digits : Literal.takeDigits more with ⟨found, behind⟩
      simp only [takeFraction, digits] at taken
      split at taken
      · cases taken
      · next some =>
        simp only [Option.some.injEq, Prod.mk.injEq] at taken
        obtain ⟨rfl, rfl⟩ := taken
        simp only [List.cons_append, takeFraction, takeDigits_local ends digits, if_neg some]
    · -- Without a point nothing is taken.
      obtain ⟨rfl, rfl⟩ : none = fraction ∧ c :: more = left := by
        simpa [takeFraction, point] using taken
      simp [takeFraction, point]

/-- The same power of ten is taken. -/
theorem takeExponent_local {exponent : Option Int}
    (taken : Literal.takeExponent text = some (exponent, left)) :
    Literal.takeExponent (text ++ rest) = some (exponent, left ++ rest) := by
  -- Behind the mark and its sign stand digits, whose value is used in one way or another.
  have digits : ∀ (body : List Char) (value : Nat → Int),
      (if (Literal.takeDigits body).1 = [] then none
        else some (some (value (digitsValue (Literal.takeDigits body).1)),
          (Literal.takeDigits body).2)) = some (exponent, left) →
      (if (Literal.takeDigits (body ++ rest)).1 = [] then none
        else some (some (value (digitsValue (Literal.takeDigits (body ++ rest)).1)),
          (Literal.takeDigits (body ++ rest)).2)) = some (exponent, left ++ rest) := by
    intro body value found
    rcases shape : Literal.takeDigits body with ⟨run, behind⟩
    rw [shape] at found
    split at found
    · cases found
    · next some =>
      simp only [Option.some.injEq, Prod.mk.injEq] at found
      obtain ⟨rfl, rfl⟩ := found
      rw [takeDigits_local ends shape, if_neg some]
  cases text with
  | nil =>
    obtain ⟨rfl, rfl⟩ : none = exponent ∧ [] = left := by
      simpa [Literal.takeExponent] using taken
    exact takeExponent_ends (ends rfl)
  | cons c more =>
    by_cases mark : (c = 'e' || c = 'E') = true
    · simp only [List.cons_append, Literal.takeExponent, if_pos mark] at taken ⊢
      cases more with
      | nil => simp [Literal.takeDigits] at taken
      | cons d tail =>
        by_cases minus : d = '-'
        · subst minus
          exact digits tail (fun n => -(n : Int)) taken
        · by_cases plus : d = '+'
          · subst plus
            exact digits tail (fun n => (n : Int)) taken
          · -- Without a sign the digits stand right behind the mark.
            split at taken
            · next same => exact absurd (List.cons.inj same).1 minus
            · next same => exact absurd (List.cons.inj same).1 plus
            · split
              · next same => exact absurd (List.cons.inj same).1 minus
              · next same => exact absurd (List.cons.inj same).1 plus
              · exact digits (d :: tail) (fun n => (n : Int)) taken
    · -- Without a mark nothing is taken.
      simp only [List.cons_append, Literal.takeExponent, if_neg mark, Option.some.injEq,
        Prod.mk.injEq] at taken ⊢
      obtain ⟨rfl, rfl⟩ := taken
      exact ⟨rfl, rfl⟩

end

/-- A minus sign is taken whatever follows, but for a text that has not begun. -/
theorem takeMinus_append {text : List Char} (solid : text ≠ []) (rest : List Char) :
    takeMinus (text ++ rest) = ((takeMinus text).1, (takeMinus text).2 ++ rest) := by
  -- The sign would be the first character, which is the same in the longer text.
  cases text with
  | nil => exact absurd rfl solid
  | cons c more => by_cases minus : c = '-' <;> simp [takeMinus, minus]

/-- The same literal is taken. -/
theorem takeLiteral_local {text left rest : List Char} (ends : left = [] → Ends rest)
    {literal : Literal} (taken : takeLiteral text = some (literal, left)) :
    takeLiteral (text ++ rest) = some (literal, left ++ rest) := by
  have solid : text ≠ [] := by
    rintro rfl
    simp [takeLiteral, takeMinus, Literal.takeDigits] at taken
  rcases sign : takeMinus text with ⟨negative, body⟩
  rcases digits : Literal.takeDigits body with ⟨whole, behind⟩
  simp only [takeLiteral, sign, digits] at taken
  split at taken
  · cases taken
  · next proper =>
    simp only [Option.bind_eq_bind, Option.bind_eq_some_iff, Prod.exists] at taken
    obtain ⟨fraction, between, pointed, exponent, last, raised, same⟩ := taken
    simp only [Option.some.injEq, Prod.mk.injEq] at same
    obtain ⟨rfl, rfl⟩ := same
    -- A part that reaches the end of the text leaves nothing to the parts behind it.
    have betweenEnds : between = [] → Ends rest := by
      rintro rfl
      obtain ⟨_, rfl⟩ : none = exponent ∧ [] = last := by
        simpa [Literal.takeExponent] using raised
      exact ends rfl
    have behindEnds : behind = [] → Ends rest := by
      rintro rfl
      obtain ⟨_, rfl⟩ : none = fraction ∧ [] = between := by
        simpa [takeFraction] using pointed
      exact betweenEnds rfl
    simp only [takeLiteral, takeMinus_append solid, sign, takeDigits_local behindEnds digits,
      takeFraction_local betweenEnds pointed, takeExponent_local ends raised, if_neg proper,
      Option.bind_eq_bind, Option.bind_some]

/-- The same parts of a string are taken, as they end with a quote. -/
theorem takePieces_local {text left : List Char} {pieces : List Piece}
    (taken : takePieces text = some (pieces, left)) (rest : List Char) :
    takePieces (text ++ rest) = some (pieces, left ++ rest) := by
  -- The induction follows the scan, escape by escape.
  induction text using takePieces.induct generalizing pieces left with
  | case1 more =>
    simp only [takePieces, Option.some.injEq, Prod.mk.injEq] at taken
    obtain ⟨rfl, rfl⟩ := taken
    simp [takePieces]
  | case2 a b c d more ih =>
    simp only [takePieces, Option.bind_eq_bind, Option.bind_eq_some_iff, Prod.exists] at taken
    obtain ⟨unit, named, inner, behind, found, same⟩ := taken
    cases same
    simp [takePieces, named, ih found]
  | case3 letter more other ih =>
    rw [takePieces.eq_3 _ _ other] at taken
    simp only [Option.bind_eq_bind, Option.bind_eq_some_iff, Prod.exists] at taken
    obtain ⟨c, named, inner, behind, found, same⟩ := taken
    cases same
    -- No letter of an escape is the one that needs four digits behind it.
    have apart : letter ≠ 'u' := by
      rintro rfl
      cases named
    simp only [List.cons_append]
    rw [takePieces.eq_3 _ _ fun _ _ _ _ _ same _ => apart same]
    simp [named, ih found]
  | case4 c more notQuote notUnit notEscape control =>
    rw [takePieces.eq_4 _ _ notQuote notUnit notEscape, if_pos control] at taken
    cases taken
  | case5 c more notQuote notUnit notEscape plain ih =>
    rw [takePieces.eq_4 _ _ notQuote notUnit notEscape, if_neg plain] at taken
    simp only [Option.bind_eq_bind, Option.bind_eq_some_iff, Prod.exists] at taken
    obtain ⟨inner, behind, found, same⟩ := taken
    cases same
    have notSlash : c ≠ '\\' := by
      rintro rfl
      exact plain (by decide)
    simp only [List.cons_append]
    rw [takePieces.eq_4 _ _ notQuote (fun _ _ _ _ _ slash _ => notSlash slash)
      (fun _ _ slash _ => notSlash slash), if_neg plain]
    simp [ih found]
  | case6 => simp [takePieces] at taken

/-- The same string is taken. -/
theorem takeString_local {text left : List Char} {string : Option String}
    (taken : takeString text = some (string, left)) (rest : List Char) :
    takeString (text ++ rest) = some (string, left ++ rest) := by
  -- Pieces end at the closing quote, which stands in the text.
  simp only [takeString, Option.map_eq_some_iff, Prod.exists] at taken ⊢
  obtain ⟨pieces, behind, found, same⟩ := taken
  cases same
  exact ⟨pieces, _, takePieces_local found rest, rfl⟩

/-- A literal starts with a digit or a sign. -/
theorem takeLiteral_starts {c : Char} {text left : List Char} {literal : Literal}
    (taken : takeLiteral (c :: text) = some (literal, left)) : c.isDigit = true ∨ c = '-' := by
  by_cases minus : c = '-'
  · exact .inr minus
  · -- Without a sign the whole part is taken at once, and there must be some of it.
    left
    by_contra other
    simp [takeLiteral, takeMinus, minus, Literal.takeDigits, other] at taken

/-- A literal behind blanks is taken as its number. -/
theorem takeValue_literal {fuel : Nat} {text left : List Char} {literal : Literal}
    (taken : takeLiteral (skipSpace text) = some (literal, left)) :
    takeValue (fuel + 1) text = some (.number (number? literal), left) := by
  -- A literal starts with a sign or a digit, as no other kind of value does.
  rw [← takeValue_skipSpace]
  cases front : skipSpace text with
  -- Nothing is no literal.
  | nil => simp [front, takeLiteral, takeMinus, Literal.takeDigits] at taken
  | cons c more =>
    rw [front] at taken
    rw [takeValue_number (takeLiteral_starts taken), taken]
    rfl

/-- With so much fuel or more, a value is taken whatever ends it. -/
def ValueLocal (fuel : Nat) : Prop :=
  -- A value that ends before its text does has been ended already.
  ∀ {text left : List Char} {value : Written}, takeValue fuel text = some (value, left) →
    ∀ {more : Nat} {rest : List Char}, fuel ≤ more → (left = [] → Ends rest) →
      takeValue more (text ++ rest) = some (value, left ++ rest)

/-- With so much fuel or more, items are taken whatever follows their bracket. -/
def ItemsLocal (fuel : Nat) : Prop :=
  -- The text and what is left of it vary, as items of items are taken on the way.
  ∀ {text left : List Char} {items : List Written}, takeItems fuel text = some (items, left) →
    ∀ {more : Nat} (rest : List Char), fuel ≤ more →
      takeItems more (text ++ rest) = some (items, left ++ rest)

/-- With so much fuel or more, members are taken whatever follows their brace. -/
def MembersLocal (fuel : Nat) : Prop :=
  -- As for items, the text varies with the members that are taken on the way.
  ∀ {text left : List Char} {members : List (Option String × Written)},
    takeMembers fuel text = some (members, left) →
    ∀ {more : Nat} (rest : List Char), fuel ≤ more →
      takeMembers more (text ++ rest) = some (members, left ++ rest)

/-- Where something stands behind the blanks, the text has not ended. -/
theorem ne_nil_of_skipSpace {text : List Char} {c : Char} {more : List Char}
    (front : skipSpace text = c :: more) : text ≠ [] := by
  -- Passing over blanks finds nothing where there is nothing.
  rintro rfl
  cases front

variable {fuel : Nat}

/-- Values are local when what stands in their brackets and braces is. -/
theorem valueLocal_succ (items : ItemsLocal fuel) (members : MembersLocal fuel) :
    ValueLocal (fuel + 1) := by
  intro text left value taken more rest enough ends
  obtain ⟨more, rfl⟩ : ∃ n, more = n + 1 := ⟨more - 1, by omega⟩
  have spare : fuel ≤ more := Nat.le_of_succ_le_succ enough
  rw [takeValue] at taken
  -- Each kind of value shows by the character that it starts with.
  split at taken
  · next front =>
    cases taken
    rw [takeValue, skipSpace_append front]
    rfl
  · next front =>
    cases taken
    rw [takeValue, skipSpace_append front]
    rfl
  · next front =>
    cases taken
    rw [takeValue, skipSpace_append front]
    rfl
  · next body front =>
    simp only [Option.bind_eq_bind, Option.bind_eq_some_iff, Prod.exists] at taken
    obtain ⟨string, behind, found, same⟩ := taken
    cases same
    rw [takeValue, skipSpace_append front]
    simp [takeString_local found rest]
  · next body front =>
    split at taken
    · next behind closed =>
      cases taken
      rw [takeValue, skipSpace_append front]
      simp only [skipSpace_append closed]
    · simp only [Option.bind_eq_bind, Option.bind_eq_some_iff, Prod.exists] at taken
      obtain ⟨list, behind, found, same⟩ := taken
      cases same
      rw [takeItems_skipSpace] at found
      exact takeValue_array (skipSpace_append front rest) (items found rest spare)
  · next body front =>
    split at taken
    · next behind closed =>
      cases taken
      rw [takeValue, skipSpace_append front]
      simp only [skipSpace_append closed]
    · simp only [Option.bind_eq_bind, Option.bind_eq_some_iff, Prod.exists] at taken
      obtain ⟨list, behind, found, same⟩ := taken
      cases same
      rw [takeMembers_skipSpace] at found
      exact takeValue_object (skipSpace_append front rest) (members found rest spare)
  · simp only [Option.bind_eq_bind, Option.bind_eq_some_iff, Prod.exists] at taken
    obtain ⟨literal, behind, found, same⟩ := taken
    cases same
    -- A literal has a first character, which still stands behind the blanks.
    have kept : skipSpace (text ++ rest) = skipSpace text ++ rest := by
      cases front : skipSpace text with
      | nil => simp [front, takeLiteral, takeMinus, Literal.takeDigits] at found
      | cons c more => exact skipSpace_append front rest
    exact takeValue_literal (by rw [kept]; exact takeLiteral_local ends found)

/-- Items are local when values are, and the items behind them. -/
theorem itemsLocal_succ (values : ValueLocal fuel) (items : ItemsLocal fuel) :
    ItemsLocal (fuel + 1) := by
  -- A comma or a bracket behind the item shows that the item ends within the text.
  intro text left list taken more rest enough
  obtain ⟨more, rfl⟩ : ∃ n, more = n + 1 := ⟨more - 1, by omega⟩
  have spare : fuel ≤ more := Nat.le_of_succ_le_succ enough
  simp only [takeItems, Option.bind_eq_bind, Option.bind_eq_some_iff, Prod.exists] at taken
  obtain ⟨item, behind, found, ended⟩ := taken
  have first : behind ≠ [] → takeValue more (text ++ rest) = some (item, behind ++ rest) :=
    fun solid => values found spare fun nothing => absurd nothing solid
  -- Behind the last item the list is closed, and behind any other it goes on.
  split at ended
  · next after closed =>
    cases ended
    simp [takeItems, first (ne_nil_of_skipSpace closed), skipSpace_append closed]
  · next after separated =>
    simp only [Option.bind_eq_some_iff, Prod.exists] at ended
    obtain ⟨others, last, remaining, same⟩ := ended
    cases same
    simp [takeItems, first (ne_nil_of_skipSpace separated), skipSpace_append separated,
      items remaining rest spare]
  · cases ended

/-- Members are local when values are, and the members behind them. -/
theorem membersLocal_succ (values : ValueLocal fuel) (members : MembersLocal fuel) :
    MembersLocal (fuel + 1) := by
  -- The key and the colon stand in the text, and so does what ends the value.
  intro text left list taken more rest enough
  obtain ⟨more, rfl⟩ : ∃ n, more = n + 1 := ⟨more - 1, by omega⟩
  have spare : fuel ≤ more := Nat.le_of_succ_le_succ enough
  rw [takeMembers] at taken
  split at taken
  · next body opened =>
    simp only [Option.bind_eq_bind, Option.bind_eq_some_iff, Prod.exists] at taken
    obtain ⟨key, named, keyed, taken⟩ := taken
    split at taken
    · next after marked =>
      simp only [Option.bind_eq_some_iff, Prod.exists] at taken
      obtain ⟨value, behind, found, ended⟩ := taken
      have first : behind ≠ [] → takeValue more (after ++ rest) = some (value, behind ++ rest) :=
        fun solid => values found spare fun nothing => absurd nothing solid
      -- Behind the last member the object is closed, and behind any other it goes on.
      split at ended
      · next closed =>
        cases ended
        simp [takeMembers, skipSpace_append opened, takeString_local keyed rest,
          skipSpace_append marked, first (ne_nil_of_skipSpace closed), skipSpace_append closed]
      · next separated =>
        simp only [Option.bind_eq_some_iff, Prod.exists] at ended
        obtain ⟨others, last, remaining, same⟩ := ended
        cases same
        simp [takeMembers, skipSpace_append opened, takeString_local keyed rest,
          skipSpace_append marked, first (ne_nil_of_skipSpace separated),
          skipSpace_append separated, members remaining rest spare]
      · cases ended
    · cases taken
  · cases taken

/-- Values, items and members are local, however much fuel they need. -/
theorem local_all (fuel : Nat) : ValueLocal fuel ∧ ItemsLocal fuel ∧ MembersLocal fuel := by
  -- The induction is on the fuel, which each part hands on to the parts inside it.
  induction fuel with
  | zero =>
    refine ⟨?_, ?_, ?_⟩
    · intro text left value taken
      cases taken
    · intro text left items taken
      cases taken
    · intro text left members taken
      cases taken
  | succ fuel ih =>
    obtain ⟨values, items, members⟩ := ih
    exact ⟨valueLocal_succ items members, itemsLocal_succ values items,
      membersLocal_succ values members⟩

/-- A text that reads as a value by itself does so wherever a value may stand. -/
theorem reads_iff {text : List Char} {value : Written} :
    Reads text value ↔ written? text = some value := by
  -- Reading alone is reading with nothing behind; the other direction is locality.
  constructor
  · intro reads
    obtain ⟨left, taken, behind⟩ := reads (2 * text.length + 2) [] (Nat.le_refl _) ends_nil
    rw [List.append_nil] at taken
    have blank : skipSpace left = [] := behind
    simp [written?, taken, blank]
  · intro read fuel rest enough ends
    unfold written? at read
    split at read
    · next found left taken =>
      split at read
      · next blank =>
        cases read
        refine ⟨left ++ rest, ?_, skipSpace_append_nil blank rest⟩
        exact (local_all _).1 taken enough fun _ => ends
      · cases read
    · cases read

/-- A value that is a string starts with a quote, and is what stands up to the next one. -/
theorem takeString_of_takeValue {fuel : Nat} {text left : List Char} {string : Option String}
    (taken : takeValue fuel text = some (.string string, left)) :
    ∃ body, skipSpace text = '"' :: body ∧ takeString body = some (string, left) := by
  cases fuel with
  | zero => cases taken
  | succ fuel =>
    rw [takeValue] at taken
    -- Values of every other kind are no strings.
    split at taken
    · cases taken
    · cases taken
    · cases taken
    · next body front =>
      simp only [Option.bind_eq_bind, Option.bind_eq_some_iff, Prod.exists] at taken
      obtain ⟨found, behind, inside, same⟩ := taken
      cases same
      exact ⟨body, front, inside⟩
    · split at taken <;> simp [Option.bind_eq_some_iff] at taken
    · split at taken <;> simp [Option.bind_eq_some_iff] at taken
    · simp [Option.bind_eq_some_iff] at taken

/-- A text that reads as a string by itself names it wherever a key may stand. -/
theorem names_of_written? {text : List Char} {key : String}
    (read : written? text = some (.string (some key))) : Names text key := by
  -- Where a string is read, a quote stands behind the blanks, and reading it is local.
  intro rest
  unfold written? at read
  split at read
  · next found left taken =>
    split at read
    · next blank =>
      cases read
      obtain ⟨body, front, inside⟩ := takeString_of_takeValue taken
      exact ⟨body ++ rest, left ++ rest, skipSpace_append front rest,
        takeString_local inside rest, skipSpace_append_nil blank rest⟩
    · cases read
  · cases read

end DocSource.Json
