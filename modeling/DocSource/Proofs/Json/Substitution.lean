import DocSource.Proofs.Json.RoundTrip
import DocSource.Proofs.Text.Replacement

/-!
Replacing a quoted name in the text of a JSON value: the occurrences are the strings that are the
name, as long as no key is the name and no string ends like one that opens inside it.
-/

namespace DocSource.Json

open Text (replace replaceAfter)

/-- A character that stands for itself between quotes. -/
def isPlain (c : Char) : Bool := c != '"' && c != '\\' && 0x20 ≤ c.toNat

/-- A name that starts with a dollar sign and stands between quotes as it is. -/
structure Mark (name : String) : Prop where
  dollar : name.toList.head? = some '$'
  plain : name.toList.all isPlain = true

/-- A plain character is not escaped. -/
theorem escape_of_isPlain {c : Char} (plain : isPlain c = true) : escape c = [c] := by
  simp only [isPlain, Bool.and_eq_true, bne_iff_ne, decide_eq_true_eq] at plain
  obtain ⟨⟨notQuote, notSlash⟩, high⟩ := plain
  -- The characters with an escape of their own are control characters.
  have apart : ∀ other : Char, other.toNat < 0x20 → c ≠ other := by
    rintro other low rfl
    omega
  rw [escape, if_neg notQuote, if_neg notSlash, if_neg (apart '\x08' (by decide)),
    if_neg (apart '\x0c' (by decide)), if_neg (apart '\n' (by decide)),
    if_neg (apart '\r' (by decide)), if_neg (apart '\t' (by decide)), if_neg (by omega)]

/-- A text that needs no escapes is quoted by two quotes. -/
theorem quoted_eq (text : String) (plain : text.toList.all isPlain = true) :
    quoted text = '"' :: (text.toList ++ ['"']) := by
  -- Escaping every character of the text gives the text again.
  have same : text.toList.flatMap escape = text.toList := by
    rw [← List.flatMap_singleton' text.toList]
    simpa using List.flatMap_congr fun c among =>
      escape_of_isPlain (List.all_eq_true.mp plain c among)
  rw [quoted, same]
  rfl

/-- A name is quoted by two quotes. -/
theorem Mark.quoted_eq {name : String} (mark : Mark name) :
    quoted name = '"' :: (name.toList ++ ['"']) :=
  -- The characters of a mark need no escape.
  Json.quoted_eq name mark.plain

/-- Only quotes are escaped with a quote. -/
theorem quote_not_mem_escape {c : Char} (plain : c ≠ '"') : '"' ∉ escape c := by
  have digit : ∀ n < 16, Hex.digit n ≠ '"' := by decide
  rw [escape, if_neg plain]
  repeat' split
  all_goals simp [Ne.symm plain]
  -- What is left are the digits of a control character.
  exact ⟨Ne.symm (digit (c.toNat / 16) (by omega)), Ne.symm (digit (c.toNat % 16) (by omega))⟩

/-- An escape starts with a backslash, unless the character stands for itself. -/
theorem escape_starts (c : Char) :
    (escape c = [c] ∧ c ≠ '"' ∧ c ≠ '\\') ∨ ∃ more, escape c = '\\' :: more := by
  -- Each branch of the escape is one of the two cases.
  unfold escape
  repeat' split
  all_goals simp_all

/-- A name that is read off escaped characters up to a quote is those characters. -/
theorem eq_of_quoted_front {name : List Char} (plain : ∀ c ∈ name, isPlain c = true)
    {chars rest : List Char} (front : name ++ ['"'] <+: chars.flatMap escape ++ '"' :: rest) :
    chars = name := by
  -- The induction takes one character of the name after the other.
  induction name generalizing chars with
  | nil =>
    cases chars with
    | nil => rfl
    | cons c more =>
      rcases escape_starts c with ⟨own, notQuote, _⟩ | ⟨tail, own⟩
      · simp [own, Ne.symm notQuote] at front
      · simp [own] at front
  | cons n ns ih =>
    have head := plain n (by simp)
    have notQuote : n ≠ '"' := by
      rintro rfl
      cases head
    have notBackslash : n ≠ '\\' := by
      rintro rfl
      cases head
    cases chars with
    | nil => simp [notQuote] at front
    | cons c more =>
      rcases escape_starts c with ⟨own, _⟩ | ⟨tail, own⟩
      · simp only [List.flatMap_cons, own, List.cons_append, List.nil_append,
          List.cons_prefix_cons] at front
        rw [front.1, ih (fun other among => plain other (by simp [among])) front.2]
      · simp [own, notBackslash] at front

section

variable {name : String} {new : List Char}

/-- Characters already written are passed over. -/
theorem replaceAfter_length (token text rest : List Char) :
    replaceAfter token new text.length (text ++ rest) = replace token new rest := by
  -- The count of characters to pass over runs down with the text.
  induction text with
  | nil => rfl
  | cons c more ih => exact ih

/-- A quote that opens no name stands for itself. -/
theorem replace_quote (mark : Mark name) {rest : List Char}
    (other : ¬ name.toList ++ ['"'] <+: rest) :
    replace (quoted name) new ('"' :: rest) = '"' :: replace (quoted name) new rest := by
  -- A quoted name would have to go on with the name.
  have elsewhere : (quoted name).isPrefixOf ('"' :: rest) = false := by
    rw [Bool.eq_false_iff, mark.quoted_eq]
    intro front
    rw [List.isPrefixOf_iff_prefix, List.cons_prefix_cons] at front
    exact other front.2
  simp only [replace]
  rw [replaceAfter, elsewhere]
  rfl

/-- The characters of a string and its closing quote hold no quoted name that they end with. -/
theorem replace_escaped (mark : Mark name) {chars rest : List Char}
    (clear : ¬ '"' :: name.toList <:+ chars) (follows : rest.head? ≠ some '$') :
    replace (quoted name) new (chars.flatMap escape ++ '"' :: rest) =
      chars.flatMap escape ++ '"' :: replace (quoted name) new rest := by
  induction chars with
  | nil =>
    -- The closing quote opens no name, as none follows.
    refine replace_quote mark fun front => follows ?_
    obtain ⟨tail, rfl⟩ := front
    rw [List.append_assoc, List.head?_append, mark.dollar]
    rfl
  | cons c more ih =>
    have others := ih fun ends => clear (ends.trans (List.suffix_cons c more))
    rw [List.flatMap_cons, List.append_assoc]
    by_cases quote : c = '"'
    · -- A quote inside a string opens a name only where the string ends with it.
      subst quote
      have other : ¬ name.toList ++ ['"'] <+: more.flatMap escape ++ '"' :: rest := by
        intro front
        rw [eq_of_quoted_front (List.all_eq_true.mp mark.plain) front] at clear
        exact clear (List.suffix_refl _)
      have shape : escape '"' = ['\\', '"'] := rfl
      rw [shape, List.cons_append, List.cons_append, List.nil_append,
        Text.replace_cons_apart rfl (by decide), replace_quote mark other, others]
      rfl
    · rw [Text.replace_append_left rfl (quote_not_mem_escape quote), others, List.append_assoc]

/-- Replacing a quoted name turns one text into another, whatever follows but a dollar sign. -/
def Rewrites (name : String) (new text result : List Char) : Prop :=
  -- The closing quote of a string and a dollar sign behind it would look like a name.
  ∀ rest : List Char, rest.head? ≠ some '$' →
    replace (quoted name) new (text ++ rest) = result ++ replace (quoted name) new rest

/-- What a text is turned into when nothing follows it. -/
theorem Rewrites.replace_eq {text result : List Char} (rewrites : Rewrites name new text result) :
    replace (quoted name) new text = result := by
  -- Nothing is left to replace behind the text.
  have := rewrites [] (by simp)
  simpa [replace, replaceAfter] using this

/-- A text without quotes stays. -/
theorem rewrites_self {text : List Char} (plain : '"' ∉ text) :
    Rewrites name new text text :=
  -- Replacing goes past a text in which the quoted name cannot begin.
  fun rest _ => Text.replace_append_left rfl plain rest

/-- A character that is no quote stays in front of what follows it. -/
theorem Rewrites.cons {c : Char} (plain : '"' ≠ c) {text result : List Char}
    (rewrites : Rewrites name new text result) : Rewrites name new (c :: text) (c :: result) := by
  -- The quoted name begins with a quote, so it does not begin here.
  intro rest follows
  rw [List.cons_append, Text.replace_cons_apart rfl plain, rewrites rest follows, List.cons_append]

/-- Two texts are turned into others one after the other. -/
theorem Rewrites.append {first second left right : List Char}
    (rewrites : Rewrites name new first left) (others : Rewrites name new second right)
    (start : second.head? ≠ some '$') :
    Rewrites name new (first ++ second) (left ++ right) := by
  -- What follows the first text is the second one, or what follows both.
  intro rest follows
  have next : (second ++ rest).head? ≠ some '$' := by
    cases second with
    | nil => exact follows
    | cons c more => exact start
  rw [List.append_assoc, rewrites _ next, others rest follows, List.append_assoc]

/-- A string stays that is not the name and does not end with it behind a quote. -/
theorem rewrites_quoted (mark : Mark name) {text : String} (differs : text ≠ name)
    (clear : ¬ '"' :: name.toList <:+ text.toList) :
    Rewrites name new (quoted text) (quoted text) := by
  -- The opening quote opens no name, and no quote behind it does.
  intro rest follows
  have other : ¬ name.toList ++ ['"'] <+: text.toList.flatMap escape ++ '"' :: rest :=
    fun front => differs (String.toList_injective
      (eq_of_quoted_front (List.all_eq_true.mp mark.plain) front))
  have opened : replace (quoted name) new ('"' :: (text.toList.flatMap escape ++ '"' :: rest)) =
      '"' :: (text.toList.flatMap escape ++ '"' :: replace (quoted name) new rest) := by
    rw [replace_quote mark other, replace_escaped mark clear follows]
  simpa [quoted] using opened

/-- The name itself is turned into what takes its place. -/
theorem rewrites_name (mark : Mark name) : Rewrites name new (quoted name) new := by
  intro rest _
  have found : (quoted name).isPrefixOf (quoted name ++ rest) = true := by
    rw [List.isPrefixOf_iff_prefix]
    exact List.prefix_append _ _
  -- Behind its opening quote, the rest of the token is passed over.
  have passed : replaceAfter (quoted name) new (name.toList ++ ['"']).length
      (name.toList ++ ['"'] ++ rest) = replace (quoted name) new rest :=
    replaceAfter_length (quoted name) (name.toList ++ ['"']) rest
  rw [mark.quoted_eq] at found passed ⊢
  simp only [replace, List.cons_append] at found passed ⊢
  rw [replaceAfter, found]
  simpa using passed

/-- Pieces between commas are turned into others one by one. -/
theorem rewrites_joined {α : Type} (text result : α → List Char)
    (items : List α) (each : ∀ item ∈ items, Rewrites name new (text item) (result item)) :
    Rewrites name new (Text.joined [','] (items.map text))
      (Text.joined [','] (items.map result)) := by
  -- The comma behind each piece is no dollar sign.
  induction items with
  | nil => exact rewrites_self (by simp [Text.joined])
  | cons item rest ih =>
    have others := ih fun other among => each other (by simp [among])
    cases rest with
    | nil => exact each item (by simp)
    | cons next more =>
      have continued := others.cons (c := ',') (by decide)
      have whole := (each item (by simp)).append continued (by simp)
      simpa [Text.joined] using whole

/-- The text of a whole number needs no escapes. -/
theorem isPlain_of_mem_intText {n : Int} {c : Char} (among : c ∈ intText n) :
    isPlain c = true := by
  -- There are digits, and maybe a minus sign.
  have sign : c = '-' ∨ c ∈ natText n.natAbs := by
    unfold intText at among
    split at among
    · exact List.mem_cons.mp among
    · exact .inr among
  rcases sign with rfl | inside
  · rfl
  · have digit := isDigit_of_mem_natText inside
    have bounds : 48 ≤ c.toNat ∧ c.toNat ≤ 57 := Char.isDigit_iff_toNat.mp digit
    have apart : ∀ other : Char, (other.toNat < 48 ∨ 57 < other.toNat) → c ≠ other := by
      rintro other outside rfl
      omega
    simp only [isPlain, Bool.and_eq_true, bne_iff_ne, decide_eq_true_eq]
    exact ⟨⟨apart '"' (by decide), apart '\\' (by decide)⟩, by omega⟩

/-- The text of a whole number is quoted as it is. -/
theorem quoted_intText (n : Int) :
    quoted (String.ofList (intText n)) = '"' :: (intText n ++ ['"']) := by
  -- Digits and a minus sign need no escape.
  have quotes := quoted_eq (String.ofList (intText n)) (List.all_eq_true.mpr fun c among =>
    isPlain_of_mem_intText (by simpa using among))
  rwa [String.toList_ofList] at quotes

/-- The text of a whole number has no quotes. -/
theorem quote_not_mem_intText (n : Int) : '"' ∉ intText n := by
  -- A quote is not plain.
  intro quote
  have own := isPlain_of_mem_intText quote
  cases own

/-- A key followed by its value is turned into the key followed by what the value is turned into. -/
theorem Rewrites.member (mark : Mark name) {key : String} (differs : key ≠ name)
    (clear : ¬ '"' :: name.toList <:+ key.toList) {text result : List Char}
    (rewrites : Rewrites name new text result) :
    Rewrites name new (memberText key text) (memberText key result) :=
  -- The colon stands between them, so that neither runs into the other.
  (rewrites_quoted mark differs clear).append (rewrites.cons (by decide)) (by simp)

/-- An opening and a closing character that are no quotes stay around a text. -/
theorem Rewrites.enclosed (opening closing : Char)
    (plain : '"' ≠ opening ∧ '"' ≠ closing ∧ closing ≠ '$') {text result : List Char}
    (rewrites : Rewrites name new text result) :
    Rewrites name new (opening :: text ++ [closing]) (opening :: result ++ [closing]) := by
  -- The opening character comes first, then the text, then the closing one.
  obtain ⟨first, last, apart⟩ := plain
  have ending : Rewrites name new [closing] [closing] := rewrites_self (by simpa using last)
  exact (rewrites.cons first).append ending (by simpa using apart)

/-- In the text of a value, a quoted name is replaced string by string, and nowhere else. -/
theorem rewrites_compactWith (mark : Mark name) (before after : String → List Char) (json : Json)
    (whole : json.NumbersWhole)
    (keys : ∀ members, object members ∈ json.parts → ∀ member ∈ members,
      member.1 ≠ name ∧ ¬ '"' :: name.toList <:+ member.1.toList)
    (strings : ∀ text, string text ∈ json.parts →
      Rewrites name new (before text) (after text)) :
    Rewrites name new (json.compactWith before) (json.compactWith after) := by
  -- The induction follows the printer, whose punctuation holds neither quotes nor dollar signs.
  induction json with
  | null => exact rewrites_self (show '"' ∉ compact null by decide)
  | bool value =>
    have plain : ∀ b, '"' ∉ compact (bool b) := by decide
    exact rewrites_self (plain value)
  | number value =>
    obtain ⟨n, rfl, _⟩ := whole value (self_mem_parts _)
    exact rewrites_self (quote_not_mem_intText n)
  | string text => exact strings text (self_mem_parts _)
  | array items ih =>
    have each := rewrites_joined (compactWith before) (compactWith after) items
      fun item among => ih item among (numbersWhole_array.mp whole item among)
        (fun members inside => keys members (mem_parts_of_item among inside))
        (fun text inside => strings text (mem_parts_of_item among inside))
    simpa [compactWith, compactItemsWith_eq_map] using
      each.enclosed '[' ']' (by decide)
  | object members ih =>
    have each := rewrites_joined
      (fun member : String × Json => memberText member.1 (member.2.compactWith before))
      (fun member => memberText member.1 (member.2.compactWith after)) members
      fun member among =>
        (ih member.1 member.2 among (numbersWhole_object.mp whole member.1 member.2 among)
          (fun inner inside => keys inner (mem_parts_of_member among inside))
          (fun text inside => strings text (mem_parts_of_member among inside))).member mark
          (keys members (self_mem_parts _) _ among).1 (keys members (self_mem_parts _) _ among).2
    simpa [compactWith, compactMembersWith_eq_map] using
      each.enclosed '\x7b' '\x7d' (by decide)

end

end DocSource.Json
