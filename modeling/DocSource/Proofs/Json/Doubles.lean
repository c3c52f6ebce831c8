import DocSource.Proofs.Json.Locality
import DocSource.Proofs.Json.RoundTrip
import DocSource.Proofs.Number.Scaled
import DocSource.Proofs.Number.Shortest

/-!
The text of a finite double as JSON: it is a literal, and the literal is within the doubles, so the
text always reads as some double. Main statement: `spells_double`.
-/

namespace DocSource

open Double (Laid)

namespace Json

/-- Digits that may stand before a point: a zero stands only by itself in front. -/
structure WholePart (whole : List Char) : Prop where
  all : ∀ c ∈ whole, c.isDigit = true
  solid : whole ≠ []
  leading : whole.head? = some '0' → whole = ['0']

/-- A sign or none. -/
def signText (negative : Bool) : List Char := if negative then ['-'] else []

/-- A literal is taken part by part. -/
theorem takeLiteral_parts (negative : Bool) {whole behind between rest : List Char}
    {fraction : Option (List Char)} {exponent : Option Int} (proper : WholePart whole)
    (stops : ∀ c ∈ behind.head?, c.isDigit = false)
    (pointed : takeFraction behind = some (fraction, between))
    (raised : Literal.takeExponent between = some (exponent, rest)) :
    takeLiteral (signText negative ++ (whole ++ behind)) =
      some (⟨negative, whole, fraction, exponent⟩, rest) := by
  have sign : takeMinus (signText negative ++ (whole ++ behind)) = (negative, whole ++ behind) := by
    cases negative
    · -- A digit in front is no sign.
      cases shape : whole with
      | nil => exact absurd shape proper.solid
      | cons c more =>
        have digit := proper.all c (by simp [shape])
        have notMinus : c ≠ '-' := by rintro rfl; exact absurd digit (by decide)
        simp [signText, takeMinus, notMinus]
    · rfl
  have kept : ¬(whole = [] ∨ (whole.head? = some '0' ∧ whole ≠ ['0'])) := by
    rintro (empty | ⟨zero, more⟩)
    · exact proper.solid empty
    · exact more (proper.leading zero)
  -- The digits end where something else follows, and they have no needless zero.
  simp only [takeLiteral, sign, takeDigits_stop proper.all stops]
  simp [kept, pointed, raised]

/-- Digits behind a point are taken as a fraction. -/
theorem takeFraction_point {digits rest : List Char} (solid : digits ≠ [])
    (all : ∀ c ∈ digits, c.isDigit = true) (stops : ∀ c ∈ rest.head?, c.isDigit = false) :
    takeFraction ('.' :: (digits ++ rest)) = some (some digits, rest) := by
  -- The digits end where something else follows, and a fraction needs one digit at least.
  simp [takeFraction, takeDigits_stop all stops, solid]

/-- A power of ten behind its mark is taken as the number it is. -/
theorem takeExponent_signed (n : Int) :
    Literal.takeExponent ('e' :: (if n < 0 then '-' else '+') :: natText n.natAbs) =
      some (some n, []) := by
  have digits : Literal.takeDigits (natText n.natAbs ++ []) = (natText n.natAbs, []) :=
    takeDigits_stop (fun c => isDigit_of_mem_natText) (by simp)
  have solid : natText n.natAbs ≠ [] := Nat.toDigits_ne_nil
  have value : digitsValue (natText n.natAbs) = n.natAbs :=
    Nat.ofDigitChars_toDigits (by decide) (by decide)
  rw [List.append_nil] at digits
  -- The sign that is written is the sign that is read.
  by_cases below : n < 0
  · have same : -|n| = n := by rw [abs_of_neg below, neg_neg]
    simp [Literal.takeExponent, below, digits, solid, value, same]
  · have same : |n| = n := abs_of_nonneg (not_lt.mp below)
    simp [Literal.takeExponent, below, digits, solid, value, same]

/-- A literal with a point or a power of ten names a double. -/
theorem number?_double {literal : Literal} (written : literal.fraction ≠ none ∨
    literal.exponent ≠ none) : number? literal = literal.scaledDouble?.map .double := by
  -- Only a literal without both is tried as a whole number.
  simp only [number?]
  rw [if_neg]
  rcases written with point | power
  · simp [point]
  · simp [power]

/-- The literal of a whole part, a point and a fraction behind it. -/
theorem takeLiteral_point (negative : Bool) {whole fraction : List Char} (proper : WholePart whole)
    (solid : fraction ≠ []) (all : ∀ c ∈ fraction, c.isDigit = true) :
    takeLiteral (signText negative ++ (whole ++ '.' :: fraction)) =
      some (⟨negative, whole, some fraction, none⟩, []) := by
  -- The fraction is taken to the end of the text, where no power of ten follows.
  have pointed : takeFraction ('.' :: (fraction ++ [])) = some (some fraction, []) :=
    takeFraction_point solid all (by simp)
  rw [List.append_nil] at pointed
  exact takeLiteral_parts negative proper (by simp) pointed rfl

/-- Zeros are digits. -/
theorem isDigit_of_mem_zeros {n : Nat} {c : Char} (among : c ∈ List.replicate n '0') :
    c.isDigit = true := by
  -- Nothing but a zero is repeated.
  rw [List.eq_of_mem_replicate among]
  rfl

/-- A whole part of digits that are laid out begins like them, or is a zero where there are none. -/
theorem wholePart_of_laid {bound : ℚ} {digits whole : List Char} {place : Int}
    (laid : Laid bound digits place) (all : ∀ c ∈ whole, c.isDigit = true) (solid : whole ≠ [])
    (begins : digits ≠ [] → whole.head? = digits.head?) (blank : digits = [] → whole = ['0']) :
    WholePart whole := by
  -- Digits that are laid out do not start with a zero.
  refine ⟨all, solid, fun zero => ?_⟩
  by_cases empty : digits = []
  · exact blank empty
  · rw [begins empty] at zero
    exact absurd zero laid.leading

/-- Digits written out are a whole part of at most sixteen digits, a point and a fraction. -/
theorem exists_positional {bound : ℚ} {digits : List Char} {place : Int}
    (laid : Laid bound digits place) (few : place < 16) :
    ∃ whole fraction, Double.positional digits place = whole ++ '.' :: fraction ∧
      WholePart whole ∧ whole.length ≤ 16 ∧ fraction ≠ [] ∧
      ∀ c ∈ fraction, c.isDigit = true := by
  unfold Double.positional
  split
  · next below =>
    -- A single zero stands before the point.
    have some : digits ≠ [] := fun empty => by have := laid.blank empty; omega
    refine ⟨['0'], List.replicate (-place - 1).toNat '0' ++ digits, rfl,
      ⟨by simp, by simp, fun _ => rfl⟩, by simp, by simp [some], fun c among => ?_⟩
    rcases List.mem_append.mp among with zero | digit
    · exact isDigit_of_mem_zeros zero
    · exact laid.all c digit
  · next above =>
    dsimp only
    split
    · next short =>
      -- Zeros fill the places up to the point, and a zero stands behind it.
      have count : (digits ++ List.replicate ((place + 1).toNat - digits.length) '0').length =
          (place + 1).toNat := by
        rw [List.length_append, List.length_replicate]
        omega
      refine ⟨digits ++ List.replicate ((place + 1).toNat - digits.length) '0', ['0'], rfl,
        wholePart_of_laid laid (fun c among => ?_) ?_ ?_ ?_, by omega, by simp, by simp⟩
      · rcases List.mem_append.mp among with digit | zero
        · exact laid.all c digit
        · exact isDigit_of_mem_zeros zero
      · exact List.ne_nil_of_length_pos (by omega)
      · exact List.head?_append_of_ne_nil _
      · intro empty
        rw [empty, laid.blank empty]
        rfl
    · next long =>
      -- The digits themselves stand on both sides of the point.
      have some : digits ≠ [] := List.ne_nil_of_length_pos (by omega)
      refine ⟨digits.take (place + 1).toNat, digits.drop (place + 1).toNat, rfl,
        wholePart_of_laid laid (fun c among => laid.all c (List.mem_of_mem_take among)) ?_ ?_
          (fun empty => absurd empty some), ?_, ?_,
        fun c among => laid.all c (List.mem_of_mem_drop among)⟩
      · exact List.ne_nil_of_length_pos (by rw [List.length_take]; omega)
      · intro _
        rw [List.head?_take, if_neg (by omega)]
      · rw [List.length_take]
        omega
      · exact List.ne_nil_of_length_pos (by rw [List.length_drop]; omega)

/-- A few digits, a point and a fraction are within the doubles, as there is no power of ten. -/
theorem WholePart.isSome_scaledDouble? {whole fraction : List Char} (proper : WholePart whole)
    (short : whole.length ≤ 16) (solid : fraction ≠ [])
    (all : ∀ c ∈ fraction, c.isDigit = true) (negative : Bool) :
    (Literal.scaledDouble? ⟨negative, whole, some fraction, none⟩).isSome = true := by
  refine Literal.isSome_scaledDouble?_of_point ?_ solid all
  -- Sixteen digits fit a word, and so they do with one more behind them.
  have value := digitsValue_lt proper.all
  have limit : 10 ^ whole.length ≤ 10 ^ 16 := Nat.pow_le_pow_right (by decide) short
  omega

/-- Digits with a power of ten are a literal of one digit before the point. -/
theorem takeLiteral_scientific (negative : Bool) {first : Char} {more : List Char}
    (all : ∀ c ∈ first :: more, c.isDigit = true) (place : Int) :
    ∃ point, point.getD [] = more ∧
      takeLiteral (signText negative ++ Double.scientific (first :: more) place) =
        some (⟨negative, [first], point, some place⟩, []) := by
  have proper : WholePart [first] := by
    refine ⟨fun c among => all c ?_, by simp, by simp⟩
    rw [List.mem_singleton.mp among]
    exact List.mem_cons_self
  -- A single digit stands without a point.
  cases more with
  | nil =>
    refine ⟨none, rfl, ?_⟩
    exact takeLiteral_parts negative proper (by simp)
      (show takeFraction _ = some (none, _) from rfl) (takeExponent_signed place)
  | cons second rest =>
    refine ⟨some (second :: rest), rfl, ?_⟩
    exact takeLiteral_parts negative proper (by simp)
      (takeFraction_point (by simp) (fun c among => all c (List.mem_cons_of_mem _ among))
        (by simp)) (takeExponent_signed place)

/-- The literals of the two greatest doubles and of their negatives are within the doubles. -/
theorem greatest_within : ∀ negative : Bool, ∀ less : Fin 2,
    ((takeLiteral ((Double.ofMagnitude negative
      (Double.infiniteMagnitude - 1 - less)).text .data)).bind
        fun taken => taken.1.scaledDouble?).isSome = true := by
  -- Four literals are read, and no general bound is as sharp as this.
  decide +kernel

/-- The text of a double is a literal, within the doubles if there is room half a place above. -/
theorem takeLiteral_text (x : Double) :
    ∃ literal, takeLiteral (x.text .data) = some (literal, []) ∧
      (literal.fraction ≠ none ∨ literal.exponent ≠ none) ∧
      (x.halfAbove ≤ Double.roomy → literal.scaledDouble?.isSome = true) := by
  have text : x.text .data = signText x.negative ++
      if x.isZero then "0.0".toList
      else if Double.Layout.data.writtenOut (x.shortest .toEven).2 then
        Double.positional (x.shortest .toEven).1 (x.shortest .toEven).2
      else Double.scientific (x.shortest .toEven).1 (x.shortest .toEven).2 := by
    by_cases zero : x.isZero = true <;> simp only [Double.text, zero] <;> rfl
  rw [text]
  split
  · next zero =>
    -- Zero is written out like any other whole number.
    have proper : WholePart ['0'] := ⟨by simp, by simp, fun _ => rfl⟩
    have digit : ∀ c ∈ ['0'], c.isDigit = true := by simp
    exact ⟨_, takeLiteral_point x.negative proper (by simp) digit, .inl (by simp),
      fun _ => proper.isSome_scaledDouble? (by simp) (by simp) digit _⟩
  · next nonzero =>
    have positive := Double.significand_pos (eq_false_of_ne_true nonzero)
    have laid := Double.laid_shortest positive .toEven
    generalize x.shortest .toEven = shortest at laid ⊢
    obtain ⟨digits, place⟩ := shortest
    split
    · next out =>
      simp only [Double.Layout.data, Bool.and_eq_true, decide_eq_true_eq] at out
      obtain ⟨whole, fraction, parts, proper, short, solid, all⟩ := exists_positional laid out.2
      have taken := takeLiteral_point x.negative proper solid all
      rw [← parts] at taken
      exact ⟨_, taken, .inl (by simp), fun _ => proper.isSome_scaledDouble? short solid all _⟩
    · next out =>
      -- Digits without a place are written out, so there are some here.
      cases digits with
      | nil =>
        rw [laid.blank rfl] at out
        exact absurd rfl out
      | cons first more =>
        obtain ⟨point, same, taken⟩ := takeLiteral_scientific x.negative laid.all place
        refine ⟨_, taken, .inr (by simp), fun room => ?_⟩
        have one : digitsValue [first] < 10 ^ [first].length :=
          digitsValue_lt (by simpa using laid.all first (by simp))
        refine Literal.isSome_scaledDouble?_of_power same (one.trans (by simp)) ?_
        refine le_trans (le_of_eq ?_) (laid.within.trans room)
        rw [List.singleton_append, List.length_cons]
        congr 2
        push_cast
        ring

/-- The text of a finite double is a literal that names a double. -/
theorem exists_number? {x : Double} (finite : x.isFinite = true) :
    ∃ literal y, takeLiteral (x.text .data) = some (literal, []) ∧
      number? literal = some (.double y) := by
  obtain ⟨literal, taken, written, within⟩ := takeLiteral_text x
  have some : literal.scaledDouble?.isSome = true := by
    by_cases below : x.magnitude + 2 < Double.infiniteMagnitude
    · exact within (Double.halfAbove_le_roomy below)
    · -- The two greatest doubles are tried one by one.
      have less : Double.infiniteMagnitude - 1 - x.magnitude < 2 := by omega
      have greatest := greatest_within x.negative ⟨_, less⟩
      have inside : x.magnitude < Double.infiniteMagnitude := of_decide_eq_true finite
      have same : Double.infiniteMagnitude - 1 - (Double.infiniteMagnitude - 1 - x.magnitude) =
          x.magnitude := by omega
      simp only [same, Double.ofMagnitude_self, taken, Option.bind_some] at greatest
      exact greatest
  obtain ⟨y, named⟩ := Option.isSome_iff_exists.mp some
  exact ⟨literal, y, taken, by rw [number?_double written, named, Option.map_some]⟩

/-- A literal that is a text by itself spells its number. -/
theorem spells_literal {text : List Char} {literal : Literal}
    (taken : takeLiteral text = some (literal, [])) : Spells text (.number (number? literal)) := by
  intro fuel rest enough ends
  -- No literal is empty, and what follows it does not belong to it.
  cases text with
  | nil => simp [takeLiteral, takeMinus, Literal.takeDigits] at taken
  | cons c more =>
    cases fuel with
    | zero => simp at enough
    | succ fuel =>
      have whole := takeLiteral_local (fun _ => ends) taken
      rw [List.cons_append] at whole ⊢
      rw [takeValue_number (takeLiteral_starts taken), whole]
      rfl

end Json

/-- The double that the text of a double reads as; one whose text reads as none stays itself. -/
def Double.reread (x : Double) : Double :=
  -- The text is in the layout that answers are written in.
  match Json.read? (x.text .data) with
  | some (.number (.double y)) => y
  | _ => x

/-- The number that the text of a number reads as. -/
def Number.reread : Number → Number
  | .int n => .int n
  | .double x => .double x.reread

namespace Json

/-- A text that spells a number reads as it. -/
theorem read?_of_spells_number {text : List Char} {value : Number}
    (spelled : Spells text (.number (some value))) : read? text = some (.number value) := by
  -- A number nests no deeper than any text may, and stands for itself.
  simp [read?, spelled.written?_eq, Written.depth, Written.value?]

/-- The text of a finite double always reads as a double. -/
theorem spells_double {x : Double} (finite : x.isFinite = true) :
    Spells (x.text .data) (.number (some (.double x.reread))) := by
  -- What the text reads as is some double, which is what reading it again means.
  obtain ⟨literal, y, taken, named⟩ := exists_number? finite
  have spelled := spells_literal taken
  rw [named] at spelled
  have same : x.reread = y := by
    rw [Double.reread, read?_of_spells_number spelled]
  rwa [same]

/-- The text of a finite double reads as a double. -/
theorem read?_text {x : Double} (finite : x.isFinite = true) :
    read? (x.text .data) = some (.number (.double x.reread)) :=
  -- The text spells the double, and what is spelled is read.
  read?_of_spells_number (spells_double finite)

/-- Sound numbers are spelled by their texts as what these read as. -/
theorem NumbersSound.spelled {json : Json} (sound : json.NumbersSound) :
    json.NumbersSpelled Number.reread := by
  -- A whole number is spelled as itself, and a double as what its text reads as.
  intro value inside
  rcases sound value inside with ⟨n, rfl, fits⟩ | ⟨x, rfl, finite⟩
  · exact spells_int fits
  · have text : (Number.double x).text = x.text .data := if_pos finite
    rw [text]
    exact spells_double finite

/-- A string has no numbers. -/
@[simp] theorem numbersSound_string (text : String) : (string text).NumbersSound := by
  simp [NumbersSound, parts]

/-- A truth value has no numbers. -/
@[simp] theorem numbersSound_bool (value : Bool) : (bool value).NumbersSound := by
  simp [NumbersSound, parts]

/-- Nothing has no numbers. -/
@[simp] theorem numbersSound_null : null.NumbersSound := by
  simp [NumbersSound, parts]

/-- A word is a sound number. -/
@[simp] theorem numbersSound_int64 (n : Int64) : (int n.toInt).NumbersSound := by
  intro value inside
  obtain rfl : value = .int n.toInt := by simpa [int, parts] using inside
  exact .inl ⟨_, rfl, fitsInt64_toInt n⟩

/-- A double is written as a sound number or as none. -/
@[simp] theorem numbersSound_double (x : Double) : (double x).NumbersSound := by
  intro value inside
  unfold double at inside
  split at inside
  · next finite =>
    obtain rfl : value = .double x := by simpa [parts] using inside
    exact .inr ⟨x, rfl, finite⟩
  · simp [parts] at inside

/-- The structure of the compact text of a value, whose doubles are what their texts read as. -/
def compactWritten (json : Json) : Written := (json.mapNumbers Number.reread).written

/-- The compact text of a value with sound numbers spells its structure. -/
theorem spells_compactWritten {json : Json} (sound : json.NumbersSound) :
    Spells json.compact json.compactWritten :=
  -- Each number of the value is spelled by its own text.
  spells_compact_mapNumbers sound.spelled

/-- The structure of an array is that of its items. -/
theorem compactWritten_array (items : List Json) :
    (array items).compactWritten = .array (items.map compactWritten) := by
  -- What becomes of the numbers of an array becomes of those of each item.
  simp [compactWritten, mapNumbers, written, mapNumbersItems_eq_map, writtenItems_eq_map,
    Function.comp_def]

/-- The structure of an object is that of its members, each under its key. -/
theorem compactWritten_object (members : List (String × Json)) :
    (object members).compactWritten =
      .object (members.map fun member => (some member.1, member.2.compactWritten)) := by
  -- What becomes of the numbers of an object becomes of those of each member.
  simp [compactWritten, mapNumbers, written, mapNumbersMembers_eq_map, writtenMembers_eq_map,
    Function.comp_def]

/-- A double is written as what its text reads as, or as nothing. -/
theorem compactWritten_double (x : Double) :
    (double x).compactWritten =
      if x.isFinite then .number (some (.double x.reread)) else .null := by
  -- A double without a text is written as nothing before its structure is asked for.
  unfold double
  split <;> rfl

end Json

end DocSource
