import DocSource.Text.CaseTable

/-! Lower case of whole texts, with the two letters whose lower case depends on more. -/

namespace DocSource.Text

/-- A code point within one of a list of ranges. -/
def inRanges (ranges : List (Nat × Nat)) (c : Char) : Bool :=
  ranges.any fun (first, last) => first ≤ c.toNat && c.toNat ≤ last

/-- The lower case of a letter on its own. -/
def lowerChar (c : Char) : List Char :=
  -- The dotted capital keeps its dot as a mark; every other lower case is one letter.
  if c = '\u0130' then ['i', '\u0307']
  else
    match lowerRuns.find? fun (first, last, step, _) =>
      first ≤ c.toNat && c.toNat ≤ last && (c.toNat - first) % step == 0 with
    | some (first, _, _, lower) => [Char.ofNat (c.toNat - first + lower)]
    | none => [c]

/-- The first character that is not ignorable is a letter with a case. -/
def meetsCased (text : List Char) : Bool :=
  match text.dropWhile (inRanges ignorableRanges) with
  | c :: _ => inRanges casedRanges c
  | [] => false

/-- The lower case of a text, given what stands before it, nearest first. -/
def lowerAfter (before : List Char) : List Char → List Char
  | [] => []
  | c :: rest =>
    -- A capital sigma that ends a word has a lower case of its own.
    let lower := if c = '\u03a3' then
        [if meetsCased before && !meetsCased rest then '\u03c2' else '\u03c3']
      else lowerChar c
    lower ++ lowerAfter (c :: before) rest

/-- The lower case of a string. -/
def lowercase (text : String) : String := String.ofList (lowerAfter [] text.toList)

end DocSource.Text
