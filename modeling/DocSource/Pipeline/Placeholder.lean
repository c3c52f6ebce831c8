import DocSource.Number.Digits
import DocSource.Text.Occurrence

/-! Placeholders in query texts, and the values written in their place. -/

namespace DocSource

/-- The values of the placeholders: two instants in milliseconds, and a number of samples. -/
structure Placeholders where
  start : Int64
  stop : Int64
  samples : Int64
  deriving DecidableEq

namespace Placeholders

/-- The placeholder for the start of the range, quotes included. -/
def startToken : List Char := "\"$from\"".toList

/-- The placeholder for the end of the range, quotes included. -/
def stopToken : List Char := "\"$to\"".toList

/-- The placeholder for the number of samples, quotes included. -/
def samplesToken : List Char := "\"$maxDataPoints\"".toList

/-- An instant as an extended JSON date. -/
def dateText (millis : Int64) : List Char :=
  "\x7b\"$date\": \x7b\"$numberLong\": \"".toList ++ intText millis.toInt ++ "\"\x7d\x7d".toList

/-- Writes the values in place of their tokens, one kind of token after the other. -/
def fill (values : Placeholders) (text : List Char) : List Char :=
  let text := Text.replace startToken (dateText values.start) text
  let text := Text.replace stopToken (dateText values.stop) text
  Text.replace samplesToken (intText values.samples.toInt) text

end Placeholders

end DocSource
