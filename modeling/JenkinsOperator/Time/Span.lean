import JenkinsOperator.Text.Digits
import JenkinsOperator.Time.Basic

/-!
# Lengths of time

A `Span` is a signed number of nanoseconds. The difference of two moments counts every day as 86400
seconds, and counts a leap second only where one of the two moments lies within it.
-/

namespace JenkinsOperator

/-- A signed length of time. -/
structure Span where
  nanos : Int
  deriving DecidableEq

namespace Span

/-- The whole seconds, toward zero. -/
def seconds (s : Span) : Int := s.nanos.tdiv 1000000000

/-- The nanoseconds beyond the whole seconds, with the sign of the span. -/
def subsecondNanos (s : Span) : Int := s.nanos.tmod 1000000000

/-- The form of ISO 8601 in seconds, such as `PT42S`, `-PT0.5S` and `P0D`. -/
def iso8601 (s : Span) : String :=
  if s.nanos = 0 then "P0D"
  else
    let size := s.nanos.natAbs
    let fraction := size % 1000000000
    String.ofList <|
      (if s.nanos < 0 then ['-'] else []) ++ ['P', 'T'] ++ Nat.toDigits 10 (size / 1000000000)
        ++ (if fraction = 0 then [] else '.' :: Text.withoutTrailingZeros (Text.padded 9 fraction))
        ++ ['S']

end Span

namespace Time

/-- The seconds from one second of the day to another. A leap second that the reading at the
earlier second of the day lies within has its full length, so it adds one. -/
def secondsBetween (later earlier : Time) : Int :=
  let difference : Int := later.secondOfDay - earlier.secondOfDay
  if earlier.secondOfDay < later.secondOfDay ∧ earlier.isLeap then difference + 1
  else if later.secondOfDay < earlier.secondOfDay ∧ later.isLeap then difference - 1
  else difference

/-- The span from an earlier moment to a later one; negative if they are the other way round. -/
def since (later earlier : Time) : Span :=
  let days := later.date.dayNumber - earlier.date.dayNumber
  ⟨(days * 86400 + secondsBetween later earlier) * 1000000000
    + (later.sinceSecond - earlier.sinceSecond)⟩

end Time

end JenkinsOperator
