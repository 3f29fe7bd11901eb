/-
  ZWaveHost.Text.Duration — a span of time in words.

  A span of whole milliseconds is shown in the largest unit that leaves a
  whole part: `0ns`, `250ms`, `1.5s`.  Zeros at the end of a fraction are
  not shown.
-/

namespace ZWaveHost.Text

/-- The fraction of a second that `ms` milliseconds are, without zeros at its end. -/
def secondFraction (ms : Nat) : List Char :=
  let digits := [Nat.digitChar (ms / 100), Nat.digitChar (ms / 10 % 10), Nat.digitChar (ms % 10)]
  match (digits.reverse.dropWhile (· == '0')).reverse with
  | [] => []
  | digits => '.' :: digits

/-- A span of milliseconds in words. -/
def duration (ms : Nat) : String :=
  if ms = 0 then "0ns"
  else if ms < 1000 then s!"{ms}ms"
  else s!"{ms / 1000}" ++ String.ofList (secondFraction (ms % 1000)) ++ "s"

end ZWaveHost.Text
