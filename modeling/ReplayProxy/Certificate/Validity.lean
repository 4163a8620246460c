import ReplayProxy.Calendar
import ReplayProxy.Certificate.Der
import ReplayProxy.Certificate.KeyAlgorithm

/-!
# Validity

The time for which a certificate is valid, from a second to a second, both counted from the
first of January 1970. The end is computed from a number of days, in three steps with bounds
of their own: the days are made a span (`span`), the span is added to a time (`later`), and
the time must be one that certificates can name (`nameable`). What leaves the range of the
first two steps ends the work with an overflow; what leaves that of the third is refused.
-/

namespace ReplayProxy

/-- A second, counted from the first of January 1970. -/
abbrev Second := Int

/-- The time for which a certificate is valid. -/
structure Validity where
  notBefore : Second
  notAfter : Second
  deriving DecidableEq, Repr

namespace Validity

/-! ### Spans and times -/

/-- The greatest span in seconds: `2 ^ 63 - 1` milliseconds. -/
def greatestSpan : Int := 9223372036854775807 / 1000

/-- The first second of the year -262143, before which no time is computed with. -/
def earliest : Second := -8334601228800

/-- The last second of the year 262142, after which no time is computed with. -/
def latest : Second := 8210266876799

/-- The first second of the year -9999. -/
def firstNameable : Second := -377705116800

/-- The last second of the year 9999. -/
def lastNameable : Second := 253402300799

/-- The span of a number of days, which must be one at least. -/
def span (days : Int) : Except CertificateError Int :=
  if days < 1 then
    .error (.generation ("validity must be at least one day, got " ++ toString days))
  else if days * daySeconds > greatestSpan then .error .overflow
  else .ok (days * daySeconds)

/-- The time that lies a span after another, or before it. -/
def later (time : Second) (span : Int) : Except CertificateError Second :=
  if time + span < earliest || latest < time + span then .error .overflow else .ok (time + span)

/-- A time that certificates can name. -/
def nameable (time : Second) : Except CertificateError Second :=
  if time < firstNameable || lastNameable < time then
    .error (.generation "timestamp was not in range")
  else .ok time

/-- The time from a span before a second to a span after it. -/
def around (now : Second) (span : Int) : Except CertificateError Validity := do
  return ⟨← nameable (← later now (-span)), ← nameable (← later now span)⟩

/-- The time from a second to a span after it. -/
def since (now : Second) (span : Int) : Except CertificateError Validity := do
  let last ← later now span
  return ⟨← nameable now, ← nameable last⟩

/-- The seconds for which a certificate is valid. -/
def seconds (v : Validity) : Int := v.notAfter - v.notBefore

/-! ### Writing and reading -/

/-- Whether a time can be written: years before the year 0 cannot. -/
def isWritable (time : Second) : Bool := 0 ≤ (Date.ofDay (time / daySeconds)).year

/-- The last `width` decimal digits of a number. -/
def digits : Nat → Int → Bytes
  | 0, _ => []
  | width + 1, n => digits width (n / 10) ++ [UInt8.ofNat (48 + (n % 10).toNat)]

/-- A time as it is written: with two digits of the year from 1950 to 2049 and with four
digits in all other years. -/
def timeBytes (time : Second) : Bytes :=
  let date := Date.ofDay (time / daySeconds)
  let second := time % daySeconds
  let rest := digits 2 date.month ++ digits 2 date.dayOfMonth ++ digits 2 (second / 3600) ++
    digits 2 (second / 60 % 60) ++ digits 2 (second % 60) ++ [0x5A]
  if 1950 ≤ date.year && date.year < 2050 then Der.element 0x17 (digits 2 date.year ++ rest)
  else Der.element 0x18 (digits 4 date.year ++ rest)

/-- The number that decimal digits write. -/
def number? (b : Bytes) : Option Int :=
  if b.all fun x => 48 ≤ x && x ≤ 57 then
    some (b.foldl (fun n x => n * 10 + (x.toNat - 48 : Nat)) (0 : Int))
  else none

/-- The time of a year and of the ten digits from the month to the second. -/
def timeOf? (year : Int) (b : Bytes) : Option Second := do
  if b.length ≠ 11 || b.getLast? ≠ some 0x5A then none
  let month ← number? (b.take 2)
  let dayOfMonth ← number? ((b.drop 2).take 2)
  let hour ← number? ((b.drop 4).take 2)
  let minute ← number? ((b.drop 6).take 2)
  let second ← number? ((b.drop 8).take 2)
  let date : Date := ⟨year, month, dayOfMonth⟩
  if !date.isValid || hour > 23 || minute > 59 || second > 59 then none
  return date.day * daySeconds + hour * 3600 + minute * 60 + second

/-- Reads a time. -/
def time? (e : Der.Element) : Option Second := do
  match e.tag with
  | 0x17 =>
    let year ← number? (e.content.take 2)
    timeOf? (if year < 50 then 2000 + year else 1900 + year) (e.content.drop 2)
  | 0x18 => timeOf? (← number? (e.content.take 4)) (e.content.drop 4)
  | _ => none

/-- A validity as it is written. -/
def bytes (v : Validity) : Bytes := Der.sequence [timeBytes v.notBefore, timeBytes v.notAfter]

/-- Reads a validity. -/
def ofElement? (e : Der.Element) : Option Validity := do
  match ← e.inside? 0x30 with
  | [a, b] => return ⟨← time? a, ← time? b⟩
  | _ => none

end Validity

end ReplayProxy
