import Transcript.Datum
import Transcript.Text.Digit
import Transcript.Fault.Basic

/-!
# Days and points in time

A day is written by its year, month and day; a point in time has a time of day behind it, and may
say how far its clock is from the common one.

## Main definitions

- `Moment`, `Moment.read?`: a moment, as it is written
- `Moment.datum`: the moment as a value, if there is such a one
-/

namespace Transcript.Yaml

open Number (integerText)

/-- A time of day. -/
structure Clock where
  /-- The hour. -/
  hour : Nat
  /-- The minute. -/
  minute : Nat
  /-- The second. -/
  second : Nat
  /-- The millionths of a second. -/
  micro : Nat
  /-- How many seconds the clock is ahead of the common one, if that is told. -/
  ahead : Option Int

/-- A day, or a point in time. -/
structure Moment where
  /-- The year. -/
  year : Nat
  /-- The month, counted from one. -/
  month : Nat
  /-- The day of the month, counted from one. -/
  day : Nat
  /-- The time of day. -/
  clock : Option Clock := none

namespace Moment

/-! ## Reading -/

/-- Reads digits, at least and at most so many of them: their number, how many there are, and what
follows. -/
def readDigits? (least most : Nat) (s : List Char) : Option (Nat × Nat × List Char) :=
  let digits := (s.take most).takeWhile Char.isDigit
  if digits.length < least then none
  else
    some (Chars.ofDigits (digits.map fun c => c.toNat - '0'.toNat), digits.length,
      s.drop digits.length)

/-- Reads a character. -/
def readSign? (sign : Char) : List Char → Option (List Char)
  | c :: rest => if c = sign then some rest else none
  | [] => none

/-- Whether a character is a blank between the parts of a moment. -/
def isGap (c : Char) : Bool := c = ' ' || c = '\t'

/-- Reads what stands between a day and a time. -/
def readDivider? (s : List Char) : Option (List Char) :=
  match s with
  | 'T' :: rest | 't' :: rest => some rest
  | c :: _ => if isGap c then some (s.dropWhile isGap) else none
  | [] => none

/-- Reads the parts of a second. Beyond the sixth digit they do not count. -/
def readMicro : List Char → Nat × List Char
  | '.' :: rest =>
    let digits := rest.takeWhile Char.isDigit
    let six := (digits ++ List.replicate 6 '0').take 6
    (Chars.ofDigits (six.map fun c => c.toNat - '0'.toNat), rest.dropWhile Char.isDigit)
  | s => (0, s)

/-- Reads how far the clock is from the common one, up to the end. -/
def readZone? (s : List Char) : Option (Option Int) :=
  match s, s.dropWhile isGap with
  | [], _ => some none
  | _, ['Z'] => some (some 0)
  | _, sign :: rest =>
    if sign ≠ '+' && sign ≠ '-' then none
    else do
      let (hours, _, rest) ← readDigits? 1 2 rest
      let minutes ← match rest with
        | [] => some 0
        | ':' :: rest => match readDigits? 2 2 rest with
          | some (minutes, _, []) => some minutes
          | _ => none
        | _ => none
      let seconds : Int := (hours * 60 + minutes) * 60
      some (some (if sign = '-' then -seconds else seconds))
  | _, [] => none

/-- Reads a time of day, up to the end. -/
def readClock? (s : List Char) : Option Clock := do
  let (hour, _, s) ← readDigits? 1 2 s
  let (minute, _, s) ← readDigits? 2 2 (← readSign? ':' s)
  let (second, _, s) ← readDigits? 2 2 (← readSign? ':' s)
  let (micro, s) := readMicro s
  return ⟨hour, minute, second, micro, ← readZone? s⟩

/-- Reads a moment. A day alone has two digits for its month and two for its day. -/
def read? (s : List Char) : Option Moment := do
  let (year, _, s) ← readDigits? 4 4 s
  let (month, m, s) ← readDigits? 1 2 (← readSign? '-' s)
  let (day, d, s) ← readDigits? 1 2 (← readSign? '-' s)
  if s.isEmpty then
    if m = 2 && d = 2 then return { year, month, day } else none
  else return { year, month, day, clock := ← readClock? (← readDivider? s) }

/-! ## Showing -/

/-- A number of seconds as a span of time: whole days, and the seconds beyond them. -/
def spanText (seconds : Int) : String :=
  let days := seconds.fdiv 86400
  let rest := seconds.fmod 86400
  let parts := (if days = 0 then [] else ["days=" ++ integerText days]) ++
    (if rest = 0 then [] else ["seconds=" ++ integerText rest])
  "datetime.timedelta(" ++ (if parts.isEmpty then "0" else Text.join ", " parts) ++ ")"

/-- How a clock that is ahead of the common one is shown. -/
def zoneText (ahead : Int) : String :=
  if ahead = 0 then "datetime.timezone.utc" else "datetime.timezone(" ++ spanText ahead ++ ")"

/-- A moment as it is shown. Seconds, and the parts of one, are left out at the end. -/
def text (m : Moment) : String :=
  let numbers (ns : List Nat) : List String := ns.map fun n : Nat => integerText n
  match m.clock with
  | none => "datetime.date(" ++ Text.join ", " (numbers [m.year, m.month, m.day]) ++ ")"
  | some c =>
    let small :=
      if c.micro ≠ 0 then [c.second, c.micro]
      else if c.second ≠ 0 then [c.second]
      else []
    let zone := (c.ahead.map fun ahead => "tzinfo=" ++ zoneText ahead).toList
    "datetime.datetime(" ++ Text.join ", "
      (numbers ([m.year, m.month, m.day, c.hour, c.minute] ++ small) ++ zone) ++ ")"

/-! ## Values -/

/-- The number of days of a month. -/
def daysOf (year month : Nat) : Nat :=
  if month = 2 then
    if year % 4 = 0 && (year % 100 ≠ 0 || year % 400 = 0) then 29 else 28
  else if [4, 6, 9, 11].contains month then 30 else 31

/-- The number of seconds of a day. -/
def daySeconds : Nat := 86400

/-- Why there is no such moment, if there is none. The clock's distance is looked at first. -/
def objection? (m : Moment) : Option String :=
  let zone := (m.clock.bind Clock.ahead).bind fun ahead =>
    if ahead.natAbs < daySeconds then none
    else
      some ("offset must be a timedelta strictly between -timedelta(hours=24) and " ++
        "timedelta(hours=24), not " ++ spanText ahead ++ ".")
  let date :=
    if m.year = 0 then some "year 0 is out of range"
    else if m.month = 0 || 12 < m.month then some "month must be in 1..12"
    else if m.day = 0 || daysOf m.year m.month < m.day then some "day is out of range for month"
    else none
  let time := m.clock.bind fun c =>
    if 23 < c.hour then some "hour must be in 0..23"
    else if 59 < c.minute then some "minute must be in 0..59"
    else if 59 < c.second then some "second must be in 0..59"
    else none
  zone <|> date <|> time

/-- The moment as a value. -/
def datum (m : Moment) : Except Fault Datum :=
  match m.objection? with
  | some reason => .error (.of .badValue reason)
  | none => .ok (.moment m.text)

end Moment

end Transcript.Yaml
