import Container.Programs.Format
import Container.Programs.Options

set_option autoImplicit false

/-!
# Days and times

A moment is a number of seconds since the beginning of 1970. Every day has 86400 of them, and a
year has a leap day if four divides it, unless it ends a century that is not divided by 400.

## Main definitions

* `Calendar.Moment` — a moment by its year, month, day and time.
* `Calendar.Moment.ofSeconds`, `Calendar.Moment.seconds` — moments by their seconds, and back.
* `date` — the program.
-/

namespace Container.Programs

namespace Calendar

/-- A moment by its year, month and day, both counted from one, and its time of day. -/
structure Moment where
  year : Int
  month : Nat
  day : Nat
  hour : Nat
  minute : Nat
  second : Nat

/-- Whether a year has a leap day. -/
def isLeap (year : Int) : Bool := year % 4 = 0 && (year % 100 ≠ 0 || year % 400 = 0)

/-- How many days a month has. -/
def monthLength (year : Int) (month : Nat) : Nat :=
  if month = 2 then (if isLeap year then 29 else 28)
  else if [4, 6, 9, 11].contains month then 30
  else 31

/-- How many days there are before a year, from the year zero on. -/
def daysBefore (year : Int) : Int :=
  let last := year - 1
  365 * year + last / 4 - last / 100 + last / 400 + 1

/-- The number of a day in its year, counted from one. -/
def Moment.dayOfYear (m : Moment) : Nat :=
  ((List.range (m.month - 1)).map fun i => monthLength m.year (i + 1)).foldl (· + ·) 0 + m.day

/-- The number of a day since the beginning of 1970. -/
def Moment.days (m : Moment) : Int := daysBefore m.year + m.dayOfYear - 1 - daysBefore 1970

/-- The seconds since the beginning of 1970. -/
def Moment.seconds (m : Moment) : Int :=
  m.days * 86400 + (m.hour * 3600 + m.minute * 60 + m.second : Nat)

/-- The day of the week, where Sunday is zero. -/
def Moment.weekday (m : Moment) : Nat := ((m.days + 4) % 7).toNat

/-- The month and day that a day of a year falls on, from a month on. -/
def monthAndDay (year : Int) : Nat → Nat → Nat → Nat × Nat
  | 0, month, rest => (month, rest + 1)
  | fuel + 1, month, rest =>
    let length := monthLength year month
    if rest < length then (month, rest + 1) else monthAndDay year fuel (month + 1) (rest - length)

/-- The moment so many seconds after the beginning of 1970. -/
def Moment.ofSeconds (n : Int) : Moment :=
  let day := n / 86400 + daysBefore 1970
  let time := (n % 86400).toNat
  -- a year is never longer than 366 days, so the first guess is not too late
  let guess := day / 366
  let near := (List.range (day.natAbs / 100000 + 3)).foldl
    (fun (year : Int) _ => year + (day - daysBefore year) / 366) guess
  let year := if daysBefore (near + 1) ≤ day then near + 1 else near
  let (month, d) := monthAndDay year 12 1 (day - daysBefore year).toNat
  ⟨year, month, d, time / 3600, time / 60 % 60, time % 60⟩

/-! ## Writing -/

/-- The names of the days of a week and of the months. -/
def dayNames : List String :=
  ["Sunday", "Monday", "Tuesday", "Wednesday", "Thursday", "Friday", "Saturday"]
def monthNames : List String :=
  ["January", "February", "March", "April", "May", "June", "July", "August", "September", "October",
    "November", "December"]

/-- A number with zeros or blanks before it. -/
def filled (filler : Char) (width n : Nat) : Chars :=
  let digits := Chars.ofNat n
  List.replicate (width - digits.length) filler ++ digits

/-- The Monday-based number of a weekday, and the week of the year by weeks that begin on Mondays
and have most of their days in it, with the year that this week belongs to. -/
def Moment.week (m : Moment) : Int × Nat :=
  let monday := (m.weekday + 6) % 7
  let shifted : Int := m.dayOfYear - 1 - monday + 3
  let length (year : Int) : Int := if isLeap year then 366 else 365
  if shifted < 0 then
    let before := m.year - 1
    (before, ((shifted + length before) / 7 + 1).toNat)
  else if length m.year ≤ shifted then (m.year + 1, 1)
  else (m.year, (shifted / 7 + 1).toNat)

/-- What a letter of a format says about a moment, where it needs no other letters. -/
def Moment.part (m : Moment) (c : Char) : Chars :=
  let two := filled '0' 2
  let name (names : List String) (i : Nat) : Chars := (names[i]?.getD "").toList
  let half := if m.hour % 12 = 0 then 12 else m.hour % 12
  let year : Nat := m.year.toNat
  match c with
  | 'Y' => Chars.ofInt m.year
  | 'C' => two (year / 100)
  | 'y' => two (year % 100)
  | 'm' => two m.month
  | 'd' => two m.day
  | 'e' => filled ' ' 2 m.day
  | 'H' => two m.hour
  | 'k' => filled ' ' 2 m.hour
  | 'I' => two half
  | 'l' => filled ' ' 2 half
  | 'M' => two m.minute
  | 'S' => two m.second
  | 'N' => List.replicate 9 '0'
  | 's' => Chars.ofInt m.seconds
  | 'j' => filled '0' 3 m.dayOfYear
  | 'u' => Chars.ofNat (if m.weekday = 0 then 7 else m.weekday)
  | 'w' => Chars.ofNat m.weekday
  | 'a' => (name dayNames m.weekday).take 3
  | 'A' => name dayNames m.weekday
  | 'b' | 'h' => (name monthNames (m.month - 1)).take 3
  | 'B' => name monthNames (m.month - 1)
  | 'p' => chars (if m.hour < 12 then "AM" else "PM")
  | 'P' => chars (if m.hour < 12 then "am" else "pm")
  | 'V' => two m.week.2
  | 'G' => Chars.ofInt m.week.1
  | 'q' => Chars.ofNat ((m.month + 2) / 3)
  | 'U' => two ((m.dayOfYear + 6 - m.weekday) / 7)
  | 'W' => two ((m.dayOfYear + 6 - (m.weekday + 6) % 7) / 7)
  | 'Z' => chars "UTC"
  | 'z' => chars "+0000"
  | 'n' => ['\n']
  | 't' => ['\t']
  | '%' => ['%']
  | c => ['%', c]

/-- The formats that letters of a format stand for. -/
def composed : List (Char × String) := [
  ('F', "%Y-%m-%d"), ('T', "%H:%M:%S"), ('X', "%H:%M:%S"), ('D', "%m/%d/%y"), ('x', "%m/%d/%y"),
  ('R', "%H:%M"), ('r', "%I:%M:%S %p"), ('c', "%a %b %e %H:%M:%S %Y")]

/-- A format in which what it asks about a moment is put in. A hyphen after a percent sign takes
away what fills a number up. -/
def Moment.formatted (m : Moment) : Nat → Chars → Chars
  | 0, _ => []
  | _, [] => []
  | fuel + 1, '%' :: '-' :: c :: cs =>
    let shown := (m.part c).dropWhile fun d => d = '0' || d = ' '
    (if shown.isEmpty then ['0'] else shown) ++ m.formatted fuel cs
  | fuel + 1, '%' :: c :: cs =>
    match composed.lookup c with
    | some inner => m.formatted fuel (inner.toList ++ cs)
    | none => m.part c ++ m.formatted fuel cs
  | fuel + 1, c :: cs => c :: m.formatted fuel cs

/-! ## Reading -/

/-- Numbers between separators. -/
def numbers? (separator : Char) (cs : Chars) : Option (List Nat) :=
  (cs.splitOn separator).mapM Chars.toNat?

/-- The moment that a text names: by its seconds, or by its day and time. -/
def Moment.ofChars? (cs : Chars) : Option Moment :=
  match cs with
  | '@' :: digits => (Chars.toInt? (digits.takeWhile (· ≠ '.'))).map .ofSeconds
  | cs => do
    let words := ((cs.map fun c => if c = 'T' then ' ' else c).splitOn ' ').filter fun w =>
      w ≠ [] && w ≠ chars "UTC" && w ≠ chars "Z"
    let (dayText, timeText) ← match words with
      | [day] => some (day, "0".toList)
      | [day, time] => some (day, time)
      | _ => none
    let (year, month, day) ← match numbers? '-' dayText with
      | some [year, month, day] => some (year, month, day)
      | _ => none
    let timeText := if timeText.getLast? = some 'Z' then timeText.dropLast else timeText
    let (hour, minute, second) ← match numbers? ':' timeText with
      | some [hour, minute, second] => some (hour, minute, second)
      | some [hour, minute] => some (hour, minute, 0)
      | some [hour] => some (hour, 0, 0)
      | _ => none
    let isReal : Bool := 1 ≤ month && month ≤ 12 && 1 ≤ day && day ≤ monthLength year month &&
      hour < 24 && minute < 60 && second < 60
    if isReal then some ⟨year, month, day, hour, minute, second⟩ else none

end Calendar

/-- Writes a moment, which is the beginning of 1970 where none is named. -/
def date : Body := withOptions "d:IRu" 1 fun inv o => do
  let text := (o.value? 'd').getD ['@', '0']
  match Calendar.Moment.ofChars? text, o.operands with
  | none, _ =>
    complain inv (chars "date: invalid date " ++ named text ++ ['\n'])
    return 1
  | some m, operands =>
    let usual :=
      if o.has 'I' then "%Y-%m-%d" else if o.has 'R' then "%a, %d %b %Y %H:%M:%S %z"
      else "%a %b %e %H:%M:%S %Z %Y"
    match operands with
    | [] =>
      say inv (m.formatted 100 usual.toList ++ ['\n'])
      return 0
    | ('+' :: format) :: _ =>
      say inv (m.formatted (20 * format.length + 20) format ++ ['\n'])
      return 0
    | other :: _ =>
      complain inv (chars "date: invalid date " ++ named other ++ ['\n'])
      return 1

end Container.Programs
