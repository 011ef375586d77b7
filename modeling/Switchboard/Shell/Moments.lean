import Switchboard.Shell.Format

/-!
# Moments

A moment is a day of the calendar with a time of the day. Days are counted from the first of January
of 1970, and the calendar of today is taken to hold for all times.
-/

namespace Switchboard.Shell

/-- A day of the calendar with a time of the day. -/
structure Moment where
  year : Int
  month : Nat
  day : Nat
  /-- Seconds since the day began. -/
  second : Nat

/-- The days from the first of March of the year 0 to the first of January of 1970. -/
def daysBefore : Int := 719468

/-- The days since the first of January of 1970. A year is taken to begin in March, so that the day
that some years have besides is its last one. -/
def daysOf (year : Int) (month day : Nat) : Int :=
  let year := if month ≤ 2 then year - 1 else year
  let era := year.fdiv 400
  let inEra := year - era * 400
  let months : Int := (month + 9) % 12
  let inYear := (153 * months + 2) / 5 + day - 1
  era * 146097 + (inEra * 365 + inEra / 4 - inEra / 100 + inYear) - daysBefore

namespace Moment

def ofSeconds (seconds : Int) : Moment :=
  let days := seconds.fdiv 86400 + daysBefore
  let era := days.fdiv 146097
  let inEra := days - era * 146097
  let years := (inEra - inEra / 1460 + inEra / 36524 - inEra / 146096) / 365
  let inYear := inEra - (365 * years + years / 4 - years / 100)
  let months := (5 * inYear + 2) / 153
  let month := if months < 10 then months + 3 else months - 9
  { year := years + era * 400 + (if month ≤ 2 then 1 else 0)
    month := month.toNat
    day := (inYear - (153 * months + 2) / 5 + 1).toNat
    second := (seconds.fmod 86400).toNat }

def seconds (m : Moment) : Int := daysOf m.year m.month m.day * 86400 + m.second

/-- The day of the week, counted from Sunday. -/
def weekday (m : Moment) : Nat := ((daysOf m.year m.month m.day + 4).fmod 7).toNat

/-- The day of the year, counted from 1. -/
def yearDay (m : Moment) : Nat := (daysOf m.year m.month m.day - daysOf m.year 1 1 + 1).toNat

/-- The week that a moment belongs to, with its year: weeks begin on Monday, and the first one has
most of its days in the year. -/
def week (m : Moment) : Int × Nat :=
  let days := daysOf m.year m.month m.day
  let thursday := days - (days + 3).fmod 7 + 3
  let year := (ofSeconds (thursday * 86400)).year
  (year, ((thursday - daysOf year 1 1) / 7 + 1).toNat)

end Moment

def dayNames : List String :=
  ["Sunday", "Monday", "Tuesday", "Wednesday", "Thursday", "Friday", "Saturday"]

def monthLongNames : List String :=
  ["January", "February", "March", "April", "May", "June", "July", "August", "September", "October",
   "November", "December"]

/-- A number in a width, filled up with a character. -/
def filledNumber (filling : Char) (width : Nat) (n : Int) : Chars :=
  let digits := decimalChars n
  List.replicate (width - digits.length) filling ++ digits

/-- What the letter of a format stands for, if it is no short form of several others. -/
def Moment.field? (m : Moment) (nanos : Nat) (letter : Char) : Option (Char × Nat × Int) :=
  let hour : Nat := m.second / 3600
  let hour12 : Nat := if hour % 12 = 0 then 12 else hour % 12
  match letter with
  | 'Y' => some ('0', 4, m.year)
  | 'C' => some ('0', 2, m.year / 100)
  | 'y' => some ('0', 2, m.year % 100)
  | 'm' => some ('0', 2, m.month)
  | 'd' => some ('0', 2, m.day)
  | 'e' => some (' ', 2, m.day)
  | 'H' => some ('0', 2, hour)
  | 'I' => some ('0', 2, hour12)
  | 'k' => some (' ', 2, hour)
  | 'l' => some (' ', 2, hour12)
  | 'M' => some ('0', 2, (m.second / 60 % 60 : Nat))
  | 'S' => some ('0', 2, (m.second % 60 : Nat))
  | 'N' => some ('0', 9, nanos)
  | 's' => some ('0', 1, m.seconds)
  | 'j' => some ('0', 3, m.yearDay)
  | 'u' => some ('0', 1, if m.weekday = 0 then 7 else m.weekday)
  | 'w' => some ('0', 1, m.weekday)
  | 'G' => some ('0', 4, m.week.1)
  | 'g' => some ('0', 2, m.week.1 % 100)
  | 'V' => some ('0', 2, m.week.2)
  | 'U' => some ('0', 2, ((m.yearDay + 6 - m.weekday) / 7 : Nat))
  | 'W' => some ('0', 2, ((m.yearDay + 6 - (m.weekday + 6) % 7) / 7 : Nat))
  | 'q' => some ('0', 1, ((m.month + 2) / 3 : Nat))
  | _ => none

/-- The text that the letter of a format stands for. -/
def Moment.name? (m : Moment) (letter : Char) : Option String :=
  let day := dayNames.getD m.weekday ""
  let month := monthLongNames.getD (m.month - 1) ""
  let isMorning := decide (m.second < 43200)
  match letter with
  | 'a' => some (String.ofList (day.toList.take 3))
  | 'A' => some day
  | 'b' => some (String.ofList (month.toList.take 3))
  | 'h' => some (String.ofList (month.toList.take 3))
  | 'B' => some month
  | 'p' => some (if isMorning then "AM" else "PM")
  | 'P' => some (if isMorning then "am" else "pm")
  | 'Z' => some "UTC"
  | 'z' => some "+0000"
  | 'n' => some "\n"
  | 't' => some "\t"
  | '%' => some "%"
  | _ => none

/-- The format that a letter is short for. -/
def longFormat? : Char → Option String
  | 'F' => some "%Y-%m-%d"
  | 'T' => some "%H:%M:%S"
  | 'X' => some "%H:%M:%S"
  | 'R' => some "%H:%M"
  | 'r' => some "%I:%M:%S %p"
  | 'D' => some "%m/%d/%y"
  | 'x' => some "%m/%d/%y"
  | 'c' => some "%a %b %e %H:%M:%S %Y"
  | _ => none

/-- A moment as a format shows it, in at most `n` steps. -/
def Moment.format (m : Moment) (nanos : Nat) : (n : Nat) → Chars → Chars
  | 0, _ => []
  | n + 1, text =>
    match text with
    | '%' :: rest =>
      let (flags, rest) := rest.span fun c => "-_0^#:".toList.contains c
      let (digits, rest) := rest.span Char.isDigit
      match rest with
      | [] => '%' :: (flags ++ digits)
      | letter :: rest =>
        let filling (usual : Char) : Char :=
          if flags.contains '_' then ' ' else if flags.contains '0' then '0' else usual
        let width (usual : Nat) : Nat :=
          if flags.contains '-' then 0 else if digits.isEmpty then usual else baseValue 10 digits
        let shown := match m.field? nanos letter, m.name? letter, longFormat? letter with
          | some ('0', 9, value), _, _ =>
            if digits.isEmpty then filledNumber '0' 9 value
            else (filledNumber '0' 9 value).take (baseValue 10 digits)
          | some (usual, places, value), _, _ => filledNumber (filling usual) (width places) value
          | none, some name, _ =>
            let name := if letter = 'z' && flags.contains ':' then "+00:00" else name
            let name := if flags.contains '^' then name.toList.map Char.toUpper else name.toList
            List.replicate (width 0 - name.length) (filling ' ') ++ name
          | none, none, some long => m.format nanos n long.toList
          | none, none, none => '%' :: (flags ++ digits ++ [letter])
        shown ++ m.format nanos n rest
    | c :: rest => c :: m.format nanos n rest
    | [] => []

/-- The moment that a text names: seconds after an at sign, or a day with or without a time. -/
def momentOf? (text : Chars) : Option Int :=
  match text with
  | '@' :: seconds => (decimal? (seconds.takeWhile (· ≠ '.')))
  | text => do
    let parts := (text.splitBy fun a b => a.isDigit == b.isDigit)
    let numbers := (parts.filter fun p => (p.headD ' ').isDigit).map (baseValue 10)
    let joints := (parts.filter fun p => !(p.headD ' ').isDigit).map String.ofList
    let zone (rest : List String) : Bool :=
      rest = [] || rest = ["Z"] || rest = [" UTC"] || rest = [" Z"] || rest = ["UTC"]
    let isRight (month day : Nat) : Bool := 1 ≤ month && month ≤ 12 && 1 ≤ day && day ≤ 31
    match numbers, joints with
    | [year, month, day], "-" :: "-" :: rest =>
      if isRight month day && zone rest then some (daysOf year month day * 86400) else none
    | [year, month, day, hour, minute], "-" :: "-" :: _ :: ":" :: rest =>
      if isRight month day && hour < 24 && minute < 60 && zone rest then
        some (daysOf year month day * 86400 + (hour * 3600 + minute * 60 : Nat))
      else none
    | [year, month, day, hour, minute, second], "-" :: "-" :: _ :: ":" :: ":" :: rest =>
      if isRight month day && hour < 24 && minute < 60 && second < 61 && zone rest then
        some (daysOf year month day * 86400 + (hour * 3600 + minute * 60 + second : Nat))
      else none
    | _, _ => none

end Switchboard.Shell
