import Interview.Text.Digit

/-!
# Dates and moments

Days of the Gregorian calendar from the year 1 to the year 9999, and moments on such a day with an
optional distance from universal time. Each has two written forms: the plain one, which the `text`
functions give, and the one with its parts named, which is used inside lists.
-/

namespace Interview.Calendar

/-- A day, not necessarily one of the calendar. -/
structure Day where
  year : Nat
  month : Nat
  day : Nat
deriving DecidableEq, Repr

/-- A time of day on a day. The distance from universal time, if known, is in minutes. -/
structure Moment where
  day : Day
  hour : Nat
  minute : Nat
  second : Nat
  microsecond : Nat
  offset : Option Int
deriving DecidableEq, Repr

def isLeap (year : Nat) : Bool :=
  year % 4 == 0 && (year % 100 != 0 || year % 400 == 0)

/-- The number of days of a month. -/
def monthLength (year month : Nat) : Nat :=
  match month with
  | 2 => if isLeap year then 29 else 28
  | 4 | 6 | 9 | 11 => 30
  | _ => 31

/-- Whether the day exists. -/
def Day.exists (d : Day) : Bool :=
  1 ≤ d.year && d.year ≤ 9999 && 1 ≤ d.month && d.month ≤ 12 && 1 ≤ d.day &&
    d.day ≤ monthLength d.year d.month

/-- Whether the moment exists: its day does, its time is below twenty-four hours, and so is its
distance from universal time. -/
def Moment.exists (m : Moment) : Bool :=
  m.day.exists && m.hour < 24 && m.minute < 60 && m.second < 60 && m.microsecond < 1000000 &&
    (m.offset.all fun offset => offset.natAbs < 24 * 60)

/-- A number with at least `width` digits. -/
def padded (width n : Nat) : String :=
  .ofList (Text.decimalPadded width n)

/-- Year, month and day, separated by hyphens. -/
def Day.text (d : Day) : String :=
  padded 4 d.year ++ "-" ++ padded 2 d.month ++ "-" ++ padded 2 d.day

/-- A distance from universal time as hours and minutes with a sign. -/
def offsetText (offset : Int) : String :=
  (if offset < 0 then "-" else "+") ++ padded 2 (offset.natAbs / 60) ++ ":" ++
    padded 2 (offset.natAbs % 60)

/-- The day, the time, its fraction if there is one, and the distance from universal time. -/
def Moment.text (m : Moment) : String :=
  m.day.text ++ " " ++ padded 2 m.hour ++ ":" ++ padded 2 m.minute ++ ":" ++ padded 2 m.second ++
    (if m.microsecond = 0 then "" else "." ++ padded 6 m.microsecond) ++
    (m.offset.map offsetText).getD ""

/-- The day with its parts named. -/
def Day.named (d : Day) : String :=
  "datetime.date(" ++ toString d.year ++ ", " ++ toString d.month ++ ", " ++ toString d.day ++ ")"

/-- A distance from universal time with its parts named: whole days, which are negative to the
west, and the seconds beyond them. -/
def offsetNamed (offset : Int) : String :=
  if offset = 0 then "datetime.timezone.utc"
  else
    let days := offset / (24 * 60)
    let seconds := offset % (24 * 60) * 60
    "datetime.timezone(datetime.timedelta(" ++
      (if days = 0 then "" else "days=" ++ toString days) ++
      (if days ≠ 0 ∧ seconds ≠ 0 then ", " else "") ++
      (if seconds = 0 then "" else "seconds=" ++ toString seconds) ++ "))"

/-- The moment with its parts named; seconds and microseconds are left out when they and all that
follows them are zero. -/
def Moment.named (m : Moment) : String :=
  "datetime.datetime(" ++
    ", ".intercalate
      (([m.day.year, m.day.month, m.day.day, m.hour, m.minute].map toString) ++
        (if m.second = 0 ∧ m.microsecond = 0 then [] else [toString m.second]) ++
        (if m.microsecond = 0 then [] else [toString m.microsecond]) ++
        (m.offset.map fun offset => "tzinfo=" ++ offsetNamed offset).toList) ++ ")"

/-- The number of days before a day, counted from the first day of the year 1. -/
def Day.ordinal (d : Day) : Nat :=
  let before := d.year - 1
  before * 365 + before / 4 - before / 100 + before / 400 +
    ((List.range (d.month - 1)).map fun month => monthLength d.year (month + 1)).foldl (· + ·) 0 +
      d.day

/-- Whether two moments are the same: both have a known distance from universal time and denote one
instant, or neither has and they read alike. -/
def Moment.same (m n : Moment) : Bool :=
  match m.offset, n.offset with
  | some mOffset, some nOffset =>
    let minutes (m : Moment) (offset : Int) : Int :=
      ((m.day.ordinal * 24 + m.hour) * 60 + m.minute : Nat) - offset
    minutes m mOffset == minutes n nOffset && m.second == n.second &&
      m.microsecond == n.microsecond
  | none, none => decide (m = n)
  | _, _ => false

end Interview.Calendar
