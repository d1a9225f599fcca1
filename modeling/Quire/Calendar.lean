/-! Calendar dates, times of day and moments, with their written forms. Years
run from 1 to 9999. A moment may carry an offset from universal time, and two
moments with offsets are the same when they name the same instant. -/

namespace Quire

structure Date where
  year : Nat
  month : Nat
  day : Nat
  deriving DecidableEq, Repr, Inhabited

structure TimeOfDay where
  hour : Nat
  minute : Nat
  second : Nat
  micro : Nat
  deriving DecidableEq, Repr, Inhabited

/-- The offset is in seconds. -/
structure Moment where
  date : Date
  time : TimeOfDay
  offset : Option Int
  deriving DecidableEq, Repr, Inhabited

/-- Which part of a written date or time is out of range. -/
inductive CalendarError
  | year (value : Nat)
  | month
  | day
  | hour
  | minute
  | second
  | offset (seconds : Int)
  deriving DecidableEq, Repr

/-- Decimal digits of `n`, zeros in front up to `width`. -/
def padded (width n : Nat) : String :=
  let digits := Nat.toDigits 10 n
  String.ofList (List.replicate (width - digits.length) '0' ++ digits)

/-- A length of time in whole days and the seconds left over. -/
def spanText (seconds : Int) : String :=
  let days := seconds / 86400
  let rest := seconds % 86400
  let parts := (if days = 0 then [] else ["days=" ++ toString days]) ++
    (if rest = 0 then [] else ["seconds=" ++ toString rest])
  "datetime.timedelta(" ++ (if parts = [] then "0" else ", ".intercalate parts) ++ ")"

def CalendarError.message : CalendarError → String
  | .year value => "year " ++ toString value ++ " is out of range"
  | .month => "month must be in 1..12"
  | .day => "day is out of range for month"
  | .hour => "hour must be in 0..23"
  | .minute => "minute must be in 0..59"
  | .second => "second must be in 0..59"
  | .offset seconds =>
    "offset must be a timedelta strictly between -timedelta(hours=24) and timedelta(hours=24), not "
      ++ spanText seconds ++ "."

def isLeap (year : Nat) : Bool := year % 4 = 0 && (year % 100 != 0 || year % 400 = 0)

def daysInMonth (year month : Nat) : Nat :=
  if month = 2 then if isLeap year then 29 else 28
  else if month = 4 ∨ month = 6 ∨ month = 9 ∨ month = 11 then 30
  else 31

namespace Date

def of? (year month day : Nat) : Except CalendarError Date :=
  if year < 1 ∨ 9999 < year then .error (.year year)
  else if month < 1 ∨ 12 < month then .error .month
  else if day < 1 ∨ daysInMonth year month < day then .error .day
  else .ok ⟨year, month, day⟩

theorem of?_ok_day_le {y m d : Nat} {t : Date} (h : of? y m d = .ok t) :
    1 ≤ t.day ∧ t.day ≤ daysInMonth t.year t.month := by
  unfold of? at h
  split at h
  · cases h
  · split at h
    · cases h
    · split at h
      · cases h
      · cases h
        simp only
        omega

def text (d : Date) : String :=
  padded 4 d.year ++ "-" ++ padded 2 d.month ++ "-" ++ padded 2 d.day

/-- Days since the first day of year 1, counted from one. -/
def ordinal (d : Date) : Nat :=
  let y := d.year - 1
  let before := y * 365 + y / 4 - y / 100 + y / 400
  let months := List.range (d.month - 1)
  before + months.foldl (fun days m => days + daysInMonth d.year (m + 1)) 0 + d.day

end Date

namespace TimeOfDay

def of? (hour minute second micro : Nat) : Except CalendarError TimeOfDay :=
  if 23 < hour then .error .hour
  else if 59 < minute then .error .minute
  else if 59 < second then .error .second
  else .ok ⟨hour, minute, second, micro⟩

def text (t : TimeOfDay) : String :=
  padded 2 t.hour ++ ":" ++ padded 2 t.minute ++ ":" ++ padded 2 t.second ++
    (if t.micro = 0 then "" else "." ++ padded 6 t.micro)

def micros (t : TimeOfDay) : Nat :=
  ((t.hour * 60 + t.minute) * 60 + t.second) * 1000000 + t.micro

end TimeOfDay

/-- Whether `seconds` can be an offset from universal time. -/
def checkOffset (seconds : Int) : Except CalendarError Int :=
  if seconds.natAbs < 86400 then .ok seconds else .error (.offset seconds)

namespace Moment

def offsetText (seconds : Int) : String :=
  let n := seconds.natAbs
  (if seconds < 0 then "-" else "+") ++ padded 2 (n / 3600) ++ ":" ++ padded 2 (n / 60 % 60) ++
    (if n % 60 = 0 then "" else ":" ++ padded 2 (n % 60))

def textWith (separator : String) (m : Moment) : String :=
  m.date.text ++ separator ++ m.time.text ++ (m.offset.map offsetText).getD ""

def text (m : Moment) : String := textWith " " m

/-- Microseconds on the universal clock, for a moment with an offset. -/
def instant? (m : Moment) : Option Int :=
  m.offset.map fun o => ((m.date.ordinal * 86400000000 + m.time.micros : Nat) : Int) - o * 1000000

/-- With offsets the instants count, without them the written fields. -/
def same (a b : Moment) : Bool :=
  match a.instant?, b.instant? with
  | some x, some y => x = y
  | none, none => a.date = b.date && a.time = b.time
  | _, _ => false

theorem same_refl (m : Moment) : m.same m = true := by
  unfold same
  cases m.instant? <;> simp

theorem same_comm (a b : Moment) : a.same b = b.same a := by
  unfold same
  cases a.instant? <;> cases b.instant? <;> simp [eq_comm]

end Moment
end Quire
