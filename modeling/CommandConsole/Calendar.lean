/-!
# Dates and times of day

The calendar is the Gregorian one, carried on in both directions; the year 0 exists and negative
years lie before it. A second that lasts for two, as a leap second does, is held with a second or
more of nanoseconds; it may be any second of any minute, but a time made from numbers has it at the
end of a minute only. Dates and times that do not exist cannot be written down: validity is part of
the types.
-/
namespace CommandConsole

/-- A leap year is divisible by four and, at the turn of a century, by four hundred. -/
def isLeapYear (year : Int) : Bool := year % 4 == 0 && (year % 100 != 0 || year % 400 == 0)

/-- The number of days of a month. -/
def daysInMonth (year : Int) (month : Nat) : Nat :=
  if month == 2 then if isLeapYear year then 29 else 28
  else if month == 4 || month == 6 || month == 9 || month == 11 then 30
  else 31

/-- A day of the calendar. -/
structure Date where
  year : Int
  month : Nat
  day : Nat
  /-- The calendar covers the years from -262143 to 262142. -/
  year_covered : -262143 ≤ year ∧ year ≤ 262142
  month_exists : 1 ≤ month ∧ month ≤ 12
  day_exists : 1 ≤ day ∧ day ≤ daysInMonth year month

/-- The day with these numbers, if there is one. -/
def Date.of? (year : Int) (month day : Nat) : Option Date :=
  if hy : -262143 ≤ year ∧ year ≤ 262142 then
    if hm : 1 ≤ month ∧ month ≤ 12 then
      if hd : 1 ≤ day ∧ day ≤ daysInMonth year month then some ⟨year, month, day, hy, hm, hd⟩
      else none
    else none
  else none

/-- A time of day. -/
structure TimeOfDay where
  hour : Nat
  minute : Nat
  second : Nat
  nanosecond : Nat
  hour_exists : hour < 24
  minute_exists : minute < 60
  second_exists : second < 60
  /-- A second may last for two. -/
  nanosecond_exists : nanosecond < 2000000000

/-- The time with these numbers, if there is one; here only the second 59 may last for two. -/
def TimeOfDay.of? (hour minute second nanosecond : Nat) : Option TimeOfDay :=
  if hh : hour < 24 then
    if hm : minute < 60 then
      if hs : second < 60 then
        if hn : nanosecond < 1000000000 ∨ second = 59 ∧ nanosecond < 2000000000 then
          some ⟨hour, minute, second, nanosecond, hh, hm, hs, by omega⟩
        else none
      else none
    else none
  else none

/-- The second that a clock shows; once a second has lasted for one it shows the next, and so 60 in
a leap second. -/
def TimeOfDay.shownSecond (time : TimeOfDay) : Nat :=
  time.second + time.nanosecond / 1000000000

/-- A reading of the clock. -/
structure DateTime where
  date : Date
  time : TimeOfDay

/-- The moment from which clocks count, 1970-01-01 at midnight. -/
def DateTime.epoch : DateTime where
  date := ⟨1970, 1, 1, by decide, by decide, by decide⟩
  time := ⟨0, 0, 0, 0, by decide, by decide, by decide, by decide⟩

end CommandConsole
