import CommandConsole.Calendar

/-!
# Names of dump files

A dump without a name of its own is called after the clock: year, day and month, then hour, minute
and second, in this order. Years from 0 to 9999 have four digits; any other year has a sign and at
least four.
-/
namespace CommandConsole.DumpName

/-- A number with zeros in front of it up to a width. -/
def padded (width n : Nat) : List Char :=
  let digits := Nat.toDigits 10 n
  List.replicate (width - digits.length) '0' ++ digits

/-- A year, signed where four digits do not hold it. -/
def yearDigits (year : Int) : List Char :=
  if 0 ≤ year ∧ year ≤ 9999 then padded 4 year.toNat
  else (if year < 0 then '-' else '+') :: padded 4 year.natAbs

/-- The part of the name that tells the moment. -/
def stamp (now : DateTime) : List Char :=
  yearDigits now.date.year ++ '-' :: padded 2 now.date.day ++ '-' :: padded 2 now.date.month ++
    '-' :: '-' :: padded 2 now.time.hour ++ '-' :: padded 2 now.time.minute ++
    '-' :: padded 2 now.time.shownSecond

/-- The name of a dump made now. -/
def byDefault (now : DateTime) : String :=
  "consoledump_" ++ String.ofList (stamp now) ++ ".txt"

end CommandConsole.DumpName
