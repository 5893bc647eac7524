import ManagedQueue.Text.Decimal

namespace ManagedQueue.Calendar

structure Date where
  year : Int
  month : Nat
  day : Nat
deriving DecidableEq

/-- Years are counted from March, so that a leap day ends its year; an era is 400 years. -/
def ofDays (days : Int) : Date :=
  let shifted := days + 719468
  let era := shifted.fdiv 146097
  let dayOfEra := (shifted.fmod 146097).toNat
  let yearOfEra :=
    (dayOfEra - dayOfEra / 1460 + dayOfEra / 36524 - dayOfEra / 146096) / 365
  let dayOfYear := dayOfEra - (365 * yearOfEra + yearOfEra / 4 - yearOfEra / 100)
  let shiftedMonth := (5 * dayOfYear + 2) / 153
  let month := if shiftedMonth < 10 then shiftedMonth + 3 else shiftedMonth - 9
  { year := (yearOfEra : Int) + era * 400 + (if month ≤ 2 then 1 else 0)
    month
    day := dayOfYear - (153 * shiftedMonth + 2) / 5 + 1 }

/-- Years of 0 to 9999 have four digits, any other also a sign. -/
def yearChars (year : Int) : List Char :=
  if 0 ≤ year && year ≤ 9999 then Text.padded 4 year.toNat
  else (if year < 0 then '-' else '+') :: Text.padded 4 year.natAbs

def firstSecond : Int := -8334601228800
def lastSecond : Int := 8210266876799

def clockChars (secondOfDay : Nat) : List Char :=
  Text.padded 2 (secondOfDay / 3600) ++ ':' :: Text.padded 2 (secondOfDay / 60 % 60) ++
    ':' :: Text.padded 2 (secondOfDay % 60)

def fineClockChars (millisOfDay : Nat) : List Char :=
  clockChars (millisOfDay / 1000) ++ '.' :: Text.padded 3 (millisOfDay % 1000)

def dateChars (d : Date) : List Char :=
  yearChars d.year ++ '-' :: Text.padded 2 d.month ++ '-' :: Text.padded 2 d.day

/-- A moment outside the calendar's range is shown as its number of seconds. -/
def showTime (seconds : Int) : String :=
  if firstSecond ≤ seconds && seconds ≤ lastSecond then
    String.ofList (dateChars (ofDays (seconds.fdiv 86400)) ++
      ' ' :: clockChars (seconds.fmod 86400).toNat ++ " UTC".toList)
  else Text.showInt seconds

def stamp (mark : Char) (millis : Int) : String :=
  String.ofList (dateChars (ofDays (millis.fdiv 86400000)) ++
    mark :: fineClockChars (millis.fmod 86400000).toNat)

end ManagedQueue.Calendar
