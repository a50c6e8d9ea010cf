/-! Points in time as milliseconds since 1970-01-01, and the calendar day they start. -/
namespace RecordSearch

structure Timestamp where
  millis : Int64
  deriving DecidableEq, Repr

namespace Timestamp

/-- Years start in March here, so that a leap day comes last. -/
def marchYear (year month : Int) : Int := if month ≤ 2 then year - 1 else year

/-- Months since March. -/
def marchMonth (month : Int) : Int := if 2 < month then month - 3 else month + 9

/-- Days since the first of March, where months have 31, 30, 31, 30 and 31 days twice over. -/
def dayOfYear (month day : Int) : Int := (153 * marchMonth month + 2) / 5 + day - 1

/-- The Gregorian calendar repeats after 400 years. -/
def era (year month : Int) : Int := marchYear year month / 400

def yearOfEra (year month : Int) : Int := marchYear year month - 400 * era year month

def dayOfEra (year month day : Int) : Int :=
  let y := yearOfEra year month
  y * 365 + y / 4 - y / 100 + dayOfYear month day

/-- Days from 1970-01-01 to a date of the proleptic Gregorian calendar. -/
def daysSinceEpoch (year month day : Int) : Int :=
  era year month * 146097 + dayOfEra year month day - 719468

def millisPerDay : Int := 86400000

/-- The start of a day; a date out of range gives the nearest point in time there is. -/
def ofDate (year : Int32) (month day : UInt32) : Timestamp :=
  ⟨.ofIntClamp (daysSinceEpoch year.toInt month.toNat day.toNat * millisPerDay)⟩

def ofMillis (n : Int64) : Timestamp := ⟨n⟩

/-- Seconds out of range give the nearest point in time there is. -/
def ofSeconds (n : Int64) : Timestamp := ⟨.ofIntClamp (n.toInt * 1000)⟩

/-- Whole seconds, rounded toward the epoch. -/
def seconds (t : Timestamp) : Int64 := .ofInt (t.millis.toInt.tdiv 1000)

def compare (a b : Timestamp) : Ordering := Ord.compare a.millis b.millis

example : ofDate 1970 1 1 = ⟨0⟩ := by decide
example : (ofDate 2000 3 1).seconds = 951868800 := by decide
example : (ofDate 1969 12 31).seconds = -86400 := by decide
example : ofDate 2147483647 12 31 = ⟨9223372036854775807⟩ := by decide

end Timestamp
end RecordSearch
