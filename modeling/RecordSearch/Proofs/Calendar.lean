import Mathlib.Algebra.Ring.Int.Defs
import Mathlib.Tactic.Common
import Mathlib.Tactic.IntervalCases
import RecordSearch.Timestamp

/-! The calendar behind timestamps. A calendar is told by its next day: the day after within a
month, else the first of the next month, else the first of the next year, with leap years by the
rules of the Gregorian calendar for all years. The closed formula for the days since 1970-01-01
grows by one from each day to the next, and all days are connected, so it counts days in both
directions. Computed in words of 64 bits it never leaves their range. -/
namespace RecordSearch

/-- Every fourth year is a leap year, but of the full centuries only every fourth. -/
def isLeap (year : Int) : Bool := year % 4 == 0 && (year % 100 != 0 || year % 400 == 0)

def monthLength (year : Int) : Nat → Nat
  | 2 => if isLeap year then 29 else 28
  | 4 | 6 | 9 | 11 => 30
  | _ => 31

lemma monthLength_pos (year : Int) (month : Nat) : 1 ≤ monthLength year month := by
  rw [monthLength.eq_def]
  split
  · split_ifs <;> decide
  all_goals decide

/-- A day of the calendar. -/
@[ext] structure Date where
  year : Int
  month : Nat
  day : Nat
  month_pos : 1 ≤ month
  month_le : month ≤ 12
  day_pos : 1 ≤ day
  day_le : day ≤ monthLength year month

namespace Date

def epoch : Date := ⟨1970,1,1,by decide,by decide,by decide,by decide⟩

/-- The first day of a month. -/
def first (year : Int) (month : Nat) (pos : 1 ≤ month) (le : month ≤ 12) : Date :=
  ⟨year,month,1,pos,le,le_rfl,monthLength_pos year month⟩

/-- The day after. -/
def next (d : Date) : Date :=
  if h : d.day < monthLength d.year d.month then
    { d with day := d.day+1, day_pos := Nat.le_add_left _ _, day_le := h }
  else if h : d.month < 12 then first d.year (d.month+1) (Nat.le_add_left _ _) h
  else first (d.year+1) 1 le_rfl (by decide)

/-- The words that a date is written with. -/
structure WrittenAs (d : Date) (year : Int32) (month day : UInt32) : Prop where
  year : d.year = year.toInt
  month : d.month = month.toNat
  day : d.day = day.toNat

/-- What the next day can be. -/
lemma next_cases (d : Date) :
    (d.next.year = d.year ∧ d.next.month = d.month ∧ d.next.day = d.day+1) ∨
    (d.day = monthLength d.year d.month ∧ d.month < 12 ∧
      d.next.year = d.year ∧ d.next.month = d.month+1 ∧ d.next.day = 1) ∨
    (d.day = monthLength d.year d.month ∧ d.month = 12 ∧
      d.next.year = d.year+1 ∧ d.next.month = 1 ∧ d.next.day = 1) := by
  have hday := d.day_le
  have hmonth := d.month_le
  rw [next]
  split_ifs with h h'
  · exact .inl ⟨rfl,rfl,rfl⟩
  · exact .inr (.inl ⟨by omega,h',rfl,rfl,rfl⟩)
  · exact .inr (.inr ⟨by omega,by omega,rfl,rfl,rfl⟩)

/-- The second day is `n` days after the first, or before it by as many if `n` is negative. -/
inductive DaysTo (c : Date) : Int → Date → Prop
  | same : DaysTo c 0 c
  | next {n d} (h : DaysTo c n d) : DaysTo c (n+1) d.next
  | back {n d} (h : DaysTo c n d.next) : DaysTo c (n-1) d

namespace DaysTo
variable {c d e : Date} {m n : Int}

lemma trans (h : DaysTo c m d) (h' : DaysTo d n e) : DaysTo c (m+n) e := by
  induction h' with
  | same => rwa [Int.add_zero]
  | next _ ih => rw [← Int.add_assoc]; exact ih.next
  | back _ ih => rw [← Int.add_sub_assoc]; exact ih.back

lemma symm (h : DaysTo c n d) : DaysTo d (-n) c := by
  induction h with
  | same => exact .same
  | @next n d _ ih =>
    have hback : DaysTo d.next (0-1) d := .back .same
    convert hback.trans ih using 1
    omega
  | @back n d _ ih =>
    have hnext : DaysTo d (0+1) d.next := .next .same
    convert hnext.trans ih using 1
    omega

end DaysTo

/-- Days that are some number of days apart. -/
def Linked (c d : Date) : Prop := ∃ n, DaysTo c n d

namespace Linked

lemma refl (c : Date) : Linked c c := ⟨0,.same⟩

lemma symm {c d : Date} : Linked c d → Linked d c
  | ⟨_,h⟩ => ⟨_,h.symm⟩

lemma trans {c d e : Date} : Linked c d → Linked d e → Linked c e
  | ⟨_,h⟩,⟨_,h'⟩ => ⟨_,h.trans h'⟩

lemma next {c d : Date} : Linked c d → Linked c d.next
  | ⟨_,h⟩ => ⟨_,h.next⟩

end Linked

section
variable (year : Int) {month : Nat} (pos : 1 ≤ month) (le : month ≤ 12)

lemma linked_day {day : Nat} (day_pos : 1 ≤ day) (day_le : day ≤ monthLength year month) :
    Linked (first year month pos le) ⟨year,month,day,pos,le,day_pos,day_le⟩ := by
  induction day,day_pos using Nat.le_induction with
  | base => exact .refl _
  | succ day day_pos ih =>
    have hlast := (ih (by omega)).next
    rwa [Date.next,dif_pos (show day < _ from day_le)] at hlast

/-- The last day of a month is linked to the first. -/
lemma linked_last : Linked (first year month pos le)
    ⟨year,month,monthLength year month,pos,le,monthLength_pos year month,le_rfl⟩ :=
  linked_day year pos le _ _

lemma linked_month : Linked (first year 1 le_rfl (by decide)) (first year month pos le) := by
  induction month,pos using Nat.le_induction with
  | base => exact .refl _
  | succ month pos ih =>
    have hlast := ((ih (by omega)).trans (linked_last year pos (by omega))).next
    rwa [Date.next,dif_neg (Nat.lt_irrefl _),dif_pos (show month < 12 from le)] at hlast

end

lemma linked_year (year : Int) :
    Linked (first year 1 le_rfl (by decide)) (first (year+1) 1 le_rfl (by decide)) := by
  have hlast := (linked_month year (by decide : 1 ≤ 12) le_rfl).trans (linked_last year _ _)
  have hnext := hlast.next
  rwa [Date.next,dif_neg (Nat.lt_irrefl _),dif_neg (Nat.lt_irrefl _)] at hnext

/-- All days are connected. -/
theorem linked_epoch (d : Date) : Linked epoch d := by
  have years : ∀ year, Linked epoch (first year 1 le_rfl (by decide)) := by
    intro year
    induction year using Int.inductionOn' (b := 1970) with
    | zero => exact .refl _
    | succ year _ ih => exact ih.trans (linked_year year)
    | pred year _ ih =>
      have hyear := linked_year (year-1)
      rw [Int.sub_add_cancel] at hyear
      exact ih.trans hyear.symm
  exact (years d.year).trans ((linked_month d.year d.month_pos d.month_le).trans
    (linked_day d.year d.month_pos d.month_le d.day_pos d.day_le))

end Date

namespace Timestamp
open Date

/-- The days before the March of a year, counted from the March of year 0. -/
def marchDays (year : Int) : Int := 365*year + year/4 - year/100 + year/400

/-- Within an era the formula counts from its first year, and eras all have the same length. -/
lemma daysSinceEpoch_eq (year month day : Int) : daysSinceEpoch year month day =
    marchDays (marchYear year month) + dayOfYear month day - 719468 := by
  simp only [daysSinceEpoch,dayOfEra,yearOfEra,era,marchDays]
  omega

/-- From March to March there are as many days as the year of the second March has. -/
lemma marchDays_sub (year : Int) :
    marchDays year - marchDays (year-1) = if isLeap year then 366 else 365 := by
  simp only [marchDays,isLeap,Bool.and_eq_true,Bool.or_eq_true,beq_iff_eq,bne_iff_ne]
  split_ifs <;> omega

lemma daysSinceEpoch_day (year month day : Int) :
    daysSinceEpoch year month day = daysSinceEpoch year month 1 + (day-1) := by
  simp only [daysSinceEpoch_eq,dayOfYear]
  omega

lemma daysSinceEpoch_month (year : Int) {month : Nat} (pos : 1 ≤ month) (lt : month < 12) :
    daysSinceEpoch year (month+1 : Nat) 1 =
      daysSinceEpoch year month 1 + monthLength year month := by
  have hleap := marchDays_sub year
  simp only [daysSinceEpoch_eq,dayOfYear,marchYear,marchMonth]
  -- Only the end of February is the end of a year that starts in March.
  interval_cases month <;> simp [monthLength]
  case «2» => split_ifs at hleap ⊢ <;> omega
  all_goals omega

lemma daysSinceEpoch_year (year : Int) :
    daysSinceEpoch (year+1) 1 1 = daysSinceEpoch year 12 1 + 31 := by
  simp [daysSinceEpoch_eq,dayOfYear,marchYear,marchMonth]
  omega

/-- What the formula gives for a day of the calendar. -/
def days (d : Date) : Int := daysSinceEpoch d.year d.month d.day

/-- The formula grows by one from a day to the next. -/
theorem days_next (d : Date) : days d.next = days d + 1 := by
  have hday := daysSinceEpoch_day d.year d.month d.day
  obtain ⟨hy,hm,hd⟩ | ⟨hlast,lt,hy,hm,hd⟩ | ⟨hlast,hdec,hy,hm,hd⟩ := d.next_cases
  · rw [days,days,hy,hm,hd,daysSinceEpoch_day,hday]
    omega
  · rw [days,days,hy,hm,hd,hday]
    have hmonth := daysSinceEpoch_month d.year d.month_pos lt
    rw [Nat.cast_one]
    omega
  · rw [days,days,hy,hm,hd,hday]
    have hyear := daysSinceEpoch_year d.year
    have hlen : monthLength d.year 12 = 31 := rfl
    rw [hdec] at hlast ⊢
    push_cast
    omega

theorem days_of_daysTo {c d : Date} {n : Int} (h : c.DaysTo n d) : days d = days c + n := by
  induction h with
  | same => exact (Int.add_zero _).symm
  | next _ ih => rw [days_next,ih,Int.add_assoc]
  | back _ ih => rw [days_next] at ih; omega

/-- The formula counts the days from 1970-01-01, backwards for the days before it. -/
theorem daysTo_epoch_iff (d : Date) (n : Int) : epoch.DaysTo n d ↔ days d = n := by
  have hepoch : days epoch = 0 := by decide
  constructor
  · intro h
    rw [days_of_daysTo h,hepoch,Int.zero_add]
  · rintro rfl
    obtain ⟨n,h⟩ := linked_epoch d
    rwa [days_of_daysTo h,hepoch,Int.zero_add]

/-- The nearest of the integers that words of 64 bits can hold. -/
def saturate (n : Int) : Int := max (-2^63) (min n (2^63-1))

lemma toInt_ofIntClamp (n : Int) : (Int64.ofIntClamp n).toInt = saturate n := by
  have hmin : Int64.minValue.toInt = -2^63 := rfl
  have hmax : Int64.maxValue.toInt = 2^63-1 := rfl
  rw [Int64.ofIntClamp,saturate]
  split_ifs with hl hr
  · rw [Int64.toInt_ofIntLE]
    omega
  · omega
  · omega

/-! ### Computing in words -/

/-- The result of one operation on words of 64 bits, if it is in their range. -/
def word? (n : Int) : Option Int := if -2^63 ≤ n ∧ n < 2^63 then some n else none

/-- The era of a year, by division toward zero. -/
def era? (year : Int) : Option Int := do
  let dividend ← (if 0 ≤ year then some year else word? (year-399))
  word? (dividend.tdiv 400)

def dayOfYear? (month day : Int) : Option Int := do
  let month ← (if 2 < month then word? (month-3) else word? (month+9))
  let days ← word? (153*month)
  let days ← word? (days+2)
  let days ← word? (days.tdiv 5)
  let days ← word? (days+day)
  word? (days-1)

def dayOfEra? (yearOfEra dayOfYear : Int) : Option Int := do
  let days ← word? (yearOfEra*365)
  let days ← word? (days + (← word? (yearOfEra.tdiv 4)))
  let days ← word? (days - (← word? (yearOfEra.tdiv 100)))
  word? (days+dayOfYear)

/-- The days from 1970-01-01 to a date, with each operation on words of 64 bits. -/
def daysInWords? (year : Int32) (month day : UInt32) : Option Int := do
  let year ← word? (year.toInt - if month ≤ 2 then 1 else 0)
  let era ← era? year
  let yearOfEra ← word? (year - (← word? (era*400)))
  let dayOfEra ← dayOfEra? yearOfEra (← dayOfYear? month.toNat day.toNat)
  let days ← word? ((← word? (era*146097)) + dayOfEra)
  word? (days-719468)

lemma word?_eq {n : Int} (h : -2^63 ≤ n ∧ n < 2^63) : word? n = some n := if_pos h

/-- Division toward zero is corrected below zero. -/
lemma era?_eq {year : Int} (h : -2^32 ≤ year ∧ year < 2^32) : era? year = some (year/400) := by
  rw [era?]
  split_ifs with hyear
  · simp (disch := omega) only [Option.bind_eq_bind,Option.bind_some,Int.tdiv_eq_ediv_of_nonneg,
      word?_eq]
  · have hdiv : (year-399).tdiv 400 = -((399-year)/400) := by
      rw [← Int.tdiv_eq_ediv_of_nonneg (by omega),← Int.neg_tdiv,Int.neg_sub]
    simp (disch := omega) only [Option.bind_eq_bind,Option.bind_some,word?_eq,hdiv]
    congr 1
    omega

lemma dayOfYear?_eq {month day : Int} (hm : 0 ≤ month ∧ month < 2^32)
    (hd : 0 ≤ day ∧ day < 2^32) : dayOfYear? month day = some (dayOfYear month day) := by
  have hshift : (if 2 < month then word? (month-3) else word? (month+9)) =
      some (marchMonth month) := by
    rw [marchMonth]
    split_ifs
    · exact word?_eq (by omega)
    · exact word?_eq (by omega)
  have hmarch : 0 ≤ marchMonth month ∧ marchMonth month < 2^32 := by
    rw [marchMonth]
    split_ifs <;> omega
  rw [dayOfYear?,hshift,dayOfYear]
  simp (disch := omega) only [Option.bind_eq_bind,Option.bind_some,Int.tdiv_eq_ediv_of_nonneg,
    word?_eq]

lemma dayOfEra?_eq {year day : Int} (hy : 0 ≤ year ∧ year < 400) (hd : -2^40 ≤ day ∧ day < 2^40) :
    dayOfEra? year day = some (year*365 + year/4 - year/100 + day) := by
  rw [dayOfEra?]
  simp (disch := omega) only [Option.bind_eq_bind,Option.bind_some,Int.tdiv_eq_ediv_of_nonneg,
    word?_eq]

/-- No operation leaves the range of words, and together they compute the formula. -/
theorem daysInWords?_eq (year : Int32) (month day : UInt32) : daysInWords? year month day =
    some (daysSinceEpoch year.toInt month.toNat day.toNat) := by
  have hyear := year.le_toInt
  have hyear' := year.toInt_lt
  have hmonth := month.toNat_lt
  have hday := day.toNat_lt
  have hmarch : year.toInt - (if month ≤ 2 then 1 else 0) =
      marchYear year.toInt month.toNat := by
    have hle : month ≤ 2 ↔ (month.toNat : Int) ≤ 2 := by
      rw [UInt32.le_iff_toNat_le]
      exact Int.ofNat_le.symm
    simp only [marchYear,hle]
    split_ifs <;> omega
  have hbound : -2^32 ≤ marchYear year.toInt month.toNat ∧
      marchYear year.toInt month.toNat < 2^32 := by
    rw [← hmarch]
    split_ifs <;> omega
  have hof : -2^40 ≤ dayOfYear month.toNat day.toNat ∧ dayOfYear month.toNat day.toNat < 2^40 := by
    rw [dayOfYear,marchMonth]
    split_ifs <;> omega
  simp only [daysInWords?,hmarch,daysSinceEpoch,dayOfEra,yearOfEra,era]
  generalize marchYear year.toInt month.toNat = y at *
  simp (disch := omega) only [Option.bind_eq_bind,Option.bind_some,word?_eq,era?_eq,
    dayOfYear?_eq,dayOfEra?_eq]
  congr 1
  omega

lemma toInt_ofDate (year : Int32) (month day : UInt32) : (ofDate year month day).millis.toInt =
    saturate (daysSinceEpoch year.toInt month.toNat day.toNat*86400000) := toInt_ofIntClamp _

lemma toInt_ofDate_of_writtenAs {d : Date} {year : Int32} {month day : UInt32}
    (h : d.WrittenAs year month day) :
    (ofDate year month day).millis.toInt = saturate (days d*86400000) := by
  rw [toInt_ofDate,days,h.year,h.month,h.day]

/-- Timestamps of dates count the days of the proleptic Gregorian calendar from 1970-01-01, in
milliseconds and forwards and backwards alike, up to the ends of the range of timestamps: the next
day is one day later as long as neither end is reached. For any words, also such as are no date,
only the conversion to milliseconds can leave the range of words, and it saturates. -/
theorem ofDate_calendar :
    ofDate 1970 1 1 = ⟨0⟩ ∧
    (∀ (d : Date) (year : Int32) (month day : UInt32), d.WrittenAs year month day →
      (∃ n, epoch.DaysTo n d) ∧ ∀ n, epoch.DaysTo n d →
        (ofDate year month day).millis.toInt = saturate (n*86400000)) ∧
    (∀ (d : Date) (year year' : Int32) (month day month' day' : UInt32),
      d.WrittenAs year month day → d.next.WrittenAs year' month' day' →
      let millis := (ofDate year month day).millis.toInt
      let millis' := (ofDate year' month' day').millis.toInt
      millis ≠ -2^63 → millis' ≠ 2^63-1 → millis' = millis+86400000) ∧
    ∀ (year : Int32) (month day : UInt32), ∃ days, daysInWords? year month day = some days ∧
      (ofDate year month day).millis.toInt = saturate (days*86400000) := by
  refine ⟨by decide,?_,?_,?_⟩
  · intro d year month day writes
    refine ⟨linked_epoch d,?_⟩
    intro n h
    rw [toInt_ofDate_of_writtenAs writes,(daysTo_epoch_iff d n).1 h]
  · intro d year year' month day month' day' writes writes' millis millis' hmin hmax
    have hmillis : millis = saturate (days d*86400000) := toInt_ofDate_of_writtenAs writes
    have hmillis' : millis' = saturate (days d.next*86400000) := toInt_ofDate_of_writtenAs writes'
    rw [days_next] at hmillis'
    rw [saturate] at hmillis hmillis'
    omega
  · intro year month day
    exact ⟨_,daysInWords?_eq year month day,toInt_ofDate year month day⟩

/-- The year 0 is a leap year. -/
theorem ofDate_calendar_leapDay :
    let d : Date := ⟨0,2,29,by decide,by decide,by decide,by decide⟩
    d.WrittenAs 0 2 29 ∧ d.next.WrittenAs 0 3 1 ∧ epoch.DaysTo (-719469) d ∧
    (ofDate 0 2 29).millis.toInt = saturate (-719469*86400000) ∧
    (ofDate 0 3 1).millis.toInt = (ofDate 0 2 29).millis.toInt+86400000 := by
  intro d
  obtain ⟨-,hcount,hnext,-⟩ := ofDate_calendar
  have writes : d.WrittenAs 0 2 29 := ⟨rfl,rfl,rfl⟩
  have writes' : d.next.WrittenAs 0 3 1 := ⟨rfl,rfl,rfl⟩
  have hdays : epoch.DaysTo (-719469) d := (daysTo_epoch_iff _ _).2 (by decide)
  exact ⟨writes,writes',hdays,(hcount d 0 2 29 writes).2 _ hdays,
    hnext d 0 0 2 29 3 1 writes writes' (by decide) (by decide)⟩

end Timestamp
end RecordSearch
