import Mathlib.Data.Int.Basic
import Mathlib.Data.List.Basic
import Std.Data.String.ToInt

/-!
# The calendar of JavaScript

Time values are milliseconds since the epoch, in days of equal length; years,
months and days are those of the proleptic Gregorian calendar.
-/

namespace EvoPlatform
namespace Calendar

def msPerDay : Int := 86400000

/-- The last time value that a `Date` holds. -/
def maxTime : Int := 8640000000000000

/-- The time value of a `Date`, which is invalid beyond the last ones. -/
def timeClip (time : Int) : Option Int :=
  if -maxTime ≤ time ∧ time ≤ maxTime then some time else none

/-! ## Days and years -/

/-- The day of a time value, counted from the epoch. -/
def day (time : Int) : Int := time / msPerDay

/-- The first day of a year. -/
def dayFromYear (year : Int) : Int :=
  365 * (year - 1970) + (year - 1969) / 4 - (year - 1901) / 100 +
    (year - 1601) / 400

/-- The year of a day: that of its share in 400 years, or one next to it. -/
def yearFromDay (day : Int) : Int :=
  let year := 1970 + day * 400 / 146097
  if day < dayFromYear year then year - 1
  else if dayFromYear (year + 1) ≤ day then year + 1
  else year

theorem dayFromYear_mono {earlier later : Int} (inOrder : earlier ≤ later) :
    dayFromYear earlier ≤ dayFromYear later := by
  unfold dayFromYear
  omega

/-- The days of a year are those from its first to the first of the next. -/
theorem yearFromDay_eq_iff (day year : Int) :
    yearFromDay day = year ↔
      dayFromYear year ≤ day ∧ day < dayFromYear (year + 1) := by
  have within : dayFromYear (yearFromDay day) ≤ day ∧
      day < dayFromYear (yearFromDay day + 1) := by
    have notBefore : dayFromYear (1970 + day * 400 / 146097 - 1) ≤ day := by
      unfold dayFromYear
      omega
    have notAfter : day < dayFromYear (1970 + day * 400 / 146097 + 1 + 1) := by
      unfold dayFromYear
      omega
    unfold yearFromDay
    dsimp only
    split
    · rename_i before
      rw [Int.sub_add_cancel]
      exact ⟨notBefore, before⟩
    · split
      · rename_i after
        exact ⟨after, notAfter⟩
      · rename_i notEarlier notLater
        exact ⟨Int.not_lt.mp notEarlier, Int.not_le.mp notLater⟩
  constructor
  · rintro rfl
    exact within
  · rintro ⟨notBefore, before⟩
    rcases Int.lt_trichotomy (yearFromDay day) year with
      earlier | same | later
    · have order := dayFromYear_mono (Int.add_one_le_of_lt earlier)
      omega
    · exact same
    · have order := dayFromYear_mono (Int.add_one_le_of_lt later)
      omega

/-- Do days fall on the 29th of February? -/
def inLeapYear (year : Int) : Bool :=
  dayFromYear (year + 1) - dayFromYear year = 366

/-- The days of a year before each of its months. -/
def monthStarts (year : Int) : List Int :=
  let leap := if inLeapYear year then 1 else 0
  [0, 31, 59 + leap, 90 + leap, 120 + leap, 151 + leap, 181 + leap, 212 + leap,
    243 + leap, 273 + leap, 304 + leap, 334 + leap]

/-- `getUTCFullYear()`. -/
def getUTCFullYear (time : Int) : Int := yearFromDay (day time)

/-- The time values of a year. -/
theorem getUTCFullYear_eq_iff (time year : Int) :
    getUTCFullYear time = year ↔
      dayFromYear year * msPerDay ≤ time ∧
        time < dayFromYear (year + 1) * msPerDay := by
  rw [getUTCFullYear, yearFromDay_eq_iff, day]
  unfold msPerDay
  omega

/-- The day within its year, from zero. -/
def dayWithinYear (time : Int) : Int :=
  day time - dayFromYear (getUTCFullYear time)

/-- `getUTCMonth()`, from zero. -/
def getUTCMonth (time : Int) : Nat :=
  (monthStarts (getUTCFullYear time)).tail.countP
    fun start => start ≤ dayWithinYear time

theorem getUTCMonth_lt (time : Int) : getUTCMonth time < 12 :=
  Nat.lt_succ_of_le List.countP_le_length

/-- `getUTCDate()`. -/
def getUTCDate (time : Int) : Int :=
  let start := (monthStarts (getUTCFullYear time)).getD (getUTCMonth time) 0
  dayWithinYear time - start + 1

/-- `Date.UTC(year, 0, 1)`: the years up to 99 are those of the last century. -/
def firstOfYear (year : Int) : Int :=
  dayFromYear (if 0 ≤ year ∧ year ≤ 99 then 1900 + year else year) * msPerDay

/-! ## Texts -/

/-- `text.padStart(width, '0')`. -/
def padStart (width : Nat) (text : String) : String :=
  String.ofList (List.replicate (width - text.length) '0') ++ text

/-- A count with at least so many digits. -/
def digits (width : Nat) (count : Int) : String :=
  padStart width (toString count.toNat)

/-- The year in `toISOString()`. -/
def isoYear (year : Int) : String :=
  if 0 ≤ year ∧ year ≤ 9999 then digits 4 year
  else if year < 0 then "-" ++ digits 6 (-year)
  else "+" ++ digits 6 year

/-- `toISOString()`. -/
def toISOString (time : Int) : String :=
  isoYear (getUTCFullYear time) ++ "-" ++
    digits 2 (getUTCMonth time + 1) ++ "-" ++ digits 2 (getUTCDate time) ++
    "T" ++ digits 2 (time / 3600000 % 24) ++ ":" ++
    digits 2 (time / 60000 % 60) ++ ":" ++ digits 2 (time / 1000 % 60) ++ "." ++
    digits 3 (time % 1000) ++ "Z"

theorem isDigit_of_mem_toString {count : Nat} {char : Char}
    (present : char ∈ (toString count).toList) : char.isDigit = true := by
  rw [Nat.toString_eq_ofList_toDigits, String.toList_ofList] at present
  exact Nat.isDigit_of_mem_toDigits (by decide) (by decide) present

theorem isDigit_of_mem_digits {width : Nat} {count : Int} {char : Char}
    (present : char ∈ (digits width count).toList) : char.isDigit = true := by
  rw [digits, padStart, String.toList_append, String.toList_ofList,
    List.mem_append] at present
  rcases present with isZero | isDigit
  · rw [List.eq_of_mem_replicate isZero]
    decide
  · exact isDigit_of_mem_toString isDigit

/-- The characters of `toISOString()`. -/
def isIsoChar (char : Char) : Bool :=
  char.isDigit || ['+', '-', 'T', ':', '.', 'Z'].contains char

theorem all_digits (width : Nat) (count : Int) :
    (digits width count).toList.all isIsoChar = true := by
  rw [List.all_eq_true]
  intro char present
  rw [isIsoChar, isDigit_of_mem_digits present, Bool.true_or]

theorem all_isoYear (year : Int) :
    (isoYear year).toList.all isIsoChar = true := by
  have minus : "-".toList.all isIsoChar = true := by decide +kernel
  have plus : "+".toList.all isIsoChar = true := by decide +kernel
  unfold isoYear
  split
  · exact all_digits 4 year
  · split
    · rw [String.toList_append, List.all_append, minus, all_digits,
        Bool.and_true]
    · rw [String.toList_append, List.all_append, plus, all_digits,
        Bool.and_true]

theorem all_toISOString (time : Int) :
    (toISOString time).toList.all isIsoChar = true := by
  have marks : ∀ mark ∈ ["-", "T", ":", ".", "Z"],
      mark.toList.all isIsoChar = true := by decide +kernel
  simp only [List.forall_mem_cons] at marks
  obtain ⟨dash, t, colon, dot, z, -⟩ := marks
  simp only [toISOString, String.toList_append, List.all_append, all_digits,
    all_isoYear, dash, t, colon, dot, z, Bool.and_true]

/-- A time in a text begins with its year, and has a mark that no number has. -/
theorem exists_toISOString (time : Int) :
    ∃ rest, 'T' ∈ rest ∧ (toISOString time).toList =
      (isoYear (getUTCFullYear time)).toList ++ rest := by
  simp only [toISOString, String.toList_append, List.append_assoc]
  refine ⟨_, ?_, rfl⟩
  simp

theorem digits_ne_nil (width : Nat) (count : Int) :
    (digits width count).toList ≠ [] := by
  rw [digits, padStart, String.toList_append, ne_eq, List.append_eq_nil_iff,
    not_and]
  intro _
  rw [Nat.toString_eq_ofList_toDigits, String.toList_ofList]
  exact Nat.toDigits_ne_nil

example : toISOString 1709210096007 = "2024-02-29T12:34:56.007Z" := by
  decide +kernel

end Calendar
end EvoPlatform
