import EventConsistency.Domain
import EventConsistency.Lib.FixedWidth

/-!
# Times in the order of their stamps

`strftime('%Y%m%d-%H%M%S')` writes a time with fields of a fixed width, the largest first.

* `civil_lt` : later days have later dates;
* `stamp_lt` : the stamps of later seconds sort after; `stamp_congr` : those of one second are the same.
-/

namespace EventConsistency.Datetime

open Lib

/-! ## Dates -/

/-- The year of the era of a day of the era, as in `civil`. -/
def yearOfEra (day : Nat) : Nat := (day - day / 1460 + day / 36524 - day / 146096) / 365

/-- The first day of a year of the era. -/
def firstDay (year : Nat) : Nat := 365 * year + year / 4 - year / 100

section Era

variable {day day' : Nat}

theorem yearOfEra_mono (h : day ≤ day') (bound : day' ≤ 146096) : yearOfEra day ≤ yearOfEra day' := by
  induction day', h using Nat.le_induction with
  | base => exact le_rfl
  | succ day' h ih =>
      have step : yearOfEra day' ≤ yearOfEra (day' + 1) := by
        unfold yearOfEra
        omega
      exact (ih (by omega)).trans step

/-- The years of an era begin where `firstDay` says. -/
theorem yearOfEra_firstDay : ∀ year < 400, yearOfEra (firstDay year) = year ∧
    (year ≠ 0 → yearOfEra (firstDay year - 1) = year - 1) := by
  decide +kernel

theorem yearOfEra_lt (h : day ≤ 146096) : yearOfEra day < 400 := by
  have last : yearOfEra 146096 = 399 := rfl
  have below := yearOfEra_mono h le_rfl
  omega

theorem firstDay_le (h : day ≤ 146096) : firstDay (yearOfEra day) ≤ day := by
  by_contra later
  obtain ⟨-, before⟩ := yearOfEra_firstDay _ (yearOfEra_lt h)
  have positive : yearOfEra day ≠ 0 := by
    intro zero
    rw [zero] at later
    exact later (Nat.zero_le _)
  have bound : firstDay (yearOfEra day) - 1 ≤ 146096 := by
    have year := yearOfEra_lt h
    unfold firstDay
    omega
  have mono := yearOfEra_mono (show day ≤ firstDay (yearOfEra day) - 1 by omega) bound
  rw [before positive] at mono
  omega

theorem le_firstDay_add (h : day ≤ 146096) : day ≤ firstDay (yearOfEra day) + 365 := by
  by_contra later
  have year := yearOfEra_lt h
  by_cases last : yearOfEra day = 399
  · rw [last] at later
    have start : firstDay 399 = 145731 := rfl
    omega
  · obtain ⟨next, -⟩ := yearOfEra_firstDay (yearOfEra day + 1) (by omega)
    have reached : firstDay (yearOfEra day + 1) ≤ day := by
      unfold firstDay at later ⊢
      omega
    have mono := yearOfEra_mono reached h
    rw [next] at mono
    omega

end Era

/-- One date is before another one. -/
def Before (a b : Int × Nat × Nat) : Prop :=
  a.1 < b.1 ∨ (a.1 = b.1 ∧ (a.2.1 < b.2.1 ∨ (a.2.1 = b.2.1 ∧ a.2.2 < b.2.2)))

/-- Year, month and day of a day of a year that begins in March. -/
def dateOf (year : Int) (day : Nat) : Int × Nat × Nat :=
  let mp := (5 * day + 2) / 153
  let month := if mp < 10 then mp + 3 else mp - 9
  (year + (if month ≤ 2 then 1 else 0), month, day - (153 * mp + 2) / 5 + 1)

/-- The year, from March on, and the day in it. -/
def marchYear (days : Int) : Int × Nat :=
  let z := days + 719468
  let day := (z % 146097).toNat
  (z / 146097 * 400 + yearOfEra day, day - firstDay (yearOfEra day))

theorem civil_eq (days : Int) : civil days = dateOf (marchYear days).1 (marchYear days).2 := rfl

theorem marchYear_lt {days days' : Int} (h : days < days') : (marchYear days).1 < (marchYear days').1 ∨
    ((marchYear days).1 = (marchYear days').1 ∧ (marchYear days).2 < (marchYear days').2) := by
  unfold marchYear
  simp only
  have bound : ((days + 719468) % 146097).toNat ≤ 146096 := by omega
  have bound' : ((days' + 719468) % 146097).toNat ≤ 146096 := by omega
  have year := yearOfEra_lt bound
  by_cases era : (days + 719468) / 146097 = (days' + 719468) / 146097
  · have later : ((days + 719468) % 146097).toNat < ((days' + 719468) % 146097).toNat := by omega
    have years := yearOfEra_mono later.le bound'
    have start := firstDay_le bound
    have start' := firstDay_le bound'
    rw [era]
    by_cases same : yearOfEra ((days + 719468) % 146097).toNat = yearOfEra ((days' + 719468) % 146097).toNat
    · right
      rw [same] at start ⊢
      omega
    · left
      omega
  · left
    omega

theorem marchYear_day_le (days : Int) : (marchYear days).2 ≤ 365 := by
  have high := le_firstDay_add (show ((days + 719468) % 146097).toNat ≤ 146096 by omega)
  unfold marchYear
  simp only
  omega

theorem dateOf_before {year year' : Int} {day day' : Nat} (bound : day ≤ 365) (bound' : day' ≤ 365)
    (h : year < year' ∨ (year = year' ∧ day < day')) : Before (dateOf year day) (dateOf year' day') := by
  unfold Before dateOf
  simp only
  have month : (5 * day + 2) / 153 ≤ 11 := by omega
  have month' : (5 * day' + 2) / 153 ≤ 11 := by omega
  obtain years | ⟨rfl, days⟩ := h
  · split_ifs <;> omega
  · split_ifs <;> omega

/-- Later days have later dates. -/
theorem civil_before {days days' : Int} (h : days < days') : Before (civil days) (civil days') := by
  rw [civil_eq, civil_eq]
  exact dateOf_before (marchYear_day_le days) (marchYear_day_le days') (marchYear_lt h)

theorem dateOf_bounds {day : Nat} (year : Int) (bound : day ≤ 365) :
    (dateOf year day).2.1 < 100 ∧ (dateOf year day).2.2 < 100 := by
  unfold dateOf
  simp only
  constructor
  · split_ifs <;> omega
  · omega

/-! ## Stamps -/

/-- `strftime('%Y%m%d-%H%M%S')` of a time on the clock. -/
def stamp (wall : Int) : List Nat :=
  let date := civil (wall / 86400000000)
  let seconds := (wall % 86400000000).toNat / 1000000
  fixedDigits 4 date.1.toNat ++ (fixedDigits 2 date.2.1 ++ (fixedDigits 2 date.2.2 ++
    (0x2D :: (fixedDigits 2 (seconds / 3600) ++ (fixedDigits 2 (seconds / 60 % 60) ++ fixedDigits 2 (seconds % 60))))))

theorem length_stamp (wall : Int) : (stamp wall).length = 15 := by
  simp [stamp]

/-- A time that a `datetime` can have. -/
def InRange (wall : Int) : Prop := -62135596800000000 ≤ wall ∧ wall < 253402300800000000

theorem InRange.year {wall : Int} (h : InRange wall) :
    0 ≤ (civil (wall / 86400000000)).1 ∧ (civil (wall / 86400000000)).1 < 10000 := by
  obtain ⟨low, high⟩ := h
  have first : civil (-719162) = (1, 1, 1) := rfl
  have last : civil 2932896 = (9999, 12, 31) := rfl
  constructor
  · obtain same | later := (show -719162 ≤ wall / 86400000000 by omega).eq_or_lt
    · rw [← same, first]
      decide
    · have before := civil_before later
      rw [first] at before
      unfold Before at before
      simp only at before
      omega
  · obtain same | earlier := (show wall / 86400000000 ≤ 2932896 by omega).eq_or_lt
    · rw [same, last]
      decide
    · have before := civil_before earlier
      rw [last] at before
      unfold Before at before
      simp only at before
      omega

/-- Hours, minutes and seconds of a day. -/
theorem clock_lt {seconds seconds' : Nat} (h : seconds < seconds') (bound : seconds' < 86400) :
    fixedDigits 2 (seconds / 3600) ++ (fixedDigits 2 (seconds / 60 % 60) ++ fixedDigits 2 (seconds % 60)) <
      fixedDigits 2 (seconds' / 3600) ++ (fixedDigits 2 (seconds' / 60 % 60) ++ fixedDigits 2 (seconds' % 60)) := by
  refine fixedDigits_append_lt (by omega) ?_
  by_cases hour : seconds / 3600 = seconds' / 3600
  · refine .inr ⟨hour, fixedDigits_append_lt (by omega) ?_⟩
    by_cases minute : seconds / 60 % 60 = seconds' / 60 % 60
    · exact .inr ⟨minute, fixedDigits_lt (by omega) (by omega)⟩
    · exact .inl (by omega)
  · exact .inl (by omega)

/-- The times of one second have one stamp. -/
theorem stamp_congr {wall wall' : Int} (h : wall / 1000000 = wall' / 1000000) : stamp wall = stamp wall' := by
  have day : wall / 86400000000 = wall' / 86400000000 := by omega
  have second : (wall % 86400000000).toNat / 1000000 = (wall' % 86400000000).toNat / 1000000 := by omega
  unfold stamp
  rw [day, second]

/-- The stamps of later seconds sort after. -/
theorem stamp_lt {wall wall' : Int} (h : wall / 1000000 < wall' / 1000000) (range : InRange wall)
    (range' : InRange wall') : stamp wall < stamp wall' := by
  unfold stamp
  simp only
  by_cases day : wall / 86400000000 = wall' / 86400000000
  · have later : (wall % 86400000000).toNat / 1000000 < (wall' % 86400000000).toNat / 1000000 := by omega
    have bound : (wall' % 86400000000).toNat / 1000000 < 86400 := by omega
    rw [day]
    refine List.append_left_lt (List.append_left_lt (List.append_left_lt ?_))
    rw [List.cons_lt_cons_iff]
    exact .inr ⟨rfl, clock_lt later bound⟩
  · have earlier : wall / 86400000000 < wall' / 86400000000 := by omega
    have year := range.year
    have year' := range'.year
    have date := dateOf_bounds (marchYear (wall' / 86400000000)).1 (marchYear_day_le (wall' / 86400000000))
    rw [← civil_eq] at date
    obtain years | ⟨years, months | ⟨months, days⟩⟩ := civil_before earlier
    · exact fixedDigits_append_lt (by omega) (.inl (by omega))
    · rw [years]
      exact List.append_left_lt (fixedDigits_append_lt (by omega) (.inl months))
    · rw [years, months]
      exact List.append_left_lt (List.append_left_lt (fixedDigits_append_lt (by omega) (.inl days)))

end EventConsistency.Datetime
