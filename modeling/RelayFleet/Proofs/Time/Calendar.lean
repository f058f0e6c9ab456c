/-
Days are counted without gaps: the day of every number is a day of its month, and is counted as that
number (`of?_ofDays`, `toDays_ofDays`). A day is taken apart into a span of 400 years, a year of the
span, reckoned from March, and a day of that year.
-/
import RelayFleet.Time.Calendar
import Mathlib.Tactic

namespace RelayFleet.CivilDay

/-! ## Years of a span -/

/-- The days of a span of 400 years before a year of it. -/
def daysBefore (year : Int) : Int := 365 * year + year / 4 - year / 100

/-- Whether a year of a span has a day; the years whose last day is the 366th are those that end
with a leap day. -/
structure HasDay (year day : Int) : Prop where
  inSpan : 0 ≤ year ∧ year < 400
  inYear : 0 ≤ day ∧ day ≤ 365
  leap : day = 365 → year % 4 = 3 ∧ (year % 100 = 99 → year = 399)

theorem HasDay.bounds {year day : Int} (h : HasDay year day) :
    0 ≤ daysBefore year + day ∧ daysBefore year + day < eraDays := by
  obtain ⟨hyear, hday, hleap⟩ := h
  unfold daysBefore eraDays
  omega

/-- Every day of a span is one of a year of it. -/
theorem exists_hasDay {n : Int} (h0 : 0 ≤ n) (h1 : n < eraDays) :
    ∃ year day, HasDay year day ∧ n = daysBefore year + day := by
  unfold eraDays at h1
  -- a century, four years of it, and a year of those, the last ones of each a day longer
  obtain ⟨c, m, hm, hc0, hc, hm0, hm1, hlast⟩ : ∃ c m, n = 36524 * c + m ∧ 0 ≤ c ∧ c ≤ 3 ∧
      0 ≤ m ∧ m ≤ 36524 ∧ (m = 36524 → c = 3) :=
    ⟨min (n / 36524) 3, n - 36524 * min (n / 36524) 3, by omega, by omega, by omega, by omega,
      by omega, by omega⟩
  obtain ⟨q, t, ht, hq0, hq, ht0, ht1⟩ : ∃ q t, m = 1461 * q + t ∧ 0 ≤ q ∧ q ≤ 24 ∧ 0 ≤ t ∧
      t ≤ 1460 := ⟨m / 1461, m % 1461, by omega, by omega, by omega, by omega, by omega⟩
  obtain ⟨r, day, hday, hr0, hr, hday0, hday1, hleap⟩ : ∃ r day, t = 365 * r + day ∧ 0 ≤ r ∧
      r ≤ 3 ∧ 0 ≤ day ∧ day ≤ 365 ∧ (day = 365 → r = 3) :=
    ⟨min (t / 365) 3, t - 365 * min (t / 365) 3, by omega, by omega, by omega, by omega, by omega,
      by omega⟩
  refine ⟨100 * c + 4 * q + r, day, ⟨by omega, by omega, by omega⟩, ?_⟩
  have hfour : (100 * c + 4 * q + r) / 4 = 25 * c + q := by omega
  have hcentury : (100 * c + 4 * q + r) / 100 = c := by omega
  rw [daysBefore, hfour, hcentury]
  omega

/-- The year of a day is found by leaving out the leap days before it. -/
theorem HasDay.year_eq {year day : Int} (h : HasDay year day) {n : Int}
    (hn : n = daysBefore year + day) :
    (n - n / 1460 + n / 36524 - n / 146096) / 365 = year := by
  obtain ⟨hyear, hday, hleap⟩ := h
  obtain ⟨c, q, r, rfl, hc, hq, hr⟩ : ∃ c q r, year = 100 * c + 4 * q + r ∧ (0 ≤ c ∧ c ≤ 3) ∧
      (0 ≤ q ∧ q ≤ 24) ∧ 0 ≤ r ∧ r ≤ 3 :=
    ⟨year / 100, year % 100 / 4, year % 4, by omega, by omega, by omega, by omega⟩
  have hsum : n = 36524 * c + 1461 * q + 365 * r + day := by
    unfold daysBefore at hn
    omega
  have hlast : day = 365 → r = 3 ∧ (q = 24 → c = 3) := by omega
  clear hn hleap hyear
  have hcentury : n / 36524 - n / 146096 = c := by
    by_cases hend : n = 146096
    · omega
    · have hbelow : n < 36524 * c + 36524 := by omega
      have h36524 : n / 36524 = c := by omega
      have h146096 : n / 146096 = 0 := by omega
      omega
  -- the leap day of the fourth year is left out from that year on
  by_cases hfour : 24 * c + q + 365 * r + day < 1460
  · have h1460 : n / 1460 = 25 * c + q := by omega
    omega
  · have h1460 : n / 1460 = 25 * c + q + 1 := by omega
    omega

/-! ## Days -/

theorem ofDays_eq {era year day : Int} (h : HasDay year day) :
    ofDays (era * eraDays + (daysBefore year + day) - epochShift) =
      let month := (5 * day + 2) / 153
      let civilMonth := if month < 10 then month + 3 else month - 9
      ⟨if civilMonth ≤ 2 then year + era * 400 + 1 else year + era * 400, civilMonth.toNat,
        (day - (153 * month + 2) / 5 + 1).toNat⟩ := by
  have hbounds := h.bounds
  have hera : (era * eraDays + (daysBefore year + day) - epochShift + epochShift) / eraDays =
      era := by
    unfold eraDays at hbounds ⊢
    omega
  have hday : era * eraDays + (daysBefore year + day) - epochShift + epochShift - era * eraDays =
      daysBefore year + day := by ring
  have hrest : daysBefore year + day - (365 * year + year / 4 - year / 100) = day := by
    unfold daysBefore
    ring
  unfold ofDays
  dsimp only
  rw [hera, hday, h.year_eq rfl, hrest]

theorem exists_era (days : Int) : ∃ era year day, HasDay year day ∧
    days = era * eraDays + (daysBefore year + day) - epochShift := by
  have h0 : 0 ≤ (days + epochShift) % eraDays := Int.emod_nonneg _ (by decide)
  have h1 : (days + epochShift) % eraDays < eraDays := Int.emod_lt_of_pos _ (by decide)
  obtain ⟨year, day, h, hday⟩ := exists_hasDay h0 h1
  refine ⟨(days + epochShift) / eraDays, year, day, h, ?_⟩
  rw [← hday, Int.ediv_mul_add_emod, Int.add_sub_cancel]

theorem HasDay.isLeap {year day : Int} (h : HasDay year day) (hday : day = 365) (era : Int) :
    isLeap (year + era * 400 + 1) = true := by
  obtain ⟨hfour, hcentury⟩ := h.leap hday
  have hyear := h.inSpan
  unfold CivilDay.isLeap
  simp only [Bool.or_eq_true, Bool.and_eq_true, beq_iff_eq, bne_iff_ne]
  omega

/-- The day of a number is a day of its month. -/
theorem of?_ofDays (days : Int) :
    of? (ofDays days).year (ofDays days).month (ofDays days).day = some (ofDays days) := by
  obtain ⟨era, year, day, h, rfl⟩ := exists_era days
  rw [ofDays_eq h]
  have hleap := h.isLeap
  obtain ⟨-, ⟨hday0, hday⟩, -⟩ := h
  obtain ⟨month, hmonth⟩ : ∃ month, month = (5 * day + 2) / 153 := ⟨_, rfl⟩
  dsimp only
  rw [← hmonth]
  have hlow : 0 ≤ month := by omega
  unfold of?
  rw [if_pos]
  by_cases hlast : month = 11
  · -- a last day of February that is the 29th is a leap day
    subst hlast
    by_cases hend : day = 365
    · subst hend
      simp [daysIn, hleap rfl]
    · simp only [daysIn]
      simp
      split <;> omega
  · have hhigh : month ≤ 10 := by omega
    interval_cases month <;> simp [daysIn] <;> omega

theorem daysIn_le (year : Int) (month : Nat) : daysIn year month ≤ 31 := by
  unfold daysIn
  split_ifs <;> omega

theorem bounds_ofDays (days : Int) : (ofDays days).month ≤ 12 ∧ (ofDays days).day ≤ 31 := by
  have h := of?_ofDays days
  unfold of? at h
  split at h
  · rename_i hbounds
    exact ⟨hbounds.2.1, hbounds.2.2.2.trans (daysIn_le _ _)⟩
  · cases h

/-- The day of a number is counted as that number. -/
theorem toDays_ofDays (days : Int) : (ofDays days).toDays = days := by
  obtain ⟨era, year, day, h, rfl⟩ := exists_era days
  rw [ofDays_eq h]
  obtain ⟨hyear, ⟨hday0, hday⟩, -⟩ := h
  obtain ⟨month, hmonth⟩ : ∃ month, month = (5 * day + 2) / 153 := ⟨_, rfl⟩
  dsimp only
  rw [← hmonth]
  have hlow : 0 ≤ month := by omega
  have hhigh : month ≤ 11 := by omega
  unfold toDays daysBefore eraDays epochShift
  dsimp only
  interval_cases month <;> simp <;> omega

end RelayFleet.CivilDay
