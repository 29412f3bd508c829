import FlowView.Calendar
import Mathlib.Algebra.BigOperators.Group.List.Basic
import Mathlib.Algebra.GroupWithZero.Nat
import Mathlib.Algebra.Order.Group.Int
import Mathlib.Algebra.Order.Group.Nat
/-!
# Days and dates

Every day has a date that the calendar has (`Date.isValid_ofDay`), the date falls on that day
(`Date.toDay_ofDay`), and later days have later dates (`Date.ofDay_lt`).
-/

namespace FlowView.Date

/-! ## Years -/

/-- A year is as long as its months. -/
theorem daysBeforeYear_succ (year : Int) :
    daysBeforeYear (year + 1) = daysBeforeYear year + (monthLengths year).sum := by
  unfold daysBeforeYear monthLengths isLeap
  simp only [List.sum_cons, List.sum_nil]
  split
  · rename_i hleap
    simp only [Bool.decide_and, Bool.decide_or, Bool.and_eq_true, Bool.or_eq_true, decide_eq_true_eq] at hleap
    omega
  · rename_i hleap
    simp only [Bool.decide_and, Bool.decide_or, Bool.and_eq_true, Bool.or_eq_true, decide_eq_true_eq] at hleap
    omega

theorem daysBeforeYear_le {a b : Int} (h : a ≤ b) : daysBeforeYear a ≤ daysBeforeYear b := by
  rcases h.eq_or_lt with rfl | hlt
  · exact le_rfl
  · unfold daysBeforeYear
    omega

/-- The guess from the mean length of a year is off by one at most. -/
theorem yearOf_bounds (days : Int) :
    daysBeforeYear (yearOf days) ≤ days ∧ days < daysBeforeYear (yearOf days + 1) := by
  have hlow : daysBeforeYear (days * 400 / 146097 - 1) ≤ days := by
    unfold daysBeforeYear
    omega
  have hhigh : days < daysBeforeYear (days * 400 / 146097 + 1 + 1) := by
    unfold daysBeforeYear
    omega
  unfold yearOf
  dsimp only
  split
  · exact ⟨‹_›, hhigh⟩
  · rename_i hnext
    split
    · rename_i hguess
      exact ⟨hlow, by rwa [Int.sub_add_cancel]⟩
    · rename_i hguess
      exact ⟨not_lt.1 hguess, not_le.1 hnext⟩

theorem yearOf_le {a b : Int} (h : a ≤ b) : yearOf a ≤ yearOf b := by
  by_contra hlt
  have hyears := daysBeforeYear_le (a := yearOf b + 1) (b := yearOf a) (by omega)
  have ha := yearOf_bounds a
  have hb := yearOf_bounds b
  omega

/-! ## Months -/

variable {lengths : List Nat} {gone : Nat}

theorem le_inMonths (month : Nat) (lengths : List Nat) (gone : Nat) :
    month ≤ (inMonths month lengths gone).1 := by
  induction lengths generalizing month gone with
  | nil => exact le_rfl
  | cons length rest ih =>
    unfold inMonths
    split
    · exact le_rfl
    · exact (Nat.le_succ month).trans (ih (month + 1) _)

/-- The days of the months before, and the day within the month. -/
theorem inMonths_spec (month : Nat) (h : gone < lengths.sum) :
    ∃ i day, inMonths month lengths gone = (month + i, day) ∧ i < lengths.length ∧
      (lengths.take i).sum + day = gone + 1 ∧ 1 ≤ day ∧ day ≤ lengths.getD i 0 := by
  induction lengths generalizing month gone with
  | nil => cases h
  | cons length rest ih =>
    unfold inMonths
    split
    · exact ⟨0, gone + 1, rfl, by simp, by simp, by omega, Nat.succ_le_of_lt ‹_›⟩
    · rename_i hlength
      have hrest : gone - length < rest.sum := by
        rw [List.sum_cons] at h
        omega
      obtain ⟨i, day, hmonths, hi, hsum, hfirst, hlast⟩ := ih (month + 1) hrest
      refine ⟨i + 1, day, ?_, by simpa using hi, ?_, hfirst, by simpa using hlast⟩
      · rw [hmonths, Nat.add_assoc, Nat.add_comm 1]
      · rw [List.take_succ_cons, List.sum_cons]
        omega

/-- More days lead to a later month, or a later day of the same one. -/
theorem inMonths_lt (month : Nat) (lengths : List Nat) {gone' : Nat} (h : gone < gone') :
    let d := inMonths month lengths gone
    let d' := inMonths month lengths gone'
    d.1 < d'.1 ∨ d.1 = d'.1 ∧ d.2 < d'.2 := by
  induction lengths generalizing month gone gone' with
  | nil => exact .inr ⟨rfl, Nat.succ_lt_succ h⟩
  | cons length rest ih =>
    unfold inMonths
    dsimp only
    by_cases hgone' : gone' < length
    · rw [if_pos hgone', if_pos (h.trans hgone')]
      exact .inr ⟨rfl, Nat.succ_lt_succ h⟩
    · rw [if_neg hgone']
      by_cases hgone : gone < length
      · rw [if_pos hgone]
        exact .inl (le_inMonths (month + 1) rest _)
      · rw [if_neg hgone]
        exact ih (month + 1) (by omega)

/-! ## Days -/

/-- The month of a day's date comes after some whole months, and the day is within it. -/
theorem ofDay_spec (day : Int) :
    ∃ i d, ofDay day = ⟨yearOf (day + epochDay), 1 + i, d⟩ ∧ i < 12 ∧
      (((monthLengths (yearOf (day + epochDay))).take i).sum + d : Nat) =
        day + epochDay - daysBeforeYear (yearOf (day + epochDay)) + 1 ∧
      1 ≤ d ∧ d ≤ (monthLengths (yearOf (day + epochDay))).getD i 0 := by
  obtain ⟨hlow, hhigh⟩ := yearOf_bounds (day + epochDay)
  rw [daysBeforeYear_succ] at hhigh
  have hgone : (day + epochDay - daysBeforeYear (yearOf (day + epochDay))).toNat <
      (monthLengths (yearOf (day + epochDay))).sum := by omega
  obtain ⟨i, d, hmonths, hi, hsum, hfirst, hlast⟩ := inMonths_spec 1 hgone
  refine ⟨i, d, ?_, hi, by omega, hfirst, hlast⟩
  unfold ofDay
  simp only [hmonths]

theorem getD_monthLengths_le (year : Int) (i : Nat) : (monthLengths year).getD i 0 ≤ 31 := by
  unfold monthLengths
  rcases i with _ | _ | _ | _ | _ | _ | _ | _ | _ | _ | _ | _ | i
  case succ.zero =>
    simp only [List.getD_cons_succ, List.getD_cons_zero]
    split <;> omega
  all_goals simp

theorem ofDay_bounds (day : Int) :
    1 ≤ (ofDay day).month ∧ (ofDay day).month ≤ 12 ∧ 1 ≤ (ofDay day).day ∧ (ofDay day).day ≤ 31 := by
  obtain ⟨i, d, hday, hi, -, hfirst, hlast⟩ := ofDay_spec day
  have hlength := getD_monthLengths_le (yearOf (day + epochDay)) i
  rw [hday]
  dsimp only
  omega

/-- The calendar has the date of every day. -/
theorem isValid_ofDay (day : Int) : (ofDay day).isValid = true := by
  obtain ⟨i, d, hday, -, -, hfirst, hlast⟩ := ofDay_spec day
  rw [hday]
  simp only [isValid, Nat.add_sub_cancel_left, decide_eq_true_eq]
  exact ⟨by omega, hfirst, hlast⟩

/-- A day's date falls on that day. -/
theorem toDay_ofDay (day : Int) : (ofDay day).toDay = day := by
  obtain ⟨i, d, hday, -, hsum, -⟩ := ofDay_spec day
  rw [hday]
  unfold toDay
  simp only [Nat.add_sub_cancel_left]
  rw [← List.sum_eq_foldl]
  omega

/-- A later day has a date of a later year, or a later month or day of the same year. -/
theorem ofDay_lt {a b : Int} (h : a < b) :
    (ofDay a).year < (ofDay b).year ∨ (ofDay a).year = (ofDay b).year ∧
      ((ofDay a).month < (ofDay b).month ∨ (ofDay a).month = (ofDay b).month ∧
        (ofDay a).day < (ofDay b).day) := by
  have hyears : yearOf (a + epochDay) ≤ yearOf (b + epochDay) := yearOf_le (by omega)
  rcases hyears.lt_or_eq with hlt | heq
  · exact .inl hlt
  · obtain ⟨hlow, -⟩ := yearOf_bounds (a + epochDay)
    have hgone : (a + epochDay - daysBeforeYear (yearOf (a + epochDay))).toNat <
        (b + epochDay - daysBeforeYear (yearOf (a + epochDay))).toNat := by omega
    have hmonths := inMonths_lt 1 (monthLengths (yearOf (a + epochDay))) hgone
    simp only [ofDay, ← heq]
    exact .inr ⟨trivial, hmonths⟩

/-- The days of the years from `a` up to `b`, which is not counted, are those whose dates lie in them. -/
theorem year_ofDay_bounds {a b day : Int} (hlow : a ≤ (ofDay day).year) (hhigh : (ofDay day).year < b) :
    daysBeforeYear a ≤ day + epochDay ∧ day + epochDay < daysBeforeYear b := by
  have hyear : (ofDay day).year = yearOf (day + epochDay) := rfl
  obtain ⟨hfrom, hto⟩ := yearOf_bounds (day + epochDay)
  have ha := daysBeforeYear_le (hyear ▸ hlow)
  have hb : daysBeforeYear (yearOf (day + epochDay) + 1) ≤ daysBeforeYear b := daysBeforeYear_le (by omega)
  omega

end FlowView.Date
