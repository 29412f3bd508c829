import FlowView.Proofs.Calendar
import FlowView.Proofs.Millis
import Mathlib.Data.String.Basic
/-!
# The order of dates as texts

Tables compare instants by their texts. In the years of four digits an earlier instant has the smaller text
(`Instant.text_lt`), whatever fraction it has: the numbers stand in columns of fixed width, and what ends a
shorter fraction comes before every digit. A leap second must be the last of its minute for that.
-/

namespace FlowView.Instant

variable {x y t : Instant}

/-! ## Instants in order -/

/-- One instant is earlier than another. -/
def Before (x y : Instant) : Prop := x.seconds < y.seconds ∨ x.seconds = y.seconds ∧ x.nanos < y.nanos

theorem before_trichotomy (x y : Instant) : x.Before y ∨ x = y ∨ y.Before x := by
  unfold Before
  rcases lt_trichotomy x.seconds y.seconds with hlt | heq | hgt
  · exact .inl (.inl hlt)
  · rcases lt_trichotomy x.nanos y.nanos with hlt | heq' | hgt
    · exact .inl (.inr ⟨heq, hlt⟩)
    · refine .inr (.inl ?_)
      cases x
      cases y
      cases heq
      cases heq'
      rfl
    · exact .inr (.inr (.inr ⟨heq.symm, hgt⟩))
  · exact .inr (.inr (.inl hgt))

/-- The date in UTC. -/
def utcDate (t : Instant) : Date := .ofDay (t.seconds / secondsPerDay)

/-- The year is one of those with four digits. -/
def PlainYear (t : Instant) : Prop := 0 ≤ t.utcDate.year ∧ t.utcDate.year ≤ 9999

/-! ## Fractions -/

/-- What follows the fraction of a stored date. -/
def utcOffset : List Char := ['+', '0', '0', ':', '0', '0']

/-- A fraction that is there has the digits that are nine with some zeros behind them. -/
theorem fractionText_eq {n : Nat} (hpos : n ≠ 0) :
    ∃ w k : Nat, w + k = 9 ∧ 0 < w ∧ n % 10 ^ k = 0 ∧ fractionText n = '.' :: padded w (n / 10 ^ k) := by
  unfold fractionText
  rw [if_neg hpos]
  split
  · exact ⟨3, 6, rfl, by decide, ‹_›, rfl⟩
  · split
    · exact ⟨6, 3, rfl, by decide, ‹_›, rfl⟩
    · exact ⟨9, 0, rfl, by decide, Nat.mod_one n, by rw [Nat.pow_zero, Nat.div_one]⟩

/-- The greater fraction has the greater text. -/
theorem fractionText_lt {m n : Nat} (h : m < n) (hn : n < 1000000000) :
    fractionText m ++ utcOffset < fractionText n ++ utcOffset := by
  have hplus (c : Char) (hc : c.isDigit = true) (cs : List Char) : utcOffset < c :: cs := by
    have hdigit := isDigit_iff.1 hc
    exact List.cons_lt_cons_iff.2 (.inl (show '+'.toNat < c.toNat by rw [show '+'.toNat = 43 from rfl]; omega))
  obtain ⟨w', k', hw', hpos', hdvd', hn'⟩ := fractionText_eq (n := n) (by omega)
  rw [hn', List.cons_append]
  rcases Nat.eq_zero_or_pos m with rfl | hm
  · exact List.cons_lt_cons_iff.2 (.inl (by decide))
  · obtain ⟨w, k, hw, hpos, hdvd, hm'⟩ := fractionText_eq (n := m) (by omega)
    have hvalue {w k n : Nat} (hw : w + k = 9) (hpos : 0 < w) (hdvd : n % 10 ^ k = 0) (hn : n < 1000000000) :
        (padded w (n / 10 ^ k)).length = w ∧ Nat.ofDigitChars 10 (padded w (n / 10 ^ k)) 0 * 10 ^ k = n := by
      refine ⟨length_padded hpos (Nat.div_lt_of_lt_mul ?_), ?_⟩
      · rwa [← Nat.pow_add, Nat.add_comm, hw]
      · rw [ofDigitChars_padded]
        exact Nat.div_mul_cancel (Nat.dvd_of_mod_eq_zero hdvd)
    obtain ⟨hlength, hvalue₁⟩ := hvalue hw hpos hdvd (h.trans hn)
    obtain ⟨hlength', hvalue₂⟩ := hvalue hw' hpos' hdvd' hn
    rw [hm', List.cons_append]
    refine List.cons_lt_cons_iff.2 (.inr ⟨rfl, ?_⟩)
    refine digits_lt (by rw [hlength, hlength', hw, hw']) (fun _ => isDigit_padded) (fun _ => isDigit_padded) ?_
      (fun _ => hplus) utcOffset
    rwa [hvalue₁, hvalue₂]

/-! ## Whole texts -/

/-- The columns of a stored date, each with its width and what follows it. -/
def columns : List (Nat × List Char) := [(4, ['-']), (2, ['-']), (2, ['T']), (2, [':']), (2, [':']), (2, [])]

/-- What stands in the columns. -/
def numbers (t : Instant) : List Nat := [t.utcDate.year.toNat, t.utcDate.month, t.utcDate.day,
  t.secondOfDay / 3600, t.secondOfDay / 60 % 60, t.secondOfDay % 60 + t.nanos / nanosPerSecond]

theorem chars_eq (h : t.PlainYear) :
    t.chars = filled columns t.numbers (fractionText (t.nanos % nanosPerSecond) ++ utcOffset) := by
  have hyear : yearText (Date.ofDay (t.seconds / secondsPerDay)).year =
      padded 4 (Date.ofDay (t.seconds / secondsPerDay)).year.toNat := if_pos h
  simp [chars, hyear, columns, numbers, filled, utcDate, utcOffset]

theorem secondOfDay_lt (t : Instant) : t.secondOfDay < 86400 := by
  simp only [secondOfDay, secondsPerDay]
  omega

theorem numbers_fit (h : t.PlainYear) : Fits columns t.numbers := by
  obtain ⟨hlow, hhigh⟩ := h
  obtain ⟨-, hmonth, -, hday⟩ : 1 ≤ t.utcDate.month ∧ t.utcDate.month ≤ 12 ∧ 1 ≤ t.utcDate.day ∧ t.utcDate.day ≤ 31 :=
    Date.ofDay_bounds _
  have htime := t.secondOfDay_lt
  have hnanos := t.nanos_lt
  have hsecond : t.nanos / nanosPerSecond < 2 := Nat.div_lt_of_lt_mul hnanos
  refine .cons ⟨by decide, ?_⟩ (.cons ⟨by decide, ?_⟩ (.cons ⟨by decide, ?_⟩ (.cons ⟨by decide, ?_⟩
    (.cons ⟨by decide, ?_⟩ (.cons ⟨by decide, ?_⟩ .nil)))))
  all_goals
    dsimp only
    omega

theorem numbers_lt_of_date (h : x.utcDate.year.toNat < y.utcDate.year.toNat ∨
      x.utcDate.year = y.utcDate.year ∧ (x.utcDate.month < y.utcDate.month ∨
        x.utcDate.month = y.utcDate.month ∧ x.utcDate.day < y.utcDate.day)) :
    x.numbers < y.numbers := by
  unfold numbers
  rcases h with hyear | ⟨hyear, hmonth | ⟨hmonth, hday⟩⟩
  · exact List.cons_lt_cons_iff.2 (.inl hyear)
  · rw [hyear]
    exact List.cons_lt_cons_iff.2 (.inr ⟨rfl, List.cons_lt_cons_iff.2 (.inl hmonth)⟩)
  · rw [hyear, hmonth]
    exact List.cons_lt_cons_iff.2 (.inr ⟨rfl, List.cons_lt_cons_iff.2 (.inr ⟨rfl,
      List.cons_lt_cons_iff.2 (.inl hday)⟩)⟩)

/-- Of one day the numbers of the earlier second are smaller. A leap second is the sixtieth of its minute, so
it has to be the last for that. -/
theorem numbers_lt_of_time (hdate : x.utcDate = y.utcDate) (hregular : x.Regular)
    (h : x.secondOfDay < y.secondOfDay) : x.numbers < y.numbers := by
  have hleap : x.nanos / nanosPerSecond = 0 ∨ x.nanos / nanosPerSecond = 1 ∧ x.secondOfDay % 60 = 59 := by
    rcases Nat.lt_or_ge x.nanos nanosPerSecond with hless | hle
    · exact .inl (Nat.div_eq_of_lt hless)
    · have hlast := hregular (decide_eq_true hle)
      have hnanos := x.nanos_lt
      refine .inr ⟨Nat.div_eq_of_lt_le (by rwa [Nat.one_mul]) hnanos, ?_⟩
      simp only [secondOfDay, secondsPerDay]
      omega
  simp only [numbers, hdate, List.cons_lt_cons_iff, lt_self_iff_false, false_or, true_and]
  generalize y.nanos / nanosPerSecond = leap
  omega

/-- Of the numbers of two instants the first that differs is smaller for the earlier one, or only the fractions
differ. -/
theorem numbers_lt (hx : x.PlainYear) (hregular : x.Regular) (h : x.Before y) :
    x.numbers < y.numbers ∨
      x.numbers = y.numbers ∧ x.nanos % nanosPerSecond < y.nanos % nanosPerSecond := by
  rcases h with hseconds | ⟨hseconds, hlt⟩
  · left
    have hdays : x.seconds / secondsPerDay ≤ y.seconds / secondsPerDay :=
      Int.ediv_le_ediv (by decide) hseconds.le
    rcases hdays.lt_or_eq with hless | hsame
    · have hlow := hx.1
      have hdate := Date.ofDay_lt hless
      rw [← utcDate, ← utcDate] at hdate
      exact numbers_lt_of_date (hdate.imp_left fun hyear => by omega)
    · refine numbers_lt_of_time (congrArg Date.ofDay hsame) hregular ?_
      simp only [secondOfDay, secondsPerDay] at hsame ⊢
      omega
  · have hdate : x.utcDate = y.utcDate := by rw [utcDate, hseconds, utcDate]
    have htime : x.secondOfDay = y.secondOfDay := by rw [secondOfDay, hseconds, secondOfDay]
    have hwhole : x.nanos / nanosPerSecond ≤ y.nanos / nanosPerSecond := Nat.div_le_div_right hlt.le
    rcases hwhole.lt_or_eq with hless | hsame
    · simp only [numbers, hdate, htime, List.cons_lt_cons_iff, lt_self_iff_false, false_or, true_and]
      exact .inl (.inl (Nat.add_lt_add_left hless _))
    · refine .inr ⟨by simp only [numbers, hdate, htime, hsame], ?_⟩
      have hx := Nat.div_add_mod x.nanos nanosPerSecond
      have hy := Nat.div_add_mod y.nanos nanosPerSecond
      rw [hsame] at hx
      omega

/-- In the years of four digits an earlier instant has the smaller text. -/
theorem text_lt (hx : x.PlainYear) (hy : y.PlainYear) (hregular : x.Regular) (h : x.Before y) :
    x.text < y.text := by
  rw [String.lt_iff_toList_lt, text, text, String.toList_ofList, String.toList_ofList, chars_eq hx, chars_eq hy]
  rcases numbers_lt hx hregular h with hlt | ⟨heq, hlt⟩
  · exact filled_lt (numbers_fit hx) (numbers_fit hy) hlt _ _
  · rw [heq]
    exact filled_same_lt _ _ (fractionText_lt hlt (Nat.mod_lt _ (by decide)))

end FlowView.Instant
