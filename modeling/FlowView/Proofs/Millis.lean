import FlowView.Proofs.Padding
import Mathlib.Algebra.Order.BigOperators.Group.List
import Mathlib.Data.List.TakeWhile
/-!
# The whole milliseconds of an instant

A date is written as the count of its whole milliseconds. The count of a date that was read, from a count or
from a text, names an instant again: texts name no year beyond 9999, so that a leap second, which counts as
the second after, does not leave the calendar (`Instant.inMillis?_of_ofText`). A leap second that was read is
the last of its minute (`Instant.regular_of_ofText`).
-/

namespace FlowView

/-! ## Steps that do not fail -/

theorem bind_eq_ok {ε α β : Type} {x : Except ε α} {f : α → Except ε β} {b : β} :
    (x >>= f) = .ok b ↔ ∃ a, x = .ok a ∧ f a = .ok b := by
  cases x with
  | error e => exact ⟨nofun, nofun⟩
  | ok a => exact ⟨fun h => ⟨a, rfl, h⟩, fun ⟨_, ha, hb⟩ => by cases ha; exact hb⟩

/-- What is refused under a condition succeeds without it. -/
theorem refuse_eq_ok {ε α β : Type} {c : Prop} [Decidable c] {e : ε} {f : α → Except ε β}
    {x : Except ε β} {b : β} : (if c then .error e >>= f else x) = .ok b ↔ ¬c ∧ x = .ok b := by
  by_cases h : c
  · simp only [h, if_true, not_true, false_and, iff_false]
    exact nofun
  · simp [h]

/-! ## Days of four-digit years -/

theorem Date.toDay_le {d : Date} (hyear : 0 ≤ d.year ∧ d.year ≤ 9999) (hday : d.day ≤ 99) :
    d.toDay ≤ 3000000 := by
  have hmonths : ((monthLengths d.year).take (d.month - 1)).foldl (· + ·) 0 ≤ 366 := by
    rw [← List.sum_eq_foldl]
    calc ((monthLengths d.year).take (d.month - 1)).sum
        ≤ (monthLengths d.year).sum :=
          (List.take_sublist _ _).sum_le_sum fun _ _ => Nat.zero_le _
      _ ≤ 366 := by
          unfold monthLengths
          split <;> decide
  unfold toDay daysBeforeYear epochDay
  dsimp only
  omega

namespace Instant

/-! ## Counting and naming -/

/-- The instant of the whole milliseconds up to an instant, if they name one. -/
def inMillis? (t : Instant) : Option Instant := ofMillis? t.millis

variable {t t' : Instant} {n : Int}

theorem ofSeconds?_eq_some {seconds : Int} {nanos : Nat} (h : ofSeconds? seconds nanos = some t) :
    t.seconds = seconds ∧ t.nanos = nanos := by
  unfold ofSeconds? at h
  split at h
  · cases h
    exact ⟨rfl, rfl⟩
  · cases h

theorem millis_of_ofMillis? (h : ofMillis? n = some t) : t.millis = n := by
  obtain ⟨hseconds, hnanos⟩ := ofSeconds?_eq_some h
  rw [millis, hseconds, hnanos]
  omega

theorem millis_inMillis? (h : t.inMillis? = some t') : t'.millis = t.millis := millis_of_ofMillis? h

/-- A count of milliseconds names the same instant when it is counted again. -/
theorem inMillis?_of_ofMillis? (h : ofMillis? n = some t) : t.inMillis? = some t := by
  rw [inMillis?, millis_of_ofMillis? h, h]

/-- Before the last second of the calendar even a leap second has a count that names an instant. -/
theorem inMillis?_isSome (h : t.seconds < 8210266876799) : t.inMillis?.isSome = true := by
  have hnanos := t.nanos_lt
  have hlow := t.low
  have hmillis : -8334601228800 ≤ t.millis / 1000 ∧ t.millis / 1000 ≤ 8210266876799 := by
    unfold millis
    omega
  unfold inMillis? ofMillis? ofSeconds?
  rw [dif_pos ⟨by omega, hmillis⟩]
  rfl

/-- An instant of whole milliseconds that is no leap second is the one that its count names. -/
theorem inMillis?_whole (hwhole : t.nanos % 1000000 = 0) (hleap : t.isLeapSecond = false) :
    t.inMillis? = some t := by
  have hnanos : t.nanos < 1000000000 := not_le.1 (of_decide_eq_false hleap)
  have hseconds : t.millis / 1000 = t.seconds := by
    unfold millis
    omega
  have hrest : (t.millis % 1000).toNat * 1000000 = t.nanos := by
    unfold millis
    omega
  unfold inMillis? ofMillis? ofSeconds?
  rw [hseconds, hrest, dif_pos ⟨t.nanos_lt, t.low, t.high⟩]

/-- No count of milliseconds needs more than 64 bits. -/
theorem millis_le (t : Instant) : t.millis ≤ Int64.maxValue.toInt := by
  have hhigh := t.high
  have hnanos := t.nanos_lt
  have hmax : Int64.maxValue.toInt = 9223372036854775807 := by decide
  unfold millis
  omega

/-! ## Dates that are read -/

theorem digit?_le {c : Char} {d : Nat} (h : digit? c = some d) : d ≤ 9 := by
  unfold digit? at h
  split at h
  · rename_i hdigit
    cases h
    have hle := (isDigit_iff.1 hdigit).2
    show c.toNat - 48 ≤ 9
    omega
  · cases h

/-- A number of so many digits, read behind a number. -/
theorem number_lt {k m r : Nat} {cs rest : List Char} (h : number k m cs = .ok (r, rest)) :
    r < (m + 1) * 10 ^ k := by
  induction k generalizing m cs with
  | zero =>
    cases h
    omega
  | succ k ih =>
    cases cs with
    | nil => cases h
    | cons c cs =>
      rw [number] at h
      cases hd : digit? c with
      | none => simp [hd] at h
      | some d =>
        simp only [hd] at h
        have hr := ih h
        have hle := digit?_le hd
        calc r < (m * 10 + d + 1) * 10 ^ k := hr
          _ ≤ ((m + 1) * 10) * 10 ^ k := Nat.mul_le_mul_right _ (by omega)
          _ = (m + 1) * 10 ^ (k + 1) := by rw [Nat.pow_succ, Nat.mul_assoc, Nat.mul_comm 10]

theorem date_bounds {cs rest : List Char} {d : Date} (h : date cs = .ok (d, rest)) :
    (0 ≤ d.year ∧ d.year ≤ 9999) ∧ d.day ≤ 99 := by
  unfold date at h
  simp only [bind_eq_ok, Prod.exists] at h
  obtain ⟨year, _, hyear, _, _, -, month, _, -, _, _, -, day, _, hday, hvalid⟩ := h
  have hyear := number_lt hyear
  have hday := number_lt hday
  split at hvalid
  · cases hvalid
    dsimp only
    omega
  · cases hvalid

/-- A text that is a date has the parts that the instant is made of: the date, the time of day, the fraction and
how far local time is ahead. -/
theorem ofText_parts {text : String} (h : ofText text = .ok t) :
    ∃ (d : Date) (hour minute second nanos : Nat) (ahead : Int),
      (∃ rest, date text.toList = .ok (d, rest)) ∧ (∃ cs rest, fraction cs = .ok (nanos, rest)) ∧
      (∃ cs rest, offset cs = .ok (ahead, rest)) ∧ ¬(23 < hour ∨ 59 < minute ∨ 60 < second) ∧
      ¬86400 ≤ ahead.natAbs ∧ ofLocal? d hour minute second nanos ahead = some t := by
  obtain ⟨-, h⟩ := refuse_eq_ok.1 h
  obtain ⟨⟨d, _⟩, hdate, h⟩ := bind_eq_ok.1 h
  obtain ⟨⟨⟨⟩, _⟩, -, h⟩ := bind_eq_ok.1 h
  obtain ⟨⟨⟨hour, minute, second⟩, _⟩, -, h⟩ := bind_eq_ok.1 h
  obtain ⟨⟨nanos, _⟩, hfraction, h⟩ := bind_eq_ok.1 h
  obtain ⟨hclock, h⟩ := refuse_eq_ok.1 h
  obtain ⟨⟨ahead, _⟩, hoffset, h⟩ := bind_eq_ok.1 h
  obtain ⟨-, h⟩ := refuse_eq_ok.1 h
  obtain ⟨hahead, h⟩ := refuse_eq_ok.1 h
  split at h
  · rename_i t' ht
    cases h
    exact ⟨d, hour, minute, second, nanos, ahead, ⟨_, hdate⟩, ⟨_, _, hfraction⟩, ⟨_, _, hoffset⟩, hclock,
      hahead, ht⟩
  · cases h

/-- The count of a date that was read from a text names an instant. -/
theorem inMillis?_of_ofText {text : String} (h : ofText text = .ok t) : t.inMillis?.isSome = true := by
  obtain ⟨d, hour, minute, second, nanos, ahead, ⟨_, hdate⟩, -, -, hclock, hahead, ht⟩ := ofText_parts h
  obtain ⟨hyear, hday⟩ := date_bounds hdate
  have hd := Date.toDay_le hyear hday
  obtain ⟨hseconds, -⟩ := ofSeconds?_eq_some ht
  apply inMillis?_isSome
  have hdays : (secondsPerDay : Int) = 86400 := rfl
  rw [hseconds, hdays]
  omega

/-! ## Leap seconds -/

/-- A leap second is the last of its minute. -/
def Regular (t : Instant) : Prop := t.isLeapSecond = true → t.seconds % 60 = 59

theorem regular_of_isLeapSecond (h : t.isLeapSecond = false) : t.Regular :=
  fun hleap => absurd hleap (by rw [h]; exact Bool.false_ne_true)

theorem regular_of_ofMillis? (h : ofMillis? n = some t) : t.Regular := by
  obtain ⟨-, hnanos⟩ := ofSeconds?_eq_some h
  refine regular_of_isLeapSecond (decide_eq_false ?_)
  rw [hnanos, nanosPerSecond]
  omega

theorem fraction_lt {cs rest : List Char} {nanos : Nat} (h : fraction cs = .ok (nanos, rest)) :
    nanos < nanosPerSecond := by
  unfold fraction at h
  split at h
  · cases h
  · rename_i c cs
    split at h
    · cases h
      have hdigits : ∀ d ∈ (c :: cs).takeWhile Char.isDigit, d.isDigit = true := fun _ => List.mem_takeWhile_imp
      rw [fractionNanos_eq_div hdigits]
      exact Nat.div_lt_of_lt_mul (Nat.mul_lt_mul_of_pos_right (ofDigitChars_lt hdigits) (by decide))
    · cases h
  · cases h
    decide

/-- A zone is ahead or behind by whole minutes. -/
theorem offset_minutes {cs rest : List Char} {ahead : Int} (h : offset cs = .ok (ahead, rest)) :
    ahead % 60 = 0 := by
  have hsigned {sign : Int} {cs : List Char} (hs : offsetSeconds sign cs = .ok (ahead, rest)) :
      ahead % 60 = 0 := by
    obtain ⟨⟨⟨a, a'⟩, _⟩, -, hs⟩ := bind_eq_ok.1 hs
    have hcolon : ∃ cs, (offsetPair cs >>= fun r => if 6 ≤ r.1.1 then .error .range
        else .ok (sign * ((a * 10 + a') * 3600 + (r.1.1 * 10 + r.1.2) * 60 : Nat), r.2)) = .ok (ahead, rest) := by
      dsimp only at hs
      split at hs
      · cases hs
      · split at hs
        · exact ⟨_, hs⟩
        · cases hs
    obtain ⟨cs, hs⟩ := hcolon
    obtain ⟨⟨⟨b, b'⟩, _⟩, -, hs⟩ := bind_eq_ok.1 hs
    dsimp only at hs
    split at hs <;> cases hs
    have hminutes : (((a * 10 + a') * 3600 + (b * 10 + b') * 60 : Nat) : Int) =
        60 * ((a * 10 + a') * 60 + (b * 10 + b') : Nat) := by omega
    rw [hminutes, Int.mul_left_comm]
    exact Int.mul_emod_right _ _
  cases cs with
  | nil => cases h
  | cons c cs =>
    rw [offset] at h
    split at h
    · cases h
      rfl
    · split at h
      · exact hsigned h
      · split at h
        · exact hsigned h
        · cases h

theorem regular_of_ofText {text : String} (h : ofText text = .ok t) : t.Regular := by
  obtain ⟨d, hour, minute, second, nanos, ahead, -, ⟨_, _, hnanos⟩, ⟨_, _, hahead⟩, hclock, -, ht⟩ :=
    ofText_parts h
  have hnanos := fraction_lt hnanos
  have hahead := offset_minutes hahead
  obtain ⟨hseconds, htotal⟩ := ofSeconds?_eq_some ht
  have hday : (secondsPerDay : Int) = 86400 := rfl
  rw [hday] at hseconds
  -- The fraction is less than a second, so what makes a leap second is that the text has sixty of them.
  intro hleap
  have hle : nanosPerSecond ≤ t.nanos := of_decide_eq_true hleap
  rw [htotal] at hle
  have hsixty : 1 ≤ second / 60 := by
    by_contra hless
    rw [show second / 60 = 0 by omega] at hle
    omega
  omega

end Instant
end FlowView
