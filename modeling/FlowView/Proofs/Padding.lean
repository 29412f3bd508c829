import FlowView.Instant.Text
import Mathlib.Data.List.Lex
import Mathlib.Data.Char
import Mathlib.Algebra.Order.Group.Nat
import Mathlib.Tactic.Ring
/-!
# Digits, and numbers of a fixed width

The digits of a fraction are as many nanoseconds as they say (`fractionNanos_eq_div`). A number with zeros
before it has the width asked for, if it is not too long (`length_padded`), is read back (`number_padded`), and
among numbers of one width the smaller one has the smaller text (`padded_lt`). A text of several such columns is
smaller if the first number that differs is (`filled_lt`).
-/

namespace FlowView.Instant

/-! ## Digits and their number -/

section Digits

variable {c : Char} {u v : List Char}

theorem isDigit_iff : c.isDigit = true ↔ 48 ≤ c.toNat ∧ c.toNat ≤ 57 := by
  simp only [Char.isDigit, ge_iff_le, Bool.and_eq_true, decide_eq_true_eq, UInt32.le_iff_toNat_le]
  exact Iff.rfl

theorem ofDigitChars_cons_zero (c : Char) (u : List Char) :
    Nat.ofDigitChars 10 (c :: u) 0 = 10 ^ u.length * (c.toNat - 48) + Nat.ofDigitChars 10 u 0 := by
  rw [Nat.ofDigitChars_cons, Nat.ofDigitChars_eq_ofDigitChars_zero]
  simp

theorem ofDigitChars_lt (h : ∀ c ∈ u, c.isDigit = true) : Nat.ofDigitChars 10 u 0 < 10 ^ u.length := by
  induction u with
  | nil => simp
  | cons c u ih =>
    obtain ⟨hc, hu⟩ := List.forall_mem_cons.1 h
    have hlt := ih hu
    have hhead : 10 ^ u.length * (c.toNat - 48) ≤ 10 ^ u.length * 9 :=
      Nat.mul_le_mul_left _ (by have := isDigit_iff.1 hc; omega)
    rw [ofDigitChars_cons_zero, List.length_cons, Nat.pow_succ]
    omega

/-- Of two fractions the smaller one has the smaller text, also if the zeros at their ends are left out: so
many that both are of one length. A shorter one has to be followed by what is smaller than any digit. -/
theorem digits_lt {a b : Nat} (hlength : u.length + a = v.length + b) (hu : ∀ c ∈ u, c.isDigit = true)
    (hv : ∀ c ∈ v, c.isDigit = true)
    (h : Nat.ofDigitChars 10 u 0 * 10 ^ a < Nat.ofDigitChars 10 v 0 * 10 ^ b) {r : List Char}
    (hr : 0 < a → ∀ c, c.isDigit = true → ∀ cs, r < c :: cs) (r' : List Char) : u ++ r < v ++ r' := by
  induction u generalizing v with
  | nil =>
    cases v with
    | nil => simp at h
    | cons d v =>
      have ha : 0 < a := by
        simp only [List.length_nil, List.length_cons] at hlength
        omega
      exact hr ha d (hv d List.mem_cons_self) _
  | cons c u ih =>
    cases v with
    | nil => simp at h
    | cons d v =>
      obtain ⟨hc, hus⟩ := List.forall_mem_cons.1 hu
      obtain ⟨hd, hvs⟩ := List.forall_mem_cons.1 hv
      have hrest : u.length + a = v.length + b := by
        simp only [List.length_cons] at hlength
        omega
      -- The first digits count a power of ten each, and the others together less than one.
      have hfirst (e : Char) (us : List Char) (k : Nat) : Nat.ofDigitChars 10 (e :: us) 0 * 10 ^ k =
          10 ^ (us.length + k) * (e.toNat - 48) + Nat.ofDigitChars 10 us 0 * 10 ^ k := by
        rw [ofDigitChars_cons_zero, Nat.pow_add]
        ring
      rw [hfirst, hfirst, hrest] at h
      rw [List.cons_append, List.cons_append, List.cons_lt_cons_iff]
      rcases lt_trichotomy c d with hlt | rfl | hgt
      · exact .inl hlt
      · exact .inr ⟨rfl, ih hrest hus hvs (Nat.lt_of_add_lt_add_left h)⟩
      · exfalso
        have hothers : Nat.ofDigitChars 10 v 0 * 10 ^ b < 10 ^ (v.length + b) := by
          rw [Nat.pow_add]
          exact Nat.mul_lt_mul_of_pos_right (ofDigitChars_lt hvs) (Nat.pow_pos (by decide))
        have hstep : 10 ^ (v.length + b) * (d.toNat - 48 + 1) ≤ 10 ^ (v.length + b) * (c.toNat - 48) := by
          have hd := isDigit_iff.1 hd
          have hgt : d.toNat < c.toNat := hgt
          exact Nat.mul_le_mul_left _ (by omega)
        rw [Nat.mul_add, Nat.mul_one] at hstep
        omega

/-- Zeros behind digits. -/
theorem isDigit_zeros (h : ∀ c ∈ u, c.isDigit = true) (k : Nat) :
    ∀ c ∈ u ++ List.replicate k '0', c.isDigit = true := by
  intro c hc
  rcases List.mem_append.1 hc with hc | hc
  · exact h c hc
  · rw [List.eq_of_mem_replicate hc]
    rfl

/-- The number of the first digits is what is left of the number when it is divided by the others' power. -/
theorem ofDigitChars_take (h : ∀ c ∈ u, c.isDigit = true) (i : Nat) :
    Nat.ofDigitChars 10 (u.take i) 0 = Nat.ofDigitChars 10 u 0 / 10 ^ (u.length - i) := by
  have hrest := ofDigitChars_lt (u := u.drop i) fun c hc => h c (List.mem_of_mem_drop hc)
  have hvalue : Nat.ofDigitChars 10 u 0 =
      10 ^ (u.length - i) * Nat.ofDigitChars 10 (u.take i) 0 + Nat.ofDigitChars 10 (u.drop i) 0 := by
    conv_lhs => rw [← List.take_append_drop i u]
    rw [Nat.ofDigitChars_append, Nat.ofDigitChars_eq_ofDigitChars_zero, List.length_drop]
  rw [List.length_drop] at hrest
  rw [hvalue, Nat.mul_add_div (Nat.pow_pos (by decide)), Nat.div_eq_of_lt hrest, Nat.add_zero]

/-- The digits of a fraction are as many nanoseconds as they say, rounded down. -/
theorem fractionNanos_eq_div (h : ∀ c ∈ u, c.isDigit = true) :
    fractionNanos u = Nat.ofDigitChars 10 u 0 * 10 ^ 9 / 10 ^ u.length := by
  have hnanos : fractionNanos u = Nat.ofDigitChars 10 ((u ++ List.replicate 9 '0').take 9) 0 := by
    simp only [fractionNanos, Nat.ofDigitChars_eq_foldl, Nat.mul_comm 10]
  rw [hnanos, ofDigitChars_take (isDigit_zeros h 9), Nat.ofDigitChars_append, Nat.ofDigitChars_replicate_zero,
    Nat.mul_comm, List.length_append, List.length_replicate, Nat.add_sub_cancel]

end Digits

/-! ## One number -/

variable {w n m : Nat}

theorem length_padded (hw : 0 < w) (h : n < 10 ^ w) : (padded w n).length = w := by
  have hle := (Nat.length_toDigits_le_iff (by decide) hw).2 h
  simp only [padded, List.length_append, List.length_replicate]
  omega

theorem le_length_padded (w n : Nat) : w ≤ (padded w n).length := by
  simp only [padded, List.length_append, List.length_replicate]
  omega

theorem isDigit_padded {c : Char} (h : c ∈ padded w n) : c.isDigit = true := by
  rcases List.mem_append.1 h with h | h
  · rw [List.eq_of_mem_replicate h]
    rfl
  · exact Nat.isDigit_of_mem_toDigits (by decide) (by decide) h

theorem ofDigitChars_padded (w n : Nat) : Nat.ofDigitChars 10 (padded w n) 0 = n := by
  simp only [padded, Nat.ofDigitChars_append, Nat.ofDigitChars_replicate_zero, Nat.mul_zero,
    Nat.ofDigitChars_ten_toDigits]

/-- Of two numbers of one width the smaller one has the smaller text, whatever follows. -/
theorem padded_lt (hw : 0 < w) (h : n < m) (hm : m < 10 ^ w) (r r' : List Char) :
    padded w n ++ r < padded w m ++ r' := by
  have hlength : (padded w n).length + 0 = (padded w m).length + 0 := by
    rw [length_padded hw (h.trans hm), length_padded hw hm]
  refine digits_lt hlength (fun _ => isDigit_padded) (fun _ => isDigit_padded) ?_ (fun h => absurd h (lt_irrefl _)) r'
  rwa [ofDigitChars_padded, ofDigitChars_padded, Nat.pow_zero, Nat.mul_one, Nat.mul_one]

/-- As many digits as are asked for are read as their number, behind what was read before. -/
theorem number_append (cs : List Char) (h : ∀ c ∈ cs, c.isDigit = true) (n : Nat) (rest : List Char) :
    number cs.length n (cs ++ rest) = .ok (Nat.ofDigitChars 10 cs n, rest) := by
  induction cs generalizing n with
  | nil => rfl
  | cons c cs ih =>
    obtain ⟨hc, hcs⟩ := List.forall_mem_cons.1 h
    rw [List.length_cons, List.cons_append, number, digit?, if_pos hc, Nat.ofDigitChars_cons, Nat.mul_comm 10]
    exact ih hcs _

/-- A number of the width that is asked for is read back. -/
theorem number_padded (hw : 0 < w) (h : n < 10 ^ w) (rest : List Char) :
    number w 0 (padded w n ++ rest) = .ok (n, rest) := by
  have hread := number_append (padded w n) (fun _ => isDigit_padded) 0 rest
  rwa [length_padded hw h, ofDigitChars_padded] at hread

/-! ## Several numbers -/

/-- Numbers in columns, each of a width and with a mark behind it, and what comes after them. -/
def filled : List (Nat × List Char) → List Nat → List Char → List Char
  | (w, mark) :: columns, n :: ns, rest => padded w n ++ (mark ++ filled columns ns rest)
  | _, _, rest => rest

/-- Every number has a column that it fits into. -/
def Fits (columns : List (Nat × List Char)) (ns : List Nat) : Prop :=
  List.Forall₂ (fun column n => 0 < column.1 ∧ n < 10 ^ column.1) columns ns

/-- Numbers in the same columns have their texts in the order of the first ones that differ. -/
theorem filled_lt {columns : List (Nat × List Char)} {ns ms : List Nat} (hns : Fits columns ns)
    (hms : Fits columns ms) (h : ns < ms) (r r' : List Char) : filled columns ns r < filled columns ms r' := by
  induction hns generalizing ms with
  | nil =>
    cases hms
    exact absurd h (lt_irrefl _)
  | @cons column n columns ns hn hns ih =>
    obtain ⟨w, mark⟩ := column
    cases hms with
    | @cons _ m _ ms hm hms =>
      rw [filled, filled]
      rcases List.cons_lt_cons_iff.1 h with hfirst | ⟨rfl, hlater⟩
      · exact padded_lt hn.1 hfirst hm.2 _ _
      · exact List.append_left_lt (List.append_left_lt (ih hms hlater))

theorem filled_same_lt (columns : List (Nat × List Char)) (ns : List Nat) {r r' : List Char} (h : r < r') :
    filled columns ns r < filled columns ns r' := by
  induction columns generalizing ns with
  | nil => exact h
  | cons column columns ih =>
    cases ns with
    | nil => exact h
    | cons n ns => exact List.append_left_lt (List.append_left_lt (ih ns))

end FlowView.Instant
