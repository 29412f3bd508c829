import FlowView.Proofs.Sorted
import FlowView.Record
import Mathlib.Algebra.Ring.Int.Defs
/-!
# What was written is read

A text, a whole number and a value made of them are read off what is written for them, and nothing behind it is
touched (`Document.Reads`). So a value that may be stored comes back from the row that holds its text
(`values_survive`), and one in more brackets than reading goes into does not (`Value.decode_nested`).
-/

namespace FlowView

namespace Document

/-! ## Texts -/

theorem hexValue?_hexDigit {d : Nat} (h : d < 16) : Text.hexValue? (Json.hexDigit d) = some d := by
  revert d; decide

theorem unit?_hexDigit {n : Nat} (h : n < 256) :
    unit? '0' '0' (Json.hexDigit (n / 16)) (Json.hexDigit (n % 16)) = some n := by
  have hzero : Text.hexValue? '0' = some 0 := rfl
  have hhigh := hexValue?_hexDigit (d := n / 16) (by omega)
  have hlow := hexValue?_hexDigit (d := n % 16) (by omega)
  simp only [unit?, hzero, hhigh, hlow, Option.bind_eq_bind, Option.bind_some, Option.pure_def, Option.some.injEq]
  omega

/-- A character that is written is read as itself. -/
theorem readText_escape (done : List Char) (c : Char) (rest : List Char) :
    readText .full done (Json.escape c ++ rest) = readText .full (c :: done) rest := by
  unfold Json.escape
  split
  · subst c; rfl
  split
  · subst c; rfl
  split
  · -- The character stands for itself: the equations of `readText` overlap here, so its whole match is split.
    rw [List.singleton_append, readText.eq_def]
    split <;> simp_all
  -- From here on the character is below the blank.
  split
  · subst c; rfl
  split
  · subst c; rfl
  split
  · subst c; rfl
  split
  · rename_i h
    have hc : c = Char.ofNat 8 := by rw [← h, Char.ofNat_toNat]
    subst c; rfl
  split
  · rename_i h
    have hc : c = Char.ofNat 12 := by rw [← h, Char.ofNat_toNat]
    subst c; rfl
  · have hunit := unit?_hexDigit (n := c.toNat) (by omega)
    have hlow : isLow c.toNat = false := by simp [isLow]; omega
    have hhigh : isHigh c.toNat = false := by simp [isHigh]; omega
    simp [readText, hunit, hlow, hhigh]

/-- A text that is written is read up to its closing quote. -/
theorem readText_text (cs done rest : List Char) :
    readText .full done (cs.flatMap Json.escape ++ '"' :: rest) = some (done.reverse ++ cs, rest) := by
  induction cs generalizing done with
  | nil => simp [readText]
  | cons c cs ih =>
    rw [List.flatMap_cons, List.append_assoc, readText_escape, ih]
    simp

/-! ## Numbers -/

/-- The text is at an end, or at a mark that ends a value. -/
def Closed (rest : List Char) : Prop := ∀ c ∈ rest.head?, c = ',' ∨ c = ']' ∨ c = '}'

theorem Closed.nil : Closed [] := by simp [Closed]

theorem ofDigits_map (cs : List Char) : Text.ofDigits (cs.map Text.digitValue) = Nat.ofDigitChars 10 cs 0 := by
  simp [Text.ofDigits, Text.digitValue, Nat.ofDigitChars_eq_foldl, List.foldl_map, Nat.mul_comm]

theorem readDigits_append {cs rest : List Char} (hcs : ∀ c ∈ cs, c.isDigit) (h : Closed rest) :
    readDigits (cs ++ rest) = (cs.map Text.digitValue, rest) := by
  have hrest : rest.takeWhile Char.isDigit = [] ∧ rest.dropWhile Char.isDigit = rest := by
    cases rest with
    | nil => simp
    | cons c rest => rcases h c rfl with rfl | rfl | rfl <;> simp
  simp [readDigits, List.takeWhile_append_of_pos hcs, List.dropWhile_append_of_pos hcs, hrest]

/-- No number but zero begins with a zero. -/
theorem toDigits_head {n : Nat} (h : 0 < n) : ∃ d cs, Nat.toDigits 10 n = d :: cs ∧ Text.digitValue d ≠ 0 := by
  induction n using Nat.strongRecOn with
  | _ n ih =>
    by_cases hlt : n < 10
    · refine ⟨n.digitChar, [], Nat.toDigits_of_lt_base hlt, ?_⟩
      have := Nat.toNat_digitChar_sub_48_of_lt_ten hlt
      simp [Text.digitValue]
      omega
    · obtain ⟨d, cs, hd, hne⟩ := ih (n / 10) (by omega) (by omega)
      exact ⟨d, cs ++ [(n % 10).digitChar], by rw [Nat.toDigits_of_base_le (by omega) (by omega), hd]; rfl, hne⟩

theorem readWhole?_toDigits (n : Nat) {rest : List Char} (h : Closed rest) :
    readWhole? (Nat.toDigits 10 n ++ rest) = some ((Nat.toDigits 10 n).map Text.digitValue, rest) := by
  have hdigits : ∀ c ∈ Nat.toDigits 10 n, c.isDigit := fun c => Nat.isDigit_of_mem_toDigits (by omega) (by omega)
  unfold readWhole?
  rw [readDigits_append hdigits h]
  rcases Nat.eq_zero_or_pos n with rfl | hpos
  · simp [Text.digitValue]
  · obtain ⟨d, cs, hd, hne⟩ := toDigits_head hpos
    rw [hd, List.map_cons]
    split <;> simp_all

theorem readNumber_toDigits (negative : Bool) (n : Nat) {rest : List Char} (h : Closed rest) :
    readNumber .full negative (Nat.toDigits 10 n ++ rest) =
      (numberOf? negative ((Nat.toDigits 10 n).map Text.digitValue) none none).map (·, rest) := by
  have hfraction : readFraction? rest = some (none, rest) := by
    cases rest with
    | nil => rfl
    | cons c rest => rcases h c rfl with rfl | rfl | rfl <;> rfl
  have hexponent : readExponent? rest = some (none, rest) := by
    cases rest with
    | nil => rfl
    | cons c rest => rcases h c rfl with rfl | rfl | rfl <;> simp [readExponent?]
  unfold readNumber
  simp only [readWhole?_toDigits n h, hfraction, hexponent, Option.bind_eq_bind, Option.bind_some]
  cases numberOf? negative ((Nat.toDigits 10 n).map Text.digitValue) none none <;> rfl

theorem readNumber_positive {n : Nat} (hn : n < UInt64.size) {rest : List Char} (h : Closed rest) :
    readNumber .full false (Nat.toDigits 10 n ++ rest) = some (.int n, rest) := by
  simp [readNumber_toDigits false n h, numberOf?, ofDigits_map, hn]

theorem readNumber_negative {n : Nat} (hpos : 0 < n) (hn : n ≤ 2 ^ 63) {rest : List Char} (h : Closed rest) :
    readNumber .full true (Nat.toDigits 10 n ++ rest) = some (.int (-n), rest) := by
  simp [readNumber_toDigits true n h, numberOf?, ofDigits_map, hpos]
  omega

/-! ## Values -/

theorem skipBlank_cons {c : Char} (h : isBlank c = false) (cs : List Char) : skipBlank (c :: cs) = c :: cs :=
  List.dropWhile_cons_of_neg (by simp [h])

/-- The value is read off its own text, whatever ends it there. Two steps for each character are enough: one
for the value and one for its place in a list. -/
structure Reads (depth : Nat) (v : Json) : Prop where
  starts : ∃ c cs, v.chars = c :: cs ∧ isBlank c = false ∧ c ≠ ']'
  read : ∀ fuel rest, 2 * v.chars.length ≤ fuel + 1 → Closed rest →
    readValue .full (fun _ => true) (fuel + 1) depth (v.chars ++ rest) = (ofValue v, some rest)

variable {depth : Nat}

theorem reads_null : Reads depth .null where
  starts := ⟨'n', _, rfl, by decide⟩
  read := by simp [Json.chars, readValue, skipBlank_cons, isBlank, readWord, ofValue]

theorem reads_bool (b : Bool) : Reads depth (.bool b) where
  starts := by
    cases b
    · exact ⟨'f', _, rfl, by decide⟩
    · exact ⟨'t', _, rfl, by decide⟩
  read := by cases b <;> simp [Json.chars, readValue, skipBlank_cons, isBlank, readWord, ofValue]

theorem reads_str (s : String) : Reads depth (.str s) where
  starts := ⟨'"', _, rfl, by decide⟩
  read := by
    intro fuel rest _ _
    have htext := readText_text s.toList [] rest
    simp [Json.chars, Json.quote, readValue, skipBlank_cons, isBlank, htext, ofValue]

theorem digit_starts {d : Char} (h : d.isDigit) :
    isBlank d = false ∧ d ≠ ']' ∧ d ≠ 'n' ∧ d ≠ 't' ∧ d ≠ 'f' ∧ d ≠ '"' ∧ d ≠ '-' := by
  refine ⟨decide_eq_false ?_, ?_⟩
  · rintro (rfl | rfl | rfl | rfl) <;> simp at h
  · refine ⟨?_, ?_, ?_, ?_, ?_, ?_⟩ <;> rintro rfl <;> simp at h

theorem reads_int {n : Int} (hlower : -2 ^ 63 ≤ n) (hupper : n < 2 ^ 64) : Reads depth (.int n) := by
  cases n with
  | ofNat n =>
    obtain ⟨d, cs, hd⟩ := List.exists_cons_of_ne_nil (Nat.toDigits_ne_nil (n := n) (b := 10))
    have hdigit : d.isDigit :=
      Nat.isDigit_of_mem_toDigits (b := 10) (n := n) (by omega) (by omega) (hd ▸ List.mem_cons_self)
    obtain ⟨hblank, hbracket, hstart⟩ := digit_starts hdigit
    refine ⟨⟨d, cs, by rw [Json.chars, Json.digits, hd], hblank, hbracket⟩, fun fuel rest _ hclosed => ?_⟩
    have hfits : n < UInt64.size := Int.ofNat_lt.1 hupper
    have hnumber := readNumber_positive hfits hclosed
    rw [hd, List.cons_append] at hnumber
    simp [Json.chars, Json.digits, hd, readValue, skipBlank_cons, hblank, hstart, hdigit, hnumber, ofValue]
  | negSucc n =>
    refine ⟨⟨'-', _, by rw [Json.chars, Json.digits], by decide⟩, fun fuel rest _ hclosed => ?_⟩
    have hnumber := readNumber_negative (Nat.succ_pos n) (by omega) hclosed
    simp [Json.chars, Json.digits, readValue, skipBlank_cons, isBlank, hnumber, ofValue]
    omega

theorem Reads.length {v : Json} (h : Reads depth v) : 0 < v.chars.length := by
  obtain ⟨c, cs, hchars, -⟩ := h.starts
  simp [hchars]

theorem readItems_chars {items : List Json} (h : ∀ v ∈ items, Reads depth v) (hne : items ≠ []) (rest : List Char)
    (fuel : Nat) (hfuel : 2 * (Json.itemChars items).length < fuel) :
    readItems .full fuel depth (Json.itemChars items ++ ']' :: rest) = (ofItems items, some rest) := by
  induction items generalizing fuel with
  | nil => exact absurd rfl hne
  | cons v items ih =>
    obtain ⟨hv, hitems⟩ := List.forall_mem_cons.1 h
    have hlength := hv.length
    cases items with
    | nil =>
      rw [Json.itemChars] at hfuel ⊢
      obtain ⟨fuel, rfl⟩ : ∃ k, fuel = k + 1 + 1 := ⟨fuel - 2, by omega⟩
      have hread := hv.read fuel (']' :: rest) (by omega) (by simp [Closed])
      rw [readItems, hread]
      simp [skipBlank_cons, isBlank, ofItems]
    | cons w items =>
      simp only [Json.itemChars, List.length_append, List.length_cons] at hfuel
      obtain ⟨fuel, rfl⟩ : ∃ k, fuel = k + 1 + 1 := ⟨fuel - 2, by omega⟩
      have hread := hv.read fuel (',' :: (Json.itemChars (w :: items) ++ ']' :: rest)) (by omega) (by simp [Closed])
      have hmore := ih hitems (by simp) (fuel + 1) (by omega)
      rw [Json.itemChars, List.append_assoc, List.cons_append, readItems, hread]
      simp [skipBlank_cons, isBlank, hmore, ofItems]

theorem readFields_chars {fields : List (String × Json)} (h : ∀ f ∈ fields, Reads depth f.2) (hne : fields ≠ [])
    (rest : List Char) (fuel : Nat) (hfuel : 2 * (Json.fieldChars fields).length < fuel) :
    readFields .full (fun _ => true) fuel depth (Json.fieldChars fields ++ '}' :: rest) =
      (ofFields fields, some rest) := by
  induction fields generalizing fuel with
  | nil => exact absurd rfl hne
  | cons f fields ih =>
    obtain ⟨k, v⟩ := f
    obtain ⟨hv, hfields⟩ : Reads depth v ∧ ∀ f ∈ fields, Reads depth f.2 := List.forall_mem_cons.1 h
    have hlength := hv.length
    have htext (cs : List Char) := readText_text k.toList [] cs
    cases fields with
    | nil =>
      simp only [Json.fieldChars, List.length_append, List.length_cons] at hfuel
      obtain ⟨fuel, rfl⟩ : ∃ k, fuel = k + 1 + 1 := ⟨fuel - 2, by omega⟩
      have hread := hv.read fuel ('}' :: rest) (by omega) (by simp [Closed])
      simp [Json.fieldChars, Json.quote, readFields, skipBlank_cons, isBlank, htext, hread, ofFields]
    | cons g fields =>
      simp only [Json.fieldChars, List.length_append, List.length_cons] at hfuel
      obtain ⟨fuel, rfl⟩ : ∃ k, fuel = k + 1 + 1 := ⟨fuel - 2, by omega⟩
      have hread := hv.read fuel (',' :: (Json.fieldChars (g :: fields) ++ '}' :: rest)) (by omega) (by simp [Closed])
      have hmore := ih hfields (by simp) (fuel + 1) (by omega)
      rw [Json.fieldChars, Json.quote, List.cons_append, List.cons_append, readFields]
      simp [skipBlank_cons, isBlank, htext, hread, hmore, ofFields]

theorem itemChars_starts {v : Json} (h : Reads depth v) (items : List Json) :
    ∃ c cs, Json.itemChars (v :: items) = c :: cs ∧ isBlank c = false ∧ c ≠ ']' := by
  obtain ⟨c, cs, hchars, hstart⟩ := h.starts
  cases items with
  | nil => exact ⟨c, cs, by rw [Json.itemChars, hchars], hstart⟩
  | cons w items => exact ⟨c, cs ++ ',' :: Json.itemChars (w :: items), by rw [Json.itemChars, hchars]; rfl, hstart⟩

theorem reads_arr {items : List Json} (h : ∀ v ∈ items, Reads depth v) : Reads (depth + 1) (.arr items) where
  starts := ⟨'[', _, rfl, by decide⟩
  read := by
    intro fuel rest hfuel _
    cases items with
    | nil => simp [Json.chars, Json.itemChars, readValue, skipBlank_cons, isBlank, ofValue, ofItems]
    | cons v items =>
      simp only [Json.chars, List.length_append, List.length_cons, List.length_nil] at hfuel
      have hread := readItems_chars h (by simp) rest fuel (by omega)
      obtain ⟨c, cs, hchars, hblank, hbracket⟩ := itemChars_starts (h v List.mem_cons_self) items
      rw [hchars, List.cons_append] at hread
      have hskip := skipBlank_cons hblank (cs ++ ']' :: rest)
      have hopen := skipBlank_cons (c := '[') rfl (c :: (cs ++ ']' :: rest))
      simp [Json.chars, hchars, readValue, hopen, hskip, hbracket, hread, ofValue]

theorem reads_obj {fields : List (String × Json)} (h : ∀ f ∈ fields, Reads depth f.2) :
    Reads (depth + 1) (.obj fields) where
  starts := ⟨'{', _, rfl, by decide⟩
  read := by
    intro fuel rest hfuel _
    cases fields with
    | nil => simp [Json.chars, Json.fieldChars, readValue, skipBlank_cons, isBlank, ofValue, ofFields]
    | cons f fields =>
      simp only [Json.chars, List.length_append, List.length_cons, List.length_nil] at hfuel
      have hread := readFields_chars h (by simp) rest fuel (by omega)
      obtain ⟨cs, hchars⟩ : ∃ cs, Json.fieldChars (f :: fields) = '"' :: cs := by
        cases fields with
        | nil => exact ⟨_, rfl⟩
        | cons g fields => exact ⟨_, rfl⟩
      rw [hchars, List.cons_append] at hread
      simp [Json.chars, hchars, readValue, skipBlank_cons, isBlank, hread, ofValue]

end Document

/-! ## Stored values -/

/-- The value's numbers are whole and have sixty-four bits, the fields of its objects ascend by name, and at most
so many brackets stand open at once. -/
inductive Json.Storable : Nat → Json → Prop
  | null {depth : Nat} : Storable depth .null
  | bool {depth : Nat} (b : Bool) : Storable depth (.bool b)
  | int {depth : Nat} {n : Int} (hlower : -2 ^ 63 ≤ n) (hupper : n < 2 ^ 64) : Storable depth (.int n)
  | str {depth : Nat} (s : String) : Storable depth (.str s)
  | arr {depth : Nat} {items : List Json} (h : ∀ v ∈ items, v.Storable depth) : Storable (depth + 1) (.arr items)
  | obj {depth : Nat} {fields : List (String × Json)} (horder : Ascending fields)
    (h : ∀ f ∈ fields, f.2.Storable depth) : Storable (depth + 1) (.obj fields)

namespace Json.Storable

variable {depth : Nat} {v w : Json}

theorem reads (h : v.Storable depth) : Document.Reads depth v := by
  induction h with
  | null => exact Document.reads_null
  | bool b => exact Document.reads_bool b
  | int hlower hupper => exact Document.reads_int hlower hupper
  | str s => exact Document.reads_str s
  | arr _ ih => exact Document.reads_arr ih
  | obj _ _ ih => exact Document.reads_obj ih

theorem sorted (h : v.Storable depth) : v.Sorted := by
  induction h with
  | null => exact .null
  | bool b => exact .bool b
  | int => exact .int _
  | str s => exact .str s
  | arr _ ih => exact .arr ih
  | obj horder _ ih => exact .obj horder ih

/-- A value is read off its own text if reading may go as deep as its brackets. -/
theorem read?_text (h : v.Storable 127) : Json.read? v.text = some v := by
  have hread : Document.read (fun _ => true) Document.maxDepth v.chars = (.ofValue v, some []) := by
    have hall := h.reads.read (2 * v.chars.length + 1) [] (by omega) .nil
    rwa [List.append_nil] at hall
  simp [Json.read?, Json.text, Document.ofText?, hread, Document.ended, Document.skipBlank, h.sorted.value?_ofValue]

theorem decode_encode (h : v.Storable 127) : Value.decode? (Value.encode v) = some v := by
  unfold Value.encode
  split
  · rename_i hnull
    cases v <;> simp_all [Json.isNull, Value.decode?]
  · exact h.read?_text

theorem encode_inj (hv : v.Storable 127) (hw : w.Storable 127) : Value.encode v = Value.encode w ↔ v = w := by
  refine ⟨fun heq => ?_, congrArg _⟩
  have hsame := hv.decode_encode
  rw [heq, hw.decode_encode] at hsame
  exact (Option.some.inj hsame).symm

end Json.Storable

theorem Value.encode_eq_none {v : Json} : Value.encode v = none ↔ v = .null := by
  cases v <;> simp [Value.encode, Json.isNull]

/-! ## Depth -/

/-- The value in so many lists. -/
def Json.nested (v : Json) : Nat → Json
  | 0 => v
  | n + 1 => .arr [nested v n]

theorem Json.Storable.nested {depth : Nat} {v : Json} (h : v.Storable depth) (n : Nat) :
    (v.nested n).Storable (depth + n) := by
  induction n with
  | zero => exact h
  | succ n ih => exact .arr (by simpa [Json.nested] using ih)

theorem Json.chars_nested (v : Json) (n : Nat) : (v.nested (n + 1)).chars = '[' :: ((v.nested n).chars ++ [']']) := by
  simp [nested, chars, itemChars]

/-- Reading stops at the first bracket too many. -/
theorem Document.readValue_nested (v : Json) {n depth : Nat} (h : depth < n) (fuel : Nat) (rest : List Char) :
    (readValue .full (fun _ => true) fuel depth ((v.nested n).chars ++ rest)).2 = none := by
  induction n generalizing fuel depth rest with
  | zero => omega
  | succ n ih =>
    cases fuel with
    | zero => rfl
    | succ fuel =>
      cases depth with
      | zero => simp [Json.chars_nested, readValue, skipBlank_cons, isBlank, stopped]
      | succ depth =>
        obtain ⟨n, rfl⟩ : ∃ m, n = m + 1 := ⟨n - 1, by omega⟩
        have hitems : (readItems .full fuel depth ((v.nested (n + 1)).chars ++ ']' :: rest)).2 = none := by
          cases fuel with
          | zero => rfl
          | succ fuel =>
            have hread := ih (by omega : depth < n + 1) fuel (']' :: rest)
            rw [readItems]
            split
            · rfl
            · rename_i heq
              simp [heq] at hread
        rw [Json.chars_nested] at hitems ⊢
        simpa [Json.chars_nested, readValue, skipBlank_cons, isBlank] using hitems

/-- A value in more brackets is stored as any other, but not read. -/
theorem Value.decode_nested (v : Json) {n : Nat} (h : 127 < n) : decode? (encode (v.nested n)) = none := by
  have hnull : (v.nested n).isNull = false := by
    obtain ⟨n, rfl⟩ : ∃ m, n = m + 1 := ⟨n - 1, by omega⟩
    rfl
  have hread := Document.readValue_nested v h (2 * (v.nested n).chars.length + 2) []
  rw [List.append_nil] at hread
  simp [encode, hnull, decode?, Json.read?, Json.text, Document.ofText?, Document.read, Document.maxDepth, hread,
    Document.ended]

/-! ## Columns -/

/-- A value that may be stored comes back from the row of a process variable or of a task variable that holds it.
Null alone is held as no text. Two values are held alike just if they are the same. -/
theorem values_survive :
    (∀ v : Json, v.Storable 127 →
      (Value.encode v = none ↔ v = .null) ∧
      (∀ row : ProcessVariable, row.value = Value.encode v → row.json? = some v) ∧
      ∀ row : TaskVariable, row.value = Value.encode v → row.json? = some v) ∧
    (∀ v w : Json, v.Storable 127 → w.Storable 127 → (Value.encode v = Value.encode w ↔ v = w)) ∧
    [Value.encode .null, Value.encode (.str "null"), Value.encode (.arr []), Value.encode (.obj [])].Nodup := by
  refine ⟨fun v hv => ⟨Value.encode_eq_none, fun row hrow => ?_, fun row hrow => ?_⟩,
    fun v w hv hw => hv.encode_inj hw, ?_⟩
  · rw [ProcessVariable.json?, hrow, hv.decode_encode]
  · rw [TaskVariable.json?, hrow, hv.decode_encode]
  · decide +kernel

namespace Sample

/-- Numbers at both bounds, an empty name, and characters of all kinds that are escaped and of some that are not. -/
def extremes : Json :=
  .obj [("", .int (-2 ^ 63)), ("\"\\/\n\x01", .int (2 ^ 64 - 1)), ("\x7f", .arr []), ("é", .str "\x08\x1f😀\\u0041")]

theorem storable_extremes : extremes.Storable 2 := by
  refine .obj (by unfold Json.Ascending; decide +kernel) ?_
  simp only [List.forall_mem_cons, List.not_mem_nil, IsEmpty.forall_iff, implies_true, and_true]
  exact ⟨.int (by decide) (by decide), .int (by decide) (by decide), .arr nofun, .str _⟩

end Sample

/-- A value comes back from 127 brackets, and is not held as its own text would be. -/
theorem values_survive_depth :
    let v := Sample.extremes.nested 125
    v.Storable 127 ∧ (∃ row : ProcessVariable, row.value.isSome ∧ row.json? = some v) ∧
      (∃ row : TaskVariable, row.value.isSome ∧ row.json? = some v) ∧
      Value.encode v ≠ Value.encode (.str v.text) := by
  intro v
  have hv : v.Storable 127 := Sample.storable_extremes.nested 125
  obtain ⟨hrows, hsame, -⟩ := values_survive
  obtain ⟨-, hvariable, htask⟩ := hrows v hv
  refine ⟨hv, ⟨{ id := "v1", instanceId := "p1", name := "depth", value := Value.encode v }, rfl, hvariable _ rfl⟩,
    ⟨{ id := "v2", taskId := "t1", name := "depth", value := Value.encode v }, rfl, htask _ rfl⟩, fun h => ?_⟩
  exact nomatch (hsame v (.str v.text) hv (.str _)).1 h

end FlowView
