import FlowView.Proofs.Calendar
import FlowView.Proofs.Codecs
import FlowView.Proofs.Padding
/-!
# The forms of a date

A date comes as a count of milliseconds or as a text, and a text may be written in many ways: in any zone, with
a fraction of any length, with one of three separators. All texts that write a count exactly are read as the
instant that the count names, and it is written as that count (`forms_agree`).
-/

namespace FlowView

open Instant

/-! ## Ways to write a date -/

/-- Where the local time of a text belongs: to UTC, which a letter says, or to a zone that is some hours and
minutes ahead of it or behind. -/
inductive Zone
  | utc (letter : Char)
  | ahead (hours minutes : Nat)
  | behind (hours minutes : Nat)

namespace Zone

/-- The seconds that local time is ahead. -/
def seconds : Zone → Int
  | .utc _ => 0
  | .ahead hours minutes => (hours * 3600 + minutes * 60 : Nat)
  | .behind hours minutes => -(hours * 3600 + minutes * 60 : Nat)

def chars : Zone → List Char
  | .utc letter => [letter]
  | .ahead hours minutes => '+' :: (padded 2 hours ++ ':' :: padded 2 minutes)
  | .behind hours minutes => '-' :: (padded 2 hours ++ ':' :: padded 2 minutes)

/-- The letter is the one for UTC, and a zone is less than a day off. -/
def Valid : Zone → Prop
  | .utc letter => letter = 'Z' ∨ letter = 'z'
  | .ahead hours minutes | .behind hours minutes => hours < 24 ∧ minutes < 60

variable {z : Zone}

/-- What follows a fraction is no part of it. -/
theorem head_chars (hz : z.Valid) : ∀ c ∈ z.chars.head?, c.isDigit = false ∧ c ≠ '.' := by
  cases z with
  | utc letter => rcases hz with rfl | rfl <;> simp [chars]
  | ahead | behind => simp [chars]

theorem natAbs_seconds_lt (hz : z.Valid) : z.seconds.natAbs < 86400 := by
  cases z with
  | utc => exact Nat.zero_lt_succ _
  | ahead hours minutes | behind hours minutes =>
    obtain ⟨hhours, hminutes⟩ := hz
    simp only [seconds]
    omega

end Zone

/-- What one is free to choose when writing a date: what separates the day from the time, the digits of the
fraction, which may be none, and the zone. -/
structure DateForm where
  separator : Char := 'T'
  fraction : List Char := []
  zone : Zone := .utc 'Z'

namespace DateForm

/-- The seconds since 1970 on a clock of the zone. -/
def localSeconds (f : DateForm) (millis : Int) : Int := millis / 1000 + f.zone.seconds

/-- The date in the zone. -/
def localDate (f : DateForm) (millis : Int) : Date := .ofDay (f.localSeconds millis / secondsPerDay)

def fractionChars (f : DateForm) : List Char := if f.fraction = [] then [] else '.' :: f.fraction

/-- The text of a count of milliseconds in this form. -/
def chars (f : DateForm) (millis : Int) : List Char :=
  let date := f.localDate millis
  let time := (f.localSeconds millis % secondsPerDay).toNat
  padded 4 date.year.toNat ++ '-' :: (padded 2 date.month ++ '-' :: (padded 2 date.day
    ++ f.separator :: (padded 2 (time / 3600) ++ ':' :: (padded 2 (time / 60 % 60)
    ++ ':' :: (padded 2 (time % 60) ++ (f.fractionChars ++ f.zone.chars))))))

def text (f : DateForm) (millis : Int) : String := String.ofList (f.chars millis)

/-- The text of the count says exactly when it is: the fraction is that of its milliseconds, and the year in
the zone has four digits. -/
structure Exact (f : DateForm) (millis : Int) : Prop where
  separator : f.separator ∈ ['T', 't', ' ']
  digits : ∀ c ∈ f.fraction, c.isDigit = true
  fraction : Nat.ofDigitChars 10 f.fraction 0 * 1000 = (millis % 1000).toNat * 10 ^ f.fraction.length
  zone : f.zone.Valid
  year : 0 ≤ (f.localDate millis).year ∧ (f.localDate millis).year ≤ 9999

end DateForm

/-! ## Reading the parts -/

namespace Instant

variable {rest : List Char}

theorem date_append {d : Date} (hvalid : d.isValid = true) (hyear : 0 ≤ d.year ∧ d.year ≤ 9999)
    (hmonth : d.month < 100) (hday : d.day < 100) (rest : List Char) :
    date (padded 4 d.year.toNat ++ '-' :: (padded 2 d.month ++ '-' :: (padded 2 d.day ++ rest))) =
      .ok (d, rest) := by
  have hmax : max d.year 0 = d.year := max_eq_left hyear.1
  unfold date
  rw [number_padded (by decide) (by omega)]
  simp [oneOf, number_padded, hmonth, hday, hmax, hvalid, bind, Except.bind, pure, Except.pure]

theorem clock_append {hour minute second : Nat} (hhour : hour < 100) (hminute : minute < 100)
    (hsecond : second < 100) (rest : List Char) :
    clock (padded 2 hour ++ ':' :: (padded 2 minute ++ ':' :: (padded 2 second ++ rest))) =
      .ok ((hour, minute, second), rest) := by
  simp [clock, oneOf, number_padded, hhour, hminute, hsecond, bind, Except.bind, pure, Except.pure]

/-- The fraction ends where the digits do. -/
theorem fraction_append {f : DateForm} (hdigits : ∀ c ∈ f.fraction, c.isDigit = true)
    (hrest : ∀ c ∈ rest.head?, c.isDigit = false ∧ c ≠ '.') :
    fraction (f.fractionChars ++ rest) = .ok (fractionNanos f.fraction, rest) := by
  unfold DateForm.fractionChars
  cases hf : f.fraction with
  | nil =>
    rw [if_pos rfl, List.nil_append]
    cases rest with
    | nil => rfl
    | cons c rest =>
      unfold fraction
      split <;> simp_all [fractionNanos]
  | cons c cs =>
    rw [hf] at hdigits
    have hend : rest.takeWhile Char.isDigit = [] ∧ rest.dropWhile Char.isDigit = rest := by
      cases rest <;> simp_all
    rw [if_neg (List.cons_ne_nil c cs), List.cons_append, List.cons_append, fraction,
      if_pos (hdigits c List.mem_cons_self), ← List.cons_append, List.takeWhile_append_of_pos hdigits,
      List.dropWhile_append_of_pos hdigits, hend.1, hend.2, List.append_nil]

theorem offsetPair_padded {n : Nat} (hn : n < 100) (rest : List Char) :
    offsetPair (padded 2 n ++ rest) = .ok ((n / 10, n % 10), rest) := by
  obtain ⟨c, d, hcd⟩ := List.length_eq_two.1 (length_padded (w := 2) (by decide) hn)
  have hdigits : c.isDigit = true ∧ d.isDigit = true := by
    constructor <;> exact isDigit_padded (w := 2) (n := n) (by simp [hcd])
  have hvalue := ofDigitChars_padded 2 n
  rw [hcd, ofDigitChars_cons_zero, ofDigitChars_cons_zero, Nat.ofDigitChars_nil] at hvalue
  have hc := isDigit_iff.1 hdigits.1
  have hd := isDigit_iff.1 hdigits.2
  simp only [hcd, List.cons_append, List.nil_append, offsetPair, digit?, hdigits.1, hdigits.2, if_true]
  simp only [List.length_cons, List.length_nil] at hvalue
  have hzero : '0'.toNat = 48 := rfl
  rw [hzero, show c.toNat - 48 = n / 10 by omega, show d.toNat - 48 = n % 10 by omega]

theorem offsetSeconds_padded {hours minutes : Nat} (hhours : hours < 24) (hminutes : minutes < 60) (sign : Int) :
    offsetSeconds sign (padded 2 hours ++ ':' :: padded 2 minutes) =
      .ok (sign * (hours * 3600 + minutes * 60 : Nat), []) := by
  have hpair := offsetPair_padded (n := minutes) (by omega) []
  rw [List.append_nil] at hpair
  have htens : ¬6 ≤ minutes / 10 := by omega
  unfold offsetSeconds
  rw [offsetPair_padded (by omega)]
  simp only [bind, Except.bind, pure, Except.pure, if_true, hpair, htens, if_false]
  rw [Nat.div_add_mod' hours 10, Nat.div_add_mod' minutes 10]

theorem offset_chars {z : Zone} (hz : z.Valid) : offset z.chars = .ok (z.seconds, []) := by
  cases z with
  | utc letter => rcases hz with rfl | rfl <;> rfl
  | ahead hours minutes =>
    have hread := offsetSeconds_padded hz.1 hz.2 1
    rw [Int.one_mul] at hread
    exact hread
  | behind hours minutes =>
    have hread := offsetSeconds_padded hz.1 hz.2 (-1)
    rw [Int.neg_one_mul] at hread
    exact hread

theorem length_le_utf8ByteSize (cs : List Char) : cs.length ≤ (String.ofList cs).utf8ByteSize := by
  induction cs with
  | nil => exact Nat.zero_le _
  | cons c cs ih =>
    have hc := Char.utf8Size_pos c
    rw [String.ofList_cons, String.utf8ByteSize_append, String.utf8ByteSize_singleton, List.length_cons]
    omega

/-- A fraction is as many nanoseconds as it says, however many digits it takes to say it. -/
theorem fractionNanos_eq {ds : List Char} (hdigits : ∀ c ∈ ds, c.isDigit = true) {ms : Nat}
    (h : Nat.ofDigitChars 10 ds 0 * 1000 = ms * 10 ^ ds.length) : fractionNanos ds = ms * 1000000 := by
  have hvalue : Nat.ofDigitChars 10 ds 0 * 10 ^ 9 = ms * 1000000 * 10 ^ ds.length := by
    calc Nat.ofDigitChars 10 ds 0 * 10 ^ 9
        = Nat.ofDigitChars 10 ds 0 * 1000 * 1000000 := (Nat.mul_assoc _ 1000 1000000).symm
      _ = ms * 1000000 * 10 ^ ds.length := by rw [h, Nat.mul_right_comm]
  rw [fractionNanos_eq_div hdigits, hvalue, Nat.mul_div_cancel _ (Nat.pow_pos (by decide))]

end Instant

/-! ## Reading a whole text -/

namespace DateForm

variable {f : DateForm} {millis : Int} {t : Instant}

/-- The local date and time of a count, less what local time is ahead, are the count. -/
theorem ofLocal?_eq (f : DateForm) (millis : Int) :
    let time := (f.localSeconds millis % secondsPerDay).toNat
    Instant.ofLocal? (f.localDate millis) (time / 3600) (time / 60 % 60) (time % 60)
      ((millis % 1000).toNat * 1000000) f.zone.seconds = Instant.ofMillis? millis := by
  intro time
  have hleap : time % 60 / 60 = 0 := by omega
  have hseconds : f.localSeconds millis / secondsPerDay * secondsPerDay
      + (time / 3600 * 3600 + time / 60 % 60 * 60 + (time % 60 - 0) : Nat) - f.zone.seconds = millis / 1000 := by
    have htime : (time : Int) = f.localSeconds millis % 86400 := by
      simp only [time, secondsPerDay]
      omega
    simp only [secondsPerDay]
    unfold localSeconds at *
    omega
  unfold Instant.ofLocal? Instant.ofMillis? localDate
  simp only [Date.toDay_ofDay, hleap, hseconds, Nat.zero_mul, Nat.add_zero]

theorem le_utf8ByteSize_text (f : DateForm) (millis : Int) : 19 ≤ (f.text millis).utf8ByteSize := by
  refine le_trans ?_ (length_le_utf8ByteSize (f.chars millis))
  have hwidth := le_length_padded
  have hyear := hwidth 4 (f.localDate millis).year.toNat
  have htwo := hwidth 2
  simp only [chars, List.length_append, List.length_cons]
  have hmonth := htwo (f.localDate millis).month
  have hday := htwo (f.localDate millis).day
  have hhour := htwo ((f.localSeconds millis % secondsPerDay).toNat / 3600)
  have hminute := htwo ((f.localSeconds millis % secondsPerDay).toNat / 60 % 60)
  have hsecond := htwo ((f.localSeconds millis % secondsPerDay).toNat % 60)
  omega

theorem ofText_text (hf : f.Exact millis) (ht : Instant.ofMillis? millis = some t) :
    Instant.ofText (f.text millis) = .ok t := by
  let time := (f.localSeconds millis % secondsPerDay).toNat
  have htime : time < 86400 := by
    simp only [time, secondsPerDay]
    omega
  have hvalid : (f.localDate millis).isValid = true := Date.isValid_ofDay _
  have hbounds := Date.ofDay_bounds (f.localSeconds millis / secondsPerDay)
  have hmonth : (f.localDate millis).month ≤ 12 := hbounds.2.1
  have hday : (f.localDate millis).day ≤ 31 := hbounds.2.2.2
  refine refuse_eq_ok.2 ⟨not_lt.2 (f.le_utf8ByteSize_text millis), ?_⟩
  rw [text, String.toList_ofList, chars]
  refine bind_eq_ok.2 ⟨_, date_append hvalid hf.year (by omega) (by omega) _, ?_⟩
  refine bind_eq_ok.2 ⟨_, if_pos hf.separator, ?_⟩
  refine bind_eq_ok.2 ⟨_, clock_append (by omega) (by omega) (by omega) _, ?_⟩
  refine bind_eq_ok.2 ⟨_, fraction_append hf.digits (Zone.head_chars hf.zone), ?_⟩
  refine refuse_eq_ok.2 ⟨by omega, ?_⟩
  refine bind_eq_ok.2 ⟨_, offset_chars hf.zone, ?_⟩
  refine refuse_eq_ok.2 ⟨by simp, ?_⟩
  refine refuse_eq_ok.2 ⟨not_le.2 (Zone.natAbs_seconds_lt hf.zone), ?_⟩
  rw [fractionNanos_eq hf.digits hf.fraction, f.ofLocal?_eq millis, ht]
  rfl

end DateForm

/-- The counts of the years that have four digits name instants. -/
theorem Instant.ofMillis?_isSome {millis : Int}
    (h : 0 ≤ (Date.ofDay (millis / 86400000)).year ∧ (Date.ofDay (millis / 86400000)).year ≤ 9999) :
    ∃ t, Instant.ofMillis? millis = some t := by
  obtain ⟨hlow, hhigh⟩ := Date.year_ofDay_bounds (a := 0) (b := 10000) h.1 (by omega)
  have hfrom : Date.daysBeforeYear 0 = 0 := rfl
  have hto : Date.daysBeforeYear 10000 = 3652425 := rfl
  have hepoch : Date.epochDay = 719528 := rfl
  unfold Instant.ofMillis? Instant.ofSeconds?
  exact ⟨_, dif_pos (by omega)⟩

/-! ## Dates of payloads -/

namespace Row

variable {fs : List Field} {name : String} {d d' : Document}

theorem check_exchange (hd : ∀ f ∈ fs, f.name = name → f.kind.decode d = f.kind.decode d')
    (hread : d ≠ .broken ∧ d' ≠ .broken) (seen : List String) (before after : List (String × Document)) :
    check fs seen (before ++ (name, d) :: after) = check fs seen (before ++ (name, d') :: after) := by
  induction before generalizing seen with
  | nil =>
    simp only [List.nil_append, check]
    cases hfind : fs.find? (·.name = name) with
    | none => simp [hread]
    | some f =>
      have hname : f.name = name := by simpa using List.find?_some hfind
      simp only [hd f (List.mem_of_find?_eq_some hfind) hname]
  | cons entry before ih =>
    simp only [List.cons_append, check, ih]

theorem read_exchange {f : Field} (hd : f.name = name → f.kind.decode d = f.kind.decode d')
    (before after : List (String × Document)) :
    f.read (before ++ (name, d) :: after) = f.read (before ++ (name, d') :: after) := by
  unfold Field.read
  rw [List.lookup_append, List.lookup_append, List.lookup_cons, List.lookup_cons]
  cases before.lookup f.name with
  | some entry => rfl
  | none =>
    by_cases hname : f.name = name
    · simp [hname, hd hname]
    · simp [beq_eq_false_iff_ne.2 hname]

theorem ofEntries_congr {entries entries' : List (String × Document)}
    (h : ∀ f ∈ fs, f.read entries = f.read entries') : ofEntries fs entries = ofEntries fs entries' := by
  induction fs with
  | nil => rfl
  | cons f fs ih =>
    obtain ⟨hf, hfs⟩ := List.forall_mem_cons.1 h
    rw [ofEntries_read, ofEntries_read, hf, ih hfs]

theorem ofItems_exchange (s : Schema) {before : List Document} {f : Field} (hf : fs[before.length]? = some f)
    (hd : f.kind.decode d = f.kind.decode d') (index : Nat) (after : List Document) :
    ofItems s fs index (before ++ d :: after) = ofItems s fs index (before ++ d' :: after) := by
  induction fs generalizing before index with
  | nil => cases hf
  | cons g fs ih =>
    cases before with
    | nil =>
      cases hf
      simp only [List.nil_append, ofItems, hd]
    | cons b before =>
      simp only [List.cons_append, ofItems, ih hf]

end Row

/-- In a field of dates the one document may stand for the other, by name and by place. -/
theorem Schema.decode_exchange (s : Schema) {d d' : Document}
    (hd : FieldKind.date.decode d = FieldKind.date.decode d') (hread : d ≠ .broken ∧ d' ≠ .broken) :
    (∀ name before after, (∀ f ∈ s.fields, f.name = name → f.kind = .date) →
      s.decode (.obj (before ++ (name, d) :: after)) = s.decode (.obj (before ++ (name, d') :: after))) ∧
    ∀ before after f, s.fields[before.length]? = some f → f.kind = .date →
      s.decode (.arr (before ++ d :: after)) = s.decode (.arr (before ++ d' :: after)) := by
  have hdate {f : Field} (hkind : f.kind = .date) : f.kind.decode d = f.kind.decode d' := by
    rw [hkind]
    exact hd
  refine ⟨fun name before after hname => ?_, fun before after f hf hkind => ?_⟩
  · simp only [decode]
    rw [Row.check_exchange (fun f hf heq => hdate (hname f hf heq)) hread,
      Row.ofEntries_congr fun f hf => Row.read_exchange (fun heq => hdate (hname f hf heq)) before after]
  · simp only [decode, Row.ofItems_exchange s hf (hdate hkind), List.length_append, List.length_cons]

/-- One value may stand for another in any date of any payload, by name and by place. -/
structure Payload.SameDate (v w : Json) : Prop where
  byName : ∀ (α : Type) [Payload α] (name : String) (before after : List (String × Json)),
    (∀ f ∈ (schema α).fields, f.name = name → f.kind = .date) →
    (ofJson (.obj (before ++ (name, v) :: after)) : Except DecodeFault α) =
      ofJson (.obj (before ++ (name, w) :: after))
  byPlace : ∀ (α : Type) [Payload α] (before after : List Json) (f : Field),
    (schema α).fields[before.length]? = some f → f.kind = .date →
    (ofJson (.arr (before ++ v :: after)) : Except DecodeFault α) = ofJson (.arr (before ++ w :: after))

theorem Payload.sameDate {v w : Json}
    (h : FieldKind.date.decode (.ofValue v) = FieldKind.date.decode (.ofValue w))
    (hread : Document.ofValue v ≠ .broken ∧ Document.ofValue w ≠ .broken) : Payload.SameDate v w := by
  refine ⟨fun α _ name before after hname => ?_, fun α _ before after f hf hkind => ?_⟩
  · have hexchange := ((schema α).decode_exchange h hread).1 name (Document.ofFields before)
      (Document.ofFields after) hname
    simp only [Document.ofFields_eq] at hexchange
    simp only [ofJson, Document.ofValue, Document.ofFields_eq, List.map_append, List.map_cons, hexchange]
  · have hexchange := ((schema α).decode_exchange h hread).2 (Document.ofItems before)
      (Document.ofItems after) f (by simpa [Document.ofItems_eq] using hf) hkind
    simp only [Document.ofItems_eq] at hexchange
    simp only [ofJson, Document.ofValue, Document.ofItems_eq, List.map_append, List.map_cons, hexchange]

/-! ## Both notations -/

/-- A count of milliseconds in the years from 0 to 9999 is read as an instant and written as the count again,
and any text that says exactly the same time is read as the same instant, in every date of every payload. It
is the time of the events that have the count as their timestamp. -/
theorem forms_agree {millis : Int}
    (hyear : 0 ≤ (Date.ofDay (millis / 86400000)).year ∧ (Date.ofDay (millis / 86400000)).year ≤ 9999) :
    ∃ t : Instant, FieldKind.date.decode (.int millis) = .ok (some t) ∧
      FieldKind.date.encode (some t) = .int millis ∧
      (∀ e : Event, e.timestamp = millis → e.time = t) ∧
      ∀ f : DateForm, f.Exact millis →
        FieldKind.date.decode (.str (f.text millis)) = .ok (some t) ∧
          Payload.SameDate (.str (f.text millis)) (.int millis) := by
  obtain ⟨t, ht⟩ := Instant.ofMillis?_isSome hyear
  have hmillis : t.millis = millis := Instant.millis_of_ofMillis? ht
  have hint : FieldKind.date.decode (.int millis) = .ok (some t) := by
    have hle : millis ≤ Int64.maxValue.toInt := hmillis ▸ t.millis_le
    simp [FieldKind.decode, Document.date?, hle, ht]
  refine ⟨t, hint, ?_, fun e he => ?_, fun f hf => ?_⟩
  · simp [FieldKind.encode, Json.ofInt?, hmillis]
  · simp [Event.time, he, ht]
  · have htext : FieldKind.date.decode (.str (f.text millis)) = .ok (some t) := by
      simp [FieldKind.decode, Document.date?, DateForm.ofText_text hf ht]
    have hread : Document.ofValue (.str (f.text millis)) ≠ .broken ∧ Document.ofValue (.int millis) ≠ .broken := by
      constructor <;> intro h <;> cases h
    exact ⟨htext, Payload.sameDate (htext.trans hint.symm) hread⟩

namespace Sample

/-- The leap day of year zero, an hour after it began in a zone where it began an hour before UTC. -/
def leapDay : DateForm where
  separator := ' '
  fraction := ['1', '2', '0', '0', '0', '0', '0', '0', '0', '0', '0', '0']
  zone := .ahead 1 0

end Sample

/-- Half a minute before the leap day of year zero began in UTC it had begun an hour to the east. -/
theorem forms_agree_leapDay :
    Sample.leapDay.text (-62162121629880) = "0000-02-29 00:59:30.120000000000+01:00" ∧
    ∃ t : Instant, FieldKind.date.decode (.int (-62162121629880)) = .ok (some t) ∧
      FieldKind.date.encode (some t) = .int (-62162121629880) ∧
      FieldKind.date.decode (.str "0000-02-29 00:59:30.120000000000+01:00") = .ok (some t) := by
  have htext : Sample.leapDay.text (-62162121629880) = "0000-02-29 00:59:30.120000000000+01:00" := by
    decide +kernel
  obtain ⟨t, hint, hencode, -, hforms⟩ := @forms_agree (-62162121629880) (by decide +kernel)
  obtain ⟨hdecode, -⟩ := hforms Sample.leapDay
    ⟨by decide, List.all_eq_true.1 (by decide), by decide +kernel, by unfold Sample.leapDay Zone.Valid; decide,
      by decide +kernel⟩
  exact ⟨htext, t, hint, hencode, htext ▸ hdecode⟩

end FlowView
