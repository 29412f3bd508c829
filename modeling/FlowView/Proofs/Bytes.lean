import FlowView.Text.Utf8
import Mathlib.Data.Char
import Mathlib.Data.List.Lex
import Mathlib.Data.String.Basic
/-!
# The order of texts is that of their bytes

Tables compare texts by their bytes in UTF-8. The first byte of a character says how many there are, and the
bytes after it hold six bits each, so a greater character has the greater bytes, whatever follows
(`Text.charBytes_lt`), and so has a greater text (`Text.utf8Bytes_lt`).
-/

namespace FlowView.Text

/-! ## The bytes of a text -/

theorem toList_loop_eq (bytes : ByteArray) (i : Nat) (read : List UInt8) :
    ByteArray.toList.loop bytes i read = read.reverse ++ bytes.data.toList.drop i := by
  fun_induction ByteArray.toList.loop bytes i read with
  | case1 i read h ih =>
    have hi : i < bytes.data.toList.length := h
    rw [ih, List.drop_eq_getElem_cons hi]
    simp [ByteArray.get!, h]
  | case2 i read h =>
    rw [List.drop_eq_nil_of_le (by simpa using Nat.le_of_not_lt h), List.append_nil]

/-- The bytes of one character. -/
def charBytes (c : Char) : List Nat := (String.utf8EncodeChar c).map UInt8.toNat

theorem utf8Bytes_ofList (cs : List Char) : utf8Bytes (String.ofList cs) = cs.flatMap charBytes := by
  have hbytes : (String.ofList cs).toUTF8.toList = cs.flatMap String.utf8EncodeChar := by
    rw [ByteArray.toList, toList_loop_eq]
    simp [List.utf8Encode]
  rw [utf8Bytes, hbytes, List.map_flatMap]
  rfl

/-- One byte for each of the first 128 characters, and up to four for the others. -/
theorem charBytes_eq (c : Char) :
    charBytes c =
      if c.toNat < 128 then [c.toNat]
      else if c.toNat < 2048 then [c.toNat / 64 + 192, c.toNat % 64 + 128]
      else if c.toNat < 65536 then [c.toNat / 4096 + 224, c.toNat / 64 % 64 + 128, c.toNat % 64 + 128]
      else [c.toNat / 262144 + 240, c.toNat / 4096 % 64 + 128, c.toNat / 64 % 64 + 128, c.toNat % 64 + 128] := by
  have hvalid : c.toNat < 1114112 := by
    rcases c.valid with h | ⟨-, h⟩
    · exact h.trans (by decide)
    · exact h
  have hval : c.val.toNat = c.toNat := rfl
  unfold charBytes String.utf8EncodeChar
  simp only [hval]
  repeat' split
  all_goals
    simp only [List.map_cons, List.map_nil, UInt8.toNat_ofNat', List.cons.injEq, and_true]
    omega

/-! ## Their order -/

theorem charBytes_lt {c d : Char} (h : c < d) (r r' : List Nat) : charBytes c ++ r < charBytes d ++ r' := by
  have h : c.toNat < d.toNat := h
  rw [charBytes_eq, charBytes_eq]
  repeat' split
  all_goals
    simp only [List.cons_append, List.nil_append, List.cons_lt_cons_iff]
    omega

theorem charBytes_ne_nil (c : Char) : charBytes c ≠ [] := by
  simp [charBytes, String.utf8EncodeChar_ne_nil]

theorem flatMap_charBytes_lt {cs ds : List Char} (h : cs < ds) : cs.flatMap charBytes < ds.flatMap charBytes := by
  induction cs generalizing ds with
  | nil =>
    cases ds with
    | nil => exact absurd h (lt_irrefl _)
    | cons d ds =>
      obtain ⟨b, bs, hbytes⟩ := List.exists_cons_of_ne_nil (charBytes_ne_nil d)
      rw [List.flatMap_nil, List.flatMap_cons, hbytes]
      exact List.nil_lt_cons b _
  | cons c cs ih =>
    cases ds with
    | nil => exact absurd h (List.not_lt_nil _)
    | cons d ds =>
      rw [List.flatMap_cons, List.flatMap_cons]
      rcases List.cons_lt_cons_iff.1 h with hfirst | ⟨rfl, hrest⟩
      · exact charBytes_lt hfirst _ _
      · exact List.append_left_lt (ih hrest)

/-- Of two texts the smaller one has the smaller bytes. -/
theorem utf8Bytes_lt {s t : String} (h : s < t) : utf8Bytes s < utf8Bytes t := by
  rw [← String.ofList_toList (s := s), ← String.ofList_toList (s := t), utf8Bytes_ofList, utf8Bytes_ofList]
  exact flatMap_charBytes_lt (String.lt_iff_toList_lt.1 h)

end FlowView.Text
