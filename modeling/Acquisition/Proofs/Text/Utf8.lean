import Mathlib
import Acquisition.Text.Utf8

/-!
# Encoded text is read back

Decoding finds the characters that `ofString` has encoded, one after the other and no ill-formed
piece between them, so the lenient reader has nothing to replace. An ASCII character is one byte,
and the bytes of any other lie above ASCII (`le_of_mem_utf8EncodeChar`).
-/

namespace Acquisition.Text.Utf8

/-! ## Bytes of one character -/

theorem continueWith_cons {low high : UInt8} {ranges : List (UInt8 × UInt8)} {value n : Nat}
    {rest : Bytes} (hlow : low.toNat ≤ n % 64 + 128) (hhigh : n % 64 + 128 ≤ high.toNat) :
    continueWith ((low, high) :: ranges) value (.ofNat (n % 64 + 128) :: rest) =
      continueWith ranges (value * 64 + n % 64) rest := by
  have hbyte : (UInt8.ofNat (n % 64 + 128)).toNat = n % 64 + 128 :=
    UInt8.toNat_ofNat_of_lt' (by rw [UInt8.size]; omega)
  rw [continueWith, if_pos ⟨UInt8.le_iff_toNat_le.mpr (by omega),
    UInt8.le_iff_toNat_le.mpr (by omega)⟩, hbyte, show (n % 64 + 128) % 64 = n % 64 by omega]

-- A byte of which only its six low bits are free.
theorem continueWith_any (ranges : List (UInt8 × UInt8)) (value n : Nat) (rest : Bytes) :
    continueWith ((0x80, 0xBF) :: ranges) value (.ofNat (n % 64 + 128) :: rest) =
      continueWith ranges (value * 64 + n % 64) rest := by
  have hhigh : (0xBF : UInt8).toNat = 191 := rfl
  exact continueWith_cons (Nat.le_add_left ..) (by omega)

-- The first bytes of characters of two, three and four bytes.
theorem continuation?_two : ∀ high < 32, high < 2 ∨
    continuation? (.ofNat (high + 192)) = some (high, [(0x80, 0xBF)]) := by
  decide

theorem continuation?_three : ∀ high < 16,
    continuation? (.ofNat (high + 224)) = some (high,
      [(if high = 0 then 0xA0 else 0x80, if high = 13 then 0x9F else 0xBF), (0x80, 0xBF)]) := by
  decide

theorem continuation?_four : ∀ high < 5,
    continuation? (.ofNat (high + 240)) = some (high,
      [(if high = 0 then 0x90 else 0x80, if high = 4 then 0x8F else 0xBF), (0x80, 0xBF),
        (0x80, 0xBF)]) := by
  decide

/-! ## One character -/

theorem next_of_continuation {b : UInt8} {value : Nat} {ranges : List (UInt8 × UInt8)}
    (h : continuation? b = some (value, ranges)) (rest : Bytes) :
    next b rest =
      ((continueWith ranges value rest).1.map Char.ofNat, (continueWith ranges value rest).2) := by
  have hb : ¬ b < 0x80 := by
    intro hb
    rw [continuation?] at h
    grind
  rw [next, if_neg hb, h]

section

variable {v : Nat} (rest : Bytes)

theorem next_one (hmost : v ≤ 0x7F) : next (.ofNat v) rest = (some (Char.ofNat v), rest) := by
  have hbyte : (UInt8.ofNat v).toNat = v := UInt8.toNat_ofNat_of_lt' (by rw [UInt8.size]; omega)
  have hlow : UInt8.ofNat v < 0x80 := by
    rw [UInt8.lt_iff_toNat_lt, hbyte]
    exact Nat.lt_succ_of_le hmost
  rw [next, if_pos hlow, hbyte]

theorem next_two (hleast : 0x80 ≤ v) (hmost : v ≤ 0x7FF) :
    next (.ofNat (v / 64 % 32 + 192)) (.ofNat (v % 64 + 128) :: rest) =
      (some (Char.ofNat v), rest) := by
  have hfirst := (continuation?_two (v / 64 % 32) (by omega)).resolve_left (by omega)
  rw [next_of_continuation hfirst, continueWith_any, continueWith, Option.map_some,
    show v / 64 % 32 * 64 + v % 64 = v by omega]

-- The range of the second byte leaves out overlong forms and surrogates.
theorem next_three (hleast : 0x800 ≤ v) (hmost : v ≤ 0xFFFF)
    (hvalid : v < 0xD800 ∨ 0xDFFF < v) :
    next (.ofNat (v / 4096 % 16 + 224))
      (.ofNat (v / 64 % 64 + 128) :: .ofNat (v % 64 + 128) :: rest) =
        (some (Char.ofNat v), rest) := by
  have hfirst := continuation?_three (v / 4096 % 16) (by omega)
  have hlow : (if v / 4096 % 16 = 0 then (0xA0 : UInt8) else 0x80).toNat ≤ v / 64 % 64 + 128 := by
    split
    · change 160 ≤ _
      omega
    · exact Nat.le_add_left ..
  have hhigh : v / 64 % 64 + 128 ≤ (if v / 4096 % 16 = 13 then (0x9F : UInt8) else 0xBF).toNat := by
    split
    · change _ ≤ 159
      omega
    · change _ ≤ 191
      omega
  rw [next_of_continuation hfirst, continueWith_cons hlow hhigh, continueWith_any, continueWith,
    Option.map_some, show (v / 4096 % 16 * 64 + v / 64 % 64) * 64 + v % 64 = v by omega]

-- The range of the second byte leaves out overlong forms and what lies beyond the last character.
theorem next_four (hleast : 0x10000 ≤ v) (hmost : v ≤ 0x10FFFF) :
    next (.ofNat (v / 262144 % 8 + 240)) (.ofNat (v / 4096 % 64 + 128) ::
      .ofNat (v / 64 % 64 + 128) :: .ofNat (v % 64 + 128) :: rest) =
        (some (Char.ofNat v), rest) := by
  have hfirst := continuation?_four (v / 262144 % 8) (by omega)
  have hlow : (if v / 262144 % 8 = 0 then (0x90 : UInt8) else 0x80).toNat ≤
      v / 4096 % 64 + 128 := by
    split
    · change 144 ≤ _
      omega
    · exact Nat.le_add_left ..
  have hhigh : v / 4096 % 64 + 128 ≤
      (if v / 262144 % 8 = 4 then (0x8F : UInt8) else 0xBF).toNat := by
    split
    · change _ ≤ 143
      omega
    · change _ ≤ 191
      omega
  rw [next_of_continuation hfirst, continueWith_cons hlow hhigh, continueWith_any,
    continueWith_any, continueWith, Option.map_some,
    show ((v / 262144 % 8 * 64 + v / 4096 % 64) * 64 + v / 64 % 64) * 64 + v % 64 = v by omega]

end

theorem next_utf8EncodeChar (c : Char) (rest : Bytes) :
    ∃ b others, String.utf8EncodeChar c = b :: others ∧
      next b (others ++ rest) = (some c, rest) := by
  have hvalid : c.toNat < 0xD800 ∨ 0xDFFF < c.toNat ∧ c.toNat < 0x110000 := c.valid
  have hchar : Char.ofNat c.toNat = c := Char.ofNat_toNat c
  obtain ⟨v, hv⟩ : ∃ v, c.val.toNat = v := ⟨_, rfl⟩
  rw [Char.toNat, hv] at hvalid hchar
  simp only [String.utf8EncodeChar, hv]
  rw [← hchar]
  split_ifs with hone htwo hthree
  · exact ⟨_, [], rfl, next_one rest hone⟩
  · exact ⟨_, _, rfl, next_two rest (by omega) htwo⟩
  · exact ⟨_, _, rfl, next_three rest (by omega) hthree (by omega)⟩
  · exact ⟨_, _, rfl, next_four rest (by omega) (by omega)⟩

/-! ## ASCII -/

theorem forall_ascii {p : Char → Prop} (h : ∀ n < 128, p (Char.ofNat n)) {c : Char}
    (hc : c.toNat < 128) : p c := by
  rw [← Char.ofNat_toNat c]
  exact h _ hc

theorem utf8EncodeChar_of_ascii {c : Char} (hc : c.toNat < 128) :
    String.utf8EncodeChar c = [.ofNat c.toNat] := by
  rw [String.utf8EncodeChar]
  exact if_pos (Nat.le_of_lt_succ hc)

-- No byte of a longer character looks like a character of its own.
theorem le_of_mem_utf8EncodeChar {c : Char} (hc : 128 ≤ c.toNat) {b : UInt8}
    (hb : b ∈ String.utf8EncodeChar c) : 128 ≤ b.toNat := by
  have hbyte {n : Nat} (hleast : 128 ≤ n) (hmost : n < 256) : 128 ≤ (UInt8.ofNat n).toNat := by
    rwa [UInt8.toNat_ofNat_of_lt' hmost]
  have hlength : ¬ c.val.toNat ≤ 0x7F := Nat.not_le_of_lt hc
  simp only [String.utf8EncodeChar, if_neg hlength] at hb
  split_ifs at hb <;> simp only [List.mem_cons, List.not_mem_nil, or_false] at hb
  · rcases hb with rfl | rfl <;> exact hbyte (by omega) (by omega)
  · rcases hb with rfl | rfl | rfl <;> exact hbyte (by omega) (by omega)
  · rcases hb with rfl | rfl | rfl | rfl <;> exact hbyte (by omega) (by omega)

/-! ## Texts -/

theorem pieces_ofString (s : String) : pieces (ofString s) = s.toList.map some := by
  rw [ofString]
  induction s.toList with
  | nil => rw [List.flatMap_nil, pieces, List.map_nil]
  | cons c rest ih =>
    obtain ⟨b, others, hc, hnext⟩ := next_utf8EncodeChar c (rest.flatMap String.utf8EncodeChar)
    rw [List.flatMap_cons, hc, List.cons_append, pieces, hnext, ih, List.map_cons]

/-- The lenient reader gives back the text that was encoded. -/
theorem decodeLossy_ofString (s : String) : decodeLossy (ofString s) = s := by
  rw [decodeLossy, pieces_ofString, List.map_map]
  exact (congrArg String.ofList (List.map_id _)).trans String.ofList_toList

/-- Bytes that encode some text. -/
def Valid (bytes : Bytes) : Prop := ∃ text, ofString text = bytes

theorem Valid.ofString_decodeLossy {bytes : Bytes} (h : Valid bytes) :
    ofString (decodeLossy bytes) = bytes := by
  obtain ⟨text, rfl⟩ := h
  rw [decodeLossy_ofString]

end Acquisition.Text.Utf8
