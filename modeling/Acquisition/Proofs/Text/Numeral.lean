import Mathlib
import Acquisition.Text.Numeral

/-!
# What decimal numerals are read as
-/

namespace Acquisition.Text.Numeral

theorem digit?_ten (c : Char) :
    digit? 10 c = if c.isDigit then some (c.toNat - '0'.toNat) else none := by
  have hdigit : ('0' ≤ c ∧ c ≤ '9') ↔ c.isDigit := Char.isDigit_iff_toNat.symm
  rw [digit?, Hex.digitValue?]
  by_cases h : c.isDigit
  · have hsmall : c.toNat - '0'.toNat < 10 := by
      have hrange := Char.isDigit_iff_toNat.mp h
      change 48 ≤ c.toNat ∧ c.toNat ≤ 57 at hrange
      change c.toNat - 48 < 10
      omega
    rw [if_pos (hdigit.mpr h), if_pos h, Option.filter_some, if_pos (by simpa using hsmall)]
  · -- A letter stands for ten or more.
    rw [if_neg (mt hdigit.mp h), if_neg h]
    split_ifs <;> simp

theorem continue?_ten (value : Nat) (cs : List Char) :
    continue? 10 value cs =
      if cs.all Char.isDigit then some (Nat.ofDigitChars 10 cs value) else none := by
  induction cs generalizing value with
  | nil => rfl
  | cons c rest ih =>
    rw [continue?, digit?_ten, List.all_cons]
    by_cases h : c.isDigit
    · rw [if_pos h, h, Bool.true_and, Nat.ofDigitChars_cons, Nat.mul_comm 10]
      exact ih _
    · rw [if_neg h, Bool.eq_false_iff.mpr h]
      rfl

theorem digits?_ten_eq_some_iff {cs : List Char} {n : Nat} :
    digits? 10 cs = some n ↔ cs ≠ [] ∧ (∀ c ∈ cs, c.isDigit) ∧ Nat.ofDigitChars 10 cs 0 = n := by
  cases cs with
  | nil => simp [digits?]
  | cons c rest =>
    rw [digits?, continue?_ten, Option.ite_none_right_eq_some, List.all_eq_true, Option.some_inj]
    exact (and_iff_right (List.cons_ne_nil c rest)).symm

theorem filter_digits?_ten_eq_some_iff {max n : Nat} {cs : List Char} :
    (digits? 10 cs).filter (· ≤ max) = some n ↔
      cs ≠ [] ∧ (∀ c ∈ cs, c.isDigit) ∧ Nat.ofDigitChars 10 cs 0 = n ∧ n ≤ max := by
  rw [Option.filter_eq_some_iff, digits?_ten_eq_some_iff, decide_eq_true_eq, and_assoc, and_assoc]

/-- What is read is digits, with or without a `+` in front of them, and their value is within the
bound. -/
theorem unsigned?_ten_eq_some_iff {max n : Nat} {text : List Char} :
    unsigned? 10 max text = some n ↔
      ∃ digits, (text = digits ∨ text = '+' :: digits) ∧ digits ≠ [] ∧
        (∀ c ∈ digits, c.isDigit) ∧ Nat.ofDigitChars 10 digits 0 = n ∧ n ≤ max := by
  unfold unsigned?
  dsimp only
  split <;> rw [filter_digits?_ten_eq_some_iff]
  · rename_i rest
    constructor
    · exact fun h => ⟨rest, .inr rfl, h⟩
    · rintro ⟨digits, rfl | hrest, h⟩
      · -- The sign is no digit.
        exact absurd (h.2.1 '+' List.mem_cons_self) (by decide)
      · cases hrest
        exact h
  · rename_i hsign
    constructor
    · exact fun h => ⟨text, .inl rfl, h⟩
    · rintro ⟨digits, rfl | hrest, h⟩
      · exact h
      · exact absurd hrest (hsign digits)

end Acquisition.Text.Numeral
