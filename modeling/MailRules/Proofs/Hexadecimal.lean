import Mathlib.Data.List.Forall2
import Mathlib.Data.List.Induction
import Mathlib.Data.Nat.Digits.Defs
import Mathlib.Tactic.IntervalCases
import MailRules.Hexadecimal

/-!
# What hexadecimal digits denote

A digit is one of the characters that the numbers below sixteen are written with, or its capital
letter. Digits are the number whose digits they are to the base sixteen, which is said here
without reading them from the left as the reader does.
-/

namespace MailRules

/-- A hexadecimal digit and its value. Letters are of either case. -/
def HexDigit (digit : Char) (value : Nat) : Prop :=
  value < 16 ∧ (digit = Nat.digitChar value ∨ digit = (Nat.digitChar value).toUpper)

/-- The digits are the number in hexadecimal, the last one of least weight. There may be
zeros in front. -/
def Hexadecimal (digits : List Char) (number : Nat) : Prop :=
  ∃ values, List.Forall₂ HexDigit digits.reverse values ∧ Nat.ofDigits 16 values = number

theorem hexDigit_digitChar {value : Nat} (h : value < 16) : HexDigit (Nat.digitChar value) value :=
  ⟨h, .inl rfl⟩

theorem hexValue?_digitChar {value : Nat} (h : value < 16) :
    hexValue? (Nat.digitChar value) = some value ∧
      hexValue? (Nat.digitChar value).toUpper = some value := by
  interval_cases value <;> decide

theorem hexDigit_of_hexValue? {c : Char} {value : Nat} (h : hexValue? c = some value) :
    HexDigit c value := by
  -- The ranges of the three kinds of digits are those of the code points.
  have hcode : ∀ first : Nat, c.toNat = first + value → c = Char.ofNat (first + value) :=
    fun first hfirst => by rw [← hfirst, Char.ofNat_toNat]
  unfold hexValue? at h
  split_ifs at h with hdigit hlower hupper
  · have hrange : 48 ≤ c.toNat ∧ c.toNat ≤ 57 := by
      simpa [Char.isDigit, UInt32.le_iff_toNat_le] using hdigit
    have hvalue : c.toNat - 48 = value := Option.some.inj h
    have hlt : value < 10 := by omega
    rw [hcode 48 (by omega)]
    interval_cases value <;> exact ⟨by decide, by decide⟩
  · have hrange : 97 ≤ c.toNat ∧ c.toNat ≤ 102 := hlower
    have hvalue : c.toNat - 97 + 10 = value := Option.some.inj h
    have hten : 10 ≤ value := by omega
    have hlt : value < 16 := by omega
    rw [hcode 87 (by omega)]
    interval_cases value <;> exact ⟨by decide, by decide⟩
  · have hrange : 65 ≤ c.toNat ∧ c.toNat ≤ 70 := hupper
    have hvalue : c.toNat - 65 + 10 = value := Option.some.inj h
    have hten : 10 ≤ value := by omega
    have hlt : value < 16 := by omega
    rw [hcode 55 (by omega)]
    interval_cases value <;> exact ⟨by decide, by decide⟩

theorem hexValue?_eq_some_iff {c : Char} {value : Nat} :
    hexValue? c = some value ↔ HexDigit c value := by
  refine ⟨hexDigit_of_hexValue?, ?_⟩
  rintro ⟨hvalue, rfl | rfl⟩
  · exact (hexValue?_digitChar hvalue).1
  · exact (hexValue?_digitChar hvalue).2

theorem hexadecimal_nil_iff {number : Nat} : Hexadecimal [] number ↔ number = 0 := by
  simp [Hexadecimal, eq_comm]

theorem hexadecimal_concat_iff {digits : List Char} {digit : Char} {number : Nat} :
    Hexadecimal (digits ++ [digit]) number ↔
      ∃ high low, Hexadecimal digits high ∧ HexDigit digit low ∧ number = 16 * high + low := by
  unfold Hexadecimal
  rw [List.reverse_append, List.reverse_singleton, List.singleton_append]
  constructor
  · rintro ⟨values, hvalues, rfl⟩
    obtain ⟨low, high, hlow, hhigh, rfl⟩ := List.forall₂_cons_left_iff.mp hvalues
    exact ⟨_, low, ⟨high, hhigh, rfl⟩, hlow, by simp [Nat.ofDigits_cons, Nat.add_comm]⟩
  · rintro ⟨_, low, ⟨high, hhigh, rfl⟩, hlow, rfl⟩
    exact ⟨low :: high, .cons hlow hhigh, by simp [Nat.ofDigits_cons, Nat.add_comm]⟩

theorem hexNumber?_eq_some_iff {digits : List Char} {number : Nat} :
    hexNumber? digits = some number ↔ Hexadecimal digits number := by
  induction digits using List.reverseRecOn generalizing number with
  | nil => simp [hexNumber?, hexadecimal_nil_iff, eq_comm]
  | append_singleton digits digit ih =>
      have hstep : hexNumber? (digits ++ [digit]) =
          (hexNumber? digits).bind fun high => (hexValue? digit).map (16 * high + ·) := by
        simp [hexNumber?, List.foldlM_append]
      rw [hstep, hexadecimal_concat_iff, Option.bind_eq_some_iff]
      simp only [Option.map_eq_some_iff, ih, hexValue?_eq_some_iff]
      constructor
      · rintro ⟨high, hhigh, low, hlow, rfl⟩
        exact ⟨high, low, hhigh, hlow, rfl⟩
      · rintro ⟨high, low, hhigh, hlow, rfl⟩
        exact ⟨high, hhigh, low, hlow, rfl⟩

/-- The characters are the numbers that are no surrogates and not too large. -/
theorem scalar?_eq_some_iff {code : Nat} {c : Char} : scalar? code = some c ↔ c.toNat = code := by
  unfold scalar?
  constructor
  · intro h
    split_ifs at h with hvalid
    obtain rfl := Option.some.inj h
    rw [Char.ofNat, dif_pos hvalid]
    rfl
  · rintro rfl
    have hvalid : c.toNat.isValidChar := c.valid
    rw [if_pos hvalid, Char.ofNat_toNat]

theorem scalar?_of_hexNumber?_eq_some_iff {digits : List Char} {c : Char} :
    (hexNumber? digits).bind scalar? = some c ↔ Hexadecimal digits c.toNat := by
  simp only [Option.bind_eq_some_iff, hexNumber?_eq_some_iff, scalar?_eq_some_iff,
    exists_eq_right']

end MailRules
