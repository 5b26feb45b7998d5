import MailRules.Ebnf.Check
import MailRules.Proofs.Hexadecimal

/-!
# The character that a terminal denotes

The bounds of a range are single characters, written as they are or as escapes. An escape
is one letter or sign for a usual control character or for itself, or the code point in
hexadecimal, with a number of digits that its letter fixes.

What a text denotes is said here without reading it. A code point is whatever number the
digits stand for, and it counts if a character has it: surrogates and numbers that are too
large are not ruled out in particular.
-/

namespace MailRules.Ebnf

/-- The characters with an escape of their own. -/
def escapes : List (Char × Char) :=
  [('a', '\x07'), ('b', '\x08'), ('f', '\x0C'), ('n', '\n'), ('r', '\r'), ('t', '\t'),
    ('v', '\x0B'), ('\\', '\\'), ('"', '"'), ('\'', '\''), ('\x60', '\x60')]

/-- The text is one character, possibly escaped. -/
inductive Denotes : List Char → Char → Prop where
  | plain {c : Char} (hc : c ≠ '\\') : Denotes [c] c
  | escaped {letter c : Char} (h : (letter, c) ∈ escapes) : Denotes ['\\', letter] c
  | code {letter c : Char} {length : Nat} {digits : List Char}
      (hletter : (letter, length) ∈ [('x', 2), ('u', 4), ('U', 8)])
      (hlength : digits.length = length) (hnumber : Hexadecimal digits c.toNat) :
      Denotes ('\\' :: letter :: digits) c

namespace Check

theorem escaped?_eq_some_iff {letter c : Char} :
    escaped? letter = some c ↔ (letter, c) ∈ escapes := by
  unfold escaped? escapes
  split <;> simp_all [eq_comm]

theorem codeLength?_eq_some_iff {letter : Char} {length : Nat} :
    codeLength? letter = some length ↔ (letter, length) ∈ [('x', 2), ('u', 4), ('U', 8)] := by
  unfold codeLength?
  split <;> simp_all [eq_comm]

/-- A letter for a code point is no letter for a character of its own. -/
theorem escaped?_eq_none {letter : Char} {length : Nat}
    (h : codeLength? letter = some length) : escaped? letter = none := by
  unfold codeLength? at h
  split at h
  · rfl
  · rfl
  · rfl
  · cases h

theorem denotes_of_denoted? {text : List Char} {c : Char} (h : denoted? text = some c) :
    Denotes text c := by
  unfold denoted? at h
  split at h
  · cases h
  · next c' =>
      split_ifs at h with hslash
      obtain rfl : c' = c := Option.some.inj h
      exact .plain hslash
  · next slash letter rest =>
      by_cases hslash : slash ≠ '\\'
      · rw [if_pos hslash] at h
        cases h
      rw [if_neg hslash] at h
      obtain rfl : slash = '\\' := not_not.mp hslash
      split at h
      · next c' hescaped =>
          split_ifs at h with hrest
          obtain rfl : c' = c := Option.some.inj h
          obtain rfl : rest = [] := List.isEmpty_iff.mp hrest
          exact .escaped (escaped?_eq_some_iff.mp hescaped)
      · next length _ hlength =>
          split_ifs at h with hrest
          exact .code (codeLength?_eq_some_iff.mp hlength) (not_not.mp hrest)
            (scalar?_of_hexNumber?_eq_some_iff.mp h)
      · cases h

theorem denoted?_of_denotes {text : List Char} {c : Char} (h : Denotes text c) :
    denoted? text = some c := by
  cases h with
  | plain hc => exact if_neg hc
  | escaped h => simp [denoted?, escaped?_eq_some_iff.mpr h]
  | @code letter _ length digits hletter hlength hnumber =>
      have hlength? := codeLength?_eq_some_iff.mpr hletter
      simp [denoted?, escaped?_eq_none hlength?, hlength?, hlength,
        scalar?_of_hexNumber?_eq_some_iff.mpr hnumber]

/-- The character of a terminal is found if it denotes one. In particular it denotes no
other. -/
theorem denoted?_eq_some_iff {text : List Char} {c : Char} :
    denoted? text = some c ↔ Denotes text c :=
  ⟨denotes_of_denoted?, denoted?_of_denotes⟩

end Check
end MailRules.Ebnf
