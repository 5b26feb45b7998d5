import MailRules.Json.Reader
import MailRules.Json.Value
import MailRules.Proofs.Hexadecimal

/-!
# What stands between the quotes of a JSON string

A character may stand for itself, be written with a letter after a backslash, or be given by
four hexadecimal digits. Digits may also give half of a character, and two halves in the right
order make up one. There is no unique way to write a string, so this is a relation between the
text and what it stands for.

The halves are paired up in a second step. A text whose halves do not pair up is well formed
and is no string of characters.
-/

namespace MailRules.Json

open Json.Token (Part chars? stringParts?)

/-- Four hexadecimal digits and the number that they denote. -/
def CodeUnit (digits : List Char) (number : Nat) : Prop :=
  digits.length = 4 ∧ Hexadecimal digits number

/-- The characters with a letter of their own. -/
def letters : List (Char × Char) :=
  [('"', '"'), ('\\', '\\'), ('/', '/'), ('b', '\x08'), ('f', '\x0C'), ('n', '\n'), ('r', '\r'),
    ('t', '\t')]

/-- The number by which a character or half of one is given. -/
def Token.Part.number : Part → Nat
  | .char c => c.toNat
  | .high number | .low number => number

/-- Half of a character is in the range of its kind. -/
def Token.Part.InRange : Part → Prop
  | .char _ => True
  | .high number => 0xD800 ≤ number ∧ number < 0xDC00
  | .low number => 0xDC00 ≤ number ∧ number < 0xE000

/-- The text may stand between quotes, for the characters and halves of characters. -/
inductive Quotation : List Char → List Part → Prop where
  | nil : Quotation [] []
  | plain {c : Char} {text : List Char} {parts : List Part} (hquote : c ≠ '"')
      (hslash : c ≠ '\\') (hcontrol : ' ' ≤ c) (h : Quotation text parts) :
      Quotation (c :: text) (.char c :: parts)
  | letter {letter c : Char} {text : List Char} {parts : List Part}
      (hletter : (letter, c) ∈ letters) (h : Quotation text parts) :
      Quotation ('\\' :: letter :: text) (.char c :: parts)
  | code {digits : List Char} {part : Part} {text : List Char} {parts : List Part}
      (hdigits : CodeUnit digits part.number) (hrange : part.InRange)
      (h : Quotation text parts) : Quotation ('\\' :: 'u' :: (digits ++ text)) (part :: parts)

/-- The characters that the parts make up: the halves come in pairs. -/
inductive MadeUp : List Part → List Char → Prop where
  | nil : MadeUp [] []
  | char {c : Char} {parts : List Part} {chars : List Char} (h : MadeUp parts chars) :
      MadeUp (.char c :: parts) (c :: chars)
  | pair {high low : Nat} {c : Char} {parts : List Part} {chars : List Char}
      (hc : c.toNat = 0x10000 + (high - 0xD800) * 0x400 + (low - 0xDC00))
      (h : MadeUp parts chars) : MadeUp (.high high :: .low low :: parts) (c :: chars)

theorem escaped?_of_mem_letters {letter c : Char} (h : (letter, c) ∈ letters) :
    Token.escaped? letter = some c ∧ letter ≠ 'u' := by
  simp only [letters, List.mem_cons, Prod.mk.injEq, List.not_mem_nil, or_false] at h
  rcases h with ⟨rfl, rfl⟩ | ⟨rfl, rfl⟩ | ⟨rfl, rfl⟩ | ⟨rfl, rfl⟩ | ⟨rfl, rfl⟩ | ⟨rfl, rfl⟩ |
    ⟨rfl, rfl⟩ | ⟨rfl, rfl⟩ <;> exact ⟨rfl, by decide⟩

/-- The number tells whether it is a half, and of which kind. -/
theorem ofCode_number {part : Part} (h : part.InRange) : Part.ofCode part.number = part := by
  cases part with
  | char c =>
      have hvalid : c.toNat.isValidChar := c.valid
      have hhigh : ¬ (0xD800 ≤ c.toNat ∧ c.toNat < 0xDC00) := by rcases hvalid with h | h <;> omega
      have hlow : ¬ (0xDC00 ≤ c.toNat ∧ c.toNat < 0xE000) := by rcases hvalid with h | h <;> omega
      rw [Part.number, Part.ofCode, if_neg hhigh, if_neg hlow, Char.ofNat_toNat]
  | high number => exact if_pos h
  | low number =>
      obtain ⟨hfirst, hlast⟩ := h
      rw [Part.number, Part.ofCode, if_neg (by omega), if_pos ⟨hfirst, hlast⟩]

theorem stringParts?_code {digits : List Char} {number : Nat} (h : CodeUnit digits number)
    (rest : List Char) :
    stringParts? ('\\' :: 'u' :: (digits ++ rest)) = (stringParts? rest).map fun (parts, length) =>
      (Part.ofCode number :: parts, length + 6) := by
  obtain ⟨hlength, hnumber⟩ := h
  obtain ⟨a, b, c, d, rfl⟩ : ∃ a b c d, digits = [a, b, c, d] := by
    match digits, hlength with
    | [a, b, c, d], _ => exact ⟨a, b, c, d, rfl⟩
  show stringParts? ('\\' :: 'u' :: a :: b :: c :: d :: rest) = _
  rw [stringParts?, hexNumber?_eq_some_iff.mpr hnumber]
  cases stringParts? rest <;> rfl

theorem stringParts?_letter {letter c : Char} (h : (letter, c) ∈ letters) (rest : List Char) :
    stringParts? ('\\' :: letter :: rest) = (stringParts? rest).map fun (parts, length) =>
      (.char c :: parts, length + 2) := by
  obtain ⟨hescaped, hu⟩ := escaped?_of_mem_letters h
  rw [stringParts?, hescaped]
  · cases stringParts? rest <;> rfl
  · exact fun _ _ _ _ _ hletter _ => hu hletter

theorem stringParts?_plain {c : Char} (hquote : c ≠ '"') (hslash : c ≠ '\\') (hcontrol : ' ' ≤ c)
    (rest : List Char) :
    stringParts? (c :: rest) = (stringParts? rest).map fun (parts, length) =>
      (.char c :: parts, length + 1) := by
  have hnot : ¬ (c = '\\' ∨ c < ' ') := by
    rintro (h | h)
    · exact hslash h
    · exact absurd h (Char.not_lt.mpr hcontrol)
  rw [stringParts?, if_neg hnot]
  · cases stringParts? rest <;> rfl
  · exact hquote
  · exact fun _ _ _ _ _ h _ => hslash h
  · exact fun _ _ h _ => hslash h

/-- What may stand between quotes is read up to the closing quote, whatever follows it. -/
theorem Quotation.stringParts?_eq {text : List Char} {parts : List Part}
    (h : Quotation text parts) (rest : List Char) :
    stringParts? (text ++ '"' :: rest) = some (parts, text.length + 1) := by
  induction h with
  | nil => rfl
  | plain hquote hslash hcontrol _ ih =>
      rw [List.cons_append, stringParts?_plain hquote hslash hcontrol, ih]
      rfl
  | letter hletter _ ih =>
      rw [List.cons_append, List.cons_append, stringParts?_letter hletter, ih]
      rfl
  | code hdigits hrange _ ih =>
      rw [List.cons_append, List.cons_append, List.append_assoc, stringParts?_code hdigits, ih,
        ofCode_number hrange, List.length_cons, List.length_cons, List.length_append, hdigits.1]
      exact congrArg (fun length => some (_, length)) (by omega)

theorem Quotation.inRange {text : List Char} {parts : List Part} (h : Quotation text parts) :
    ∀ part ∈ parts, part.InRange := by
  induction h with
  | nil => simp
  | plain _ _ _ _ ih => exact List.forall_mem_cons.mpr ⟨trivial, ih⟩
  | letter _ _ ih => exact List.forall_mem_cons.mpr ⟨trivial, ih⟩
  | code _ hrange _ ih => exact List.forall_mem_cons.mpr ⟨hrange, ih⟩

/-- Two halves in range are a character beyond those of four digits. -/
theorem toNat_ofNat_pair {high low : Nat} (hhigh : (Part.high high).InRange)
    (hlow : (Part.low low).InRange) :
    (Char.ofNat (0x10000 + (high - 0xD800) * 0x400 + (low - 0xDC00))).toNat =
      0x10000 + (high - 0xD800) * 0x400 + (low - 0xDC00) := by
  obtain ⟨_, hhigh⟩ := hhigh
  obtain ⟨_, hlow⟩ := hlow
  have hvalid : (0x10000 + (high - 0xD800) * 0x400 + (low - 0xDC00)).isValidChar :=
    .inr ⟨by omega, by omega⟩
  rw [Char.ofNat, dif_pos hvalid]
  rfl

theorem madeUp_of_chars? {parts : List Part} {chars : List Char}
    (hrange : ∀ part ∈ parts, part.InRange) (h : chars? parts = some chars) :
    MadeUp parts chars := by
  fun_induction chars? parts generalizing chars with
  | case1 =>
      obtain rfl := Option.some.inj h
      exact .nil
  | case2 c parts ih =>
      obtain ⟨others, hothers, hchars⟩ := Option.bind_eq_some_iff.mp h
      obtain rfl := Option.some.inj hchars
      exact .char (ih (List.forall_mem_cons.mp hrange).2 hothers)
  | case3 high low parts ih =>
      obtain ⟨others, hothers, hchars⟩ := Option.bind_eq_some_iff.mp h
      obtain rfl := Option.some.inj hchars
      obtain ⟨hhigh, hrange⟩ := List.forall_mem_cons.mp hrange
      obtain ⟨hlow, hrange⟩ := List.forall_mem_cons.mp hrange
      exact .pair (toNat_ofNat_pair hhigh hlow) (ih hrange hothers)
  | case4 => cases h

theorem MadeUp.chars?_eq {parts : List Part} {chars : List Char} (h : MadeUp parts chars) :
    chars? parts = some chars := by
  induction h with
  | nil => rfl
  | char _ ih =>
      rw [chars?, ih]
      rfl
  | pair hc _ ih =>
      rw [chars?, ih, ← hc, Char.ofNat_toNat]
      rfl

/-- The characters are found if the halves pair up, and only then. -/
theorem Quotation.chars?_eq_some_iff {text : List Char} {parts : List Part}
    (h : Quotation text parts) {chars : List Char} :
    chars? parts = some chars ↔ MadeUp parts chars :=
  ⟨madeUp_of_chars? h.inRange, MadeUp.chars?_eq⟩

/-- The number of a control character has two digits, so two zeros are put before them. -/
theorem codeUnit_control {c : Char} (h : c.toNat < 32) :
    CodeUnit ['0', '0', Nat.digitChar (c.toNat / 16), Nat.digitChar (c.toNat % 16)] c.toNat := by
  refine ⟨rfl, [c.toNat % 16, c.toNat / 16, 0, 0], ?_, ?_⟩
  · have hzero : HexDigit '0' 0 := hexDigit_digitChar (by omega)
    have hhigh := hexDigit_digitChar (show c.toNat / 16 < 16 by omega)
    have hlow := hexDigit_digitChar (show c.toNat % 16 < 16 by omega)
    exact .cons hlow (.cons hhigh (.cons hzero (.cons hzero .nil)))
  · simp only [Nat.ofDigits_cons, Nat.ofDigits_nil]
    omega

/-- A character as it is written is one of the ways in which it may be written. -/
theorem Quotation.escape {text : List Char} {parts : List Part} (h : Quotation text parts)
    (c : Char) : Quotation (Json.escape c ++ text) (.char c :: parts) := by
  unfold Json.escape
  split_ifs with hquote hslash hb ht hn hf hr hcontrol
  · subst hquote
    exact .letter (by decide) h
  · subst hslash
    exact .letter (by decide) h
  · subst hb
    exact .letter (by decide) h
  · subst ht
    exact .letter (by decide) h
  · subst hn
    exact .letter (by decide) h
  · subst hf
    exact .letter (by decide) h
  · subst hr
    exact .letter (by decide) h
  · exact .code (codeUnit_control hcontrol) trivial h
  · exact .plain hquote hslash (Nat.not_lt.mp hcontrol) h

/-- A string as it is written between its quotes. -/
theorem quotation_flatMap_escape (chars : List Char) :
    Quotation (chars.flatMap Json.escape) (chars.map .char) := by
  induction chars with
  | nil => exact .nil
  | cons c chars ih => exact ih.escape c

theorem madeUp_map_char (chars : List Char) : MadeUp (chars.map .char) chars := by
  induction chars with
  | nil => exact .nil
  | cons c chars ih => exact .char ih

end MailRules.Json
