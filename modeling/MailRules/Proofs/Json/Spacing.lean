import Mathlib.Data.List.Chain
import MailRules.Proofs.Json.Quotation

/-!
# JSON tokens and the white space between them

A text is written from tokens by putting as much white space as one likes before, between and
after them. Numbers are as long as they can be, so two of them, or a number and a word, must
be kept apart; wherever else two tokens meet it is clear where the first one ends.

No white space is needed in a value: a number, or one of the words that are values, is followed
by a comma or a closing bracket or by nothing. The tokens of a text are therefore found again
for every list in which these scalars do not meet.
-/

namespace MailRules.Json

open Json.Token (Part chars? cut? digits exponentLength? fractionLength? numberLength? ofText?)

/-- White space. -/
def Blank (text : List Char) : Prop := ∀ c ∈ text, c ∈ [' ', '\t', '\n', '\r']

/-- At least one digit. -/
def Digits (text : List Char) : Prop := text ≠ [] ∧ ∀ c ∈ text, c.isDigit

/-- The whole part of a number has no leading zeros. -/
inductive Whole : List Char → Prop where
  | zero : Whole ['0']
  | nonzero {c : Char} {text : List Char} (hc : c ≠ '0') (h : Digits (c :: text)) :
      Whole (c :: text)

inductive Fraction : List Char → Prop where
  | none : Fraction []
  | point {text : List Char} (h : Digits text) : Fraction ('.' :: text)

inductive Exponent : List Char → Prop where
  | none : Exponent []
  | power {e : Char} {sign text : List Char} (he : e = 'e' ∨ e = 'E')
      (hsign : sign ∈ [[], ['+'], ['-']]) (h : Digits text) : Exponent (e :: (sign ++ text))

inductive Number : List Char → Prop where
  | number {minus whole fraction exponent : List Char} (hminus : minus ∈ [[], ['-']])
      (hwhole : Whole whole) (hfraction : Fraction fraction) (hexponent : Exponent exponent) :
      Number (minus ++ (whole ++ (fraction ++ exponent)))

/-- The text does not go on with a digit. -/
def NoDigit (rest : List Char) : Prop := ∀ c ∈ rest.head?, ¬ c.isDigit

/-- The text does not go on as a number may. -/
def NoNumber (rest : List Char) : Prop :=
  ∀ c ∈ rest.head?, ¬ c.isDigit ∧ c ≠ '.' ∧ c ≠ 'e' ∧ c ≠ 'E'

theorem NoNumber.noDigit {rest : List Char} (h : NoNumber rest) : NoDigit rest :=
  fun c hc => (h c hc).1

theorem digits_append {text rest : List Char} (htext : ∀ c ∈ text, c.isDigit)
    (hrest : NoDigit rest) : digits (text ++ rest) = text.length := by
  rw [digits, List.takeWhile_append_of_pos htext, List.length_append]
  cases rest with
  | nil => rfl
  | cons c rest => rw [List.takeWhile_cons_of_neg (hrest c rfl)]; rfl

theorem Digits.digits_append {text rest : List Char} (h : Digits text) (hrest : NoDigit rest) :
    digits (text ++ rest) = text.length := Json.digits_append h.2 hrest

theorem Digits.length_ne_zero {text : List Char} (h : Digits text) : text.length ≠ 0 :=
  fun hzero => h.1 (List.length_eq_zero_iff.mp hzero)

theorem Fraction.noDigit {fraction rest : List Char} (h : Fraction fraction)
    (hrest : NoDigit rest) : NoDigit (fraction ++ rest) := by
  cases h with
  | none => exact hrest
  | point => intro c hc; obtain rfl := Option.some.inj hc; decide

theorem Exponent.noDigit {exponent rest : List Char} (h : Exponent exponent)
    (hrest : NoNumber rest) : NoDigit (exponent ++ rest) := by
  cases h with
  | none => exact hrest.noDigit
  | power he =>
      intro c hc
      obtain rfl := Option.some.inj hc
      rcases he with rfl | rfl <;> decide

theorem Fraction.fractionLength?_append {fraction rest : List Char} (h : Fraction fraction)
    (hrest : NoDigit rest) (hpoint : rest.head? ≠ some '.') :
    fractionLength? (fraction ++ rest) = some fraction.length := by
  cases h with
  | none =>
      rw [List.nil_append, fractionLength?]
      · rfl
      · rintro tail rfl
        exact hpoint rfl
  | point h =>
      rw [List.cons_append, fractionLength?, h.digits_append hrest, if_neg h.length_ne_zero]
      rfl

theorem Exponent.head?_ne_point {exponent rest : List Char} (h : Exponent exponent)
    (hrest : NoNumber rest) : (exponent ++ rest).head? ≠ some '.' := by
  cases h with
  | none => exact fun hpoint => (hrest _ hpoint).2.1 rfl
  | power he => rcases he with rfl | rfl <;> simp

theorem Exponent.exponentLength?_append {exponent rest : List Char} (h : Exponent exponent)
    (hrest : NoNumber rest) : exponentLength? (exponent ++ rest) = some exponent.length := by
  cases h with
  | none =>
      cases rest with
      | nil => rfl
      | cons c rest =>
          obtain ⟨-, -, he, hE⟩ := hrest c rfl
          rw [List.nil_append, exponentLength?, if_neg (by simp [he, hE])]
          rfl
  | @power e sign text he hsign h =>
      have hsigned : (if (sign ++ (text ++ rest)).head? = some '+' ∨
          (sign ++ (text ++ rest)).head? = some '-' then 1 else 0) = sign.length := by
        obtain ⟨c, text, rfl⟩ := List.exists_cons_of_ne_nil h.1
        have hc : c.isDigit := h.2 c List.mem_cons_self
        have hplus : c ≠ '+' := by rintro rfl; exact absurd hc (by decide)
        have hminus : c ≠ '-' := by rintro rfl; exact absurd hc (by decide)
        simp only [List.mem_cons, List.not_mem_nil, or_false] at hsign
        rcases hsign with rfl | rfl | rfl <;> simp [hplus, hminus]
      rw [List.cons_append, List.append_assoc, exponentLength?, if_pos he]
      simp only [hsigned, List.drop_left', h.digits_append hrest.noDigit, h.length_ne_zero,
        if_false, List.length_cons, List.length_append, Nat.add_comm]

theorem Whole.exists_cons {whole : List Char} (h : Whole whole) :
    ∃ c text, whole = c :: text ∧ c.isDigit := by
  cases h with
  | zero => exact ⟨'0', [], rfl, rfl⟩
  | nonzero _ h => exact ⟨_, _, rfl, h.2 _ List.mem_cons_self⟩

/-- The sign and the whole part of a number are read, whatever comes after them. -/
theorem Whole.numberLength?_append {minus whole rest : List Char} (hminus : minus ∈ [[], ['-']])
    (h : Whole whole) (hrest : NoDigit rest) :
    numberLength? (minus ++ (whole ++ rest)) = (fractionLength? rest).bind fun fraction =>
      (exponentLength? (rest.drop fraction)).bind fun exponent =>
        some (minus.length + whole.length + fraction + exponent) := by
  have hsigned : (if (minus ++ (whole ++ rest)).head? = some '-' then 1 else 0) =
      minus.length := by
    obtain ⟨c, text, rfl, hc⟩ := h.exists_cons
    have hne : c ≠ '-' := by rintro rfl; exact absurd hc (by decide)
    simp only [List.mem_cons, List.not_mem_nil, or_false] at hminus
    rcases hminus with rfl | rfl <;> simp [hne]
  have hdrop : ∀ length, (whole ++ rest).drop (whole.length + length) = rest.drop length :=
    fun length => by rw [← List.drop_drop, List.drop_left]
  rw [numberLength?]
  simp only [hsigned, List.drop_left]
  cases h with
  | zero =>
      have hdrop : ∀ length, ('0' :: rest).drop (1 + length) = rest.drop length := hdrop
      simp [hdrop]
  | @nonzero c text hc h =>
      rw [h.digits_append hrest, if_neg h.length_ne_zero]
      split
      · next heq => exact absurd (List.cons.inj heq).1 hc
      · simp only [Option.bind_eq_bind, Option.bind_some, List.drop_left, hdrop]
        rfl

/-- A number is read to its end. -/
theorem Number.numberLength?_append {text rest : List Char} (h : Number text)
    (hrest : NoNumber rest) : numberLength? (text ++ rest) = some text.length := by
  cases h with
  | @number minus whole fraction exponent hminus hwhole hfraction hexponent =>
      have hafter := hexponent.noDigit hrest
      have hpoint := hexponent.head?_ne_point hrest
      rw [List.append_assoc, List.append_assoc, List.append_assoc,
        hwhole.numberLength?_append hminus (hfraction.noDigit hafter),
        hfraction.fractionLength?_append hafter hpoint, Option.bind_some, List.drop_left,
        hexponent.exponentLength?_append hrest]
      simp [Nat.add_assoc]

theorem Number.exists_cons {text : List Char} (h : Number text) :
    ∃ c more, text = c :: more ∧ (c.isDigit ∨ c = '-') := by
  cases h with
  | number hminus hwhole =>
      obtain ⟨c, more, rfl, hc⟩ := hwhole.exists_cons
      simp only [List.mem_cons, List.not_mem_nil, or_false] at hminus
      rcases hminus with rfl | rfl
      · exact ⟨c, _, rfl, .inl hc⟩
      · exact ⟨'-', _, rfl, .inr rfl⟩

/-- The characters that are tokens by themselves. -/
def signs : List (Char × Token) :=
  [('\x7b', .openObject), ('\x7d', .closeObject), ('[', .openArray), (']', .closeArray),
    (':', .colon), (',', .comma)]

/-- The values that are words. -/
def words : List (List Char) :=
  [['t', 'r', 'u', 'e'], ['f', 'a', 'l', 's', 'e'], ['n', 'u', 'l', 'l']]

/-- The text is the token. -/
inductive Token.Written : Token → List Char → Prop where
  | sign {c : Char} {token : Token} (h : (c, token) ∈ signs) : Written token [c]
  | string {text chars : List Char} {parts : List Part} (h : Quotation text parts)
      (hchars : MadeUp parts chars) :
      Written (.string (some (String.ofList chars))) ('"' :: (text ++ ['"']))
  | broken {text : List Char} {parts : List Part} (h : Quotation text parts)
      (hnone : ∀ chars, ¬ MadeUp parts chars) : Written (.string none) ('"' :: (text ++ ['"']))
  | word {text : List Char} (h : text ∈ words) : Written .scalar text
  | number {text : List Char} (h : Number text) : Written .scalar text

/-- The usual way of writing a string. -/
theorem Token.Written.quote (value : String) :
    (Token.string (some value)).Written (quote value) := by
  have h := string (quotation_flatMap_escape value.toList) (madeUp_map_char value.toList)
  rwa [String.ofList_toList] at h

/-- The tokens are written one after the other, with white space wherever one likes. -/
inductive Spaced : List Token → List Char → Prop where
  | nil {gap : List Char} (hgap : Blank gap) : Spaced [] gap
  | cons {gap written rest : List Char} {token : Token} {tokens : List Token} (hgap : Blank gap)
      (htoken : token.Written written) (h : Spaced tokens rest) :
      Spaced (token :: tokens) (gap ++ (written ++ rest))

theorem isBlank_iff {c : Char} : Token.isBlank c = true ↔ c ∈ [' ', '\t', '\n', '\r'] := by
  simp [Token.isBlank, or_assoc]

theorem ofText?_blank {gap : List Char} (h : Blank gap) (rest : List Char) :
    ofText? (gap ++ rest) = ofText? rest := by
  induction gap with
  | nil => rfl
  | cons c gap ih =>
      obtain ⟨hc, hgap⟩ := List.forall_mem_cons.mp h
      rw [List.cons_append, ofText?, cut?, if_pos (isBlank_iff.mpr hc)]
      simp [ih hgap]

/-- A digit or a minus sign begins a number and nothing else. -/
theorem cut?_of_numeral {c : Char} (hc : c.isDigit ∨ c = '-') (rest : List Char) :
    cut? c rest = (numberLength? (c :: rest)).map fun length => (some .scalar, length - 1) := by
  have hne : ∀ other : Char, other.isDigit = false → other ≠ '-' → c ≠ other := by
    rintro other hother hminus rfl
    rcases hc with hc | rfl
    · rw [hother] at hc
      cases hc
    · exact hminus rfl
  have hblank : ¬ Token.isBlank c = true := by
    simp [Token.isBlank, hne]
  have hword : ∀ other : Char, other.isDigit = false → other ≠ '-' → other ≠ c :=
    fun other hother hminus => (hne other hother hminus).symm
  simp [cut?, hblank, hne, hword]

theorem Token.Written.cut?_eq {token : Token} {text rest : List Char} (h : token.Written text)
    (hrest : token = .scalar → NoNumber rest) :
    ∃ c more, text = c :: more ∧ cut? c (more ++ rest) = some (some token, more.length) := by
  cases h with
  | @sign c token h =>
      refine ⟨c, [], rfl, ?_⟩
      simp only [signs, List.mem_cons, Prod.mk.injEq, List.not_mem_nil, or_false] at h
      rcases h with ⟨rfl, rfl⟩ | ⟨rfl, rfl⟩ | ⟨rfl, rfl⟩ | ⟨rfl, rfl⟩ | ⟨rfl, rfl⟩ | ⟨rfl, rfl⟩ <;>
        rfl
  | string h hchars =>
      refine ⟨'"', _, rfl, ?_⟩
      have hparts := h.stringParts?_eq rest
      simp [cut?, isBlank, hparts, hchars.chars?_eq]
  | @broken text parts h hnone =>
      refine ⟨'"', _, rfl, ?_⟩
      have hparts := h.stringParts?_eq rest
      have hchars : chars? parts = none :=
        Option.eq_none_iff_forall_ne_some.mpr fun chars hchars =>
          hnone chars (h.chars?_eq_some_iff.mp hchars)
      simp [cut?, isBlank, hparts, hchars]
  | word h =>
      simp only [words, List.mem_cons, List.not_mem_nil, or_false] at h
      rcases h with rfl | rfl | rfl
      · exact ⟨'t', _, rfl, by simp [cut?, isBlank]⟩
      · exact ⟨'f', _, rfl, by simp [cut?, isBlank]⟩
      · exact ⟨'n', _, rfl, by simp [cut?, isBlank]⟩
  | number h =>
      obtain ⟨c, more, rfl, hc⟩ := h.exists_cons
      have hlength := h.numberLength?_append (hrest rfl)
      rw [List.cons_append] at hlength
      exact ⟨c, more, rfl, by rw [cut?_of_numeral hc, hlength]; rfl⟩

/-- A token is found at the beginning of a text. -/
theorem Token.Written.ofText?_append {token : Token} {text rest : List Char}
    (h : token.Written text) (hrest : token = .scalar → NoNumber rest) :
    ofText? (text ++ rest) = (ofText? rest).map (token :: ·) := by
  obtain ⟨c, more, rfl, hcut⟩ := h.cut?_eq hrest
  rw [List.cons_append, ofText?, hcut]
  simp only [List.drop_left]
  cases ofText? rest <;> rfl

/-- The characters that begin a token other than a number or a word, and white space. -/
def openers : List Char := [' ', '\t', '\n', '\r'] ++ (signs.map Prod.fst ++ ['"'])

theorem eq_scalar_of_cut? {c : Char} {rest : List Char} {token : Option Token} {length : Nat}
    (hc : c ∉ openers) (h : cut? c rest = some (token, length)) : token = some .scalar := by
  have hne : ∀ other ∈ openers, c ≠ other := fun other hother heq => hc (heq ▸ hother)
  have hblank : ¬ Token.isBlank c = true := fun hblank =>
    hc (List.mem_append_left _ (isBlank_iff.mp hblank))
  rw [cut?, if_neg hblank, if_neg (hne _ (by decide)), if_neg (hne _ (by decide)),
    if_neg (hne _ (by decide)), if_neg (hne _ (by decide)), if_neg (hne _ (by decide)),
    if_neg (hne _ (by decide)), if_neg (hne _ (by decide))] at h
  split_ifs at h
  · cases h; rfl
  · cases h; rfl
  · cases h; rfl
  · obtain ⟨_, _, hfirst⟩ := Option.map_eq_some_iff.mp h
    exact (Prod.mk.inj hfirst).1.symm

/-- Only white space is passed over. -/
theorem eq_of_cut?_eq_none {c : Char} {rest : List Char} {length : Nat}
    (h : cut? c rest = some (none, length)) :
    c ∈ [' ', '\t', '\n', '\r'] ∧ length = 0 := by
  by_cases hblank : Token.isBlank c = true
  · rw [cut?, if_pos hblank] at h
    cases h
    exact ⟨isBlank_iff.mp hblank, rfl⟩
  by_cases hc : c ∈ openers
  · simp only [openers, List.mem_append, List.mem_singleton] at hc
    rcases hc with hc | hc | rfl
    · exact absurd (isBlank_iff.mpr hc) hblank
    · simp only [signs, List.map, List.mem_cons, List.not_mem_nil, or_false] at hc
      rcases hc with rfl | rfl | rfl | rfl | rfl | rfl <;> cases h
    · obtain ⟨_, _, hstring⟩ := Option.map_eq_some_iff.mp
        (show (Token.stringParts? rest).map _ = some (none, length) from h)
      cases (Prod.mk.inj hstring).1
  · cases eq_scalar_of_cut? hc h

/-- A text without a token is white space. -/
theorem blank_of_ofText? {text : List Char} (h : ofText? text = some []) : Blank text := by
  induction text with
  | nil => exact fun _ hc => absurd hc List.not_mem_nil
  | cons c rest ih =>
      rw [ofText?] at h
      cases hcut : cut? c rest with
      | none => simp [hcut] at h
      | some first =>
          obtain ⟨token, length⟩ := first
          simp only [hcut] at h
          obtain ⟨tokens, htokens, hnil⟩ := Option.bind_eq_some_iff.mp h
          obtain ⟨htoken, rfl⟩ := List.append_eq_nil_iff.mp (Option.some.inj hnil)
          obtain rfl := Option.toList_eq_nil_iff.mp htoken
          obtain ⟨hc, rfl⟩ := eq_of_cut?_eq_none hcut
          exact List.forall_mem_cons.mpr ⟨hc, ih htokens⟩

/-- A number or a word is a scalar, even if more is added to it. -/
theorem Token.Written.head?_of_scalar {text rest : List Char} {tokens : List Token}
    (h : Token.Written .scalar text) (htokens : ofText? (text ++ rest) = some tokens) :
    tokens.head? = some .scalar := by
  obtain ⟨c, more, rfl, hc⟩ : ∃ c more, text = c :: more ∧ c ∉ openers := by
    cases h with
    | sign h => simp [signs] at h
    | word h =>
        simp only [words, List.mem_cons, List.not_mem_nil, or_false] at h
        rcases h with rfl | rfl | rfl <;> exact ⟨_, _, rfl, by decide⟩
    | number h =>
        obtain ⟨c, more, rfl, hc⟩ := h.exists_cons
        refine ⟨c, more, rfl, fun hmem => ?_⟩
        have hother : ∀ other ∈ openers, ¬ (other.isDigit ∨ other = '-') := by
          simp [openers, signs]
        exact hother c hmem hc
  rw [List.cons_append, ofText?] at htokens
  cases hcut : cut? c (more ++ rest) with
  | none => simp [hcut] at htokens
  | some first =>
      obtain ⟨token, length⟩ := first
      obtain rfl := eq_scalar_of_cut? hc hcut
      simp only [hcut] at htokens
      obtain ⟨others, _, hall⟩ := Option.bind_eq_some_iff.mp htokens
      obtain rfl := Option.some.inj hall
      rfl

theorem NoNumber.blank_append {gap rest : List Char} (hgap : Blank gap) (h : NoNumber rest) :
    NoNumber (gap ++ rest) := by
  cases gap with
  | nil => exact h
  | cons c gap =>
      intro first hfirst
      obtain rfl := Option.some.inj hfirst
      have hc := hgap c List.mem_cons_self
      simp only [List.mem_cons, List.not_mem_nil, or_false] at hc
      rcases hc with rfl | rfl | rfl | rfl <;> decide

/-- What is no scalar does not go on a number. -/
theorem Token.Written.noNumber {token : Token} {text : List Char} (h : token.Written text)
    (hscalar : token ≠ .scalar) (rest : List Char) : NoNumber (text ++ rest) := by
  intro first hfirst
  cases h with
  | @sign c token h =>
      obtain rfl := Option.some.inj hfirst
      simp only [signs, List.mem_cons, Prod.mk.injEq, List.not_mem_nil, or_false] at h
      rcases h with ⟨rfl, -⟩ | ⟨rfl, -⟩ | ⟨rfl, -⟩ | ⟨rfl, -⟩ | ⟨rfl, -⟩ | ⟨rfl, -⟩ <;> decide
  | string => obtain rfl := Option.some.inj hfirst; decide
  | broken => obtain rfl := Option.some.inj hfirst; decide
  | word => exact absurd rfl hscalar
  | number => exact absurd rfl hscalar

/-- No scalar comes right after another one. -/
def Apart (tokens : List Token) : Prop :=
  tokens.IsChain fun token next => token = .scalar → next ≠ .scalar

theorem Spaced.noNumber {tokens : List Token} {text rest : List Char} (h : Spaced tokens text)
    (hfirst : ∀ token ∈ tokens.head?, token ≠ .scalar) (hrest : tokens = [] → NoNumber rest) :
    NoNumber (text ++ rest) := by
  cases h with
  | nil hgap => exact .blank_append hgap (hrest rfl)
  | cons hgap htoken _ =>
      rw [List.append_assoc, List.append_assoc]
      exact .blank_append hgap (htoken.noNumber (hfirst _ rfl) _)

/-- Tokens are found again in the text in which they are written, and what comes after the text
is read by itself. -/
theorem Spaced.ofText?_append {tokens : List Token} {text rest : List Char}
    (h : Spaced tokens text) (hapart : Apart tokens)
    (hlast : tokens.getLast? = some .scalar → NoNumber rest) :
    ofText? (text ++ rest) = (ofText? rest).map (tokens ++ ·) := by
  induction h with
  | nil hgap =>
      rw [ofText?_blank hgap]
      cases ofText? rest <;> rfl
  | @cons gap written tail token tokens hgap htoken h ih =>
      obtain ⟨hnext, hapart⟩ := List.isChain_cons.mp hapart
      -- A scalar may go on in what follows it, unless this is a token of another kind or the end.
      have hscalar : token = .scalar → NoNumber (tail ++ rest) := by
        intro hscalar
        refine h.noNumber (fun next hmem => hnext next hmem hscalar) ?_
        rintro rfl
        exact hlast (congrArg some hscalar)
      have hlast : tokens.getLast? = some .scalar → NoNumber rest := by
        intro hmem
        cases tokens with
        | nil => cases hmem
        | cons next tokens => exact hlast (by rw [List.getLast?_cons_cons, hmem])
      rw [List.append_assoc, List.append_assoc, ofText?_blank hgap, htoken.ofText?_append hscalar,
        ih hapart hlast]
      cases ofText? rest <;> rfl

end MailRules.Json
