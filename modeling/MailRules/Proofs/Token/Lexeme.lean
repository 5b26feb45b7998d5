import MailRules.Token.Lex

/-!
# Layout and lexemes

The lexical grammar, stated without reference to how a text is cut. Whether some
characters are a layout item or a lexeme depends on what follows them: a line comment
runs up to the end of its line, a word cannot be followed by another character of a
word, and a slash before a slash or a star is no lexeme. Each judgment therefore
carries the text behind the characters it is about.

The cut of a text decides both judgments. Every item and every lexeme is cut off as
one piece, and a piece that is cut off as layout or as a lexeme is one.
-/

namespace MailRules

open Unicode (isAlphabetic isAlphanumeric)

/-- What may stand between double quotes. A backslash protects the character after it,
and neither a newline nor an unprotected quote is allowed. -/
inductive Quotable : List Char → Prop where
  | nil : Quotable []
  | plain {c : Char} {text : List Char} (hc : c ≠ '"' ∧ c ≠ '\\' ∧ c ≠ '\n')
      (h : Quotable text) : Quotable (c :: text)
  | escaped {c : Char} {text : List Char} (hc : c ≠ '\n') (h : Quotable text) :
      Quotable ('\\' :: c :: text)

/-- One blank character or one comment, before `rest`. -/
inductive LayoutItem : (item rest : List Char) → Prop where
  | blank {c : Char} {rest : List Char} (hc : c = ' ' ∨ c = '\t' ∨ c = '\n' ∨ c = '\r') :
      LayoutItem [c] rest
  | line {body rest : List Char} (hbody : '\n' ∉ body)
      (hrest : rest = [] ∨ rest.head? = some '\n') : LayoutItem ('/' :: '/' :: body) rest
  | block {body rest : List Char} (hbody : ¬ ['*', '/'] <:+: body ++ ['*']) :
      LayoutItem ('/' :: '*' :: (body ++ ['*', '/'])) rest

/-- A lexeme as it is written before `rest`, with its kind and with the text of its
token. -/
inductive Lexeme : TokenKind → (written text rest : List Char) → Prop where
  | quoted {text rest : List Char} (htext : Quotable text) :
      Lexeme .string ('"' :: (text ++ ['"'])) text rest
  | raw {text rest : List Char} (htext : '\x60' ∉ text) :
      Lexeme .string ('\x60' :: (text ++ ['\x60'])) text rest
  | ident {c : Char} {body rest : List Char} (hc : isAlphabetic c ∨ c = '_')
      (hbody : ∀ x ∈ body, isAlphanumeric x ∨ x = '_')
      (hrest : ∀ x ∈ rest.head?, ¬ (isAlphanumeric x ∨ x = '_')) :
      Lexeme .ident (c :: body) (c :: body) rest
  | other {c : Char} {rest : List Char}
      (hblank : ¬ (c = ' ' ∨ c = '\t' ∨ c = '\n' ∨ c = '\r'))
      (hquote : c ≠ '"' ∧ c ≠ '\x60' ∧ c ≠ '\'')
      (hident : ¬ (isAlphabetic c ∨ c = '_')) (hdigit : ¬ c.isDigit)
      (hdot : c = '.' → ∀ x ∈ rest.head?, ¬ x.isDigit)
      (hslash : c = '/' → rest.head? ≠ some '/' ∧ rest.head? ≠ some '*') :
      Lexeme .other [c] [c] rest

namespace PieceKind

theorem quotedLength?_append {body : List Char} (h : Quotable body) (rest : List Char) :
    quotedLength? (body ++ '"' :: rest) = some (body.length + 1) := by
  induction h with
  | nil => rfl
  | @plain c text hc _ ih =>
      obtain ⟨hquote, hslash, hline⟩ := hc
      rw [List.cons_append, quotedLength?]
      · simp [ih]
      all_goals simp_all
  | @escaped c text hc _ ih =>
      rw [List.cons_append, List.cons_append, quotedLength?]
      · simp [ih]
      all_goals simp_all

/-- The closing quote is the first one that no backslash protects. -/
theorem quotedLength?_eq_some_iff {text : List Char} {n : Nat} :
    quotedLength? text = some n ↔
      ∃ body rest, text = body ++ '"' :: rest ∧ Quotable body ∧ n = body.length + 1 := by
  constructor
  · intro h
    fun_induction quotedLength? text generalizing n with
    | case1 => simp at h
    | case2 rest => exact ⟨[], rest, rfl, .nil, by simpa using h.symm⟩
    | case3 => simp at h
    | case4 => simp at h
    | case5 c rest hc ih =>
        obtain ⟨m, hm, rfl⟩ := Option.map_eq_some_iff.mp h
        obtain ⟨body, rest', rfl, hbody, rfl⟩ := ih hm
        exact ⟨'\\' :: c :: body, rest', rfl, .escaped hc hbody, rfl⟩
    | case6 c rest hquote hline _ hslash ih =>
        obtain ⟨m, hm, rfl⟩ := Option.map_eq_some_iff.mp h
        obtain ⟨body, rest', rfl, hbody, rfl⟩ := ih hm
        refine ⟨c :: body, rest', rfl, .plain ⟨hquote, ?_, hline⟩ hbody, rfl⟩
        rintro rfl
        cases body <;> exact hslash _ _ rfl rfl
  · rintro ⟨body, rest, rfl, hbody, rfl⟩
    exact quotedLength?_append hbody rest

theorem commentLength?_append {body : List Char} (h : ¬ ['*', '/'] <:+: body ++ ['*'])
    (rest : List Char) :
    commentLength? (body ++ '*' :: '/' :: rest) = some (body.length + 2) := by
  induction body with
  | nil => rfl
  | cons c body ih =>
      have htail : ¬ ['*', '/'] <:+: body ++ ['*'] := fun hin =>
        h (hin.trans (List.infix_cons List.infix_rfl))
      rw [List.cons_append, commentLength?]
      · simp [ih htail]
      · rintro tail rfl heq
        cases body with
        | nil => simp at heq
        | cons d body =>
            obtain rfl : d = '/' := (List.cons.inj heq).1
            exact h ⟨[], body ++ ['*'], rfl⟩

/-- The comment ends with the first star that stands before a slash. -/
theorem commentLength?_eq_some_iff {text : List Char} {n : Nat} :
    commentLength? text = some n ↔
      ∃ body rest, text = body ++ '*' :: '/' :: rest ∧
        ¬ ['*', '/'] <:+: body ++ ['*'] ∧ n = body.length + 2 := by
  constructor
  · intro h
    fun_induction commentLength? text generalizing n with
    | case1 => simp at h
    | case2 rest => exact ⟨[], rest, rfl, by decide, by simpa using h.symm⟩
    | case3 c rest hopen ih =>
        obtain ⟨m, hm, rfl⟩ := Option.map_eq_some_iff.mp h
        obtain ⟨body, rest', rfl, hbody, rfl⟩ := ih hm
        refine ⟨c :: body, rest', rfl, ?_, rfl⟩
        intro hin
        rcases List.infix_cons_iff.mp hin with hstart | hin
        · obtain ⟨rfl, hslash⟩ := List.cons_prefix_cons.mp hstart
          cases body with
          | nil => simp at hslash
          | cons d body =>
              obtain ⟨rfl, -⟩ := List.cons_prefix_cons.mp hslash
              exact hopen _ rfl rfl
        · exact hbody hin
  · rintro ⟨body, rest, rfl, hbody, rfl⟩
    exact commentLength?_append hbody rest

theorem rawLength?_append {body : List Char} (h : '\x60' ∉ body) (rest : List Char) :
    rawLength? (body ++ '\x60' :: rest) = some (body.length + 1) := by
  have hnone : body.findIdx? (· = '\x60') = none := by
    simp only [List.findIdx?_eq_none_iff, decide_eq_false_iff_not]
    rintro c hc rfl
    exact h hc
  simp [rawLength?, List.findIdx?_append, hnone, List.findIdx?_cons]

/-- A raw string ends with the first backtick. -/
theorem rawLength?_eq_some_iff {text : List Char} {n : Nat} :
    rawLength? text = some n ↔
      ∃ body rest, text = body ++ '\x60' :: rest ∧ '\x60' ∉ body ∧ n = body.length + 1 := by
  constructor
  · intro h
    obtain ⟨m, hm, rfl⟩ := Option.map_eq_some_iff.mp h
    obtain ⟨hlt, hat, hbefore⟩ := List.findIdx?_eq_some_iff_getElem.mp hm
    refine ⟨text.take m, text.drop (m + 1), ?_, ?_, ?_⟩
    · rw [← of_decide_eq_true hat, ← List.drop_eq_getElem_cons hlt, List.take_append_drop]
    · intro hmem
      obtain ⟨j, hj, heq⟩ := List.mem_take_iff_getElem.mp hmem
      exact hbefore j (by omega) (by simpa using heq)
    · simp; omega
  · rintro ⟨body, rest, rfl, hbody, rfl⟩
    exact rawLength?_append hbody rest

theorem takeWhile_append_stop {p : Char → Bool} {body rest : List Char}
    (hbody : ∀ c ∈ body, p c) (hrest : ∀ c ∈ rest.head?, ¬ p c) :
    (body ++ rest).takeWhile p = body := by
  rw [List.takeWhile_append_of_pos hbody]
  cases rest with
  | nil => simp
  | cons c rest => simp [hrest c rfl]

/-- A run of characters ends where the text does or before the first other one. -/
theorem exists_eq_append_of_takeWhile (p : Char → Bool) (text : List Char) :
    ∃ body rest, text = body ++ rest ∧ (∀ c ∈ body, p c) ∧ (∀ c ∈ rest.head?, ¬ p c) ∧
      (text.takeWhile p).length = body.length := by
  induction text with
  | nil => exact ⟨[], [], by simp⟩
  | cons c text ih =>
      by_cases hc : p c
      · obtain ⟨body, rest, rfl, hbody, hrest, hlength⟩ := ih
        refine ⟨c :: body, rest, rfl, ?_, hrest, ?_⟩
        · simpa [hc] using hbody
        · simpa [hc] using hlength
      · exact ⟨[], c :: text, by simp [hc]⟩

theorem isBlank_iff {c : Char} :
    isBlank c ↔ c = ' ' ∨ c = '\t' ∨ c = '\n' ∨ c = '\r' := by
  simp [isBlank, or_assoc]

theorem isIdentStart_iff {c : Char} : isIdentStart c ↔ isAlphabetic c ∨ c = '_' := by
  simp [isIdentStart]

theorem isIdentChar_iff {c : Char} : isIdentChar c ↔ isAlphanumeric c ∨ c = '_' := by
  simp [isIdentChar]

theorem startsNumeral_iff {c : Char} {rest : List Char} :
    startsNumeral c rest ↔ c.isDigit ∨ c = '.' ∧ ∃ d ∈ rest.head?, d.isDigit := by
  simp [startsNumeral, Option.any_eq_true]

theorem toNat_of_isDigit {c : Char} (h : c.isDigit) : 48 ≤ c.toNat ∧ c.toNat ≤ 57 := by
  simpa [Char.isDigit, UInt32.le_iff_toNat_le] using h

/-- No word begins with a digit, so words and numerals are told apart at once. -/
theorem not_isIdentStart_of_isDigit {c : Char} (h : c.isDigit) : ¬ isIdentStart c := by
  obtain ⟨hlow, hhigh⟩ := toNat_of_isDigit h
  have hascii : c.toNat < 128 := by omega
  rw [isIdentStart_iff]
  rintro (halpha | rfl)
  · rw [isAlphabetic, if_pos hascii] at halpha
    rcases (Bool.or_eq_true _ _).mp halpha with hupper | hlower
    · have hletter : 'A'.val ≤ c.val ∧ c.val ≤ 'Z'.val := of_decide_eq_true hupper
      have : 65 ≤ c.toNat := UInt32.le_iff_toNat_le.mp hletter.1
      omega
    · have hletter : 'a'.val ≤ c.val := of_decide_eq_true ((Bool.and_eq_true _ _).mp hlower).1
      have : 97 ≤ c.toNat := UInt32.le_iff_toNat_le.mp hletter
      omega
  · exact absurd hhigh (by decide)

/-- The characters that begin layout, a string or a character literal, or may do so. -/
def openers : List Char := [' ', '\t', '\n', '\r', '/', '"', '\x60', '\'']

/-- All other characters begin a numeral, a word or a lexeme by themselves. -/
theorem cut_of_not_opener {c : Char} (h : c ∉ openers) (rest : List Char) :
    cut c rest =
      if startsNumeral c rest then (.unsupported, (rest.takeWhile isNumeralChar).length)
      else if isIdentStart c then (.lexeme .ident, (rest.takeWhile isIdentChar).length)
      else (.lexeme .other, 0) := by
  simp only [openers, List.mem_cons, List.not_mem_nil, or_false, not_or] at h
  simp [cut, isBlank, h]

/-- A word cannot begin like any other piece. -/
theorem cut_of_isIdentStart {c : Char} (h : isIdentStart c) (rest : List Char) :
    cut c rest = (.lexeme .ident, (rest.takeWhile isIdentChar).length) := by
  have hopener : c ∉ openers := by
    have hother : openers.all (fun d => !isIdentStart d) = true := by decide
    intro hc
    simpa [h] using List.all_eq_true.mp hother c hc
  have hnumeral : ¬ startsNumeral c rest := by
    rw [startsNumeral_iff]
    rintro (hdigit | ⟨rfl, -⟩)
    · exact not_isIdentStart_of_isDigit hdigit h
    · exact absurd h (by decide)
  rw [cut_of_not_opener hopener, if_neg hnumeral, if_pos h]

/-- A layout item is cut off as one piece. -/
theorem cut_of_layoutItem {c : Char} {body rest : List Char}
    (h : LayoutItem (c :: body) rest) : cut c (body ++ rest) = (.layout, body.length) := by
  cases h with
  | blank hc => simp [cut, isBlank_iff.mpr hc]
  | @line body _ hbody hrest =>
      have hlength : lineLength ('/' :: body ++ rest) = body.length + 1 := by
        rw [lineLength, takeWhile_append_stop]
        · simp
        · rintro c hc
          rcases List.mem_cons.mp hc with rfl | hc
          · decide
          · exact decide_eq_true fun heq => hbody (heq ▸ hc)
        · rintro c hc
          rcases hrest with rfl | hrest
          · simp at hc
          · obtain rfl := Option.some.inj (hrest.symm.trans hc)
            decide
      rw [cut, if_neg (by decide), if_pos ⟨rfl, rfl⟩, hlength, List.length_cons]
  | @block body _ hbody =>
      have hlength := commentLength?_append hbody rest
      simp [cut, isBlank, hlength]

/-- What is cut off as layout is a layout item. -/
theorem layoutItem_of_cut {c : Char} {rest : List Char} {n : Nat}
    (h : cut c rest = (.layout, n)) : LayoutItem (c :: rest.take n) (rest.drop n) := by
  revert h
  fun_cases cut c rest with
  | case1 hblank =>
      rintro h
      obtain rfl := (Prod.mk.inj h).2
      exact .blank (isBlank_iff.mp hblank)
  | case2 _ hline =>
      rintro h
      obtain rfl := (Prod.mk.inj h).2
      obtain ⟨rfl, hslash⟩ := hline
      obtain ⟨body, rest', rfl, hbody, hrest, hlength⟩ :=
        exists_eq_append_of_takeWhile (· ≠ '\n') rest
      rw [lineLength, hlength, List.take_left, List.drop_left]
      cases body with
      | nil => exact absurd (hrest _ hslash) (by decide)
      | cons d body =>
          obtain rfl : d = '/' := Option.some.inj hslash
          refine .line (fun hmem => ?_) ?_
          · exact absurd (hbody _ (List.mem_cons_of_mem _ hmem)) (by decide)
          · cases rest' with
            | nil => exact .inl rfl
            | cons d rest' => exact .inr (by simpa using hrest d rfl)
  | case3 _ _ hblock length hlength =>
      rintro h
      obtain rfl := (Prod.mk.inj h).2
      obtain ⟨rfl, hstar⟩ := hblock
      obtain ⟨tail, rfl⟩ := List.head?_eq_some_iff.mp hstar
      obtain ⟨body, rest', rfl, hbody, rfl⟩ := commentLength?_eq_some_iff.mp hlength
      have hsplit : body ++ '*' :: '/' :: rest' = (body ++ ['*', '/']) ++ rest' := by simp
      have htake : ('*' :: (body ++ '*' :: '/' :: rest')).take (body.length + 2 + 1) =
          '*' :: (body ++ ['*', '/']) := by
        rw [List.take_succ_cons, hsplit]
        exact congrArg _ (List.take_left' (by simp))
      have hdrop : ('*' :: (body ++ '*' :: '/' :: rest')).drop (body.length + 2 + 1) = rest' := by
        rw [List.drop_succ_cons, hsplit]
        exact List.drop_left' (by simp)
      rw [htake, hdrop]
      exact .block hbody
  | _ => rintro h; cases h

/-- A lexeme is cut off as one piece. -/
theorem cut_of_lexeme {kind : TokenKind} {c : Char} {body text rest : List Char}
    (h : Lexeme kind (c :: body) text rest) :
    cut c (body ++ rest) = (.lexeme kind, body.length) := by
  cases h with
  | quoted htext =>
      have hlength := quotedLength?_append htext rest
      simp [cut, isBlank, hlength]
  | raw htext =>
      have hlength := rawLength?_append htext rest
      simp [cut, isBlank, hlength]
  | ident hc hbody hrest =>
      rw [cut_of_isIdentStart (isIdentStart_iff.mpr hc), takeWhile_append_stop]
      · exact fun x hx => isIdentChar_iff.mpr (hbody x hx)
      · exact fun x hx => mt isIdentChar_iff.mp (hrest x hx)
  | other hblank hquote hident hdigit hdot hslash =>
      obtain ⟨hdouble, hback, hsingle⟩ := hquote
      have hnumeral : ¬ startsNumeral c rest := by
        rw [startsNumeral_iff]
        rintro (h | ⟨hc, d, hd, h⟩)
        · exact hdigit h
        · exact hdot hc d hd h
      have hline : ¬ (c = '/' ∧ rest.head? = some '/') := fun h => (hslash h.1).1 h.2
      have hblock : ¬ (c = '/' ∧ rest.head? = some '*') := fun h => (hslash h.1).2 h.2
      rw [List.nil_append, cut, if_neg (mt isBlank_iff.mp hblank), if_neg hline, if_neg hblock,
        if_neg hdouble, if_neg hback, if_neg hsingle, if_neg hnumeral,
        if_neg (mt isIdentStart_iff.mp hident), List.length_nil]

/-- What is cut off as a lexeme is one, and its token has the text of the lexeme. -/
theorem lexeme_of_cut {kind : TokenKind} {c : Char} {rest : List Char} {n : Nat}
    (h : cut c rest = (.lexeme kind, n)) :
    ∃ text, Lexeme kind (c :: rest.take n) text (rest.drop n) := by
  revert h
  fun_cases cut c rest with
  | case5 _ _ _ hc length hlength =>
      rintro h
      obtain ⟨rfl, rfl⟩ : TokenKind.string = kind ∧ length = n := by simpa using h
      obtain ⟨body, rest', rfl, hbody, rfl⟩ := quotedLength?_eq_some_iff.mp hlength
      have hsplit : body ++ '"' :: rest' = (body ++ ['"']) ++ rest' := by simp
      rw [hc, hsplit, List.take_left' (by simp), List.drop_left' (by simp)]
      exact ⟨body, .quoted hbody⟩
  | case7 _ _ _ _ hc length hlength =>
      rintro h
      obtain ⟨rfl, rfl⟩ : TokenKind.string = kind ∧ length = n := by simpa using h
      obtain ⟨body, rest', rfl, hbody, rfl⟩ := rawLength?_eq_some_iff.mp hlength
      have hsplit : body ++ '\x60' :: rest' = (body ++ ['\x60']) ++ rest' := by simp
      rw [hc, hsplit, List.take_left' (by simp), List.drop_left' (by simp)]
      exact ⟨body, .raw hbody⟩
  | case11 _ _ _ _ _ _ _ hident =>
      rintro h
      obtain ⟨rfl, rfl⟩ : TokenKind.ident = kind ∧ _ = n := by simpa using h
      obtain ⟨body, rest', rfl, hbody, hrest, hlength⟩ :=
        exists_eq_append_of_takeWhile isIdentChar rest
      rw [hlength, List.take_left, List.drop_left]
      exact ⟨c :: body, .ident (isIdentStart_iff.mp hident)
        (fun x hx => isIdentChar_iff.mp (hbody x hx))
        (fun x hx => mt isIdentChar_iff.mpr (hrest x hx))⟩
  | case12 hblank hline hblock hdouble hback hsingle hnumeral hident =>
      rintro h
      obtain ⟨rfl, rfl⟩ : TokenKind.other = kind ∧ 0 = n := by simpa using h
      refine ⟨[c], .other (mt isBlank_iff.mpr hblank) ⟨hdouble, hback, hsingle⟩
        (mt isIdentStart_iff.mpr hident) (fun h => hnumeral (startsNumeral_iff.mpr (.inl h))) ?_ ?_⟩
      · rintro hc x hx hdigit
        exact hnumeral (startsNumeral_iff.mpr (.inr ⟨hc, x, hx, hdigit⟩))
      · rintro rfl
        exact ⟨fun h => hline ⟨rfl, h⟩, fun h => hblock ⟨rfl, h⟩⟩
  | _ => rintro h; cases h

end PieceKind
end MailRules
