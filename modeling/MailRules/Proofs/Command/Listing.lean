import Mathlib.Algebra.BigOperators.Group.List.Basic
import Mathlib.Algebra.GroupWithZero.Nat
import MailRules.Proofs.Command.Outcome
import MailRules.Proofs.Token.Content

/-!
# The list of tokens

A token is listed as its position, a blank and its kind with its text, and this is meant to be a
line of its own. Nothing is escaped, though: a newline in the text, which a raw string may have,
or in the name of the file ends a line as well. There is a line for each token exactly if there
is no such newline, and every newline makes one line more.

A list in which no text has a newline can be read back, one token at a time, up to what it does
not show, which are the offsets. Other lists cannot. The text of a raw string may hold the end of
its own line and the line of another token.
-/

namespace MailRules

/-- What ends at the first character of another sort is determined. -/
theorem append_stop_inj {p : Char → Bool} {first first' rest rest' : List Char} {stop : Char}
    (hfirst : ∀ c ∈ first, p c) (hfirst' : ∀ c ∈ first', p c) (hstop : ¬ p stop)
    (h : first ++ stop :: rest = first' ++ stop :: rest') : first = first' ∧ rest = rest' := by
  have hhead : ∀ behind : List Char, ∀ c ∈ (stop :: behind).head?, ¬ p c := by
    rintro behind c ⟨⟩
    exact hstop
  have htaken := congrArg (List.takeWhile p) h
  rw [PieceKind.takeWhile_append_stop hfirst (hhead rest),
    PieceKind.takeWhile_append_stop hfirst' (hhead rest')] at htaken
  subst htaken
  exact ⟨rfl, (List.cons.inj (List.append_cancel_left h)).2⟩

theorem isDigit_of_mem_repr {n : Nat} : ∀ c ∈ n.repr.toList, c.isDigit := by
  intro c hc
  rw [Nat.toList_repr] at hc
  exact Nat.isDigit_of_mem_toDigits (by decide) (by decide) hc

theorem toList_repr_inj {m n : Nat} (h : m.repr.toList = n.repr.toList) : m = n := by
  rw [Nat.toList_repr, Nat.toList_repr] at h
  have hread := congrArg (fun digits => Nat.ofDigitChars 10 digits 0) h
  simpa only [Nat.ofDigitChars_toDigits (Nat.one_lt_succ_succ 8) (Nat.le_refl 10)] using hread

theorem count_newline_repr (n : Nat) : n.repr.toList.count '\n' = 0 := by
  rw [List.count_eq_zero]
  intro hline
  exact absurd (isDigit_of_mem_repr _ hline) (by decide)

namespace TokenKind

theorem name_inj {kind kind' : TokenKind} (h : kind.name.toList = kind'.name.toList) :
    kind = kind' := by
  revert h
  cases kind <;> cases kind' <;> decide

/-- The name of a kind consists of letters. -/
theorem isAlpha_name (kind : TokenKind) : ∀ c ∈ kind.name.toList, c.isAlpha := by
  rw [← List.all_eq_true]
  cases kind <;> rfl

end TokenKind

/-- The name of the source with its colon, if there is a name. -/
def Position.lead (position : Position) : List Char :=
  if position.source.isEmpty then [] else position.source.toList ++ [':']

theorem Position.toList_render (position : Position) :
    position.render.toList = position.lead ++
      (position.place.line.repr.toList ++ ':' :: position.place.column.repr.toList) := by
  unfold render lead
  split <;> simp [toString]

theorem Position.count_newline_lead (position : Position) :
    position.lead.count '\n' = position.source.toList.count '\n' := by
  unfold lead
  split
  · next hempty =>
      rw [String.isEmpty_iff.mp hempty]
      rfl
  · rw [List.count_append]
    rfl

/-- What is listed of a token, apart from the name of its source. -/
structure Entry where
  line : Nat
  column : Nat
  content : Content
  deriving DecidableEq, Repr

namespace Token

def entry (token : Token) : Entry :=
  ⟨token.position.place.line, token.position.place.column, token.content⟩

/-- The position of a token, a blank and its kind with its text. -/
def shown (token : Token) : String := s!"{token.position.render} {token.render}"

theorem toList_shown (token : Token) :
    token.shown.toList = token.position.lead ++ (token.position.place.line.repr.toList ++
      ':' :: (token.position.place.column.repr.toList ++
        ' ' :: (token.kind.name.toList ++ '(' :: (token.text.toList ++ [')'])))) := by
  simp [shown, render, TokenKind.render, Position.toList_render, toString]

theorem line_false (token : Token) : token.line false = token.shown ++ "\n" := by
  simp [line, shown, Style.paint, toString]

/-- Newlines are in the name of the source and in the text of the token only. -/
theorem count_newline_shown (token : Token) :
    token.shown.toList.count '\n' =
      token.position.source.toList.count '\n' + token.text.toList.count '\n' := by
  have hkind : token.kind.name.toList.count '\n' = 0 := by
    cases token.kind <;> decide
  simp [toList_shown, count_newline_repr, hkind, Position.count_newline_lead, -Nat.toList_repr]

theorem shown_eq_of_entry_eq {token token' : Token}
    (hname : token.position.source = token'.position.source) (h : token.entry = token'.entry) :
    token.shown = token'.shown := by
  obtain ⟨hline, hcolumn, hcontent⟩ := Entry.mk.inj h
  obtain ⟨hkind, htext⟩ := content_eq_iff.mp hcontent
  rw [shown, shown, Position.render, Position.render, render, render, hname, hline, hcolumn,
    hkind, htext]

/-- A token can be read back from its line, if its text does not end the line early. -/
theorem shown_append_inj {token token' : Token}
    (hname : token.position.source = token'.position.source)
    (htext : '\n' ∉ token.text.toList) (htext' : '\n' ∉ token'.text.toList)
    {rest rest' : List Char}
    (h : token.shown.toList ++ '\n' :: rest = token'.shown.toList ++ '\n' :: rest') :
    token.entry = token'.entry ∧ rest = rest' := by
  have hlead : token.position.lead = token'.position.lead := by
    rw [Position.lead, Position.lead, hname]
  have hclosed : ∀ {text : List Char}, '\n' ∉ text → ∀ c ∈ text ++ [')'], (c != '\n') = true := by
    intro text hline c hc
    rcases List.mem_append.mp hc with hc | hc
    · exact bne_iff_ne.mpr fun heq => hline (heq ▸ hc)
    · obtain rfl := List.mem_singleton.mp hc
      rfl
  -- what is shown is read from the left: digits up to the colon, digits up to the blank, letters
  -- up to the bracket, and the text with its own bracket up to the newline
  rw [toList_shown, toList_shown, hlead] at h
  simp only [List.append_assoc, List.cons_append, List.nil_append] at h
  obtain ⟨hline, h⟩ := append_stop_inj isDigit_of_mem_repr isDigit_of_mem_repr (by decide)
    (List.append_cancel_left h)
  obtain ⟨hcolumn, h⟩ := append_stop_inj isDigit_of_mem_repr isDigit_of_mem_repr (by decide) h
  obtain ⟨hkind, h⟩ := append_stop_inj token.kind.isAlpha_name token'.kind.isAlpha_name
    (by decide) h
  rw [List.append_cons token.text.toList, List.append_cons token'.text.toList] at h
  obtain ⟨hcontent, hrest⟩ := append_stop_inj (hclosed htext) (hclosed htext') (by decide) h
  refine ⟨?_, hrest⟩
  rw [entry, entry, toList_repr_inj hline, toList_repr_inj hcolumn, content, content,
    TokenKind.name_inj hkind, String.toList_inj.mp (List.append_cancel_right hcontent)]

end Token

namespace Output

/-- The lines of a text, each of which ends with a newline. -/
def lines (text : String) : List String :=
  (text.toList.splitOn '\n').dropLast.map String.ofList

theorem length_splitOn_newline (text : List Char) :
    (text.splitOn '\n').length = text.count '\n' + 1 := by
  induction text with
  | nil => rfl
  | cons c text ih =>
      rw [List.splitOn_cons_eq_if_modifyHead, List.count_cons]
      split <;> simp [ih]

theorem length_lines (text : String) : (lines text).length = text.toList.count '\n' := by
  rw [lines, List.length_map, List.length_dropLast, length_splitOn_newline, Nat.add_sub_cancel]

theorem lines_append {line : String} (hline : '\n' ∉ line.toList) (rest : String) :
    lines (line ++ "\n" ++ rest) = line :: lines rest := by
  have htext : (line ++ "\n" ++ rest).toList = line.toList ++ '\n' :: rest.toList := by
    simp
  rw [lines, htext, List.splitOn_append_cons_self_of_not_mem hline,
    List.dropLast_cons_of_ne_nil (List.splitOn_ne_nil _ _), List.map_cons, String.ofList_toList,
    lines]

theorem tokens_cons (token : Token) (rest : List Token) :
    tokens false (token :: rest) = token.shown ++ "\n" ++ tokens false rest := by
  rw [tokens, List.map_cons, String.join_cons, Token.line_false, tokens]

theorem toList_tokens_cons (token : Token) (rest : List Token) :
    (tokens false (token :: rest)).toList =
      token.shown.toList ++ '\n' :: (tokens false rest).toList := by
  rw [tokens_cons]
  simp

/-- Nothing that is shown of the tokens of a source has a newline. -/
def Unbroken (name : String) (list : List Token) : Prop :=
  ∀ token ∈ list, '\n' ∉ name.toList ∧ '\n' ∉ token.text.toList

instance (name : String) (list : List Token) : Decidable (Unbroken name list) :=
  inferInstanceAs (Decidable (∀ token ∈ list, '\n' ∉ name.toList ∧ '\n' ∉ token.text.toList))

variable {name : String} {list list' : List Token}

/-- Every token has one line more than there are newlines in what is shown of it. -/
theorem length_lines_tokens (hname : ∀ token ∈ list, token.position.source = name) :
    (lines (tokens false list)).length =
      (list.map fun token => name.toList.count '\n' + token.text.toList.count '\n' + 1).sum := by
  rw [length_lines]
  induction list with
  | nil => rfl
  | cons token rest ih =>
      obtain ⟨rfl, hrest⟩ := List.forall_mem_cons.mp hname
      rw [toList_tokens_cons, List.count_append, List.count_cons_self, ih hrest,
        Token.count_newline_shown, List.map_cons, List.sum_cons]
      omega

theorem length_lines_tokens_eq_iff (hname : ∀ token ∈ list, token.position.source = name) :
    (lines (tokens false list)).length = list.length ↔ Unbroken name list := by
  have hsum : (list.map fun token =>
      name.toList.count '\n' + token.text.toList.count '\n' + 1).sum =
      (list.map fun token => name.toList.count '\n' + token.text.toList.count '\n').sum +
        list.length := by
    rw [List.sum_map_add]
    simp
  rw [length_lines_tokens hname, hsum, Nat.add_eq_right, List.sum_eq_zero_iff_forall_eq_nat,
    List.forall_mem_map]
  refine forall₂_congr fun token _ => ?_
  rw [Nat.add_eq_zero_iff, List.count_eq_zero, List.count_eq_zero]

theorem lines_tokens_eq_iff (hname : ∀ token ∈ list, token.position.source = name) :
    lines (tokens false list) = list.map Token.shown ↔ Unbroken name list := by
  constructor
  · intro h
    rw [← length_lines_tokens_eq_iff hname, h, List.length_map]
  · intro h
    induction list with
    | nil => rfl
    | cons token rest ih =>
        obtain ⟨htoken, hrest⟩ := List.forall_mem_cons.mp h
        obtain ⟨rfl, hname⟩ := List.forall_mem_cons.mp hname
        have hshown : '\n' ∉ token.shown.toList := by
          rw [← List.count_eq_zero, Token.count_newline_shown, List.count_eq_zero.mpr htoken.1,
            List.count_eq_zero.mpr htoken.2]
        rw [tokens_cons, lines_append hshown, ih hname hrest, List.map_cons]

theorem tokens_cons_ne_nil (token : Token) (rest : List Token) :
    tokens false (token :: rest) ≠ tokens false [] := by
  intro h
  have hlist := congrArg String.toList h
  rw [toList_tokens_cons] at hlist
  exact absurd hlist (List.append_ne_nil_of_right_ne_nil _ (List.cons_ne_nil _ _))

/-- Lists of tokens without newlines look alike if and only if they have the same entries. -/
theorem tokens_eq_iff (hname : ∀ token ∈ list, token.position.source = name)
    (hname' : ∀ token ∈ list', token.position.source = name)
    (htext : ∀ token ∈ list, '\n' ∉ token.text.toList)
    (htext' : ∀ token ∈ list', '\n' ∉ token.text.toList) :
    tokens false list = tokens false list' ↔ list.map Token.entry = list'.map Token.entry := by
  induction list generalizing list' with
  | nil =>
      cases list' with
      | nil => exact iff_of_true rfl rfl
      | cons token' rest' => exact iff_of_false (tokens_cons_ne_nil token' rest').symm (by simp)
  | cons token rest ih =>
      cases list' with
      | nil => exact iff_of_false (tokens_cons_ne_nil token rest) (by simp)
      | cons token' rest' =>
          obtain ⟨hsource, hname⟩ := List.forall_mem_cons.mp hname
          obtain ⟨hsource', hname'⟩ := List.forall_mem_cons.mp hname'
          obtain ⟨hline, htext⟩ := List.forall_mem_cons.mp htext
          obtain ⟨hline', htext'⟩ := List.forall_mem_cons.mp htext'
          have hsame := hsource.trans hsource'.symm
          rw [List.map_cons, List.map_cons, List.cons_eq_cons, ← ih hname hname' htext htext']
          constructor
          · intro h
            have hlist := congrArg String.toList h
            rw [toList_tokens_cons, toList_tokens_cons] at hlist
            obtain ⟨hentry, hrest⟩ := Token.shown_append_inj hsame hline hline' hlist
            exact ⟨hentry, String.toList_inj.mp hrest⟩
          · rintro ⟨hentry, hrest⟩
            rw [tokens_cons, tokens_cons, Token.shown_eq_of_entry_eq hsame hentry, hrest]

end Output

namespace Command

variable {environment : Environment} {file : String}

/-- The tokens of a file have its name. -/
theorem Environment.Gives.name_eq {tokens : List Token}
    (h : environment.Gives Source.lex file tokens) :
    ∀ token ∈ tokens, token.position.source = file := by
  obtain ⟨text, -, hlex⟩ := h
  intro token htoken
  obtain ⟨_, _, _, _, -, -, heq⟩ := Source.exists_lexeme_of_lex hlex htoken
  rw [heq]
  rfl

theorem run_tokens_of_gives (hplain : environment.colored = false) {arguments : List String}
    (hrequest : Request.ofArguments arguments = .ok (.tokens file)) {tokens : List Token}
    (h : environment.Gives Source.lex file tokens) :
    run environment arguments = { exitCode := 0, stdout := Output.tokens false tokens } := by
  have hdone := (run_of_request environment hrequest).1
  rw [hdone _ (tokens_eq_ok_iff.mpr ⟨tokens, h, rfl⟩), hplain]

/-- How the tokens of a file are listed: with how many lines, when with a line for each token,
and what the list tells of the tokens. -/
theorem run_tokens_line_each (hplain : environment.colored = false) {arguments : List String}
    (hrequest : Request.ofArguments arguments = .ok (.tokens file)) {tokens : List Token}
    (h : environment.Gives Source.lex file tokens) :
    let printed := (run environment arguments).stdout
    (run environment arguments).exitCode = 0 ∧
    (Output.lines printed).length =
      (tokens.map fun token => file.toList.count '\n' + token.text.toList.count '\n' + 1).sum ∧
    ((Output.lines printed).length = tokens.length ↔ Output.Unbroken file tokens) ∧
    (Output.lines printed = tokens.map Token.shown ↔ Output.Unbroken file tokens) ∧
    ((∀ token ∈ tokens, '\n' ∉ token.text.toList) →
      ∀ environment' arguments' tokens', environment'.colored = false →
        Request.ofArguments arguments' = .ok (.tokens file) →
        environment'.Gives Source.lex file tokens' →
        (∀ token ∈ tokens', '\n' ∉ token.text.toList) →
        (printed = (run environment' arguments').stdout ↔
          tokens.map Token.entry = tokens'.map Token.entry)) := by
  intro printed
  have hname := h.name_eq
  have hrun := run_tokens_of_gives hplain hrequest h
  have hprinted : printed = Output.tokens false tokens := congrArg Outcome.stdout hrun
  rw [hprinted]
  refine ⟨by rw [hrun], Output.length_lines_tokens hname, Output.length_lines_tokens_eq_iff hname,
    Output.lines_tokens_eq_iff hname, ?_⟩
  intro htext environment' arguments' tokens' hplain' hrequest' h' htext'
  rw [run_tokens_of_gives hplain' hrequest' h']
  exact Output.tokens_eq_iff hname h'.name_eq htext htext'

/-- A raw string over two lines and a word make three lines, and two words with a comment between
them are listed alike whatever the comment is. -/
theorem run_tokens_line_each_files :
    let holding (text : String) : Environment := { read := fun _ => some text.toUTF8 }
    let printed (text : String) := (run (holding text) ["tokens", "f"]).stdout
    let tokens : List Token := [⟨.string, ⟨"f", .start⟩, ⟨0, 5⟩, "a\nb"⟩,
      ⟨.ident, ⟨"f", ⟨6, 2, 4⟩⟩, ⟨6, 7⟩, "c"⟩]
    (holding "`a\nb` c").Gives Source.lex "f" tokens ∧
      (Output.lines (printed "`a\nb` c")).length = 3 ∧
      Output.lines (printed "`a\nb` c") ≠ tokens.map Token.shown ∧
      printed "a/*e*/b" = printed "a/*é*/b" := by
  intro holding printed tokens
  have hrequest : Request.ofArguments ["tokens", "f"] = .ok (.tokens "f") :=
    Request.ofArguments_tokens (by decide +kernel)
  have htokens : (holding "`a\nb` c").Gives Source.lex "f" tokens :=
    ⟨_, Environment.holds_of_toUTF8 rfl, by decide +kernel⟩
  have hword : (holding "a/*e*/b").Gives Source.lex "f" [⟨.ident, ⟨"f", .start⟩, ⟨0, 1⟩, "a"⟩,
      ⟨.ident, ⟨"f", ⟨6, 1, 7⟩⟩, ⟨6, 7⟩, "b"⟩] :=
    ⟨_, Environment.holds_of_toUTF8 rfl, by decide +kernel⟩
  have hword' : (holding "a/*é*/b").Gives Source.lex "f" [⟨.ident, ⟨"f", .start⟩, ⟨0, 1⟩, "a"⟩,
      ⟨.ident, ⟨"f", ⟨7, 1, 7⟩⟩, ⟨7, 8⟩, "b"⟩] :=
    ⟨_, Environment.holds_of_toUTF8 rfl, by decide +kernel⟩
  obtain ⟨-, hlength, -, hlines, -⟩ := run_tokens_line_each rfl hrequest htokens
  obtain ⟨-, -, -, -, halike⟩ := run_tokens_line_each rfl hrequest hword
  refine ⟨htokens, hlength, fun h => ?_, ?_⟩
  · exact absurd (hlines.mp h) (by decide)
  · exact (halike (by decide) _ _ _ rfl hrequest hword' (by decide)).mpr rfl

/-- One token and two tokens that are listed alike. -/
theorem run_tokens_forged :
    let holding (text : String) : Environment := { read := fun _ => some text.toUTF8 }
    let forged := holding "`a)\nf:2:1 IDENT(b`"
    let plain := holding "`a`\nb"
    ∃ whole first second : Token, forged.Gives Source.lex "f" [whole] ∧
      plain.Gives Source.lex "f" [first, second] ∧
      (run forged ["tokens", "f"]).stdout = "f:1:1 STRING(a)\nf:2:1 IDENT(b)\n" ∧
      (run plain ["tokens", "f"]).stdout = "f:1:1 STRING(a)\nf:2:1 IDENT(b)\n" := by
  intro holding forged plain
  have hrequest : Request.ofArguments ["tokens", "f"] = .ok (.tokens "f") :=
    Request.ofArguments_tokens (by decide +kernel)
  have hforged : forged.Gives Source.lex "f"
      [⟨.string, ⟨"f", .start⟩, ⟨0, 18⟩, "a)\nf:2:1 IDENT(b"⟩] :=
    ⟨_, Environment.holds_of_toUTF8 rfl, by decide +kernel⟩
  have hplain : plain.Gives Source.lex "f" [⟨.string, ⟨"f", .start⟩, ⟨0, 3⟩, "a"⟩,
      ⟨.ident, ⟨"f", ⟨4, 2, 1⟩⟩, ⟨4, 5⟩, "b"⟩] :=
    ⟨_, Environment.holds_of_toUTF8 rfl, by decide +kernel⟩
  refine ⟨_, _, _, hforged, hplain, ?_, ?_⟩
  · rw [run_tokens_of_gives rfl hrequest hforged]
    decide +kernel
  · rw [run_tokens_of_gives rfl hrequest hplain]
    decide +kernel

end Command
end MailRules
