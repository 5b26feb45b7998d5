import MailRules.Proofs.Result
import MailRules.Proofs.Token.Anchor
import MailRules.Proofs.Token.Reading

/-!
# Texts one below the other

Lexing has no memory of the lines above. Where a text that can be lexed ends, the end of its line
ends everything that was begun, so a text on the lines below gives what it gives by itself. Its
places are further down: the bytes and the lines above are added to offsets and line numbers,
while columns stay as they are.
-/

namespace MailRules

/-- The size of a text that stands above another. -/
structure Shift where
  bytes : Nat
  lines : Nat
  deriving DecidableEq, Repr

namespace Location

def moved (shift : Shift) (place : Location) : Location :=
  ⟨place.offset + shift.bytes, place.line + shift.lines, place.column⟩

theorem moved_advance (shift : Shift) (place : Location) (c : Char) :
    (place.moved shift).advance c = (place.advance c).moved shift := by
  by_cases hc : c = '\n' <;> simp [advance, moved, hc, Nat.add_right_comm]

theorem moved_after (shift : Shift) (place : Location) (text : List Char) :
    (place.moved shift).after text = (place.after text).moved shift := by
  induction text generalizing place with
  | nil => rfl
  | cons c text ih => rw [after_cons, after_cons, moved_advance, ih]

/-- Below a text, lines and columns start afresh. -/
theorem advance_newline_eq_moved (text : List Char) :
    (start.after text).advance '\n' =
      start.moved ⟨byteSize text + 1, text.count '\n' + 1⟩ := by
  have hbehind := behind_start_after text
  have hoffset : (start.after text).offset + '\n'.utf8Size = 0 + (byteSize text + 1) := by
    rw [hbehind.offset, Nat.zero_add]
    rfl
  have hline : (start.after text).line + 1 = 1 + (text.count '\n' + 1) := by
    rw [hbehind.line, Nat.add_assoc]
  rw [advance, if_pos rfl, hoffset, hline]
  rfl

end Location

def Position.moved (shift : Shift) (position : Position) : Position :=
  { position with place := position.place.moved shift }

def Span.moved (shift : Shift) (span : Span) : Span :=
  ⟨span.start + shift.bytes, span.stop + shift.bytes⟩

def Token.moved (shift : Shift) (token : Token) : Token :=
  { token with position := token.position.moved shift, span := token.span.moved shift }

/-- The failure in the text as a whole. -/
def Failure.moved (shift : Shift) (whole : Source) (failure : Failure) : Failure :=
  { failure with
    position := failure.position.moved shift
    span := failure.span.moved shift
    source := whole }

/-- Pieces further down give the tokens, or the failure, of the pieces where they were. -/
theorem Token.ofPieces_moved {source whole : Source} (hname : whole.name = source.name)
    (shift : Shift) (place : Location) (pieces : List Piece) :
    ofPieces whole (place.moved shift) pieces =
      ((ofPieces source place pieces).map (List.map (moved shift))).mapError
        (Failure.moved shift whole) := by
  induction pieces generalizing place with
  | nil => rfl
  | cons piece pieces ih =>
      have hposition : whole.position (place.moved shift) =
          (source.position place).moved shift := by
        rw [Source.position, hname]
        rfl
      rw [ofPieces, ofPieces, hposition, Location.moved_after]
      cases piece.kind with
      | layout => exact ih _
      | lexeme kind =>
          dsimp only
          rw [ih]
          cases ofPieces source (place.after piece.text) pieces <;> rfl
      | unsupported => rfl
      | unclosed what => rfl

namespace Source

variable {name first : String}

/-- The lines below a text are lexed by themselves. -/
theorem lex_below {tokens : List Token} (h : ({ name, text := first } : Source).lex = .ok tokens)
    (second : String) :
    let whole : Source := { name, text := first ++ "\n" ++ second }
    let shift : Shift := ⟨first.utf8ByteSize + 1, first.toList.count '\n' + 1⟩
    whole.lex =
      ((({ name, text := second } : Source).lex.map (List.map (Token.moved shift))).mapError
        (Failure.moved shift whole)).map (tokens ++ ·) := by
  intro whole shift
  have hlegible : Legible first.toList [] := legible_of_lex_eq_ok h
  obtain ⟨above, habove⟩ := hlegible.exists_tokens name .start
  obtain rfl : above = tokens := by
    have hfirst := habove { name, text := first } [] rfl (.nil [])
    rw [List.append_nil, Piece.ofText_nil] at hfirst
    simpa [Token.ofPieces, Except.map] using hfirst.symm.trans h
  have hnewline : LayoutItem ['\n'] second.toList := .blank (.inr (.inr (.inl rfl)))
  have hstart : (Location.start.after first.toList).after ['\n'] = Location.start.moved shift := by
    rw [Location.after_cons, Location.advance_newline_eq_moved, byteSize, String.ofList_toList]
    rfl
  have htext : whole.text.toList = first.toList ++ (['\n'] ++ second.toList) := by
    rw [String.toList_append, String.toList_append, List.append_assoc]
    rfl
  calc
    whole.lex = (Token.ofPieces whole (Location.start.after first.toList)
        (Piece.ofText (['\n'] ++ second.toList))).map (above ++ ·) := by
      rw [lex, htext]
      exact habove whole _ rfl (.newline _ _)
    _ = (Token.ofPieces whole (Location.start.moved shift)
        (Piece.ofText second.toList)).map (above ++ ·) := by
      rw [Token.ofPieces_layoutItem hnewline, hstart]
    _ = _ := by
      have hname : whole.name = ({ name, text := second } : Source).name := rfl
      rw [Token.ofPieces_moved hname]
      rfl

/-- A text that stands above another on lines of its own changes the places of the other, and
nothing else. -/
theorem lex_append_line {tokens : List Token}
    (h : ({ name, text := first } : Source).lex = .ok tokens) (second : String) :
    let whole : Source := { name, text := first ++ "\n" ++ second }
    let shift : Shift := ⟨first.utf8ByteSize + 1, first.toList.count '\n' + 1⟩
    (∀ others, ({ name, text := second } : Source).lex = .ok others →
      whole.lex = .ok (tokens ++ others.map (Token.moved shift))) ∧
    ∀ failure, ({ name, text := second } : Source).lex = .error failure →
      whole.lex = .error (failure.moved shift whole) := by
  intro whole shift
  have hbelow := lex_below h second
  constructor
  · intro others hothers
    rw [hothers] at hbelow
    exact hbelow
  · intro failure hfailure
    rw [hfailure] at hbelow
    exact hbelow

/-- The text above ends in a comment that has a backtick. -/
theorem lex_append_line_comment :
    let above := "is // é`"
    let word : Token := ⟨.ident, ⟨"rule", ⟨0, 1, 1⟩⟩, ⟨0, 2⟩, "is"⟩
    let string : Token := ⟨.string, ⟨"rule", ⟨11, 2, 2⟩⟩, ⟨11, 14⟩, "."⟩
    let broken : Source := { name := "rule", text := above ++ "\n" ++ " 7" }
    ({ name := "rule", text := above ++ "\n" ++ " \".\"" } : Source).lex = .ok [word, string] ∧
      broken.lex = .error (.of broken (.unexpectedToken "7") ⟨"rule", ⟨11, 2, 2⟩⟩ ⟨11, 12⟩) := by
  intro above word string broken
  have habove : ({ name := "rule", text := above } : Source).lex = .ok [word] := by decide +kernel
  have hstring : ({ name := "rule", text := " \".\"" } : Source).lex =
      .ok [⟨.string, ⟨"rule", ⟨1, 1, 2⟩⟩, ⟨1, 4⟩, "."⟩] := by decide +kernel
  have hnumeral : ({ name := "rule", text := " 7" } : Source).lex = .error
      (.of { name := "rule", text := " 7" } (.unexpectedToken "7") ⟨"rule", ⟨1, 1, 2⟩⟩ ⟨1, 2⟩) := by
    decide +kernel
  have hshift : (⟨above.utf8ByteSize + 1, above.toList.count '\n' + 1⟩ : Shift) = ⟨10, 1⟩ := by
    decide +kernel
  constructor
  · have hwhole := (lex_append_line habove " \".\"").1 _ hstring
    rwa [hshift] at hwhole
  · have hwhole := (lex_append_line habove " 7").2 _ hnumeral
    rwa [hshift] at hwhole

end Source
end MailRules
