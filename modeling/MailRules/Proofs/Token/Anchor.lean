import Mathlib.Data.List.DropRight
import MailRules.Proofs.Location
import MailRules.Token.Lex

/-!
# Where tokens are said to be

A position says more than the text needs: the line and the column could be found again from
the offset, and a span holds the offset once more. Here is what all of it has to mean, stated
by the text alone: the bytes of what stands before, its newlines, and its characters since
the last of them.

Lexing never looks back. It takes each place from the place before it, one character at a
time, so all three numbers are right because each character changes all of them as it should.
A token and a lexical failure both take their place from the piece that they are made of.
-/

namespace MailRules

/-- The place is the one behind the text. -/
structure Location.Behind (place : Location) (before : List Char) : Prop where
  offset : place.offset = byteSize before
  line : place.line = 1 + before.count '\n'
  column : place.column = 1 + (before.rtakeWhile (· ≠ '\n')).length

/-- Reading on by one character moves the place behind this character. -/
theorem Location.Behind.advance {place : Location} {before : List Char} (h : place.Behind before)
    (c : Char) : (place.advance c).Behind (before ++ [c]) := by
  have hoffset : (place.advance c).offset = byteSize (before ++ [c]) := by
    rw [offset_advance, h.offset, byteSize_append, byteSize_cons, byteSize_nil, Nat.add_zero]
  by_cases hc : c = '\n'
  · refine ⟨hoffset, ?_, ?_⟩
    · rw [Location.advance, if_pos hc, hc, List.count_append, h.line]
      rfl
    · rw [Location.advance, if_pos hc, List.rtakeWhile_concat_neg _ _ _ (by simpa using hc)]
      rfl
  · refine ⟨hoffset, ?_, ?_⟩
    · have hnone : List.count '\n' [c] = 0 := List.count_eq_zero.mpr (by simpa [eq_comm] using hc)
      rw [Location.advance, if_neg hc, List.count_append, hnone, Nat.add_zero]
      exact h.line
    · rw [Location.advance, if_neg hc, List.rtakeWhile_concat_pos _ _ _ (by simpa using hc),
        List.length_append, h.column]
      rfl

theorem Location.behind_after {place : Location} {before : List Char} (h : place.Behind before)
    (text : List Char) : (place.after text).Behind (before ++ text) := by
  induction text generalizing place before with
  | nil =>
      rw [List.append_nil]
      exact h
  | cons c text ih =>
      have hnext := ih (h.advance c)
      rwa [List.append_assoc] at hnext

/-- Where reading a text from its start leads to. -/
theorem Location.behind_start_after (text : List Char) : (start.after text).Behind text := by
  have hstart : start.Behind [] := ⟨rfl, rfl, rfl⟩
  exact behind_after hstart text

namespace Source

/-- The offset lies between two characters of the text, or at one of its ends. -/
def IsBoundary (source : Source) (offset : Nat) : Prop :=
  ∃ before, before <+: source.text.toList ∧ offset = byteSize before

/-- The position has the name of the source and is the place behind a beginning of its text. -/
def Marks (source : Source) (position : Position) : Prop :=
  position.source = source.name ∧
    ∃ before, before <+: source.text.toList ∧ position.place.Behind before

/-- The span consists of whole characters of the text. -/
structure Covers (source : Source) (span : Span) : Prop where
  start_le_stop : span.start ≤ span.stop
  stop_le_size : span.stop ≤ source.size
  start : source.IsBoundary span.start
  stop : source.IsBoundary span.stop

/-- The span is one of the source and starts at the position. -/
structure Anchors (source : Source) (position : Position) (span : Span) : Prop where
  marks : source.Marks position
  covers : source.Covers span
  start_eq : span.start = position.place.offset

variable {source : Source}

theorem byteSize_toList (source : Source) : byteSize source.text.toList = source.size := by
  rw [byteSize, String.ofList_toList, size]

theorem IsBoundary.le_size {offset : Nat} (h : source.IsBoundary offset) :
    offset ≤ source.size := by
  obtain ⟨before, ⟨rest, hrest⟩, rfl⟩ := h
  rw [← byteSize_toList, ← hrest, byteSize_append]
  omega

/-- The end of what is covered is a place that an empty span covers. -/
theorem Covers.empty_stop {span : Span} (h : source.Covers span) :
    source.Covers (.empty span.stop) :=
  ⟨Nat.le_refl _, h.stop_le_size, h.stop, h.stop⟩

theorem covers_empty_size (source : Source) : source.Covers (.empty source.size) := by
  have hboundary : source.IsBoundary source.size :=
    ⟨source.text.toList, List.prefix_refl _, (byteSize_toList source).symm⟩
  exact ⟨Nat.le_refl _, Nat.le_refl _, hboundary, hboundary⟩

theorem marks_start (source : Source) : source.Marks (source.position .start) :=
  ⟨rfl, [], List.nil_prefix, Location.behind_start_after []⟩

/-- Any piece of the text is anchored where it stands. -/
theorem anchors_of_append {before written rest : List Char}
    (h : source.text.toList = before ++ (written ++ rest)) :
    source.Anchors (source.position (Location.start.after before))
      ⟨byteSize before, byteSize (before ++ written)⟩ := by
  have hbefore : before <+: source.text.toList := ⟨written ++ rest, h.symm⟩
  have hwritten : before ++ written <+: source.text.toList := by
    rw [h, ← List.append_assoc]
    exact List.prefix_append _ _
  have hstop : source.IsBoundary (byteSize (before ++ written)) := ⟨_, hwritten, rfl⟩
  refine ⟨⟨rfl, before, hbefore, Location.behind_start_after before⟩, ?_, ?_⟩
  · refine ⟨?_, hstop.le_size, ⟨before, hbefore, rfl⟩, hstop⟩
    show byteSize before ≤ byteSize (before ++ written)
    rw [byteSize_append]
    omega
  · exact (Location.offset_start_after before).symm

end Source

/-- Pieces that stand behind `before` give tokens that are anchored, or a failure that is. -/
theorem Token.anchors_ofPieces {source : Source} {pieces : List Piece} {before : List Char}
    (h : source.text.toList = before ++ pieces.flatMap Piece.text) :
    (∀ tokens, ofPieces source (Location.start.after before) pieces = .ok tokens →
      ∀ token ∈ tokens, source.Anchors token.position token.span) ∧
    ∀ failure, ofPieces source (Location.start.after before) pieces = .error failure →
      source.Anchors failure.position failure.span ∧ failure.kind.category = .lexical := by
  induction pieces generalizing before with
  | nil =>
      constructor
      · rintro _ ⟨⟩
        simp
      · rintro _ ⟨⟩
  | cons piece rest ih =>
      rw [List.flatMap_cons] at h
      have hpiece := Source.anchors_of_append h
      rw [← Location.offset_start_after, ← Location.offset_start_after (before ++ piece.text),
        Location.after_append] at hpiece
      have hmore : source.text.toList =
          (before ++ piece.text) ++ rest.flatMap Piece.text := by
        rw [h, List.append_assoc]
      have hrest := ih hmore
      rw [Location.after_append] at hrest
      rw [ofPieces]
      cases hkind : piece.kind with
      | layout => exact hrest
      | lexeme kind =>
          dsimp only
          cases htail : ofPieces source ((Location.start.after before).after piece.text) rest with
          | ok tokens =>
              rw [htail] at hrest
              refine ⟨?_, fun _ herror => (by cases herror)⟩
              rintro _ ⟨⟩ token htoken
              rcases List.mem_cons.mp htoken with rfl | hmem
              · exact hpiece
              · exact hrest.1 tokens rfl token hmem
          | error failure =>
              rw [htail] at hrest
              refine ⟨fun _ hok => (by cases hok), ?_⟩
              rintro _ ⟨⟩
              exact hrest.2 failure rfl
      | unsupported =>
          dsimp only
          refine ⟨fun _ hok => (by cases hok), ?_⟩
          rintro _ ⟨⟩
          exact ⟨hpiece, rfl⟩
      | unclosed what =>
          dsimp only
          refine ⟨fun _ hok => (by cases hok), ?_⟩
          rintro _ ⟨⟩
          exact ⟨hpiece, rfl⟩

namespace Source

variable {source : Source}

/-- Lexing starts at the beginning of the text, and its pieces are all of it. -/
theorem anchors_lex (source : Source) :
    (∀ tokens, source.lex = .ok tokens →
      ∀ token ∈ tokens, source.Anchors token.position token.span) ∧
    ∀ failure, source.lex = .error failure →
      source.Anchors failure.position failure.span ∧ failure.kind.category = .lexical :=
  @Token.anchors_ofPieces source _ [] (Piece.flatMap_text_ofText source.text.toList).symm

end Source
end MailRules
