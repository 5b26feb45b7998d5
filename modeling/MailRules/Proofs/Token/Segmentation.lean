import MailRules.Proofs.Location
import MailRules.Proofs.Token.Lexeme

/-!
# The segmentation of a source

A text is segmented when it is layout and lexemes in turn, each fitting what follows it.
A text has at most one segmentation, and lexing succeeds exactly on the texts that have
one. The tokens are then the lexemes of the segmentation, so nothing but layout is lost.

Lexing walks over the pieces of a text. The equations below take it over one layout item
or one lexeme at a time, and every other fact follows by induction on the segmentation
or on the text.
-/

namespace MailRules

/-- Layout items one after the other, before `rest`. -/
inductive Layout : (gap rest : List Char) → Prop where
  | nil {rest : List Char} : Layout [] rest
  | cons (item : List Char) {gap rest : List Char} (hitem : LayoutItem item (gap ++ rest))
      (h : Layout gap rest) : Layout (item ++ gap) rest

/-- A lexeme as it is written and the text of its token, with the layout before it. -/
structure Segment where
  gap : List Char
  kind : TokenKind
  written : List Char
  text : List Char

/-- `text` consists of `segments` and of the layout `trailing` behind them. -/
inductive Segmented : (text : List Char) → List Segment → (trailing : List Char) → Prop where
  | last {gap : List Char} (hgap : Layout gap []) : Segmented gap [] gap
  | next (segment : Segment) {segments : List Segment} {rest trailing : List Char}
      (hgap : Layout segment.gap (segment.written ++ rest))
      (hlexeme : Lexeme segment.kind segment.written segment.text rest)
      (h : Segmented rest segments trailing) :
      Segmented (segment.gap ++ (segment.written ++ rest)) (segment :: segments) trailing

namespace Segment

/-- The token of a segment that stands behind the text `before`. -/
def token (source : Source) (before : List Char) (segment : Segment) : Token :=
  let start := before ++ segment.gap
  { kind := segment.kind
    position := source.position (Location.start.after start)
    span := ⟨byteSize start, byteSize (start ++ segment.written)⟩
    text := String.ofList segment.text }

/-- The tokens of segments that stand behind the text `before`. -/
def tokens (source : Source) (before : List Char) : List Segment → List Token
  | [] => []
  | segment :: rest =>
    segment.token source before :: tokens source (before ++ segment.gap ++ segment.written) rest

end Segment

theorem LayoutItem.exists_cons {item rest : List Char} (h : LayoutItem item rest) :
    ∃ c body, item = c :: body := by
  cases h <;> exact ⟨_, _, rfl⟩

theorem Lexeme.exists_cons {kind : TokenKind} {written text rest : List Char}
    (h : Lexeme kind written text rest) : ∃ c body, written = c :: body := by
  cases h <;> exact ⟨_, _, rfl⟩

/-- The text of a token is that of its lexeme, without the quotes of a string. -/
theorem Lexeme.tokenText {kind : TokenKind} {written text rest : List Char}
    (h : Lexeme kind written text rest) : Piece.tokenText kind written = String.ofList text := by
  cases h <;> simp [Piece.tokenText]

namespace Piece

theorem ofText_layoutItem {item rest : List Char} (h : LayoutItem item rest) :
    ofText (item ++ rest) = ⟨.layout, item⟩ :: ofText rest := by
  obtain ⟨c, body, rfl⟩ := h.exists_cons
  rw [List.cons_append, ofText_cons, PieceKind.cut_of_layoutItem h, List.take_left,
    List.drop_left]

theorem ofText_lexeme {kind : TokenKind} {written text rest : List Char}
    (h : Lexeme kind written text rest) :
    ofText (written ++ rest) = ⟨.lexeme kind, written⟩ :: ofText rest := by
  obtain ⟨c, body, rfl⟩ := h.exists_cons
  rw [List.cons_append, ofText_cons, PieceKind.cut_of_lexeme h, List.take_left,
    List.drop_left]

end Piece

namespace Token

theorem ofPieces_layoutItem {item rest : List Char} (h : LayoutItem item rest)
    (source : Source) (place : Location) :
    ofPieces source place (Piece.ofText (item ++ rest)) =
      ofPieces source (place.after item) (Piece.ofText rest) := by
  rw [Piece.ofText_layoutItem h, ofPieces]

/-- Layout moves the place on and gives no tokens. -/
theorem ofPieces_layout {gap rest : List Char} (h : Layout gap rest) (source : Source)
    (place : Location) :
    ofPieces source place (Piece.ofText (gap ++ rest)) =
      ofPieces source (place.after gap) (Piece.ofText rest) := by
  induction h generalizing place with
  | nil => rfl
  | cons item hitem _ ih =>
      rw [List.append_assoc, ofPieces_layoutItem hitem, ih, Location.after_append]

/-- Lexing a text that begins with a lexeme gives its token and the tokens of the rest. -/
theorem ofPieces_lexeme {kind : TokenKind} {written text rest : List Char}
    (h : Lexeme kind written text rest) (source : Source) (place : Location) :
    ofPieces source place (Piece.ofText (written ++ rest)) =
      (ofPieces source (place.after written) (Piece.ofText rest)).map
        (⟨kind, source.position place, ⟨place.offset, (place.after written).offset⟩,
          String.ofList text⟩ :: ·) := by
  rw [Piece.ofText_lexeme h, ofPieces, ← h.tokenText]
  dsimp only
  cases ofPieces source (place.after written) (Piece.ofText rest) <;> rfl

/-- The tokens of a segmented text are those of its segments. -/
theorem ofPieces_segmented {text trailing : List Char} {segments : List Segment}
    (h : Segmented text segments trailing) (source : Source) (before : List Char) :
    ofPieces source (Location.start.after before) (Piece.ofText text) =
      .ok (Segment.tokens source before segments) := by
  induction h generalizing before with
  | last hgap =>
      have hlex := ofPieces_layout hgap source (Location.start.after before)
      rw [List.append_nil, Piece.ofText_nil] at hlex
      rw [hlex, ofPieces, Segment.tokens]
  | next segment hgap hlexeme _ ih =>
      rw [ofPieces_layout hgap, ofPieces_lexeme hlexeme, ← Location.after_append,
        ← Location.after_append, ih]
      simp only [Except.map, Location.offset_start_after]
      rfl

end Token

namespace Segmented

/-- Layout before a segmented text belongs to its first gap. -/
theorem layoutItem {item rest trailing : List Char} {segments : List Segment}
    (hitem : LayoutItem item rest) (h : Segmented rest segments trailing) :
    ∃ segments' trailing', Segmented (item ++ rest) segments' trailing' := by
  cases h with
  | last hgap => exact ⟨[], _, .last (.cons item (by simpa using hitem) hgap)⟩
  | @next segment segments rest trailing hgap hlexeme h =>
      refine ⟨{ segment with gap := item ++ segment.gap } :: segments, trailing, ?_⟩
      have hgap' : Layout (item ++ segment.gap) (segment.written ++ rest) := .cons item hitem hgap
      rw [← List.append_assoc]
      exact .next { segment with gap := item ++ segment.gap } hgap' hlexeme h

theorem lexeme {kind : TokenKind} {written text rest trailing : List Char}
    {segments : List Segment} (hlexeme : Lexeme kind written text rest)
    (h : Segmented rest segments trailing) :
    Segmented (written ++ rest) (⟨[], kind, written, text⟩ :: segments) trailing :=
  .next ⟨[], kind, written, text⟩ .nil hlexeme h

/-- A text that lexes has a segmentation. -/
theorem exists_of_ofPieces {source : Source} {text : List Char} :
    ∀ {place : Location} {tokens : List Token},
      Token.ofPieces source place (Piece.ofText text) = .ok tokens →
        ∃ segments trailing, Segmented text segments trailing := by
  fun_induction Piece.ofText text with
  | case1 => exact fun _ => ⟨[], [], .last .nil⟩
  | case2 c rest kind length hcut ih =>
      intro place tokens hlex
      have hsplit : c :: rest = (c :: rest.take length) ++ rest.drop length := by simp
      cases kind with
      | layout =>
          rw [Token.ofPieces] at hlex
          obtain ⟨segments, trailing, h⟩ := ih hlex
          rw [hsplit]
          exact layoutItem (PieceKind.layoutItem_of_cut hcut) h
      | lexeme kind =>
          rw [Token.ofPieces] at hlex
          cases htail : Token.ofPieces source (place.after (c :: rest.take length))
              (Piece.ofText (rest.drop length)) with
          | error failure =>
              rw [htail] at hlex
              cases hlex
          | ok tail =>
              obtain ⟨segments, trailing, h⟩ := ih htail
              obtain ⟨text, hlexeme⟩ := PieceKind.lexeme_of_cut hcut
              rw [hsplit]
              exact ⟨_, _, lexeme hlexeme h⟩
      | unsupported => cases hlex
      | unclosed what => cases hlex

end Segmented

/-- No layout item begins `text`. -/
def Unpadded (text : List Char) : Prop :=
  ∀ item rest, LayoutItem item rest → text ≠ item ++ rest

theorem unpadded_nil : Unpadded [] := by
  intro item rest hitem heq
  obtain ⟨c, body, rfl⟩ := hitem.exists_cons
  cases heq

/-- A gap cannot reach into the lexeme behind it. -/
theorem Lexeme.unpadded {kind : TokenKind} {written text rest : List Char}
    (h : Lexeme kind written text rest) : Unpadded (written ++ rest) := by
  intro item rest' hitem heq
  have hpieces := congrArg Piece.ofText heq
  rw [Piece.ofText_lexeme h, Piece.ofText_layoutItem hitem] at hpieces
  cases congrArg Piece.kind (List.cons.inj hpieces).1

/-- Cutting is a function, so what begins a text as a layout item is determined. -/
theorem LayoutItem.unique {item item' rest rest' : List Char} (h : LayoutItem item rest)
    (h' : LayoutItem item' rest') (heq : item ++ rest = item' ++ rest') :
    item = item' ∧ rest = rest' := by
  have hpieces := congrArg Piece.ofText heq
  rw [Piece.ofText_layoutItem h, Piece.ofText_layoutItem h'] at hpieces
  obtain rfl : item = item' := congrArg Piece.text (List.cons.inj hpieces).1
  exact ⟨rfl, List.append_cancel_left heq⟩

theorem Lexeme.unique {kind kind' : TokenKind} {written written' text text' rest rest' : List Char}
    (h : Lexeme kind written text rest) (h' : Lexeme kind' written' text' rest')
    (heq : written ++ rest = written' ++ rest') :
    kind = kind' ∧ written = written' ∧ text = text' ∧ rest = rest' := by
  have hpieces := congrArg Piece.ofText heq
  rw [Piece.ofText_lexeme h, Piece.ofText_lexeme h'] at hpieces
  have hpiece := (List.cons.inj hpieces).1
  obtain rfl : kind = kind' := PieceKind.lexeme.inj (congrArg Piece.kind hpiece)
  obtain rfl : written = written' := congrArg Piece.text hpiece
  have htext : String.ofList text = String.ofList text' := h.tokenText.symm.trans h'.tokenText
  exact ⟨rfl, rfl, String.ofList_injective htext, List.append_cancel_left heq⟩

/-- Layout that nothing could extend is determined. -/
theorem Layout.unique {gap gap' rest rest' : List Char} (h : Layout gap rest)
    (h' : Layout gap' rest') (hrest : Unpadded rest) (hrest' : Unpadded rest')
    (heq : gap ++ rest = gap' ++ rest') : gap = gap' ∧ rest = rest' := by
  induction h generalizing gap' with
  | nil =>
      cases h' with
      | nil => exact ⟨rfl, heq⟩
      | cons item hitem _ => exact absurd (by simpa using heq) (hrest _ _ hitem)
  | cons item hitem _ ih =>
      cases h' with
      | nil => exact absurd (by simpa using heq.symm) (hrest' _ _ hitem)
      | cons item' hitem' h' =>
          obtain ⟨rfl, htail⟩ := hitem.unique hitem' (by simpa using heq)
          obtain ⟨rfl, rfl⟩ := ih h' hrest htail
          exact ⟨rfl, rfl⟩

namespace Segmented

/-- Gap by gap and lexeme by lexeme, two segmentations of a text agree. -/
theorem unique {text trailing trailing' : List Char} {segments segments' : List Segment}
    (h : Segmented text segments trailing) (h' : Segmented text segments' trailing') :
    segments = segments' ∧ trailing = trailing' := by
  induction h generalizing segments' trailing' with
  | @last gap hgap =>
      cases h' with
      | last => exact ⟨rfl, rfl⟩
      | next segment hgap' hlexeme' =>
          obtain ⟨-, hnil⟩ := hgap.unique hgap' unpadded_nil hlexeme'.unpadded (by simp)
          obtain ⟨c, body, hwritten⟩ := hlexeme'.exists_cons
          simp [hwritten] at hnil
  | @next segment segments rest _ hgap hlexeme _ ih =>
      generalize htext : segment.gap ++ (segment.written ++ rest) = text at h'
      cases h' with
      | last hgap' =>
          obtain ⟨-, hnil⟩ := hgap.unique hgap' hlexeme.unpadded unpadded_nil
            (by simpa using htext)
          obtain ⟨c, body, hwritten⟩ := hlexeme.exists_cons
          simp [hwritten] at hnil
      | next segment' hgap' hlexeme' h' =>
          obtain ⟨hgaps, htails⟩ := hgap.unique hgap' hlexeme.unpadded hlexeme'.unpadded htext
          obtain ⟨hkind, hwritten, htext, rfl⟩ := hlexeme.unique hlexeme' htails
          obtain ⟨rfl, rfl⟩ := ih h'
          cases segment
          cases segment'
          simp_all

end Segmented

/-- Every token of a text is a lexeme that stands in it. -/
theorem Segmented.exists_lexeme {text trailing : List Char} {segments : List Segment}
    (h : Segmented text segments trailing) (source : Source) :
    ∀ before, ∀ token ∈ Segment.tokens source before segments, ∃ skipped written content rest,
      text = skipped ++ (written ++ rest) ∧ Lexeme token.kind written content rest ∧
      token = { kind := token.kind
                position := source.position (Location.start.after (before ++ skipped))
                span := ⟨byteSize (before ++ skipped), byteSize (before ++ skipped ++ written)⟩
                text := String.ofList content } := by
  induction h with
  | last => simp [Segment.tokens]
  | next segment _ hlexeme _ ih =>
      intro before token htoken
      rcases List.mem_cons.mp htoken with rfl | htail
      · exact ⟨segment.gap, segment.written, segment.text, _, rfl, hlexeme, rfl⟩
      · obtain ⟨skipped, written, content, rest, rfl, hlater, htoken⟩ := ih _ token htail
        refine ⟨segment.gap ++ (segment.written ++ skipped), written, content, rest, ?_, hlater, ?_⟩
        · simp only [List.append_assoc]
        · simpa only [List.append_assoc] using htoken

/-- Every token of a source is a lexeme at the place where the token is said to be. -/
theorem Source.exists_lexeme_of_lex {source : Source} {tokens : List Token}
    (h : source.lex = .ok tokens) {token : Token} (htoken : token ∈ tokens) :
    ∃ before written content rest, source.text.toList = before ++ (written ++ rest) ∧
      Lexeme token.kind written content rest ∧
      token = { kind := token.kind
                position := source.position (Location.start.after before)
                span := ⟨byteSize before, byteSize (before ++ written)⟩
                text := String.ofList content } := by
  obtain ⟨segments, trailing, hsegmented⟩ := Segmented.exists_of_ofPieces h
  obtain rfl := Except.ok.inj (h.symm.trans (Token.ofPieces_segmented hsegmented source []))
  exact hsegmented.exists_lexeme source [] token htoken

/-- Lexing succeeds exactly on the segmented texts, with the lexemes of the segmentation
as tokens, and a text has at most one segmentation. -/
theorem Source.lex_eq_ok_iff_segmented :
    (∀ (source : Source) (tokens : List Token), source.lex = .ok tokens ↔
      ∃ segments trailing, Segmented source.text.toList segments trailing ∧
        Segment.tokens source [] segments = tokens) ∧
    ∀ (text trailing trailing' : List Char) (segments segments' : List Segment),
      Segmented text segments trailing → Segmented text segments' trailing' →
        segments = segments' ∧ trailing = trailing' := by
  refine ⟨fun source tokens => ⟨fun hlex => ?_, ?_⟩, fun _ _ _ _ _ h h' => h.unique h'⟩
  · obtain ⟨segments, trailing, h⟩ := Segmented.exists_of_ofPieces hlex
    have htokens := Token.ofPieces_segmented h source []
    exact ⟨segments, trailing, h, Except.ok.inj (htokens.symm.trans hlex)⟩
  · rintro ⟨segments, trailing, h, rfl⟩
    exact Token.ofPieces_segmented h source []

/-- A comment opener inside quotes, a protected quote and a comment up to the end. -/
theorem Source.lex_eq_ok_iff_segmented_quoted :
    let source : Source := { text := "is \"\\\"`//\"//" }
    let written := ['"', '\\', '"', '\x60', '/', '/', '"']
    let segments : List Segment :=
      [⟨[], .ident, ['i', 's'], ['i', 's']⟩,
        ⟨[' '], .string, written, ['\\', '"', '\x60', '/', '/']⟩]
    Segmented source.text.toList segments ['/', '/'] ∧
      source.lex = .ok (Segment.tokens source [] segments) ∧
      ∀ segments' trailing', Segmented source.text.toList segments' trailing' →
        segments = segments' ∧ ['/', '/'] = trailing' := by
  intro source written segments
  have hcomment : Segmented ['/', '/'] [] ['/', '/'] :=
    .last (.cons ['/', '/'] (.line (by simp) (.inl rfl)) .nil)
  have hstring : Lexeme .string written ['\\', '"', '\x60', '/', '/'] ['/', '/'] :=
    .quoted (.escaped (by decide) (.plain (by decide) (.plain (by decide)
      (.plain (by decide) .nil))))
  have hblank : Layout [' '] (written ++ ['/', '/']) :=
    .cons [' '] (.blank (.inl rfl)) .nil
  have hletter : Unicode.isAlphanumeric 's' = true := by decide
  have hspace : Unicode.isAlphanumeric ' ' = false := by decide
  have hword : Lexeme .ident ['i', 's'] ['i', 's'] ([' '] ++ (written ++ ['/', '/'])) :=
    .ident (by decide) (by simp [hletter]) (by simp [hspace])
  have htext : source.text.toList = ['i', 's'] ++ ([' '] ++ (written ++ ['/', '/'])) := by decide
  have h : Segmented source.text.toList segments ['/', '/'] := by
    rw [htext]
    exact .next ⟨[], .ident, _, _⟩ .nil hword
      (.next ⟨[' '], .string, _, _⟩ hblank hstring hcomment)
  exact ⟨h, (lex_eq_ok_iff_segmented.1 _ _).mpr ⟨_, _, h, rfl⟩,
    fun _ _ h' => lex_eq_ok_iff_segmented.2 _ _ _ _ _ h h'⟩

end MailRules
