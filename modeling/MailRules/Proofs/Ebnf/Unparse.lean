import MailRules.Ebnf.Parse

/-!
# Writing a grammar out

A grammar written out is a list of tokens, as far as reading them is concerned. What is
read of a word or a string is its text and where it stands; of a sign it is only the text.

A grammar has many trees but only one that reading gives. In normal form there is no list of
one member and no list directly within a list of the same or a closer kind, so brackets are
all that is needed to tell where a list begins and ends.
-/

namespace MailRules

namespace Ebnf

/-- What the grammar parser sees of a token. -/
inductive Mark where
  | ident (symbol : Symbol)
  | string (symbol : Symbol)
  | other (text : String)
  deriving DecidableEq

namespace Mark

def ofToken (token : Token) : Mark :=
  match token.kind with
  | .ident => ident (.ofToken token)
  | .string => string (.ofToken token)
  | .other => other token.text

/-- Words and strings, which are what the leaves of a form are made of. -/
def isWord : Mark → Bool
  | ident _ | string _ => true
  | other _ => false

/-- A term can begin with the mark. -/
def opensTerm : Mark → Bool
  | ident _ | string _ => true
  | other text => (Form.bracket? text).isSome

theorem ofToken_eq_ident_iff {token : Token} {symbol : Symbol} :
    ofToken token = ident symbol ↔ token.kind = .ident ∧ Symbol.ofToken token = symbol := by
  unfold ofToken
  cases token.kind <;> simp

theorem ofToken_eq_string_iff {token : Token} {symbol : Symbol} :
    ofToken token = string symbol ↔ token.kind = .string ∧ Symbol.ofToken token = symbol := by
  unfold ofToken
  cases token.kind <;> simp

theorem ofToken_eq_other_iff {token : Token} {text : String} :
    ofToken token = other text ↔ token.kind = .other ∧ token.text = text := by
  unfold ofToken
  cases token.kind <;> simp

theorem isWord_ofToken (token : Token) :
    (ofToken token).isWord = decide (token.kind ≠ .other) := by
  unfold ofToken
  cases token.kind <;> rfl

end Mark

namespace Form

mutual

/-- A form written out. -/
def marks : Form → List Mark
  | alternative branches => barred branches
  | sequence items => juxtaposed items
  | group inner => .other "(" :: (inner.marks ++ [.other ")"])
  | option inner => .other "[" :: (inner.marks ++ [.other "]"])
  | repetition inner => .other "\x7b" :: (inner.marks ++ [.other "\x7d"])
  | name symbol => [.ident symbol]
  | token symbol => [.string symbol]
  | range first last => [.string first, .other "…", .string last]

def juxtaposed : List Form → List Mark
  | [] => []
  | form :: rest => form.marks ++ juxtaposed rest

/-- Forms with bars between them. -/
def barred : List Form → List Mark
  | [] => []
  | form :: rest => form.marks ++ barredAfter rest

/-- Forms with a bar before each. -/
def barredAfter : List Form → List Mark
  | [] => []
  | form :: rest => .other "|" :: (form.marks ++ barredAfter rest)

end

/-- The words and strings of a leaf. -/
def words : Form → List Mark
  | name symbol => [.ident symbol]
  | token symbol => [.string symbol]
  | range first last => [.string first, .string last]
  | _ => []

def IsAlternative : Form → Prop
  | alternative _ => True
  | _ => False

def IsSequence : Form → Prop
  | sequence _ => True
  | _ => False

/-- Lists have two members at least, and no members that would be read as part of the list. -/
inductive Normal : Form → Prop where
  | alternative {branches : List Form} (hlength : 2 ≤ branches.length)
      (hmember : ∀ branch ∈ branches, ¬ branch.IsAlternative)
      (h : ∀ branch ∈ branches, Normal branch) : Normal (.alternative branches)
  | sequence {items : List Form} (hlength : 2 ≤ items.length)
      (hmember : ∀ item ∈ items, ¬ item.IsAlternative ∧ ¬ item.IsSequence)
      (h : ∀ item ∈ items, Normal item) : Normal (.sequence items)
  | group {inner : Form} (h : Normal inner) : Normal (.group inner)
  | option {inner : Form} (h : Normal inner) : Normal (.option inner)
  | repetition {inner : Form} (h : Normal inner) : Normal (.repetition inner)
  | name (symbol : Symbol) : Normal (.name symbol)
  | token (symbol : Symbol) : Normal (.token symbol)
  | range (first last : Symbol) : Normal (.range first last)

/-- A form in normal form that may stand between bars. -/
def Branch (form : Form) : Prop := form.Normal ∧ ¬ form.IsAlternative

/-- A form in normal form that may stand next to another one. -/
def Term (form : Form) : Prop := form.Normal ∧ ¬ form.IsAlternative ∧ ¬ form.IsSequence

end Form

namespace Production

/-- A production written out, with nothing between the signs if it has no body. -/
def marks (production : Production) : List Mark :=
  .ident ⟨production.name, production.position⟩ :: .other "=" ::
    ((production.body.map Form.marks).getD [] ++ [.other "."])

def Normal (production : Production) : Prop := ∀ form ∈ production.body, form.Normal

end Production

namespace Grammar

/-- A grammar written out. -/
def marks (grammar : Grammar) : List Mark := grammar.productions.flatMap Production.marks

def Normal (grammar : Grammar) : Prop := ∀ production ∈ grammar.productions, production.Normal

end Grammar

namespace Form

variable {form : Form}

theorem Term.branch (h : form.Term) : form.Branch := ⟨h.1, h.2.1⟩

theorem ofTerms_of_two_le {items : List Form} (h : 2 ≤ items.length) :
    ofTerms items = .sequence items :=
  match items with
  | _ :: _ :: _ => rfl

theorem ofBranches_of_two_le {branches : List Form} (h : 2 ≤ branches.length) :
    ofBranches branches = .alternative branches :=
  match branches with
  | _ :: _ :: _ => rfl

/-- What may stand between bars is made of one term or several. -/
theorem branch_iff :
    form.Branch ↔ ∃ items, items ≠ [] ∧ (∀ item ∈ items, item.Term) ∧ ofTerms items = form := by
  constructor
  · rintro ⟨hnormal, hbranch⟩
    by_cases hsequence : form.IsSequence
    · cases hnormal with
      | @sequence items hlength hmember h =>
          refine ⟨items, ?_, fun item hitem => ⟨h item hitem, hmember item hitem⟩,
            ofTerms_of_two_le hlength⟩
          rintro rfl
          cases hlength
      | _ => cases hsequence
    · exact ⟨[form], List.cons_ne_nil _ _,
        List.forall_mem_singleton.mpr ⟨hnormal, hbranch, hsequence⟩, rfl⟩
  · rintro ⟨items, hne, hterm, rfl⟩
    match items with
    | [item] => exact (hterm item (List.mem_singleton_self _)).branch
    | _ :: _ :: _ =>
      exact ⟨.sequence (by simp) (fun item hitem => (hterm item hitem).2)
        fun item hitem => (hterm item hitem).1, id⟩

/-- What is in normal form is made of one branch or several. -/
theorem normal_iff :
    form.Normal ↔ ∃ branches, branches ≠ [] ∧ (∀ branch ∈ branches, branch.Branch) ∧
      ofBranches branches = form := by
  constructor
  · intro hnormal
    by_cases halternative : form.IsAlternative
    · cases hnormal with
      | @alternative branches hlength hmember h =>
          refine ⟨branches, ?_, fun branch hbranch => ⟨h branch hbranch, hmember branch hbranch⟩,
            ofBranches_of_two_le hlength⟩
          rintro rfl
          cases hlength
      | _ => cases halternative
    · exact ⟨[form], List.cons_ne_nil _ _,
        List.forall_mem_singleton.mpr ⟨hnormal, halternative⟩, rfl⟩
  · rintro ⟨branches, hne, hbranch, rfl⟩
    match branches with
    | [branch] => exact (hbranch branch (List.mem_singleton_self _)).1
    | _ :: _ :: _ =>
      exact .alternative (by simp) (fun branch hmem => (hbranch branch hmem).2)
        fun branch hmem => (hbranch branch hmem).1

theorem bracket_cases {opening closing : String} {wrap : Form → Form}
    (h : bracket? opening = some (closing, wrap)) :
    opening = "(" ∧ closing = ")" ∧ wrap = group ∨
      opening = "[" ∧ closing = "]" ∧ wrap = option ∨
      opening = "\x7b" ∧ closing = "\x7d" ∧ wrap = repetition := by
  unfold bracket? at h
  split at h <;> simp_all

/-- What stands between brackets makes a term of its own. -/
theorem bracket_term {opening closing : String} {wrap : Form → Form} {inner : Form}
    (hbracket : bracket? opening = some (closing, wrap)) (h : inner.Normal) :
    (wrap inner).Term := by
  rcases bracket_cases hbracket with ⟨-, -, rfl⟩ | ⟨-, -, rfl⟩ | ⟨-, -, rfl⟩
  · exact ⟨.group h, id, id⟩
  · exact ⟨.option h, id, id⟩
  · exact ⟨.repetition h, id, id⟩

theorem bracket_marks {opening closing : String} {wrap : Form → Form} {inner : Form}
    (hbracket : bracket? opening = some (closing, wrap)) :
    (wrap inner).marks = .other opening :: (inner.marks ++ [.other closing]) := by
  rcases bracket_cases hbracket with ⟨rfl, rfl, rfl⟩ | ⟨rfl, rfl, rfl⟩ | ⟨rfl, rfl, rfl⟩ <;> rfl

theorem marks_ofTerms (items : List Form) : (ofTerms items).marks = juxtaposed items :=
  match items with
  | [] => rfl
  | [item] => (List.append_nil item.marks).symm
  | _ :: _ :: _ => rfl

theorem marks_ofBranches (branches : List Form) : (ofBranches branches).marks = barred branches :=
  match branches with
  | [] => rfl
  | [branch] => (List.append_nil branch.marks).symm
  | _ :: _ :: _ => rfl

theorem barredAfter_of_ne_nil {forms : List Form} (h : forms ≠ []) :
    barredAfter forms = .other "|" :: barred forms :=
  match forms with
  | _ :: _ => rfl

/-- Nothing in normal form is empty, and none begins with a sign other than a bracket. -/
theorem Normal.opens (h : form.Normal) :
    ∃ mark rest, form.marks = mark :: rest ∧ mark.opensTerm := by
  induction h with
  | @alternative branches hlength _ _ ih =>
      match branches with
      | branch :: rest =>
        obtain ⟨mark, more, hmarks, hopens⟩ := ih branch List.mem_cons_self
        exact ⟨mark, more ++ barredAfter rest, by simp [marks, barred, hmarks], hopens⟩
  | @sequence items hlength _ _ ih =>
      match items with
      | item :: rest =>
        obtain ⟨mark, more, hmarks, hopens⟩ := ih item List.mem_cons_self
        exact ⟨mark, more ++ juxtaposed rest, by simp [marks, juxtaposed, hmarks], hopens⟩
  | group | option | repetition => exact ⟨_, _, rfl, rfl⟩
  | name | token | range => exact ⟨_, _, rfl, rfl⟩

mutual

/-- The words and strings of a form are those of its leaves, in the same order. -/
theorem filter_isWord_marks : ∀ form : Form,
    form.marks.filter Mark.isWord = form.leaves.flatMap words
  | alternative branches => filter_isWord_barred branches
  | sequence items => filter_isWord_juxtaposed items
  | group inner | option inner | repetition inner => by
    simp [marks, leaves, Mark.isWord, filter_isWord_marks inner]
  | name _ | token _ | range _ _ => rfl

theorem filter_isWord_juxtaposed : ∀ forms : List Form,
    (juxtaposed forms).filter Mark.isWord = (leavesAll forms).flatMap words
  | [] => rfl
  | form :: rest => by
    simp [juxtaposed, leavesAll, filter_isWord_marks form, filter_isWord_juxtaposed rest]

theorem filter_isWord_barred : ∀ forms : List Form,
    (barred forms).filter Mark.isWord = (leavesAll forms).flatMap words
  | [] => rfl
  | form :: rest => by
    simp [barred, leavesAll, filter_isWord_marks form, filter_isWord_barredAfter rest]

theorem filter_isWord_barredAfter : ∀ forms : List Form,
    (barredAfter forms).filter Mark.isWord = (leavesAll forms).flatMap words
  | [] => rfl
  | form :: rest => by
    simp [barredAfter, leavesAll, Mark.isWord, filter_isWord_marks form,
      filter_isWord_barredAfter rest]

end

end Form
end Ebnf
end MailRules
