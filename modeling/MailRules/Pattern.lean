import MailRules.Pattern.Meaning

/-!
# Patterns

A pattern is a text that reads as a regular expression, together with that
expression. The expression is determined by the text, so two patterns are equal as
soon as their texts are.

There is no limit on the size of a compiled expression. An engine with such a limit (ten
megabytes is usual) refuses some texts that are patterns here, such as `\w{10000}`.
-/

namespace MailRules

namespace Pattern

/-- The regular expression that a text denotes, or the first fault in it. -/
def regexOf (text : String) : Except Fault Regex := do
  let node ← Node.read text
  node.checkNesting 0
  let (regex, _) ← node.meaning {}
  return regex

end Pattern

structure Pattern where
  text : String
  regex : Pattern.Regex
  regexOf_text : Pattern.regexOf text = .ok regex

namespace Pattern

@[ext] theorem ext {p q : Pattern} (h : p.text = q.text) : p = q := by
  obtain ⟨text, regex, hp⟩ := p
  obtain ⟨_, regex', hq⟩ := q
  obtain rfl : text = _ := h
  obtain rfl : regex = regex' := Except.ok.inj (hp.symm.trans hq)
  rfl

theorem ext_iff_text {p q : Pattern} : p = q ↔ p.text = q.text := ⟨congrArg text, ext⟩

instance : DecidableEq Pattern := fun p q =>
  decidable_of_iff (p.text = q.text) ext_iff_text.symm

def compile (text : String) : Except Fault Pattern :=
  match h : regexOf text with
  | .ok regex => .ok ⟨text, regex, h⟩
  | .error fault => .error fault

/-- A pattern is the result of compiling its text. -/
@[simp] theorem compile_text (p : Pattern) : compile p.text = .ok p := by
  unfold compile
  split
  · next regex h => exact congrArg Except.ok (ext rfl)
  · next fault h => exact absurd (h.symm.trans p.regexOf_text) (by simp)

theorem text_of_compile {text : String} {p : Pattern} (h : compile text = .ok p) :
    p.text = text := by
  unfold compile at h
  split at h
  · cases h; rfl
  · cases h

/-- Some piece of `value` matches. -/
def matchesIn (p : Pattern) (value : String) : Bool := p.regex.isMatch value

end Pattern
end MailRules
