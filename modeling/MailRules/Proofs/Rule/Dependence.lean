import Mathlib.Data.List.Basic
import MailRules.Proofs.Rule.Evaluation

/-!
# What a rule depends on

A rule sees the body and the headers it names. Two messages that agree on these cannot be told
apart by the rule, whatever else they have, so headers that are not named can be set at will.

More headers and longer lists can only make a rule apply. The relation behind its evaluation asks
for one name, one value found and one value written, and neither their order nor their number
matters. A rule that applies therefore goes on to apply when headers are added to the message, and
names and values to the rule.
-/

namespace MailRules

/-- The headers that the expression asks for. -/
def Expr.names : Expr → List String
  | header names _ => names
  | message _ => []
  | bool _ => []

namespace Provider

/-- The providers give the same body, and the same for each of the names. -/
structure Agree (names : List String) (first second : Provider) : Prop where
  body : first.body = second.body
  header? : ∀ name ∈ names, first.header? name = second.header? name

/-- The providers give the same body, and `large` gives all headers of `small`. -/
structure Within (small large : Provider) : Prop where
  body : small.body = large.body
  header? : ∀ name value, small.header? name = some value → large.header? name = some value

end Provider

namespace Message

/-- Sets headers one after the other. -/
def withHeaders (message : Message) (headers : List (String × String)) : Message :=
  headers.foldl (fun message header => message.withHeader header.1 header.2) message

theorem body_withHeaders (message : Message) (headers : List (String × String)) :
    (message.withHeaders headers).body = message.body := by
  induction headers generalizing message with
  | nil => rfl
  | cons header headers ih => exact ih _

/-- Headers of other names keep their values. -/
theorem header?_withHeaders_of_forall_ne {name : String} {headers : List (String × String)}
    (h : ∀ header ∈ headers, header.1 ≠ name) (message : Message) :
    (message.withHeaders headers).header? name = message.header? name := by
  induction headers generalizing message with
  | nil => rfl
  | cons header headers ih =>
      obtain ⟨hheader, hheaders⟩ := List.forall_mem_cons.mp h
      have hnext : (message.withHeader header.1 header.2).header? name = message.header? name := by
        rw [header?_withHeader, if_neg (Ne.symm hheader)]
      exact (ih hheaders _).trans hnext

/-- A header that was missing can be added without loss. -/
theorem within_withHeader {message : Message} {name : String} (h : message.header? name = none)
    (value : String) : message.provider.Within (message.withHeader name value).provider := by
  refine ⟨rfl, ?_⟩
  intro other found hother
  have hne : other ≠ name := by
    rintro rfl
    cases h.symm.trans hother
  have hkept : (message.withHeader name value).header? other = message.header? other := by
    rw [header?_withHeader, if_neg hne]
  exact hkept.trans hother

end Message

namespace Comparator

/-- Both have the same operator, and `wide` has all values of `narrow`. -/
structure Within (narrow wide : Comparator) : Prop where
  operator : narrow.operator = wide.operator
  values : narrow.values ⊆ wide.values

/-- More values, with anything, relate to more. -/
theorem Within.exists_relates {narrow wide : Comparator} (h : narrow.Within wide) {found : String}
    (hfound : ∃ written ∈ narrow.values, narrow.operator.Relates found written) :
    ∃ written ∈ wide.values, wide.operator.Relates found written := by
  obtain ⟨written, hwritten, hrelated⟩ := hfound
  exact ⟨written, h.values hwritten, h.operator ▸ hrelated⟩

end Comparator

namespace Expr

/-- Evaluation looks at the body and at the headers that are named, and at nothing else. -/
theorem appliesTo_eq_of_agree {expr : Expr} {first second : Provider}
    (h : Provider.Agree expr.names first second) :
    expr.appliesTo first = expr.appliesTo second := by
  cases expr with
  | header names test =>
      have hfound : names.filterMap first.header? = names.filterMap second.header? :=
        List.filterMap_congr h.header?
      rw [appliesTo, appliesTo, hfound]
  | message test => rw [appliesTo, appliesTo, h.body]
  | bool value => rfl

theorem appliesTo_of_within {expr : Expr} {small large : Provider} (h : small.Within large)
    (happlies : expr.appliesTo small = true) : expr.appliesTo large = true := by
  cases expr with
  | header names test =>
      obtain ⟨name, hname, value, hheader, hrelated⟩ := appliesTo_header_iff.mp happlies
      exact appliesTo_header_iff.mpr ⟨name, hname, value, h.header? name value hheader, hrelated⟩
  | message test =>
      rw [appliesTo, ← h.body]
      exact happlies
  | bool value => exact happlies

variable {provider : Provider} {names names' : List String} {test test' : Comparator}

theorem appliesTo_header_of_subset (hnames : names ⊆ names') (htest : test.Within test')
    (h : (header names test).appliesTo provider = true) :
    (header names' test').appliesTo provider = true := by
  obtain ⟨name, hname, value, hheader, hrelated⟩ := appliesTo_header_iff.mp h
  exact appliesTo_header_iff.mpr
    ⟨name, hnames hname, value, hheader, htest.exists_relates hrelated⟩

theorem appliesTo_message_of_within (htest : test.Within test')
    (h : (message test).appliesTo provider = true) :
    (message test').appliesTo provider = true :=
  appliesTo_message_iff.mpr (htest.exists_relates (appliesTo_message_iff.mp h))

/-- Headers that are not named can be set at will. -/
theorem eval_withHeaders {expr : Expr} {headers : List (String × String)}
    (h : ∀ header ∈ headers, header.1 ∉ expr.names) (mail : Message) :
    expr.eval (mail.withHeaders headers) = expr.eval mail := by
  apply appliesTo_eq_of_agree
  refine ⟨mail.body_withHeaders headers, ?_⟩
  intro name hname
  apply Message.header?_withHeaders_of_forall_ne
  rintro header hheader rfl
  exact h header hheader hname

/-- Two lists of which each has the entries of the other differ by order and repetition. -/
theorem appliesTo_header_eq_of_subset (hnames : names ⊆ names') (hnames' : names' ⊆ names)
    (htest : test.Within test') (htest' : test'.Within test) :
    (header names test).appliesTo provider = (header names' test').appliesTo provider :=
  Bool.eq_iff_iff.mpr
    ⟨appliesTo_header_of_subset hnames htest, appliesTo_header_of_subset hnames' htest'⟩

theorem appliesTo_message_eq_of_within (htest : test.Within test') (htest' : test'.Within test) :
    (message test).appliesTo provider = (message test').appliesTo provider :=
  Bool.eq_iff_iff.mpr ⟨appliesTo_message_of_within htest, appliesTo_message_of_within htest'⟩

/-- What is not named does not count, more headers, names and values never do harm, and the
order and the number of entries in a list do not matter. -/
theorem appliesTo_frame_and_mono :
    (∀ (expr : Expr) (first second : Provider), Provider.Agree expr.names first second →
      expr.appliesTo first = expr.appliesTo second) ∧
    (∀ (expr : Expr) (headers : List (String × String)),
      (∀ header ∈ headers, header.1 ∉ expr.names) →
        ∀ mail : Message, expr.eval (mail.withHeaders headers) = expr.eval mail) ∧
    (∀ (expr : Expr) (small large : Provider), small.Within large →
      expr.appliesTo small = true → expr.appliesTo large = true) ∧
    (∀ (names names' : List String) (test test' : Comparator),
      names ⊆ names' → test.Within test' → ∀ provider : Provider,
        ((header names test).appliesTo provider = true →
          (header names' test').appliesTo provider = true) ∧
        ((message test).appliesTo provider = true →
          (message test').appliesTo provider = true)) ∧
    ∀ (names names' : List String) (test test' : Comparator),
      names ⊆ names' → names' ⊆ names → test.Within test' → test'.Within test →
        ∀ provider : Provider,
          (header names test).appliesTo provider = (header names' test').appliesTo provider ∧
          (message test).appliesTo provider = (message test').appliesTo provider := by
  refine ⟨fun _ _ _ => appliesTo_eq_of_agree, fun _ _ => eval_withHeaders,
    fun _ _ _ => appliesTo_of_within, ?_, ?_⟩
  · intro names names' test test' hnames htest provider
    exact ⟨appliesTo_header_of_subset hnames htest, appliesTo_message_of_within htest⟩
  · intro names names' test test' hnames hnames' htest htest' provider
    exact ⟨appliesTo_header_eq_of_subset hnames hnames' htest htest',
      appliesTo_message_eq_of_within htest htest'⟩

/-- A rule for one header of a message that has it. -/
theorem appliesTo_frame_and_mono_extended :
    let mail : Message := ({ body := "x" } : Message).withHeader "To" "axb"
    let rule : Expr := header ["To"] (.contains ["x"])
    let wide : Expr := header ["Cc", "To"] (.contains ["y", "x"])
    rule.eval mail = true ∧
      rule.eval (mail.withHeaders [("From", "y"), ("to", "y"), ("From", "z")]) = rule.eval mail ∧
      wide.eval mail = true ∧ wide.eval (mail.withHeader "Cc" "") = true ∧
      (header ["To", "Cc", "To"] (.contains ["x", "y"])).eval mail = wide.eval mail := by
  intro mail rule wide
  obtain ⟨-, hother, hheaders, hlists, hsame⟩ := appliesTo_frame_and_mono
  have hrule : rule.eval mail = true := by decide
  have hwide : wide.eval mail = true :=
    (hlists ["To"] ["Cc", "To"] (.contains ["x"]) (.contains ["y", "x"]) (by simp)
      ⟨rfl, by simp [Comparator.values]⟩ mail.provider).1 hrule
  have hmore : mail.provider.Within (mail.withHeader "Cc" "").provider :=
    Message.within_withHeader (by decide) ""
  refine ⟨hrule, hother rule _ (by decide) mail, hwide, hheaders wide _ _ hmore hwide, ?_⟩
  exact (hsame _ _ (.contains ["x", "y"]) (.contains ["y", "x"]) (by simp) (by simp)
    ⟨rfl, by simp [Comparator.values]⟩ ⟨rfl, by simp [Comparator.values]⟩ mail.provider).1

end Expr
end MailRules
