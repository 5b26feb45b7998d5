import MailRules.Unicode.Age
import MailRules.Unicode.Break
import MailRules.Unicode.ScriptExtension

/-!
# Looking a property up by name

A name alone denotes a binary property, a general category or a script, in that
order; with a value it denotes one value of a property. Names are compared loosely:
letter case, blanks, hyphens, low lines and a leading `is` do not count.
-/

namespace MailRules.Unicode

/-- Why a property could not be found. -/
inductive Query.Failure where
  | unknownProperty
  | unknownValue
  deriving DecidableEq, Repr

namespace Query

open Category Property

/-- The form in which names are compared. The abbreviation `isc` is not read as
`c` with a leading `is`, which would make it a general category. -/
def normalize (name : String) : String :=
  let chars := name.toList
  let leads := (chars.take 2).map Char.toLower = ['i', 's']
  let kept := (if leads then chars.drop 2 else chars).filter fun c =>
    c.toNat < 128 && c ≠ ' ' && c ≠ '_' && c ≠ '-'
  let small := kept.map Char.toLower
  String.ofList (if leads ∧ small = ['c'] then ['i', 's', 'c'] else small)

/-- General categories with their groups, and the three that are no categories of
the standard but are asked for like one. -/
def categories : List PropertyValue := [
  ⟨["any"], fun _ => true⟩,
  ⟨["assigned"], fun c => !unassigned c⟩,
  ⟨["ascii"], fun c => c.toNat < 128⟩,
  ⟨["lu", "uppercaseletter"], uppercaseLetter.contains⟩,
  ⟨["ll", "lowercaseletter"], lowercaseLetter.contains⟩,
  ⟨["lt", "titlecaseletter"], titlecaseLetter.contains⟩,
  ⟨["lc", "casedletter"], fun c =>
    uppercaseLetter.contains c || lowercaseLetter.contains c || titlecaseLetter.contains c⟩,
  ⟨["lm", "modifierletter"], modifierLetter.contains⟩,
  ⟨["lo", "otherletter"], otherLetter.contains⟩,
  ⟨["l", "letter"], letter⟩,
  ⟨["mn", "nonspacingmark"], nonspacingMark.contains⟩,
  ⟨["mc", "spacingmark"], spacingMark.contains⟩,
  ⟨["me", "enclosingmark"], enclosingMark.contains⟩,
  ⟨["m", "mark", "combiningmark"], mark⟩,
  ⟨["nd", "decimalnumber", "digit"], decimalNumber.contains⟩,
  ⟨["nl", "letternumber"], letterNumber.contains⟩,
  ⟨["no", "othernumber"], otherNumber.contains⟩,
  ⟨["n", "number"], number⟩,
  ⟨["pc", "connectorpunctuation"], connectorPunctuation.contains⟩,
  ⟨["pd", "dashpunctuation"], dashPunctuation.contains⟩,
  ⟨["ps", "openpunctuation"], openPunctuation.contains⟩,
  ⟨["pe", "closepunctuation"], closePunctuation.contains⟩,
  ⟨["pi", "initialpunctuation"], initialPunctuation.contains⟩,
  ⟨["pf", "finalpunctuation"], finalPunctuation.contains⟩,
  ⟨["po", "otherpunctuation"], otherPunctuation.contains⟩,
  ⟨["p", "punctuation", "punct"], punctuation⟩,
  ⟨["sm", "mathsymbol"], mathSymbol.contains⟩,
  ⟨["sc", "currencysymbol"], currencySymbol.contains⟩,
  ⟨["sk", "modifiersymbol"], modifierSymbol.contains⟩,
  ⟨["so", "othersymbol"], otherSymbol.contains⟩,
  ⟨["s", "symbol"], symbol⟩,
  ⟨["zs", "spaceseparator"], spaceSeparator.contains⟩,
  ⟨["zl", "lineseparator"], lineSeparator.contains⟩,
  ⟨["zp", "paragraphseparator"], paragraphSeparator.contains⟩,
  ⟨["z", "separator"], separator⟩,
  ⟨["cc", "control", "cntrl"], control.contains⟩,
  ⟨["cf", "format"], format.contains⟩,
  ⟨["co", "privateuse"], privateUse.contains⟩,
  ⟨["cn", "unassigned"], unassigned⟩,
  ⟨["c", "other"], other⟩]

/-- The category of surrogates has names but no characters to offer. -/
def surrogates : List String := ["cs", "surrogate"]

/-- Short names that a category shares with another property belong to the
category. -/
def ambiguous : List String := ["cf", "sc", "lc"]

/-- The set that a name denotes. -/
def named (name : String) : Except Failure CharSet :=
  let name := normalize name
  let property := if ambiguous.contains name then none else PropertyValue.find? Property.values name
  match property <|> PropertyValue.find? categories name <|>
      PropertyValue.find? Script.values name with
  | some value => .ok value.set
  | none =>
    .error (if surrogates.contains name ∨ Script.empty.contains name then .unknownValue
      else .unknownProperty)

/-- Properties whose values can be asked for. -/
def valued : List (List String × List PropertyValue) := [
  (["gc", "generalcategory"], categories),
  (["sc", "script"], Script.values),
  (["scx", "scriptextensions"], ScriptExtension.values),
  (["age"], Age.values),
  (["gcb", "graphemeclusterbreak"], GraphemeBreak.values),
  (["wb", "wordbreak"], WordBreak.values),
  (["sb", "sentencebreak"], SentenceBreak.values)]

/-- Properties of the standard that are neither binary nor kept here with their
values, in the form in which names are compared. -/
def others : List String := (words "
  cjkaccountingnumeric kaccountingnumeric cjkothernumeric kothernumeric cjkprimarynumeric
  kprimarynumeric nv numericvalue bmg bidimirroringglyph bpb bidipairedbracket cf casefolding
  cjkcompatibilityvariant kcompatibilityvariant dm decompositionmapping equideo
  equivalentunifiedideograph fcnfkc fcnfkcclosure lc lowercasemapping nfkccf nfkccasefold nfkcscf
  nfkcsimplecasefold scf simplecasefolding sfc slc simplelowercasemapping stc
  simpletitlecasemapping suc simpleuppercasemapping tc titlecasemapping uc uppercasemapping
  cjkiicore kiicore cjkirggsource kirggsource cjkirghsource kirghsource cjkirgjsource kirgjsource
  cjkirgkpsource kirgkpsource cjkirgksource kirgksource cjkirgmsource kirgmsource cjkirgssource
  kirgssource cjkirgtsource kirgtsource cjkirguksource kirguksource cjkirgusource kirgusource
  cjkirgvsource kirgvsource cjkrsunicode krsunicode unicoderadicalstroke urs isc ocomment jsn
  jamoshortname na name na1 unicode1name namealias blk block bc bidiclass bpt
  bidipairedbrackettype ccc canonicalcombiningclass dt decompositiontype ea eastasianwidth hst
  hangulsyllabletype incb indicconjunctbreak inpc indicpositionalcategory insc
  indicsyllabiccategory jg joininggroup jt joiningtype lb linebreak nfcqc nfcquickcheck nfdqc
  nfdquickcheck nfkcqc nfkcquickcheck nfkdqc nfkdquickcheck nt numerictype vo verticalorientation
  ce compositionexclusion compex fullcompositionexclusion cwkcf changeswhennfkccasefolded xonfc
  expandsonnfc xonfd expandsonnfd xonfkc expandsonnfkc xonfkd expandsonnfkd kehcat kehdesc kehhg
  kehifao kehjsesh kehnomirror kehnorotate".toList).map String.ofList

/-- The set of characters whose property has the value. -/
def valueOf (property value : String) : Except Failure CharSet :=
  let property := normalize property
  match valued.find? (·.1.contains property) with
  | some (_, values) =>
    match PropertyValue.find? values (normalize value) with
    | some value => .ok value.set
    | none => .error .unknownValue
  | none =>
    .error (if (PropertyValue.find? Property.values property).isSome ∨ others.contains property
      then .unknownValue else .unknownProperty)

end Query
end MailRules.Unicode
