import MailRules.Unicode.Property

/-!
# Break properties

The classes by which text is cut into what a reader takes for one character, into
words and into sentences. Most follow from general categories and binary
properties with short lists of exceptions. A character in none of the classes has no
class that could be asked for.
-/

namespace MailRules.Unicode

open Category Property

def cr : CharSet := (· = '\r')
def lf : CharSet := (· = '\n')
def zeroWidthJoiner : CharSet := (· = '\u200D')

def extendOrSpacing : CharSet := fun c => graphemeExtend c || spacingMark.contains c

namespace GraphemeBreak

def prepend : Ranges := .ofText "
  600-605 6DD 70F 890-891 8E2 D4E 110BD 110CD 111C2-111C3 113D1 1193F 11941 11A3A 11A84-11A89
  11D46 11F02"

/-- Spacing marks that start a cluster of their own. -/
def notSpacing : Ranges := .ofText "
  102B-102C 1038 1062-1064 1067-106D 1083 1087-108C 108F 109A-109C 1A61 1A63-1A64 AA7B AA7D
  11720-11721"

def spacingVowel : Ranges := .ofText "E33 EB3"
def leading : Ranges := .ofText "1100-115F A960-A97C"
def vowel : Ranges := .ofText "1160-11A7 D7B0-D7C6 16D63 16D67-16D6A"
def trailing : Ranges := .ofText "11A8-11FF D7CB-D7FB"

def isSyllable (c : Char) : Bool := 0xAC00 ≤ c.toNat && c.toNat ≤ 0xD7A3

/-- A composed syllable without a final consonant is every twenty-eighth one. -/
def isOpenSyllable (c : Char) : Bool := isSyllable c && (c.toNat - 0xAC00) % 28 == 0

def extend : CharSet := fun c => graphemeExtend c || emojiModifier.contains c

def controls : CharSet := fun c =>
  ((lineSeparator.contains c || paragraphSeparator.contains c || control.contains c ||
      format.contains c || (unassigned c && defaultIgnorableCodePoint.contains c)) &&
    !(cr c || lf c || extend c || zeroWidthJoiner c || prependedConcatenationMark.contains c))

def spacing : CharSet := fun c =>
  (spacingMark.contains c && !graphemeExtend c && !notSpacing.contains c) ||
    spacingVowel.contains c

def values : List PropertyValue := [
  ⟨["cn", "control"], controls⟩,
  ⟨["cr"], cr⟩,
  ⟨["ex", "extend"], extend⟩,
  ⟨["l"], leading.contains⟩,
  ⟨["lf"], lf⟩,
  ⟨["lv"], isOpenSyllable⟩,
  ⟨["lvt"], fun c => isSyllable c && !isOpenSyllable c⟩,
  ⟨["pp", "prepend"], prepend.contains⟩,
  ⟨["ri", "regionalindicator"], regionalIndicator.contains⟩,
  ⟨["sm", "spacingmark"], spacing⟩,
  ⟨["t"], trailing.contains⟩,
  ⟨["v"], vowel.contains⟩,
  ⟨["zwj"], zeroWidthJoiner⟩]

end GraphemeBreak

namespace WordBreak

def katakana : Ranges := .ofText "
  3031-3035 309B-309C 30A0-30FA 30FC-30FF 31F0-31FF 32D0-32FE 3300-3357 FF66-FF9D 1AFF0-1AFF3
  1AFF5-1AFFB 1AFFD-1AFFE 1B000 1B120-1B122 1B155 1B164-1B167"
def hebrewLetter : Ranges := .ofText "
  5D0-5EA 5EF-5F2 FB1D FB1F-FB28 FB2A-FB36 FB38-FB3C FB3E FB40-FB41 FB43-FB44 FB46-FB4F"
def midLetter : Ranges := .ofText "3A B7 387 55F 5F4 2027 FE13 FE55 FF1A"
def midNum : Ranges := .ofText "2C 3B 37E 589 60C-60D 66C 7F8 2044 FE50 FE54 FF0C FF1B"
def midNumLet : Ranges := .ofText "2E 2018-2019 2024 FE52 FF07 FF0E"
def newline : Ranges := .ofText "B-C 85 2028-2029"
def segmentSpace : Ranges := .ofText "20 1680 2000-2006 2008-200A 205F 3000"

/-- Signs that count as letters though they are not alphabetic. -/
def letterLike : Ranges := .ofText "
  2C2-2C5 2D2-2D7 2DE-2DF 2E5-2EB 2ED 2EF-2FF 55A-55C 55E 58A 5F3 70F A708-A716 A720-A721
  A789-A78A AB5B"

/-- Letters of writing systems that do not separate words. -/
def unseparated : Ranges := .ofText "
  E01-E30 E32-E33 E40-E46 E81-E82 E84 E86-E8A E8C-EA3 EA5 EA7-EB0 EB2-EB3 EBD EC0-EC4 EC6
  EDC-EDF 1000-102A 103F 1050-1055 105A-105D 1061 1065-1066 106E-1070 1075-1081 108E 1780-17B3
  17D7 17DC 1950-196D 1970-1974 1980-19AB 19B0-19C9 1A20-1A54 1AA7 3041-3096 309D-309F A9E0-A9E4
  A9E6-A9EF A9FA-A9FE AA60-AA76 AA7A AA7E-AAAF AAB1 AAB5-AAB6 AAB9-AABD AAC0 AAC2 AADB-AADD
  11700-1171A 11740-11746 1B001-1B11F 1B132 1B150-1B152"

def isTag (c : Char) : Bool := 0xE0020 ≤ c.toNat && c.toNat ≤ 0xE007F

def extend : CharSet := fun c =>
  (extendOrSpacing c || emojiModifier.contains c) && !zeroWidthJoiner c

def formats : CharSet := fun c =>
  format.contains c && !(c = '\u200B' || c = '\u200C' || zeroWidthJoiner c || isTag c ||
    prependedConcatenationMark.contains c)

/-- Signs that take part in numerals though they are not decimal digits. -/
def numeralSign : Ranges := .ofText "600-605 66B 6DD 890-891 8E2 19DA 110BD 110CD"

def numeric : CharSet := fun c => decimalNumber.contains c || numeralSign.contains c

def letters : CharSet := fun c =>
  (alphabetic.contains c || letterLike.contains c) &&
    !(ideographic.contains c || katakana.contains c || hebrewLetter.contains c || extend c ||
      unseparated.contains c)

def values : List PropertyValue := [
  ⟨["cr"], cr⟩,
  ⟨["dq", "doublequote"], (· = '"')⟩,
  ⟨["ex", "extendnumlet"], fun c => connectorPunctuation.contains c || c = '\u202F'⟩,
  ⟨["extend"], extend⟩,
  ⟨["fo", "format"], formats⟩,
  ⟨["hl", "hebrewletter"], hebrewLetter.contains⟩,
  ⟨["ka", "katakana"], katakana.contains⟩,
  ⟨["le", "aletter"], letters⟩,
  ⟨["lf"], lf⟩,
  ⟨["mb", "midnumlet"], midNumLet.contains⟩,
  ⟨["ml", "midletter"], midLetter.contains⟩,
  ⟨["mn", "midnum"], midNum.contains⟩,
  ⟨["nl", "newline"], newline.contains⟩,
  ⟨["nu", "numeric"], numeric⟩,
  ⟨["ri", "regionalindicator"], regionalIndicator.contains⟩,
  ⟨["sq", "singlequote"], (· = '\'')⟩,
  ⟨["wsegspace"], segmentSpace.contains⟩,
  ⟨["zwj"], zeroWidthJoiner⟩]

end WordBreak

namespace SentenceBreak

def ambiguousTerminator : Ranges := .ofText "2E 2024 FE52 FF0E"
def continuation : Ranges := .ofText "
  2C-2D 3A-3B 37E 55D 60C-60D 7F8 1802 1808 2013-2014 3001 FE10-FE11 FE13-FE14 FE31-FE32
  FE50-FE51 FE54-FE55 FE58 FE63 FF0C-FF0D FF1A-FF1B FF64"
def paragraphEnd : Ranges := .ofText "85 2028-2029"
def space : Ranges := .ofText "9 B-C 20 A0 1680 2000-200A 202F 205F 3000"

/-- Ornamental quotation marks and brackets. -/
def ornament : Ranges := .ofText "275B-2760 2E00-2E01 2E06-2E08 2E0B 1F676-1F678"

/-- The letters of the script that has no case in running text; its modifier letter
counts as small like those of other scripts. -/
def isGeorgian (c : Char) : Bool := 0x10D0 ≤ c.toNat && c.toNat ≤ 0x10FF && c ≠ '\u10FC'

def isGeorgianCapital (c : Char) : Bool := 0x1C90 ≤ c.toNat && c.toNat ≤ 0x1CBF

def lower : CharSet := fun c => lowercase c && !graphemeExtend c && !isGeorgian c

def upper : CharSet := fun c =>
  (uppercase c || titlecaseLetter.contains c) && !isGeorgianCapital c

def letters : CharSet := fun c =>
  (alphabetic.contains c || c = '\u05F3') && !(lower c || upper c || extendOrSpacing c)

def formats : CharSet := fun c =>
  format.contains c && !(c = '\u200C' || zeroWidthJoiner c || WordBreak.isTag c ||
    WordBreak.numeric c)

def close : CharSet := fun c =>
  (openPunctuation.contains c || closePunctuation.contains c || initialPunctuation.contains c ||
      finalPunctuation.contains c || quotationMark.contains c || ornament.contains c) &&
    !(c = '\uFF02' || c = '\uFF07')

def values : List PropertyValue := [
  ⟨["at", "aterm"], ambiguousTerminator.contains⟩,
  ⟨["cl", "close"], close⟩,
  ⟨["cr"], cr⟩,
  ⟨["ex", "extend"], fun c => extendOrSpacing c || zeroWidthJoiner c⟩,
  ⟨["fo", "format"], formats⟩,
  ⟨["le", "oletter"], letters⟩,
  ⟨["lf"], lf⟩,
  ⟨["lo", "lower"], lower⟩,
  ⟨["nu", "numeric"], fun c => WordBreak.numeric c || c = '\u066C'⟩,
  ⟨["sc", "scontinue"], continuation.contains⟩,
  ⟨["se", "sep"], paragraphEnd.contains⟩,
  ⟨["sp", "sp"], space.contains⟩,
  ⟨["st", "sterm"], fun c => sentenceTerminal.contains c && !ambiguousTerminator.contains c⟩,
  ⟨["up", "upper"], upper⟩]

end SentenceBreak

end MailRules.Unicode
