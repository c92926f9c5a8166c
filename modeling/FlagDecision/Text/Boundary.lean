import FlagDecision.Text.Property

/-!
The classes by which Unicode 16 divides a text into clusters, words and sentences.
-/

namespace FlagDecision.Text

open Category Property

namespace ClusterBreak

/-- Controls and other characters that end every cluster. -/
def control : CharSet := .ofTable
    "0-9 B-C E-1F 7F-9F AD 61C 180E 200B 200E-200F 2028-202E 2060-206F FEFF FFF0-FFFB 13430-1343F
    1BCA0-1BCA3 1D173-1D17A E0000-E001F E0080-E00FF E01F0-E0FFF"

/-- Characters that stay with the cluster before them. -/
def extending : CharSet := graphemeExtend.union emojiModifier

/-- Marks of a width of their own that stay with the cluster before them. -/
def spacing : CharSet :=
  ((spacingMark.diff extending).diff (.ofTable
    "102B-102C 1038 1062-1064 1067-106D 1083 1087-108C 108F 109A-109C 1A61 1A63-1A64 AA7B AA7D
    11720-11721")).union (.ofTable "E33 EB3")

/-- Characters that stay with the cluster after them. -/
def prepended : CharSet := .ofTable
    "600-605 6DD 70F 890-891 8E2 D4E 110BD 110CD 111C2-111C3 113D1 1193F 11941 11A3A 11A84-11A89
    11D46 11F02"

/-- Consonants at the start of a Hangul syllable. -/
def leadingJamo : CharSet := .ofTable "1100-115F A960-A97C"

/-- Vowels of a Hangul syllable. -/
def vowelJamo : CharSet := .ofTable "1160-11A7 D7B0-D7C6 16D63 16D67-16D6A"

/-- Consonants at the end of a Hangul syllable. -/
def trailingJamo : CharSet := .ofTable "11A8-11FF D7CB-D7FB"

/-- Hangul syllables without a final consonant. -/
def openSyllable : CharSet := .ofTable "AC00-D788/1C"

/-- Hangul syllables with a final consonant. -/
def closedSyllable : CharSet := (CharSet.ofTable "AC00-D7A3").diff openSyllable

end ClusterBreak

namespace WordBreak

def hebrewLetter : CharSet := .ofTable
    "5D0-5EA 5EF-5F2 FB1D FB1F-FB28 FB2A-FB36 FB38-FB3C FB3E FB40-FB41 FB43-FB44 FB46-FB4F"

/-- Katakana and the marks that go with them. -/
def katakana : CharSet := .ofTable
    "3031-3035 309B-309C 30A0-30FA 30FC-30FF 31F0-31FF 32D0-32FE 3300-3357 FF66-FF9D 1AFF0-1AFF3
    1AFF5-1AFFB 1AFFD-1AFFE 1B000 1B120-1B122 1B155 1B164-1B167"

/-- Characters that stay with the word before them. -/
def extending : CharSet :=
  (CharSet.unions [graphemeExtend, spacingMark, emojiModifier]).diff (.ofTable "200D")

/-- Letters of the scripts that set words apart by blanks. -/
def letter : CharSet :=
  ((alphabetic.diff (.unions [ideographic, katakana, hebrewLetter, extending])).diff (.ofTable
    "E01-E30 E32-E33 E40-E46 E81-E82 E84 E86-E8A E8C-EA3 EA5 EA7-EB0 EB2-EB3 EBD EC0-EC4 EC6
    EDC-EDF 1000-102A 103F 1050-1055 105A-105D 1061 1065-1066 106E-1070 1075-1081 108E 1780-17B3
    17D7 17DC 1950-196D 1970-1974 1980-19AB 19B0-19C9 1A20-1A54 1AA7 3041-3096 309D-309F
    A9E0-A9E4 A9E6-A9EF A9FA-A9FE AA60-AA76 AA7A AA7E-AAAF AAB1 AAB5-AAB6 AAB9-AABD AAC0 AAC2
    AADB-AADD 11700-1171A 11740-11746 1B001-1B11F 1B132 1B150-1B152")).union (.ofTable
    "2C2-2C5 2D2-2D7 2DE-2DF 2E5-2EB 2ED 2EF-2FF 55A-55C 55E 58A 5F3 70F A708-A716 A720-A721
    A789-A78A AB5B")

/-- Formatting characters inside words. -/
def formatting : CharSet := format.diff (.ofTable
    "600-605 6DD 70F 890-891 8E2 200B-200D 110BD 110CD E0020-E007F")

def midLetter : CharSet := .ofTable "3A B7 387 55F 5F4 2027 FE13 FE55 FF1A"

def midNumber : CharSet := .ofTable "2C 3B 37E 589 60C-60D 66C 7F8 2044 FE50 FE54 FF0C FF1B"

def midEither : CharSet := .ofTable "2E 2018-2019 2024 FE52 FF07 FF0E"

def numeric : CharSet := decimalNumber.union (.ofTable
    "600-605 66B 6DD 890-891 8E2 19DA 110BD 110CD")

/-- Characters that connect words and numbers. -/
def connecting : CharSet := connectorPunctuation.union (.ofTable "202F")

/-- Line ends other than line feed and carriage return. -/
def lineEnd : CharSet := .ofTable "B-C 85 2028-2029"

/-- Spaces that stay together. -/
def space : CharSet := .ofTable "20 1680 2000-2006 2008-200A 205F 3000"

end WordBreak

namespace SentenceBreak

/-- Full stops, which may also end an abbreviation. -/
def mayEnd : CharSet := .ofTable "2E 2024 FE52 FF0E"

/-- Brackets and quotation marks. -/
def closing : CharSet := .unions [openPunctuation, closePunctuation, initialPunctuation,
  finalPunctuation, .ofTable "22 27 275B-2760 2E00-2E01 2E06-2E08 2E0B 1F676-1F678"]

/-- Characters that stay with the character before them. -/
def extending : CharSet := .unions [graphemeExtend, spacingMark, .ofTable "200D"]

/-- Formatting characters inside sentences. -/
def formatting : CharSet := format.diff (.ofTable
    "600-605 6DD 890-891 8E2 200C-200D 110BD 110CD E0020-E007F")

/-- Small letters. -/
def lower : CharSet := (lowercase.diff extending).diff (.ofTable "10D0-10FA 10FD-10FF")

/-- Capital letters. -/
def upper : CharSet := (uppercase.union titlecaseLetter).diff (.ofTable "1C90-1CBA 1CBD-1CBF")

/-- Letters that are neither small nor capital. -/
def otherLetter : CharSet :=
  (alphabetic.diff (.unions [lower, upper, extending])).union (.ofTable "5F3")

def numeric : CharSet := decimalNumber.union (.ofTable
    "600-605 66B-66C 6DD 890-891 8E2 19DA 110BD 110CD")

/-- Punctuation after which a sentence goes on. -/
def continuing : CharSet := .ofTable
    "2C-2D 3A-3B 37E 55D 60C-60D 7F8 1802 1808 2013-2014 3001 FE10-FE11 FE13-FE14 FE31-FE32
    FE50-FE51 FE54-FE55 FE58 FE63 FF0C-FF0D FF1A-FF1B FF64"

/-- Punctuation that ends a sentence. -/
def ending : CharSet := sentenceTerminal.diff mayEnd

/-- Ends of lines and paragraphs other than line feed and carriage return. -/
def separating : CharSet := .ofTable "85 2028-2029"

/-- Blanks inside a line. -/
def space : CharSet := .ofTable "9 B-C 20 A0 1680 2000-200A 202F 205F 3000"

end SentenceBreak

end FlagDecision.Text
