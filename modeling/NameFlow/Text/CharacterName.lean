import NameFlow.Text.CharacterName.AToB
import NameFlow.Text.CharacterName.CToD
import NameFlow.Text.CharacterName.EToK
import NameFlow.Text.CharacterName.LToN
import NameFlow.Text.CharacterName.OToS
import NameFlow.Text.CharacterName.TToZ
import NameFlow.Text.Hexadecimal
import NameFlow.Text.WordTree

/-!
# Names of characters

A character's name is listed, or it is composed: that of a Hangul syllable from the names of its
letters, that of a unified ideograph from its code point. Case makes no difference.
-/

namespace NameFlow.Text

namespace CharacterName

set_option autoImplicit false

/-- The listed names with a given initial. -/
def listing : Char → List String
  | 'A' => namesA
  | 'B' => namesB
  | 'C' => namesC
  | 'D' => namesD
  | 'E' => namesE
  | 'F' => namesF
  | 'G' => namesG
  | 'H' => namesH
  | 'I' => namesI
  | 'J' => namesJ
  | 'K' => namesK
  | 'L' => namesL
  | 'M' => namesM
  | 'N' => namesN
  | 'O' => namesO
  | 'P' => namesP
  | 'Q' => namesQ
  | 'R' => namesR
  | 'S' => namesS
  | 'T' => namesT
  | 'U' => namesU
  | 'V' => namesV
  | 'W' => namesW
  | 'X' => namesX
  | 'Y' => namesY
  | 'Z' => namesZ
  | _ => []

def isListed (name : List Char) : Bool :=
  match name with
  | [] => false
  | initial :: _ => WordTree.contains (listing initial) name

/-- What follows a stem. -/
def afterStem? (stem : String) (name : List Char) : Option (List Char) :=
  if stem.toList.isPrefixOf name then some (name.drop stem.length) else none

/-- The letters that open a Hangul syllable; one of them is silent. -/
def leadingConsonants : List String :=
  ["G", "GG", "N", "D", "DD", "R", "M", "B", "BB", "S", "SS", "", "J", "JJ", "C", "K", "T", "P", "H"]

def vowels : List String :=
  ["A", "AE", "YA", "YAE", "EO", "E", "YEO", "YE", "O", "WA", "WAE", "OE", "YO", "U", "WEO", "WE",
    "WI", "YU", "EU", "YI", "I"]

/-- The letters that close a Hangul syllable, and the one for a syllable that is open. -/
def trailingConsonants : List String :=
  ["", "G", "GG", "GS", "N", "NJ", "NH", "D", "L", "LG", "LM", "LB", "LS", "LT", "LP", "LH", "M", "B",
    "BS", "S", "SS", "NG", "J", "C", "K", "T", "P", "H"]

def isSyllable (letters : List Char) : Bool :=
  leadingConsonants.any fun l => (afterStem? l letters).any fun rest =>
    vowels.any fun v => (afterStem? v rest).any fun rest =>
      trailingConsonants.any fun t => t.toList = rest

/-- The unified ideographs, as inclusive ranges of code points. -/
def ideographRanges : List (Nat × Nat) :=
  [(0x3400, 0x4DBF), (0x4E00, 0x9FFF), (0x20000, 0x2A6DF), (0x2A700, 0x2B738), (0x2B740, 0x2B81D),
    (0x2B820, 0x2CEA1), (0x2CEB0, 0x2EBE0), (0x30000, 0x3134A)]

def isIdeographCode (digits : List Char) : Bool :=
  (digits.length = 4 || digits.length = 5) && digits.all isHexDigit &&
    ideographRanges.any fun (low, high) => low ≤ hexValue digits && hexValue digits ≤ high

def isComposed (name : List Char) : Bool :=
  (afterStem? "HANGUL SYLLABLE " name).any isSyllable ||
    (afterStem? "CJK UNIFIED IDEOGRAPH-" name).any isIdeographCode

end CharacterName

/-- Whether a text names a character. -/
def isCharacterName (name : List Char) : Bool :=
  let name := name.map Char.toUpper
  CharacterName.isListed name || CharacterName.isComposed name

end NameFlow.Text
