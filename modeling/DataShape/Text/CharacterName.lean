import DataShape.Number.WholeText
import DataShape.Text.CharacterName.Aliases
import DataShape.Text.CharacterName.Alphabets
import DataShape.Text.CharacterName.Ancient
import DataShape.Text.CharacterName.Pictures
import DataShape.Text.CharacterName.Signs
import DataShape.Text.CharacterName.Syllables
import DataShape.Text.CharacterName.Symbols

/-! Characters by name. Most names are listed; those of unified ideographs hold their code, those of
Hangul syllables the letters that they are made of, and those of some large sets their code too. Unicode
14. -/

namespace DataShape
namespace CharacterName

def runs : List Run := alphabets ++ symbols ++ syllables ++ ancient ++ signs ++ pictures

/-- The first and last codes of the unified ideographs. -/
def ideographs : List (Nat × Nat) :=
  [(0x3400, 0x4dbf), (0x4e00, 0x9fff), (0x20000, 0x2a6df), (0x2a700, 0x2b738), (0x2b740, 0x2b81d),
    (0x2b820, 0x2cea1), (0x2ceb0, 0x2ebe0), (0x30000, 0x3134a)]

/-- The starts of names that end in a code, with the first and last codes they are used for. -/
def numbered : List (String × Nat × Nat) :=
  [("CJK COMPATIBILITY IDEOGRAPH-", 0xf900, 0xfa6d), ("CJK COMPATIBILITY IDEOGRAPH-", 0xfa70, 0xfad9),
    ("CJK COMPATIBILITY IDEOGRAPH-", 0x2f800, 0x2fa1d),
    ("KHITAN SMALL SCRIPT CHARACTER-", 0x18b00, 0x18cd5), ("NUSHU CHARACTER-", 0x1b170, 0x1b2fb)]

def leadingLetters : List String :=
  ["G", "GG", "N", "D", "DD", "R", "M", "B", "BB", "S", "SS", "", "J", "JJ", "C", "K", "T", "P", "H"]

def vowels : List String :=
  ["A", "AE", "YA", "YAE", "EO", "E", "YEO", "YE", "O", "WA", "WAE", "OE", "YO", "U", "WEO", "WE",
    "WI", "YU", "EU", "YI", "I"]

def trailingLetters : List String :=
  ["", "G", "GG", "GS", "N", "NJ", "NH", "D", "L", "LG", "LM", "LB", "LS", "LT", "LP", "LH", "M", "B",
    "BS", "S", "SS", "NG", "J", "C", "K", "T", "P", "H"]

def after? (start : String) (cs : List Char) : Option (List Char) :=
  if start.toList.isPrefixOf cs then some (cs.drop start.length) else none

/-- The letters that a text can start with, by their places, and the text behind each. -/
def openings (letters : List String) (cs : List Char) : List (Nat × List Char) :=
  letters.zipIdx.filterMap fun (letter, index) => (after? letter cs).map fun rest => (index, rest)

def hangul? (letters : List Char) : Option Nat :=
  (openings leadingLetters letters).findSome? fun (leading, rest) =>
    (openings vowels rest).findSome? fun (vowel, rest) =>
      (openings trailingLetters rest).findSome? fun (trailing, rest) =>
        if rest.isEmpty then
          some (0xac00 + (leading * vowels.length + vowel) * trailingLetters.length + trailing)
        else none

def isCapitalHex (c : Char) : Bool := c.isDigit || ('A' ≤ c && c ≤ 'F')

/-- The code of the unified ideograph whose name ends in these four or five digits. -/
def ideograph? (digits : List Char) : Option Nat :=
  if (digits.length = 4 || digits.length = 5) && digits.all isCapitalHex then
    let code := readHex digits
    if ideographs.any fun (first, last) => first ≤ code && code ≤ last then some code else none
  else none

/-- The code of a character whose name ends in it. -/
def numberedCode? (name : List Char) : Option Nat :=
  numbered.findSome? fun (start, first, last) => do
    let digits ← after? start name
    let code := readHex digits
    if first ≤ code ∧ code ≤ last ∧ digits = (Nat.toDigits 16 code).map Char.toUpper then some code
    else none

def listed? (name : List Char) : Option Nat :=
  match numberedCode? name with
  | some code => some code
  | none =>
    match aliases.find? fun entry => entry.2.toList = name with
    | some (code, _) => some code
    | none => runs.findSome? (·.code? name)

end CharacterName

/-- The code of the character with a name. Letters of either case are taken in names that are listed. -/
def characterNamed? (name : List Char) : Option Nat :=
  match CharacterName.after? "HANGUL SYLLABLE " name with
  | some letters => CharacterName.hangul? letters
  | none =>
    match CharacterName.after? "CJK UNIFIED IDEOGRAPH-" name with
    | some digits => CharacterName.ideograph? digits
    | none => CharacterName.listed? (name.map Char.toUpper)

end DataShape
