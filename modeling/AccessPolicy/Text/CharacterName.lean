import AccessPolicy.Text.Name.Accent
import AccessPolicy.Text.Name.Africa
import AccessPolicy.Text.Name.Alias
import AccessPolicy.Text.Name.Ancient
import AccessPolicy.Text.Name.Arrow
import AccessPolicy.Text.Name.Brahmi
import AccessPolicy.Text.Name.Europe
import AccessPolicy.Text.Name.Form
import AccessPolicy.Text.Name.Hieroglyph
import AccessPolicy.Text.Name.India
import AccessPolicy.Text.Name.Island
import AccessPolicy.Text.Name.Kana
import AccessPolicy.Text.Name.Latin
import AccessPolicy.Text.Name.Mathematics
import AccessPolicy.Text.Name.NearEast
import AccessPolicy.Text.Name.Notation
import AccessPolicy.Text.Name.Picture
import AccessPolicy.Text.Name.Shape
import AccessPolicy.Text.Name.Sign
import AccessPolicy.Text.Name.SouthEast
import AccessPolicy.Text.Name.Syllable
import AccessPolicy.Text.Numeral
import AccessPolicy.Text.Ranges

namespace AccessPolicy.Text

/-- All tabulated names. -/
def nameTables : List (List NamedRun) := [
  latinNames, europeNames, nearEastNames, indiaNames, southEastNames, syllableNames, islandNames, accentNames,
  signNames, shapeNames, arrowNames, kanaNames, africaNames, formNames, ancientNames, brahmiNames, hieroglyphNames,
  notationNames, mathematicsNames, pictureNames, aliasNames]

/-- The code points that are called by their number behind some words. -/
def numberedNames : List (String × Ranges) := [
  ("CJK COMPATIBILITY IDEOGRAPH-", #[(0xf900, 0xfa6d), (0xfa70, 0xfad9), (0x2f800, 0x2fa1d)]),
  ("KHITAN SMALL SCRIPT CHARACTER-", #[(0x18b00, 0x18cd5)]),
  ("NUSHU CHARACTER-", #[(0x1b170, 0x1b2fb)])]

/-- The code point that digits of base sixteen in capitals denote: four of them, or five. -/
def capitalCode? (digits : List Char) : Option Nat :=
  if (digits.length == 4 || digits.length == 5) && digits.all (fun c => c.isDigit || ('A' ≤ c && c ≤ 'F')) then
    some (ofBaseDigits 16 (digits.filterMap baseDigit?))
  else none

/-- The code point that is called by its number, which begins with no nought. -/
def numbered? (name : List Char) : Option Nat :=
  numberedNames.findSome? fun (lead, ranges) =>
    if lead.toList.isPrefixOf name && name[lead.length]? != some '0' then
      (capitalCode? (name.drop lead.length)).filter fun n => ranges.has (Char.ofNat n)
    else none

/-- The code points of unified ideographs. -/
def ideographRanges : Ranges := #[
  (0x3400, 0x4dbf), (0x4e00, 0x9fff), (0x20000, 0x2a6df), (0x2a700, 0x2b738), (0x2b740, 0x2b81d),
  (0x2b820, 0x2cea1), (0x2ceb0, 0x2ebe0), (0x30000, 0x3134a)]

/-- The code point of a unified ideograph. -/
def ideograph? (name : List Char) : Option Nat :=
  if "CJK UNIFIED IDEOGRAPH-".toList.isPrefixOf name then
    (capitalCode? (name.drop 22)).filter fun n => ideographRanges.has (Char.ofNat n)
  else none

/-- The sounds that begin a syllable. -/
def leadingSounds : List String :=
  ["G", "GG", "N", "D", "DD", "R", "M", "B", "BB", "S", "SS", "", "J", "JJ", "C", "K", "T", "P", "H"]

/-- The sounds in the middle of a syllable. -/
def middleSounds : List String :=
  ["A", "AE", "YA", "YAE", "EO", "E", "YEO", "YE", "O", "WA", "WAE", "OE", "YO", "U", "WEO", "WE", "WI", "YU", "EU",
    "YI", "I"]

/-- The sounds that end a syllable, none at first. -/
def trailingSounds : List String :=
  ["", "G", "GG", "GS", "N", "NJ", "NH", "D", "L", "LG", "LM", "LB", "LS", "LT", "LP", "LH", "M", "B", "BS", "S", "SS",
    "NG", "J", "C", "K", "T", "P", "H"]

/-- The longest of several sounds that begin a name: its place and its length. -/
def longestSound? (sounds : List String) (name : List Char) : Option (Nat × Nat) :=
  sounds.zipIdx.foldl (fun best (sound, i) =>
    if sound.toList.isPrefixOf name && (best.map (·.2) |>.all (· < sound.length)) then some (i, sound.length)
    else best) none

/-- The code point of a Hangul syllable: three sounds, each as long as can be, out of nineteen, twenty-one and
twenty-eight. -/
def syllable? (name : List Char) : Option Nat := do
  if !"HANGUL SYLLABLE ".toList.isPrefixOf name then none
  else
    let name := name.drop 16
    let (leading, used) ← longestSound? leadingSounds name
    let name := name.drop used
    let (middle, used) ← longestSound? middleSounds name
    let name := name.drop used
    let (trailing, used) ← longestSound? trailingSounds name
    if (name.drop used).isEmpty then some (0xac00 + (leading * 21 + middle) * 28 + trailing) else none

/-- The code point of a character that is called by name. Letters do not tell cases apart in tabulated names; the names of
ideographs and of Hangul syllables follow from their codes and are written in capitals. -/
def named? (name : List Char) : Option Nat :=
  let capitals := name.map Char.toUpper
  (syllable? name).or <|
  (ideograph? name).or <|
  (numbered? capitals).or <|
  nameTables.findSome? fun table => table.findSome? (·.code? capitals)

end AccessPolicy.Text
