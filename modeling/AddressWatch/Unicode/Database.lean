/-
  AddressWatch.Unicode.Database

  Looking up sets of characters by the names of categories, scripts and properties, and the sets
  that the program asks for itself: word characters, digits, blanks, and what can be shown in a
  quoted text.
-/

import AddressWatch.Unicode.Category
import AddressWatch.Unicode.Script
import AddressWatch.Unicode.Property
import AddressWatch.Unicode.CaseFolding

namespace AddressWatch.Unicode

/-- A name as it is looked up: in lower case, without blanks, hyphens, underscores and a leading
`is`. -/
def looseName (name : List Char) : String :=
  let kept :=
    (name.filter fun c => c ≠ ' ' && c ≠ '_' && c ≠ '-' && c.toNat < 128).map Char.toLower
  match kept with
  | 'i' :: 's' :: 'c' :: [] => "isc"
  | 'i' :: 's' :: rest => String.ofList rest
  | _ => String.ofList kept

/-- The tables of single categories. -/
def categories : List NamedRanges := letterCategories ++ otherCategories

/-- The union of the categories with the given short names. -/
def unionOf (names : List String) : CodeSet :=
  CodeSet.normalize (names.flatMap fun name => (NamedRanges.find? categories name).getD [])

/-- The categories that are unions of others, by their names. -/
def categoryGroups : List (List String × List String) := [
  (["l", "letter"], ["lu", "ll", "lt", "lm", "lo"]),
  (["lc", "casedletter"], ["lu", "ll", "lt"]),
  (["m", "mark", "combiningmark"], ["mn", "mc", "me"]),
  (["n", "number"], ["nd", "nl", "no"]),
  (["p", "punctuation", "punct"], ["pc", "pd", "ps", "pe", "pi", "pf", "po"]),
  (["s", "symbol"], ["sm", "sc", "sk", "so"]),
  (["z", "separator"], ["zs", "zl", "zp"])]

/-- The characters of every assigned category. -/
def assigned : CodeSet :=
  CodeSet.normalize (⟨0xD800, 0xDFFF⟩ :: categories.flatMap fun entry => CodeSet.ofText entry.text)

/-- The set of a general category. -/
def category? (name : String) : Option CodeSet :=
  match NamedRanges.find? categories name with
  | some s => some s
  | none =>
    match categoryGroups.find? fun g => g.1.contains name with
    | some g => some (unionOf g.2)
    | none =>
      match name with
      | "any" => some [⟨0, maxCode⟩]
      | "ascii" => some [⟨0, 127⟩]
      | "assigned" => some assigned
      | "cn" | "unassigned" => some (CodeSet.complement assigned)
      | "c" | "other" =>
        some (CodeSet.union (CodeSet.complement assigned)
          (⟨0xD800, 0xDFFF⟩ :: unionOf ["cc", "cf", "co"]))
      | _ => none

/-- The set of a script. -/
def script? (name : String) : Option CodeSet :=
  NamedRanges.find? (scriptsFirst ++ scriptsMiddle ++ scriptsLast) name

/-- The set of a property. -/
def property? (name : String) : Option CodeSet := NamedRanges.find? properties name

/-- The set of a property that is known to be in the table. -/
def propertySet (name : String) : CodeSet := (property? name).getD []

/-- Decimal digits. -/
def digits : CodeSet := unionOf ["nd"]

/-- White space. -/
def blanks : CodeSet := propertySet "whitespace"

/-- Alphabetic characters. -/
def alphabetic : CodeSet := propertySet "alphabetic"

/-- Characters of words: alphabetic ones, marks, digits, connectors and joiners. -/
def wordCharacters : CodeSet :=
  CodeSet.normalize
    (alphabetic ++ unionOf ["mn", "mc", "me", "nd", "pc"] ++ propertySet "joincontrol")

/-- Characters that a quoted text shows only by their number: controls, format characters,
unassigned and private ones, separators other than the blank, and marks that extend the character
before them. -/
def unprintable : CodeSet :=
  CodeSet.diff
    (CodeSet.normalize
      (CodeSet.complement assigned ++ unionOf ["cc", "cf", "co", "zs", "zl", "zp"]
        ++ propertySet "graphemeextend"))
    (CodeSet.single 0x20)

/-- The classes of characters that differ only in case. -/
def caseClasses : List (List Nat) :=
  (words foldClasses.toList).map fun word =>
    (word.splitOnP (· == '=')).filterMap (Text.readNumeral 16)

/-- The set with all characters that differ only in case from one of it. -/
def foldCase (s : CodeSet) : CodeSet :=
  let more := caseClasses.filter fun cls => cls.any s.has
  if more.isEmpty then s
  else CodeSet.normalize (s ++ more.flatMap fun cls => cls.map fun n => ⟨n, n⟩)

/-- The set with the other case of every ASCII letter in it. -/
def foldAsciiCase (s : CodeSet) : CodeSet :=
  let lower := CodeSet.inter s [⟨0x61, 0x7A⟩]
  let upper := CodeSet.inter s [⟨0x41, 0x5A⟩]
  CodeSet.normalize
    (s ++ lower.map (fun r => ⟨r.low - 32, r.high - 32⟩)
      ++ upper.map (fun r => ⟨r.low + 32, r.high + 32⟩))

end AddressWatch.Unicode
