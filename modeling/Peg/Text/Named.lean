-- Sets of characters by the names that the Unicode standard gives them. Case does not count in a
-- name, and neither do blanks, hyphens, low lines and a leading `is`.
import Peg.Text.Age
import Peg.Text.Property
import Peg.Text.Script

namespace Peg.Text

/-! ## Names -/

/-- The letters that count in a name. -/
def nameLetters (name : List Char) : List Char :=
  (name.filter fun c => c.toNat < 0x80 && !([' ', '_', '-'].contains c)).map Char.toLower

/-- A name as it is compared with others. What is no more than `isc` stays so: it is the short
name of a comment, and not that of the category `c`. -/
def plainName (name : List Char) : List Char :=
  match name with
  | i :: s :: more =>
    if i.toLower = 'i' ∧ s.toLower = 's' then
      let letters := nameLetters more
      if letters = ['c'] then ['i', 's', 'c'] else letters
    else nameLetters name
  | name => nameLetters name

/-- Whether a plain name is one of some names. -/
def isOneOf (plain : List Char) (names : List String) : Bool :=
  names.any fun name => nameLetters name.toList == plain

/-- The label of a plain name, which is the first of its names. -/
def label? (plain : List Char) (names : List (List String)) : Option String :=
  (names.find? (isOneOf plain)).bind List.head?

/-! ## Sets -/

namespace CodeSet

/-- A set that has characters. -/
def unlessEmpty (s : CodeSet) : Option CodeSet := if s.isEmpty then none else some s

/-- The set of a general category, or of a group of categories. -/
def category? (plain : List Char) : Option CodeSet :=
  if isOneOf plain ["any"] then some all
  else if isOneOf plain ["ascii"] then some ⟨[(0, 0x7f)]⟩
  else if isOneOf plain ["assigned"] then some (ofCategories ["Cn"]).complement
  else (categoryNames.find? fun entry => isOneOf plain entry.1).map fun entry => ofCategories entry.2

def script? (plain : List Char) : Option CodeSet :=
  (label? plain scriptNames).bind fun script => (ofScript script).unlessEmpty

/-- The characters that are used in a script. -/
def usedInScript? (plain : List Char) : Option CodeSet :=
  (label? plain scriptNames).bind fun script => (usedInScript script).unlessEmpty

/-- The names of a version: `3.1` is also `V3_1`. -/
def versionNames (version : String) : List String :=
  [version, "v" ++ String.ofList (version.toList.filter (· != '.'))]

/-- The characters that a version has assigned, or one before it. -/
def version? (plain : List Char) : Option CodeSet :=
  (versions.findIdx? fun version => isOneOf plain (versionNames version)).map fun k =>
    assignedWithin (k + 1)

/-- The code points of a kind, by one of the names of the kinds. -/
def kind? (runs : List Run) (names : List (List String)) (plain : List Char) : Option CodeSet :=
  (label? plain names).map fun kind => .ofRuns runs (· == kind)

/-- The set that a name stands for by itself: a property, a category or a script. A few short
names of categories are those of properties that are no sets. -/
def named? (name : List Char) : Option CodeSet :=
  let plain := plainName name
  match label? plain propertyNames with
  | some name => some (property name)
  | none =>
    if isOneOf plain ["sc", "lc"] then none else category? plain <|> script? plain

/-- The set of the characters that have a value of a property. -/
def valued? (property value : List Char) : Option CodeSet :=
  let property := plainName property
  let value := plainName value
  if isOneOf property ["gc", "General_Category"] then category? value
  else if isOneOf property ["sc", "Script"] then script? value
  else if isOneOf property ["scx", "Script_Extensions"] then usedInScript? value
  else if isOneOf property ["age"] then version? value
  else if isOneOf property ["GCB", "Grapheme_Cluster_Break"] then
    kind? clusterBreakRuns clusterBreakNames value
  else if isOneOf property ["WB", "Word_Break"] then kind? wordBreakRuns wordBreakNames value
  else if isOneOf property ["SB", "Sentence_Break"] then
    kind? sentenceBreakRuns sentenceBreakNames value
  else none

end CodeSet

end Peg.Text
