-- The characters that words are made of: alphabetic characters, marks, decimal digits,
-- connecting punctuation and the two joiners.
import Peg.Text.Property

namespace Peg.Text

/-- The characters of words. -/
def wordCharacters : CodeSet :=
  (alphabetic.union (ofCategories ["Mn", "Mc", "Me", "Nd", "Pc"])).union (listed "Join_Control")

end Peg.Text
