-- The library of regular expressions that programs run with.
import Peg.Regex.Library
import Peg.Regex.Reader
import Peg.Regex.Search

namespace Peg.Regex

def Searcher.finder (s : Searcher) : Finder := ⟨s.findEnd?⟩

/-- Texts are read with their limits of nesting and size, and searched for by scanning. -/
instance engine : Library where
  compile? text := (ofText? text).map fun r => (Searcher.ofRegex r).finder

end Peg.Regex
