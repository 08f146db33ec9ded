-- Stems: texts, as bytes, such that every match begins with one of them. Where every stem is
-- a match by itself, nothing but the stems matches.
import Peg.Regex.Traits
import Peg.Text.ByteBlocks

namespace Peg.Regex

open Text

/-! ## Lists of stems -/

/-- The start of some matches. -/
structure Stem where
  bytes : List Nat
  /-- The stem is what its matches have read so far, and not only the start of it. -/
  whole : Bool

/-- Stems, best first. -/
abbrev Stems := List Stem

namespace Stems

/-- The number of bytes of all stems. -/
def weight (stems : Stems) : Nat := stems.foldl (fun n stem => n + stem.bytes.length) 0

/-- Nothing is said of how matches begin. -/
def isBlank (stems : Stems) : Bool := stems.all (·.bytes.isEmpty)

/-- The stems as starts of longer matches. -/
def cut (stems : Stems) : Stems := stems.map fun stem => { stem with whole := false }

/-- The bytes of the stems that can be made longer, or the empty text if there are none. -/
def open? (stems : Stems) : List (List Nat) :=
  match stems.filter (·.whole) with
  | [] => [[]]
  | whole => whole.map Stem.bytes

/-- The number of bytes after the stems have been made longer by others. -/
def weightWith (stems more : Stems) : Nat :=
  if stems.isBlank || !stems.any (·.whole) then stems.weight + more.weight
  else
    stems.foldl (fun n stem =>
      n + if stem.whole then more.length * stem.bytes.length + more.weight
        else stem.bytes.length) 0

/-- The stems of a match that begins with one of `stems` and goes on with one of `more`, if
they are not too many for `limit`. -/
def extend? (limit : Nat) (stems more : Stems) : Option Stems :=
  if more.isBlank then some stems
  else if limit < stems.weightWith more then none
  else
    some <| stems.filter (!·.whole) ++ more.flatMap fun stem =>
      stems.open?.map fun bytes => ⟨bytes ++ stem.bytes, stem.whole⟩

end Stems

/-! ## Stems of expressions -/

/-- The number of characters up to which a set gives a stem for each of them. -/
def setLimit : Nat := 10

/-- A stem for each code point of a set that is small enough. -/
def stemsOfSet (limit : Nat) (bytesOf : Nat → List Nat) (s : CodeSet) : Stems :=
  if s.size ≤ min setLimit limit then
    (s.ranges.flatMap fun (lo, hi) =>
      ((List.range (hi + 1 - lo)).map (lo + ·)).filter Nat.isValidChar).map fun n =>
        ⟨bytesOf n, true⟩
  else []

/-- The stems of what may be left out or come several times, from those of one time. -/
def stemsOfStar (limit : Nat) (once : Stems) : Stems :=
  if once.isBlank || limit < once.weight then [] else once.cut ++ [⟨[], true⟩]

/-- The stems of a sequence whose parts have these stems, or ask for the start of the text if
they have none. `stems` are those of what is in front. -/
def stemsOfSequence (limit : Nat) : Stems → List (Option Stems) → Stems
  | stems, [] => stems
  | stems, none :: parts =>
    if stems.isBlank then stemsOfSequence limit (stems ++ [⟨[], true⟩]) parts else stems.cut
  | stems, some more :: parts =>
    match stems.extend? limit more with
    | none => stems.cut
    | some longer =>
      if more.any (·.whole) then stemsOfSequence limit longer parts else longer.cut

/-- The stems of a repetition that comes at least `least` times, which is once at least. -/
def stemsOfCopies (limit least : Nat) (exact : Bool) (part : Option Stems) : Stems :=
  let copies := min limit least
  let stems :=
    if copies = 1 then part.getD [] else stemsOfSequence limit [] (List.replicate copies part)
  if copies < least || stems.any (·.bytes.isEmpty) || !exact then stems.cut else stems

/-- The stems of choices. All of them must have stems, and not too many together. -/
def stemsOfChoices (limit : Nat) (choices : List Stems) : Stems :=
  let all : Stems := choices.flatten
  if choices.any (·.isBlank) || limit < all.weight then [] else all

/-- Whether an expression is nothing but the start of the text. -/
def isTextStart : Regex → Bool
  | assertion .textStart => true
  | _ => false

mutual

/-- The stems of an expression. Their bytes are few enough for `limit`, and `order` puts the
bytes of a character in the order in which they are read. -/
def stems (order : List Nat → List Nat) (limit : Nat) : Regex → Stems
  | empty | assertion _ => []
  | literal c =>
    let bytes := order (utf8Bytes c.toNat)
    [⟨bytes.take limit, bytes.length ≤ limit⟩]
  | oneOf s => stemsOfSet limit (fun n => order (utf8Bytes n)) s
  | byteOf s => stemsOfSet limit ([·]) s
  | group _ r => r.stems order limit
  | plus _ r => (r.stems order limit).cut
  | counted _ least most r =>
    if least = 0 then stemsOfStar limit (r.stems order (limit / 2))
    else
      stemsOfCopies limit least (most == some least)
        (if r.isTextStart then none else some (r.stems order limit))
  | concat parts => stemsOfSequence limit [] (stemsOfParts order limit parts)
  | either choices => stemsOfChoices limit (stemsOfAll order (limit / 5) choices)

/-- The stems of the parts of a sequence, and nothing for those that are the start of the
text. -/
def stemsOfParts (order : List Nat → List Nat) (limit : Nat) : List Regex → List (Option Stems)
  | [] => []
  | r :: parts =>
    (if r.isTextStart then none else some (r.stems order limit)) :: stemsOfParts order limit parts

/-- The stems of each expression. -/
def stemsOfAll (order : List Nat → List Nat) (limit : Nat) : List Regex → List Stems
  | [] => []
  | r :: more => r.stems order limit :: stemsOfAll order limit more

end

/-! ## How matches begin and end -/

/-- The number of bytes up to which stems are looked for. -/
def stemLimit : Nat := 250

/-- The stems, if they say something of every match. -/
def usable (stems : Stems) : Stems :=
  if stems.any (·.bytes.isEmpty) || stemLimit < stems.weight then [] else stems

/-- How the matches of an expression begin. An expression that asks for the start of the text
in some choices only has no stems. -/
def firstStems (r : Regex) : Stems :=
  let t := r.traits
  if t.asksForStart && !t.atStart then [] else usable (r.stems id stemLimit)

/-- How the matches of an expression end, as bytes in the order of the text. -/
def lastStems (r : Regex) : Stems :=
  let t := r.traits
  if t.asksForEnd && !t.atEnd then []
  else
    (usable (r.reverse.stems List.reverse stemLimit)).map fun stem =>
      { stem with bytes := stem.bytes.reverse }

/-- The number of different bytes that stems may begin with for a search to use them. -/
def firstByteLimit : Nat := 26

/-- The only texts that match at the start of a text, best first, if an expression is as simple
as that. -/
def onlyMatches? (r : Regex) : Option (List (List Nat)) :=
  let stems := r.firstStems
  let firstBytes := (stems.map fun stem => stem.bytes.take 1).eraseDups
  if r.traits.atStart && !stems.isEmpty && stems.all (·.whole) &&
      firstBytes.length < firstByteLimit then
    some (stems.map Stem.bytes)
  else none

/-! ## What matches have in common -/

/-- What two lists begin with. -/
def commonStart : List Nat → List Nat → List Nat
  | a :: as, b :: bs => if a = b then a :: commonStart as bs else []
  | _, _ => []

/-- What all of some lists begin with. -/
def commonStartAll : List (List Nat) → List Nat
  | [] => []
  | bytes :: more => more.foldl commonStart bytes

/-- The number of characters that bytes show, when a character at the start may lack its first
bytes. -/
def characterCount (bytes : List Nat) : Nat :=
  let isFollower := fun b => decide (0x80 ≤ b ∧ b < 0xc0)
  (bytes.takeWhile isFollower).length + (bytes.filter (!isFollower ·)).length

/-- What every match ends with, if it is so long that it helps to look for it first: three
characters at least, and more than every match begins with. -/
def telltaleEnd? (r : Regex) : Option (List Nat) :=
  let first := commonStartAll (r.firstStems.map Stem.bytes)
  let last := (commonStartAll (r.lastStems.map (·.bytes.reverse))).reverse
  if max 3 (characterCount first + 1) ≤ characterCount last then some last else none

end Peg.Regex
