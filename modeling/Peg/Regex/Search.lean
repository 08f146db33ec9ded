-- Searching a text for a regular expression. Where an expression is no more than a few texts,
-- these are compared. Otherwise the text is scanned, forward for the end of the match and then
-- backward for its start; and a text that cannot be scanned is run over.
import Peg.Regex.Footprint
import Peg.Regex.Run
import Peg.Regex.Scan
import Peg.Regex.Stems

namespace Peg.Regex

open Text

/-- A regular expression that is ready to be searched for. -/
structure Searcher where
  /-- The only texts that match at the start of a text, best first. -/
  onlyMatches : Option (List (List Nat))
  forward : Scanner
  backward : Scanner
  /-- What is run where scanning is of no use. -/
  fallback : Program
  /-- A match may begin anywhere but ends where the text does. -/
  fromEnd : Bool
  /-- What every match ends with, where this is looked for first. -/
  telltale : Option (List Nat)

namespace Searcher

/-- The expression as the fallback looks for it. What is in front of a match is made of bytes if
the expression reads bytes. -/
def running (r : Regex) : Regex :=
  let t := r.traits
  if t.readsBytes && !t.atStart then
    .concat [.counted false 0 none (.byteOf (CodeSet.empty.complementUpTo 0xff)), r]
  else r.searching

def ofRegex (r : Regex) : Searcher where
  onlyMatches := r.onlyMatches?
  forward := .ofRegex r.searching false
  backward := .ofRegex r.reverse true
  fallback := .ofRegex (running r)
  fromEnd := r.traits.atEnd && !r.traits.atStart
  telltale := r.telltaleEnd?

/-! ## Scanning both ways -/

/-- Scans forward for the end of the match. Unless the match is empty, it has to be found
backward as well. -/
def scanAhead (s : Searcher) (text : List Char) : Scanner.Result :=
  match s.forward.scanText text with
  | .found 0 => .found 0
  | .found count =>
    let octets := Octet.ofText (text.take (count + 1))
    let behind := octets[count]?.map Octet.swap
    match s.backward.scan behind (Octet.backward (octets.take count)) with
    | .found _ => .found count
    | result => result
  | result => result

/-- Scans backward from the end of the text, where the match ends if there is one. -/
def scanFromEnd (s : Searcher) (text : List Char) : Scanner.Result :=
  let octets := Octet.ofText text
  match s.backward.scan none (Octet.backward octets) with
  | .found _ => .found octets.length
  | result => result

/-! ## Scanning from a telltale end -/

/-- Where some bytes first come in others. -/
def indexOf? (part : List Nat) : List Nat → Option Nat
  | [] => if part.isEmpty then some 0 else none
  | b :: more =>
    if part.isPrefixOf (b :: more) then some 0 else (indexOf? part more).map (· + 1)

/-- Looks from byte `place` on for the bytes that every match ends with, and scans from their end
backward to byte `start`, as if the text began there. Where a match begins, the scan goes on
forward; where nothing can begin, the next place is tried. `whole` is what comes of scanning all
of the text, and this is done where a match may begin at `start`. -/
def scanFromTelltale (s : Searcher) (telltale : List Nat) (octets : List Octet)
    (whole : Unit → Scanner.Result) : Nat → Nat → Nat → Scanner.Result
  | 0, _, _ => .missed octets.length
  | fuel + 1, start, place =>
    match indexOf? telltale ((octets.drop place).map Octet.value) with
    | none => .missed octets.length
    | some skipped =>
      let place := place + skipped
      let stop := place + telltale.length
      match s.backward.scan none (Octet.backward ((octets.take stop).drop start)) with
      | .unknown => .unknown
      | .missed count =>
        let first := stop - count
        if first ≤ start then whole ()
        else s.scanFromTelltale telltale octets whole fuel first (place + 1)
      | .found count =>
        let first := stop - count
        if first ≤ start then whole ()
        else
          match s.forward.scan octets[first - 1]? (octets.drop first) with
          | .found count => .found (first + count)
          | result => result

/-! ## Searching -/

/-- Scans for the first match in a text. -/
def scan (s : Searcher) (text : List Char) : Scanner.Result :=
  if s.fromEnd then s.scanFromEnd text
  else
    match s.telltale with
    | none => s.scanAhead text
    | some telltale =>
      let octets := Octet.ofText text
      s.scanFromTelltale telltale octets (fun _ => s.scanAhead text) (octets.length + 1) 0 0

/-- Whether a text starts with some bytes. -/
def startsWith (text : List Char) (bytes : List Nat) : Bool :=
  bytes.isPrefixOf ((Octet.ofText (text.take bytes.length)).map Octet.value)

/-- Where the first match in a text ends, in bytes. -/
def findEnd? (s : Searcher) (text : List Char) : Option Nat :=
  match s.onlyMatches with
  | some texts => (texts.find? (startsWith text)).map List.length
  | none =>
    match s.scan text with
    | .found count => some count
    | .missed _ => none
    | .unknown => s.fallback.run text

end Searcher

end Peg.Regex
