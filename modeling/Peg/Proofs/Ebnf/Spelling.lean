-- How grammars are written: the tokens, the layout around them, and which tokens stand for which
-- tree. An alternation is made of concatenations, these of exceptions, and these of factors. No
-- reader comes in here.
import Peg.Ebnf.Basic

namespace Peg.Ebnf

/-! ## Names and quotes -/

/-- A letter or an underscore. -/
def NameStart (c : Char) : Prop := ('A' ≤ c ∧ c ≤ 'Z') ∨ ('a' ≤ c ∧ c ≤ 'z') ∨ c = '_'

/-- A letter, a digit or an underscore. -/
def NamePart (c : Char) : Prop := NameStart c ∨ ('0' ≤ c ∧ c ≤ '9')

instance : DecidablePred NameStart := fun _ => inferInstanceAs (Decidable (_ ∨ _ ∨ _))

instance : DecidablePred NamePart := fun _ => inferInstanceAs (Decidable (_ ∨ _))

/-- A name is not empty, and no digit comes first. -/
def IsName (cs : List Char) : Prop :=
  ∃ c more, cs = c :: more ∧ NameStart c ∧ ∀ d ∈ more, NamePart d

/-- The two kinds of quotes. -/
inductive Quote where
  | single
  | double
deriving DecidableEq, Repr

def Quote.char : Quote → Char
  | single => '\''
  | double => '"'

/-! ## Tokens -/

/-- The three pairs of brackets. -/
inductive Bracket where
  | group
  | repetition
  | optional
deriving DecidableEq, Repr

def Bracket.opening : Bracket → Char
  | group => '('
  | repetition => '{'
  | optional => '['

def Bracket.closing : Bracket → Char
  | group => ')'
  | repetition => '}'
  | optional => ']'

/-- The tree of what stands in brackets. -/
def Bracket.wrap : Bracket → Expr → Expr
  | group => .group
  | repetition => .repetition
  | optional => .optional

/-- Tokens of one character. -/
inductive Mark where
  | opening (b : Bracket)
  | closing (b : Bracket)
  | hyphen
  | comma
  | bar
  | equals
  | semicolon
deriving DecidableEq, Repr

def Mark.char : Mark → Char
  | opening b => b.opening
  | closing b => b.closing
  | hyphen => '-'
  | comma => ','
  | bar => '|'
  | equals => '='
  | semicolon => ';'

inductive Token where
  | name (text : String) (valid : IsName text.toList)
  /-- A text in quotes of a kind that it does not hold. -/
  | quoted (quote : Quote) (text : List Char) (valid : quote.char ∉ text)
  | dots
  | mark (m : Mark)

def Token.text : Token → List Char
  | name text _ => text.toList
  | quoted quote text _ => quote.char :: (text ++ [quote.char])
  | dots => ['.', '.']
  | mark m => [m.char]

/-! ## Layout -/

/-- Spaces, tabs, line ends and comments. A comment ends where it can end first. -/
inductive Layout : List Char → Prop where
  | nil : Layout []
  | blank {c : Char} {layout : List Char} :
    c ∈ [' ', '\t', '\r', '\n'] → Layout layout → Layout (c :: layout)
  | comment {body layout : List Char} :
    ¬ ['*', ')'] <:+: body → Layout layout →
      Layout ('(' :: '*' :: (body ++ '*' :: ')' :: layout))

/-- From one place in a text to another one, so many tokens are read, each with layout behind. -/
inductive Reads : List Token → List Char → List Char → Prop where
  | nil {z : List Char} : Reads [] z z
  | cons (t : Token) {ts : List Token} {layout x z : List Char} :
    Layout layout → Reads ts x z → Reads (t :: ts) (t.text ++ (layout ++ x)) z

/-- A text is tokens, with any layout before, between and behind them. -/
def Renders (ts : List Token) (s : List Char) : Prop :=
  ∃ layout x, s = layout ++ x ∧ Layout layout ∧ Reads ts x []

/-! ## Trees -/

/-- How loosely the parts of an expression hold together. -/
inductive Level where
  | factor
  | exception
  | concatenation
  | alternation
deriving DecidableEq, Repr

/-- Tokens stand for an expression that holds together as closely as the level says.
Concatenations and alternations nest to the right, and an exception has two factors. -/
inductive Spells : Level → Expr → List Token → Prop where
  | identifier {name : String} (valid : IsName name.toList) :
    Spells .factor (.identifier name) [.name name valid]
  | terminal {text : String} {quote : Quote} (valid : quote.char ∉ text.toList) :
    Spells .factor (.terminal text) [.quoted quote text.toList valid]
  | range {lo hi : Char} {quote quote' : Quote} (valid : quote.char ∉ [lo])
      (valid' : quote'.char ∉ [hi]) :
    Spells .factor (.range lo hi) [.quoted quote [lo] valid, .dots, .quoted quote' [hi] valid']
  | bracket (b : Bracket) {e : Expr} {ts : List Token} :
    Spells .alternation e ts →
      Spells .factor (b.wrap e) (.mark (.opening b) :: (ts ++ [.mark (.closing b)]))
  | exception {a b : Expr} {ts us : List Token} :
    Spells .factor a ts → Spells .factor b us →
      Spells .exception (.exception a b) (ts ++ .mark .hyphen :: us)
  | concatenation {a b : Expr} {ts us : List Token} :
    Spells .exception a ts → Spells .concatenation b us →
      Spells .concatenation (.concatenation a b) (ts ++ .mark .comma :: us)
  | alternation {a b : Expr} {ts us : List Token} :
    Spells .concatenation a ts → Spells .alternation b us →
      Spells .alternation (.alternation a b) (ts ++ .mark .bar :: us)
  | ofFactor {e : Expr} {ts : List Token} : Spells .factor e ts → Spells .exception e ts
  | ofException {e : Expr} {ts : List Token} : Spells .exception e ts → Spells .concatenation e ts
  | ofConcatenation {e : Expr} {ts : List Token} :
    Spells .concatenation e ts → Spells .alternation e ts

def Expr.Spelled (e : Expr) (ts : List Token) : Prop := Spells .alternation e ts

/-- A production is `name = body ;`. -/
inductive Production.Spelled : Production → List Token → Prop where
  | intro {p : Production} {ts : List Token} (valid : IsName p.name.toList) :
    p.body.Spelled ts →
      p.Spelled (.name p.name valid :: .mark .equals :: (ts ++ [.mark .semicolon]))

/-- Productions come one after another, and there may be none. -/
inductive Grammar.Spelled : Grammar → List Token → Prop where
  | nil : Grammar.Spelled ⟨[]⟩ []
  | cons {p : Production} {ps : List Production} {ts us : List Token} :
    p.Spelled ts → Grammar.Spelled ⟨ps⟩ us → Grammar.Spelled ⟨p :: ps⟩ (ts ++ us)

end Peg.Ebnf
