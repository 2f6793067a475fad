import Tabletop.Formula.Span
import Tabletop.Text.Quoted

/-!
# Tokens of a formula

The characters of a formula are cut into numbers, dice, names, parentheses and operators; at every
place the longest piece that is one of these is taken. Blanks separate pieces. Any other character
is left out with a warning, and so is a number with too many digits, which is a user error.
-/
namespace Tabletop

/-- What a token is, with what it stands for. -/
inductive Lexeme where
  | name (id : String)
  | integer (value : Nat)
  | dice (count sides : Nat)
  | openParen
  | closeParen
  | plus
  | minus
  | star
  | slash
  deriving DecidableEq, Repr

/-- The name of the kind of a token. -/
def Lexeme.kind : Lexeme → String
  | name _ => "name"
  | integer _ => "integer"
  | dice .. => "dice_roll"
  | openParen => "lparen"
  | closeParen => "rparen"
  | plus => "plus"
  | minus => "minus"
  | star => "star"
  | slash => "slash"

/-- A piece of a formula. -/
structure Token where
  lexeme : Lexeme
  span : Span
  /-- The characters that the span covers. -/
  text : String
  deriving DecidableEq, Repr

/-- The token with its kind, text and place, for display. -/
def Token.describe (t : Token) : String :=
  "Token(" ++ t.lexeme.kind ++ ", " ++ Text.quoted t.text ++ ", at=" ++
    Decimal.text t.span.start ++ ")"

namespace Token

/-- The characters that only separate tokens. -/
def isSeparator (c : Char) : Bool := c == ' ' || c == '\t' || c == '\n' || c == '\r'

/-- The letters of names. -/
def isLetter (c : Char) : Bool := ('a' ≤ c && c ≤ 'z') || ('A' ≤ c && c ≤ 'Z')

/-- The tokens of one character. -/
def symbol? (c : Char) : Option Lexeme :=
  match c with
  | '(' => some .openParen
  | ')' => some .closeParen
  | '+' => some .plus
  | '-' => some .minus
  | '*' => some .star
  | '/' => some .slash
  | '\\' => some .slash
  | _ => none

/-- What the front of a text is. -/
inductive Piece where
  | blank
  | lexeme (l : Lexeme)
  | longNumber
  | unknown
  deriving DecidableEq, Repr

/-- A run of digits with what follows it. -/
def digitRun (cs : List Char) : List Char × List Char :=
  (cs.takeWhile Decimal.isDigit, cs.dropWhile Decimal.isDigit)

/-- The number of sides, when a letter `d` and digits follow directly on a number of dice. -/
def sides? : List Char → Option (List Char)
  | d :: c :: rest =>
      if (d == 'd' || d == 'D') && Decimal.isDigit c then some (digitRun (c :: rest)).1 else none
  | _ => none

/-- A run of digits is short enough to be read as a number. -/
def isReadable (digits : List Char) : Bool := digits.length ≤ Decimal.digitLimit

/-- The number or dice at the front of a text that starts with a digit, and its length. -/
def number (cs : List Char) : Piece × Nat :=
  let (count, rest) := digitRun cs
  match sides? rest with
  | none =>
      (if isReadable count then .lexeme (.integer (Decimal.ofDigits count)) else .longNumber,
        count.length)
  | some sides =>
      (if isReadable count && isReadable sides then
          .lexeme (.dice (Decimal.ofDigits count) (Decimal.ofDigits sides))
        else .longNumber,
        count.length + 1 + sides.length)

/-- The longest piece at the front of a text that starts with `c`, and its length. -/
def front (c : Char) (rest : List Char) : Piece × Nat :=
  if isSeparator c then (.blank, 1)
  else
    match symbol? c with
    | some l => (.lexeme l, 1)
    | none =>
        if Decimal.isDigit c then number (c :: rest)
        else if isLetter c then
          let letters := c :: rest.takeWhile isLetter
          (.lexeme (.name (String.ofList letters)), letters.length)
        else (.unknown, 1)

theorem number_pos {c : Char} (h : Decimal.isDigit c) (rest : List Char) :
    0 < (number (c :: rest)).2 := by
  simp only [number, digitRun, List.takeWhile_cons, h, if_true]
  split <;> simp only [List.length_cons] <;> omega

/-- Every piece takes at least one character. -/
theorem front_pos (c : Char) (rest : List Char) : 0 < (front c rest).2 := by
  unfold front
  split
  · exact Nat.one_pos
  · split
    · exact Nat.one_pos
    · split
      · exact number_pos ‹_› rest
      · split
        · exact Nat.succ_pos _
        · exact Nat.one_pos

end Token

/-- A token, or a remark on characters that are no token. -/
inductive Scanned where
  | token (t : Token)
  | remark (d : Diagnostic)
  deriving DecidableEq, Repr

namespace Scanned

def token? : Scanned → Option Token
  | token t => some t
  | remark _ => none

def remark? : Scanned → Option Diagnostic
  | token _ => none
  | remark d => some d

/-- What a piece of a formula amounts to. -/
def ofPiece (piece : Token.Piece) (span : Span) (chars : List Char) : Option Scanned :=
  match piece with
  | .blank => none
  | .lexeme l => some (token ⟨l, span, String.ofList chars⟩)
  | .longNumber =>
      let text := "Number too long (" ++ Decimal.text span.length ++ " characters)"
      some (remark ⟨span, text, .userError⟩)
  | .unknown =>
      let text := "Ignored unexpected character " ++ Text.quoted (String.ofList chars)
      some (remark ⟨span, text, .warning⟩)

/-- Cut the characters from offset `start` on into pieces; the first `taken` of them belong to the
piece before. -/
def scanFrom (start taken : Nat) : List Char → List Scanned
  | [] => []
  | c :: rest =>
      match taken with
      | taken + 1 => scanFrom (start + 1) taken rest
      | 0 =>
          let (piece, length) := Token.front c rest
          (ofPiece piece ⟨start, length⟩ ((c :: rest).take length)).toList ++
            scanFrom (start + 1) (length - 1) rest

end Scanned

/-- The tokens of a formula with the remarks on what was left out. -/
structure Scan where
  tokens : List Token
  remarks : List Diagnostic
  deriving DecidableEq, Repr

/-- Cut a formula into tokens. -/
def scan (source : String) : Scan :=
  let found := Scanned.scanFrom 0 0 source.toList
  ⟨found.filterMap Scanned.token?, found.filterMap Scanned.remark?⟩

end Tabletop
