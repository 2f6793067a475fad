import Tabletop.Document.Yaml.Style

/-!
# Tokens of YAML

A text is cut into tokens. Indentation becomes tokens too: a collection opens where its first member
stands further right than the collection around it, and closes before the first token that stands
further left. That a key has begun is only known at the colon after it, so a key token is put in
front of tokens that have been read already; the colon has to follow on the same line and not too
far away.
-/
namespace Tabletop.Yaml

/-- A piece of a text. -/
inductive Token where
  /-- A line for the reader, with the number of the version if it names one. -/
  | directive (version : Option Nat)
  | documentStart
  | documentEnd
  | listStart
  | tableStart
  /-- The end of a list or table by indentation. -/
  | blockEnd
  | flowListStart
  | flowListEnd
  | flowTableStart
  | flowTableEnd
  | dash
  | comma
  | key
  | value
  | reference (name : List Char)
  | anchor (name : List Char)
  | tag (t : Tag)
  | scalar (isPlain : Bool) (cs : List Char)
  deriving DecidableEq, Repr

/-- A place where a key may have begun. -/
structure PossibleKey where
  /-- How many tokens stand before it. -/
  count : Nat
  /-- There can be nothing else but a key. -/
  isRequired : Bool
  spot : Spot
  deriving Repr

/-- How far from its beginning the colon of a key may stand. -/
def keyReach : Nat := 1024

/-- The colon at `here` still belongs to the key. -/
def PossibleKey.reaches (key : PossibleKey) (here : Spot) : Bool :=
  key.spot.line == here.line && here.index - key.spot.index ≤ keyReach

/-- A text that cannot be cut to its end: the tokens that are certain, and why there are no more. -/
structure Stopped where
  tokens : List Token
  fault : Fault
  deriving Repr

/-- A text that is being cut. -/
structure Cutting where
  rest : List Spot
  /-- The tokens so far, the last one first. -/
  tokens : List Token
  /-- How many tokens there are. -/
  count : Nat
  /-- For every open collection by indentation, the innermost first, the column from which a
  collection inside it may start. -/
  margins : List Nat
  /-- Where a key may have begun, between the innermost brackets. -/
  possible : Option PossibleKey
  /-- Where a key may have begun around each pair of brackets, the innermost first. -/
  outer : List (Option PossibleKey)
  /-- A key may begin with the next token. -/
  mayBeKey : Bool

namespace Cutting

/-- The beginning of a text. -/
def start (cs : List Spot) : Cutting := ⟨cs, [], 0, [], none, [], true⟩

/-- Inside brackets. -/
def inFlow (c : Cutting) : Bool := !c.outer.isEmpty

/-- The column from which a new collection may start. -/
def margin (c : Cutting) : Nat := c.margins.headD 0

/-- One more token. -/
def emit (t : Token) (c : Cutting) : Cutting :=
  { c with tokens := t :: c.tokens, count := c.count + 1 }

/-- One more token, and what is left of the text after it. -/
def emitAnd (t : Token) (rest : List Spot) (c : Cutting) : Cutting :=
  { c.emit t with rest := rest }

/-- Tokens in front of those that came after the first `count`. -/
def insert (count : Nat) (added : List Token) (c : Cutting) : Cutting :=
  let later := c.count - count
  { c with
    tokens := c.tokens.take later ++ added.reverse ++ c.tokens.drop later
    count := c.count + added.length }

/-- Close the collections whose margin is beyond the given one; inside brackets indentation does not
matter. -/
def close (margin : Nat) (c : Cutting) : Cutting :=
  if c.inFlow then c
  else
    let closed := (c.margins.takeWhile (margin < ·)).length
    { c with
      tokens := List.replicate closed .blockEnd ++ c.tokens
      count := c.count + closed
      margins := c.margins.drop closed }

/-- The tokens that open a collection in the given column, if one starts there. -/
def opening (column : Nat) (t : Token) (c : Cutting) : List Token :=
  if !c.inFlow && c.margin ≤ column then [t] else []

/-- Remember the margin of a collection that opens in the given column. -/
def indent (column : Nat) (c : Cutting) : Cutting :=
  if !c.inFlow && c.margin ≤ column then { c with margins := (column + 1) :: c.margins } else c

/-- Open a collection in the given column, if one starts there. -/
def openAt (column : Nat) (t : Token) (c : Cutting) : Cutting :=
  (c.insert c.count (c.opening column t)).indent column

/-- No key has begun. -/
def forget (c : Cutting) : Except Fault Cutting :=
  if c.possible.any PossibleKey.isRequired then .error .malformed
  else .ok { c with possible := none }

/-- A key may begin here. -/
def propose (here : Spot) (c : Cutting) : Except Fault Cutting :=
  if c.mayBeKey then
    c.forget.map fun c =>
      let isRequired := !c.inFlow && c.margin == here.column + 1
      { c with possible := some ⟨c.count, isRequired, here⟩ }
  else .ok c

/-- Whether a key may begin with the next token. -/
def allowing (mayBeKey : Bool) (c : Cutting) : Cutting := { c with mayBeKey := mayBeKey }

/-- All collections closed between two documents, and no key begun. -/
def finish (c : Cutting) : Except Fault Cutting := ((c.close 0).forget).map (allowing false)

/-! ### Marks -/

/-- An opening bracket. -/
def openFlow (here : Spot) (t : Token) (rest : List Spot) (c : Cutting) : Except Fault Cutting :=
  (c.propose here).map fun c =>
    { c.emitAnd t rest with possible := none, outer := c.possible :: c.outer, mayBeKey := true }

/-- A closing bracket. -/
def closeFlow (t : Token) (rest : List Spot) (c : Cutting) : Except Fault Cutting :=
  match c.outer with
  | [] => .error .malformed
  | possible :: outer =>
      .ok { c.emitAnd t rest with possible := possible, outer := outer, mayBeKey := false }

/-- A comma. -/
def comma (rest : List Spot) (c : Cutting) : Except Fault Cutting :=
  c.forget.map fun c => (c.emitAnd .comma rest).allowing true

/-- The dash of an item. -/
def dash (here : Spot) (rest : List Spot) (c : Cutting) : Except Fault Cutting :=
  if c.inFlow || c.mayBeKey then
    (c.openAt here.column .listStart).forget.map fun c => (c.emitAnd .dash rest).allowing true
  else .error .malformed

/-- The question mark of a key. -/
def explicitKey (here : Spot) (rest : List Spot) (c : Cutting) : Except Fault Cutting :=
  if c.inFlow || c.mayBeKey then
    (c.openAt here.column .tableStart).forget.map fun c =>
      (c.emitAnd .key rest).allowing (!c.inFlow)
  else .error .malformed

/-- The colon of a value whose key has not begun before it. -/
def bareValue (here : Spot) (rest : List Spot) (c : Cutting) : Except Fault Cutting :=
  if c.inFlow || c.mayBeKey then
    (c.openAt here.column .tableStart).forget.map fun c =>
      (c.emitAnd .value rest).allowing (!c.inFlow)
  else .error .malformed

/-- The colon of a value. -/
def value (here : Spot) (rest : List Spot) (c : Cutting) : Except Fault Cutting :=
  match c.possible with
  | none => c.bareValue here rest
  | some key =>
      if key.reaches here then
        let added := c.opening key.spot.column .tableStart ++ [.key]
        let c := ((c.insert key.count added).indent key.spot.column).emitAnd .value rest
        .ok { c with possible := none, mayBeKey := false }
      else if key.isRequired then .error .malformed
      else { c with possible := none }.bareValue here rest

/-! ### Names -/

/-- The characters of names. -/
def isNameChar (c : Char) : Bool := c.isAlphanum || c == '-' || c == '_'

/-- The characters that may follow a name. -/
def endsName (c : Option Char) : Bool :=
  endsWord c || c.any ['?', ':', ',', ']', '}', '%', '@', Char.ofNat 0x60].contains

/-- An anchor or a reference to one, its first sign already taken. -/
def named (t : List Char → Token) (after : List Spot) (c : Cutting) : Except Fault Cutting :=
  let (name, rest) := after.span fun s => isNameChar s.char
  if !name.isEmpty && endsName (first? rest) then
    .ok ((c.emitAnd (t (chars name)) rest).allowing false)
  else .error .malformed

/-- The tag whose name is in the rest of a word, its exclamation mark already taken. Only the names
that every text knows are tags. -/
def tagOf (word : List Char) : Except Fault Tag :=
  let known (name : List Char) : Except Fault Tag :=
    match Tag.ofName? (String.ofList name) with
    | some t => .ok t
    | none => .error .malformed
  match word with
  | [] => .ok .unspecific
  | '!' :: name => known name
  | '<' :: full =>
      let home := "tag:yaml.org,2002:".toList
      if full.getLast? == some '>' && full.take home.length == home then
        known (full.dropLast.drop home.length)
      else .error .malformed
  | _ => .error .malformed

/-- A tag, its first sign already taken. -/
def tag (after : List Spot) (c : Cutting) : Except Fault Cutting := do
  let (word, rest) := after.span fun s => !endsWord (some s.char)
  let t ← tagOf (chars word)
  if endsPart (first? rest) then .ok ((c.emitAnd (.tag t) rest).allowing false)
  else .error .malformed

/-- The number of the version in the words of a line for the reader. -/
def versionOf (words : List Char) : Except Fault Nat :=
  let (major, minor) := words.span Decimal.isDigit
  match minor with
  | '.' :: minor =>
      if !major.isEmpty && !minor.isEmpty && minor.all Decimal.isDigit then
        .ok (Decimal.ofDigits major)
      else .error .malformed
  | _ => .error .malformed

/-- A line for the reader, its first sign already taken. Names of tags cannot be declared. -/
def directive (after : List Spot) (c : Cutting) : Except Fault Cutting := do
  let c ← c.finish
  let (name, rest) := after.span fun s => isNameChar s.char
  if name.isEmpty || !endsPart (first? rest) then .error .malformed
  else
    match String.ofList (chars name) with
    | "YAML" =>
        let rest := rest.dropWhile fun s => s.char == ' '
        let (words, rest) := rest.span fun s => !endsPart (some s.char)
        let version ← versionOf (chars words)
        pure (c.emitAnd (.directive (some version)) (← afterComment rest))
    | "TAG" => .error .malformed
    | _ =>
        let rest := rest.dropWhile fun s => !isBreak s.char
        pure (c.emitAnd (.directive none) (← afterComment rest))

/-! ### Scalars -/

/-- A plain scalar. -/
def plain (fuel : Nat) (here : Spot) (c : Cutting) : Except Fault Cutting :=
  (c.propose here).map fun c =>
    let found := plainScalar c.inFlow c.margin fuel c.rest
    (c.emitAnd (.scalar true found.inside) found.rest).allowing found.crosses

/-- A scalar between quotes, the first of which is already taken. -/
def quoted (fuel : Nat) (here : Spot) (after : List Spot) (c : Cutting) : Except Fault Cutting := do
  let c ← c.propose here
  let (cs, rest) ← quotedFrom here.char fuel [] after
  pure ((c.emitAnd (.scalar false cs) rest).allowing false)

/-- A block of lines. -/
def block (fuel : Nat) (here : Spot) (after : List Spot) (c : Cutting) : Except Fault Cutting := do
  let c ← c.forget
  let (cs, rest) ← blockScalar (here.char == '>') c.margin fuel after
  pure ((c.emitAnd (.scalar false cs) rest).allowing true)

/-! ### All tokens -/

/-- What is left after spaces, ends of lines and comments, and whether a line ended there. -/
def skip : (inComment : Bool) → (crosses : Bool) → List Spot → Bool × List Spot
  | _, crosses, [] => (crosses, [])
  | inComment, crosses, s :: rest =>
      if isBreak s.char then skip false true rest
      else if inComment || s.char == ' ' then skip inComment crosses rest
      else if s.char == '#' then skip true crosses rest
      else (crosses, s :: rest)

/-- Up to the next token; outside of brackets a key may begin on a new line. -/
def toNext (c : Cutting) : Cutting :=
  let (crosses, rest) := skip false false c.rest
  { c with rest := rest, mayBeKey := c.mayBeKey || (crosses && !c.inFlow) }

/-- The token that begins `here`. -/
def step (fuel : Nat) (here : Spot) (after : List Spot) (c : Cutting) : Except Fault Cutting :=
  let next := first? after
  if here.char == '%' && here.column == 0 then c.directive after
  else if isMarked (here :: after) then
    let mark : Token := if here.char == '-' then .documentStart else .documentEnd
    c.finish.map (emitAnd mark (after.drop 2))
  else
    match here.char with
    | '[' => c.openFlow here .flowListStart after
    | '{' => c.openFlow here .flowTableStart after
    | ']' => c.closeFlow .flowListEnd after
    | '}' => c.closeFlow .flowTableEnd after
    | ',' => c.comma after
    | '*' => (c.propose here).bind (named .reference after)
    | '&' => (c.propose here).bind (named .anchor after)
    | '!' => (c.propose here).bind (tag after)
    | '\'' | '"' => c.quoted fuel here after
    | ch =>
        if ch == '-' && endsWord next then c.dash here after
        else if ch == '?' && (c.inFlow || endsWord next) then c.explicitKey here after
        else if ch == ':' && (c.inFlow || endsWord next) then c.value here after
        else if (ch == '|' || ch == '>') && !c.inFlow then c.block fuel here after
        else if startsPlain c.inFlow ch next then c.plain fuel here
        else .error .malformed

/-- All places where a key may have begun. -/
def possibleKeys (c : Cutting) : List PossibleKey := (c.possible :: c.outer).filterMap id

/-- How many tokens cannot change any more: a key may still begin in front of the others. -/
def settled (c : Cutting) : Nat :=
  match c.rest with
  | [] => c.count
  | here :: _ =>
      ((c.possibleKeys.filter (·.reaches here)).map PossibleKey.count).foldl Nat.min c.count

/-- The tokens in front of a place where the text cannot be read, and why. The text is malformed
anyhow if a key that has to come there does not reach so far. -/
def stopped (c : Cutting) (here : Spot) (fault : Fault) : Stopped :=
  let isMissing (key : PossibleKey) := key.isRequired && !key.reaches here
  ⟨c.tokens.reverse.take c.settled,
    if c.possibleKeys.any isMissing then .malformed else fault⟩

/-- All further tokens; every one of them takes one unit of `fuel`. -/
def run : (fuel : Nat) → Cutting → Except Stopped (List Token)
  | 0, c => .error ⟨c.tokens.reverse, .malformed⟩
  | fuel + 1, c =>
      let ahead := c.toNext
      match ahead.rest with
      | [] =>
          match ahead.finish with
          | .ok ended => .ok ended.tokens.reverse
          | .error fault => .error ⟨c.tokens.reverse, fault⟩
      | here :: after =>
          match (ahead.close (here.column + 1)).step fuel here after with
          | .ok c => run fuel c
          | .error fault => .error (c.stopped here fault)

end Cutting

/-- The tokens of a text. -/
def tokens (cs : List Char) : Except Stopped (List Token) :=
  let places := spots cs
  let places := if cs.head? == some '\uFEFF' then places.drop 1 else places
  (Cutting.start places).run (cs.length + 1)

end Tabletop.Yaml
