import Tabletop.Document.Yaml.Spot

/-!
# Styles of scalars

A scalar is written plainly, between quotes, or as a block of lines. Plain and quoted scalars may go
on over several lines, which are folded into one.
-/
namespace Tabletop.Yaml

/-! ### Plain scalars -/

/-- Characters with a meaning between brackets. -/
def isFlowMark (c : Char) : Bool := [',', '[', ']', '{', '}'].contains c

/-- Characters that no plain scalar starts with, or only in front of others. -/
def isIndicator (c : Char) : Bool :=
  isFlowMark c ||
    ['-', '?', ':', '#', '&', '*', '!', '|', '>', '\'', '"', '%', '@', Char.ofNat 0x60].contains c

/-- A plain scalar starts with the character in front of `next`. -/
def startsPlain (inFlow : Bool) (c : Char) (next : Option Char) : Bool :=
  if isIndicator c then !endsWord next && (c == '-' || (!inFlow && (c == '?' || c == ':')))
  else !isBlank c && !isBreak c

/-- A word of a plain scalar ends with the character in front of `next`. -/
def endsPlain (inFlow : Bool) (c : Char) (next : Option Char) : Bool :=
  isBlank c || isBreak c ||
    (c == ':' && (endsWord next || (inFlow && next.any isFlowMark))) ||
    (inFlow && (isFlowMark c || c == '?'))

/-- The characters of a word of a plain scalar, put in front of those that were `read`, the last one
first. -/
def plainWord (inFlow : Bool) : (read : List Char) → List Spot → List Char × List Spot
  | read, [] => (read, [])
  | read, s :: rest =>
      if endsPlain inFlow s.char (first? rest) then (read, s :: rest)
      else plainWord inFlow (s.char :: read) rest

/-- A word and what is left make up what there was. -/
theorem plainWord_append (inFlow : Bool) (read : List Char) (cs : List Spot) :
    (plainWord inFlow read cs).1.reverse ++ chars (plainWord inFlow read cs).2 =
      read.reverse ++ chars cs := by
  induction cs generalizing read with
  | nil => simp [plainWord]
  | cons s rest ih =>
      rw [plainWord]
      split
      · rfl
      · rw [ih]
        simp [chars]

/-- A plain scalar: its characters, whether it was looked for on another line, and the rest. -/
structure PlainScalar where
  inside : List Char
  crosses : Bool
  rest : List Spot

/-- No further word of a plain scalar begins at the front. -/
def noWord (inFlow : Bool) : List Spot → Bool
  | [] => true
  | s :: rest => s.char == '#' || endsPlain inFlow s.char (first? rest)

/-- A plain scalar that goes on as long as its lines are indented up to `margin`. The characters in
`read` come first, the last one in front, then those of the gap `before`. Every word takes one unit
of `fuel`. -/
def plainFrom (inFlow : Bool) (margin : Nat) : (fuel : Nat) → (read : List Char) → (before : Gap) →
    PlainScalar
  | 0, read, before => ⟨read.reverse, before.crosses, before.rest⟩
  | fuel + 1, read, before =>
      if noWord inFlow before.rest then ⟨read.reverse, before.crosses, before.rest⟩
      else
        let (read, rest) := plainWord inFlow (before.inside.reverse ++ read) before.rest
        let after := gap (· == ' ') rest
        let outdented (s : Spot) : Bool := !inFlow && s.column < margin
        if after.inside.isEmpty || after.rest.head?.any outdented then
          ⟨read.reverse, after.crosses, after.rest⟩
        else plainFrom inFlow margin fuel read after

/-- The plain scalar at the front. -/
def plainScalar (inFlow : Bool) (margin fuel : Nat) (cs : List Spot) : PlainScalar :=
  plainFrom inFlow margin fuel [] ⟨[], false, false, cs⟩

/-! ### Quoted scalars -/

/-- The code point of hexadecimal digits. -/
def codePoint (width : Nat) (cs : List Spot) : Except Fault (Nat × List Spot) :=
  let digits := chars (cs.take width)
  if digits.length == width && digits.all fun c => (Text.hexValue? c).isSome then
    .ok (ofBase 16 digits, cs.drop width)
  else .error .malformed

/-- The character of a code point. Halves of characters stay apart. -/
def escaped (width : Nat) (cs : List Spot) : Except Fault (Char × List Spot) := do
  let (code, rest) ← codePoint width cs
  if 0x10FFFF < code then .error (.noCharacter code) else pure (Text.ofCode code, rest)

/-- The code point of an escape of one letter. -/
def shortEscape? (c : Char) : Option Nat :=
  let codes : List (Char × Nat) :=
    [('0', 0), ('a', 7), ('b', 8), ('t', 9), ('\t', 9), ('n', 10), ('v', 11), ('f', 12),
      ('r', 13), ('e', 27), (' ', 32), ('"', 34), ('\\', 92), ('/', 47), ('N', 0x85),
      ('_', 0xA0), ('L', 0x2028), ('P', 0x2029)]
  codes.lookup c

/-- The character of an escape, its backslash already taken. -/
def escape (cs : List Spot) : Except Fault (Char × List Spot) :=
  match cs with
  | [] => .error .malformed
  | s :: rest =>
      match s.char with
      | 'x' => escaped 2 rest
      | 'u' => escaped 4 rest
      | 'U' => escaped 8 rest
      | c =>
          match shortEscape? c with
          | some n => .ok (Char.ofNat n, rest)
          | none => .error .malformed

/-- The rest of a scalar between the given quotes, after the characters in `read`, the last one
first. A single quote between single quotes is written twice; between double quotes there are
escapes, and an escaped end of a line disappears. -/
def quotedFrom (quote : Char) : (fuel : Nat) → (read : List Char) → List Spot →
    Except Fault (List Char × List Spot)
  | 0, _, _ => .error .malformed
  | _ + 1, _, [] => .error .malformed
  | fuel + 1, read, s :: rest =>
      if s.char == quote then
        if quote == '\'' && first? rest == some quote then
          quotedFrom quote fuel (quote :: read) (rest.drop 1)
        else .ok (read.reverse, rest)
      else if quote == '"' && s.char == '\\' then
        match rest with
        | b :: after =>
            if isBreak b.char then
              let (further, meetsMark, after) := furtherBreaks isBlank [] after
              if meetsMark then .error .malformed
              else quotedFrom quote fuel (further.reverse ++ read) after
            else do
              let (c, rest) ← escape rest
              quotedFrom quote fuel (c :: read) rest
        | [] => .error .malformed
      else if isBlank s.char || isBreak s.char then
        let between := gap isBlank (s :: rest)
        if between.meetsMark then .error .malformed
        else quotedFrom quote fuel (between.inside.reverse ++ read) between.rest
      else quotedFrom quote fuel (s.char :: read) rest

/-! ### Blocks of lines -/

/-- What the beginning of a block says about it. -/
structure BlockHeader where
  /-- The end of the last line stays with those after it, or goes; without a word, it stays alone.
  -/
  keeps : Option Bool
  /-- How far the lines are indented. -/
  indent : Option Nat

/-- A sign that says what happens to the end of the last line. -/
def chomping? (c : Char) : Option Bool :=
  if c == '+' then some true else if c == '-' then some false else none

/-- A digit that says how far lines are indented. -/
def indent? (c : Char) : Option Nat :=
  if c != '0' && Decimal.isDigit c then some (Decimal.digitValue c) else none

/-- The signs at the beginning of a block. -/
def blockHeader (cs : List Spot) : BlockHeader × List Spot :=
  match (first? cs).bind chomping?, (first? cs).bind indent? with
  | some keeps, _ =>
      match (first? (cs.drop 1)).bind indent? with
      | some n => (⟨some keeps, some n⟩, cs.drop 2)
      | none => (⟨some keeps, none⟩, cs.drop 1)
  | none, some n =>
      match (first? (cs.drop 1)).bind chomping? with
      | some keeps => (⟨some keeps, some n⟩, cs.drop 2)
      | none => (⟨none, some n⟩, cs.drop 1)
  | none, none => (⟨none, none⟩, cs)

/-- What follows a line on which only spaces and a comment are left. -/
def afterComment (cs : List Spot) : Except Fault (List Spot) :=
  let rest := cs.dropWhile fun s => s.char == ' '
  let rest := if first? rest == some '#' then rest.dropWhile fun s => !isBreak s.char else rest
  match rest with
  | [] => .ok []
  | s :: after => if isBreak s.char then .ok after else .error .malformed

/-- Ends of lines and the spaces in front of the given column, after the ends in `read`, the last
one first. Without a column all spaces are taken; how far they reach is counted in `reach`. -/
def blankLines (column : Option Nat) : (reach : Nat) → (read : List Char) → List Spot →
    Nat × List Char × List Spot
  | reach, read, [] => (reach, read.reverse, [])
  | reach, read, s :: rest =>
      if s.char == ' ' && column.all (s.column < ·) then
        blankLines column (Nat.max reach (s.column + 1)) read rest
      else if isBreak s.char then blankLines column reach (breakChar s.char :: read) rest
      else (reach, read.reverse, s :: rest)

/-- The lines of a block that were read. -/
structure BlockLines where
  /-- The characters so far, the last one first. -/
  read : List Char
  /-- The end of the last line. -/
  lastEnd : List Char
  /-- The ends of the empty lines after it. -/
  further : List Char
  rest : List Spot

/-- The lines indented up to the given column, after those `done`. In a folded block the end of a
line is folded unless a blank stands at the beginning of that line or the next. Every line takes one
unit of `fuel`. -/
def blockLines (folds : Bool) (column : Nat) : (fuel : Nat) → (done : BlockLines) → BlockLines
  | 0, done => done
  | fuel + 1, done =>
      if !isAtColumn column done.rest then done
      else
        let (line, rest) := done.rest.span fun s => !isBreak s.char
        let lastEnd := (first? rest).toList.map breakChar
        let (_, further, rest) := blankLines (some column) 0 [] (rest.drop 1)
        let read := (chars line).reverse ++ done.further.reverse ++ done.read
        if isAtColumn column rest then
          let indented := (first? line).any isBlank || (first? rest).any isBlank
          let joint :=
            if folds && lastEnd == ['\n'] && !indented then
              if further.isEmpty then [' '] else []
            else lastEnd
          blockLines folds column fuel ⟨joint ++ read, [], further, rest⟩
        else ⟨read, lastEnd, further, rest⟩

/-- A block of lines whose first sign is already taken. -/
def blockScalar (folds : Bool) (margin fuel : Nat) (cs : List Spot) :
    Except Fault (List Char × List Spot) := do
  let (header, rest) := blockHeader cs
  if endsPart (first? rest) then
    let rest ← afterComment rest
    let least := Nat.max margin 1
    let (column, further, rest) :=
      match header.indent with
      | some n =>
          let column := least + n - 1
          let (_, further, rest) := blankLines (some column) 0 [] rest
          (column, further, rest)
      | none =>
          let (reach, further, rest) := blankLines none 0 [] rest
          (Nat.max least reach, further, rest)
    let found := blockLines folds column fuel ⟨[], [], further, rest⟩
    let ends :=
      match header.keeps with
      | some true => found.lastEnd ++ found.further
      | some false => []
      | none => found.lastEnd
    pure (found.read.reverse ++ ends, found.rest)
  else .error .malformed

end Tabletop.Yaml
