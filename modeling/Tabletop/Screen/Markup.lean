import Tabletop.Screen.Action
import Tabletop.Screen.Style
import Tabletop.Text.Pictogram
import Tabletop.Text.Quoted

/-!
# Markup

Texts for the screen carry tags in square brackets, such as `[bold]` and `[/bold]`, which say how
the text between them looks. A tag begins with a small letter, a number sign, a slash or an at sign
and goes up to the next closing bracket; an opening bracket inside makes it plain text. Backslashes
in front of a tag stand for half as many, and an odd one makes the tag itself plain text. Plain text
may call pictograms by their names.
-/
namespace Tabletop.Markup

/-! ### Pieces -/

/-- What a text in markup is made of. -/
inductive Piece where
  | plain (cs : List Char)
  /-- A tag with the backslashes in front of it. -/
  | tag (backslashes : Nat) (inside : List Char)
  deriving DecidableEq, Repr

namespace Piece

/-- How many characters the piece takes up. -/
def width : Piece → Nat
  | plain cs => cs.length
  | tag backslashes inside => backslashes + inside.length + 2

end Piece

/-- The characters with which a tag begins. -/
def beginsTag (c : Char) : Bool := ('a' ≤ c && c ≤ 'z') || c == '#' || c == '/' || c == '@'

/-- The rest of a tag up to its closing bracket, and what follows. -/
def tagRest? : List Char → Option (List Char × List Char)
  | [] => none
  | c :: rest =>
      if c == ']' then some ([], rest)
      else if c == '[' then none
      else (tagRest? rest).map fun (inside, after) => (c :: inside, after)

/-- A tag whose opening bracket has been read, and what follows. -/
def tag? : List Char → Option (List Char × List Char)
  | [] => none
  | c :: rest =>
      if beginsTag c then (tagRest? rest).map fun (inside, after) => (c :: inside, after) else none

theorem length_tagRest? {cs inside after : List Char} (h : tagRest? cs = some (inside, after)) :
    after.length < cs.length := by
  induction cs generalizing inside after with
  | nil => simp [tagRest?] at h
  | cons c rest ih =>
      simp only [tagRest?] at h
      split at h
      · simp_all
      · split at h
        · simp at h
        · obtain ⟨⟨i, a⟩, ha, he⟩ := Option.map_eq_some_iff.1 h
          simp only [Prod.mk.injEq] at he
          have := ih ha
          simp only [List.length_cons, ← he.2]
          omega

theorem length_tag? {cs inside after : List Char} (h : tag? cs = some (inside, after)) :
    after.length < cs.length := by
  cases cs with
  | nil => simp [tag?] at h
  | cons c rest =>
      simp only [tag?] at h
      split at h
      · obtain ⟨⟨i, a⟩, ha, he⟩ := Option.map_eq_some_iff.1 h
        simp only [Prod.mk.injEq] at he
        have := length_tagRest? ha
        simp only [List.length_cons, ← he.2]
        omega
      · simp at h

/-- Put plain characters in front of pieces. -/
def prepend (cs : List Char) : List Piece → List Piece
  | .plain more :: rest => .plain (cs ++ more) :: rest
  | rest => if cs.isEmpty then rest else .plain cs :: rest

/-- The pieces of a text after some backslashes. -/
def piecesAfter (backslashes : Nat) (cs : List Char) : List Piece :=
  match cs with
  | [] => prepend (List.replicate backslashes '\\') []
  | c :: rest =>
      if c == '\\' then piecesAfter (backslashes + 1) rest
      else if c == '[' then
        match h : tag? rest with
        | some (inside, after) =>
            have := length_tag? h
            .tag backslashes inside :: piecesAfter 0 after
        | none => prepend (List.replicate backslashes '\\' ++ [c]) (piecesAfter 0 rest)
      else prepend (List.replicate backslashes '\\' ++ [c]) (piecesAfter 0 rest)
termination_by cs.length

/-- The pieces of a text. -/
def pieces (s : String) : List Piece := piecesAfter 0 s.toList

/-! ### Escaping -/

/-- Backslashes and a tag that read back as plain text. -/
def escapePiece : Piece → List Char
  | .plain cs => cs
  | .tag backslashes inside =>
      List.replicate (2 * backslashes + 1) '\\' ++ ['['] ++ inside ++ [']']

/-- The text ends in one backslash. -/
def endsInBackslash (cs : List Char) : Bool :=
  match cs.reverse with
  | '\\' :: '\\' :: _ => false
  | '\\' :: _ => true
  | _ => false

/-- A text in which nothing counts as a tag. A single backslash at the end is doubled, for a tag may
follow. -/
def escape (s : String) : String :=
  let cs := (pieces s).flatMap escapePiece
  String.ofList (if endsInBackslash cs then cs ++ ['\\'] else cs)

/-! ### Showing -/

/-- Why a text cannot be shown. -/
inductive Fault where
  /-- A closing tag that closes nothing that is open. -/
  | unopened (tag : String) (position : Nat)
  /-- A closing tag without a name where nothing is open. -/
  | nothingOpen (position : Nat)
  /-- An action with parameters that cannot be read. -/
  | unreadable (parameters : String)
  /-- A colour in parts of which one has no digits. -/
  | emptyPart
  deriving DecidableEq, Repr

/-- What is wrong. -/
def Fault.message : Fault → String
  | unopened tag position =>
      "closing tag '[" ++ tag ++ "]' at position " ++ Decimal.text position ++
        " doesn't match any open tag"
  | nothingOpen position =>
      "closing tag '[/]' at position " ++ Decimal.text position ++ " has nothing to close"
  | unreadable parameters => "error parsing " ++ Text.quoted parameters
  | emptyPart => "invalid literal for int() with base 10: ''"

/-- A tag that has been opened. -/
structure Opened where
  style : String
  /-- What an equals sign sets. -/
  parameters : Option (List Char)
  deriving DecidableEq, Repr

/-- The name of a style. -/
def styleName (written : List Char) : Except Fault String :=
  (Style.nameOf (String.ofList written)).mapError fun _ => .emptyPart

/-- Close a tag. One that names an action must have parameters that can be read. -/
def close (tag : Opened) : Except Fault Unit :=
  match tag.parameters with
  | none => .ok ()
  | some parameters =>
      if tag.style.startsWith "@" && !Action.isReadable parameters then
        .error (.unreadable (String.ofList parameters))
      else .ok ()

/-- Open a tag, or close the one that was opened last, either of all or of those with a name. The
open ones are listed with the latest first. -/
def turn (position : Nat) (inside : List Char) (opened : List Opened) :
    Except Fault (List Opened) :=
  match inside.takeWhile (· != '=') with
  | '/' :: name =>
      if (Text.trimWhere Text.isBlank name).isEmpty then
        match opened with
        | [] => .error (.nothingOpen position)
        | tag :: rest => (close tag).map fun _ => rest
      else do
        let style ← styleName name
        match opened.find? fun tag => tag.style == style with
        | none => throw (.unopened (String.ofList inside) position)
        | some tag => (close tag).map fun _ => opened.eraseP fun tag => tag.style == style
  | name =>
      let parameters :=
        match inside.dropWhile (· != '=') with
        | [] => none
        | _ :: parameters => some parameters
      (styleName name).map fun style => ⟨style, parameters⟩ :: opened

/-- A backslash in front of a bracket that begins no tag is not shown. -/
def freeBrackets : List Char → List Char
  | '\\' :: '[' :: rest => '[' :: freeBrackets rest
  | c :: rest => c :: freeBrackets rest
  | [] => []

/-- Plain text with the pictograms that it calls. -/
def withPictograms (cs : List Char) : List Char := Text.Pictogram.replaceCalls cs

/-- What is shown of pieces that begin at a position. -/
def showPieces (position : Nat) (opened : List Opened) : List Piece → Except Fault (List Char)
  | [] => .ok []
  | piece :: rest => do
      let next := position + piece.width
      match piece with
      | .plain cs => return withPictograms (freeBrackets cs) ++ (← showPieces next opened rest)
      | .tag backslashes inside =>
          let head := List.replicate (backslashes / 2) '\\'
          if backslashes % 2 = 1 then
            let shown := head ++ withPictograms ('[' :: inside ++ [']'])
            return shown ++ (← showPieces next opened rest)
          else
            let opened ← turn (position + backslashes) inside opened
            return head ++ (← showPieces next opened rest)

/-- The control characters that the screen leaves out: bell, backspace, vertical tab, form feed and
carriage return. -/
def isSilent (c : Char) : Bool := [7, 8, 11, 12, 13].contains c.toNat

/-- What is shown of a text in markup. -/
def plain (s : String) : Except Fault String :=
  let cs := s.toList
  let shown := if cs.contains '[' then showPieces 0 [] (pieces s) else .ok (withPictograms cs)
  shown.map fun cs => String.ofList (cs.filter fun c => !isSilent c)

end Tabletop.Markup
