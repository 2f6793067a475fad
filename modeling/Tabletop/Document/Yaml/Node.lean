import Tabletop.Document.Yaml.Token

/-!
# Nodes of YAML

Tokens make a tree of nodes: scalars, lists and mappings whose keys are nodes themselves. A node
that is left out is an empty plain scalar. An anchor gives a node a name under which it can stand
again further on.
-/
namespace Tabletop.Yaml

/-- A tree of scalars, lists and mappings. -/
inductive Node where
  | scalar (tag : Option Tag) (isPlain : Bool) (cs : List Char)
  | list (tag : Option Tag) (items : List Node)
  | table (tag : Option Tag) (entries : List (Node × Node))
  deriving Inhabited, Repr

namespace Node

/-- A node that is left out. -/
def absent : Node := scalar none true []

/-- The node under a tag. -/
def under (tag : Option Tag) : Node → Node
  | scalar _ isPlain cs => scalar tag isPlain cs
  | list _ items => list tag items
  | table _ entries => table tag entries

end Node

/-- Why tokens make no tree. -/
inductive Misfit where
  /-- A token does not belong where it stands. -/
  | misplaced
  /-- More tokens are needed. -/
  | unfinished
  deriving DecidableEq, Repr

/-- The tokens that are left, and the nodes with names so far. -/
structure Feed where
  tokens : List Token
  anchors : List (List Char × Node)

namespace Feed

/-- Takes something from the front of the tokens. -/
abbrev Reader (α : Type) := Feed → Except Misfit (α × Feed)

/-- Nothing fits what comes next. -/
def misfit {α : Type} (f : Feed) : Except Misfit α :=
  .error (if f.tokens.isEmpty then .unfinished else .misplaced)

/-- The next token. -/
def next? (f : Feed) : Option Token := f.tokens.head?

/-- The next token is one of the given ones, or there is none. -/
def isBefore (ts : List Token) (f : Feed) : Bool := f.next?.all ts.contains

/-- Without the next token. -/
def drop (f : Feed) : Feed := { f with tokens := f.tokens.drop 1 }

/-- A node has the name. -/
def isKnown (a : List Char) (f : Feed) : Bool := (f.anchors.lookup a).isSome

/-- The node under a new name. -/
def name (anchor : Option (List Char)) (n : Node) (f : Feed) : Except Misfit (Node × Feed) :=
  match anchor with
  | none => .ok (n, f)
  | some a =>
      if f.isKnown a then .error .misplaced
      else .ok (n, { f with anchors := (a, n) :: f.anchors })

/-- The anchor and the tag in front of a node, in either order. -/
def properties (f : Feed) : (Option (List Char) × Option Tag) × Feed :=
  match f.tokens with
  | .anchor a :: .tag t :: rest => ((some a, some t), { f with tokens := rest })
  | .tag t :: .anchor a :: rest => ((some a, some t), { f with tokens := rest })
  | .anchor a :: rest => ((some a, none), { f with tokens := rest })
  | .tag t :: rest => ((none, some t), { f with tokens := rest })
  | _ => ((none, none), f)

/-- Where a node may stand. -/
inductive Position where
  /-- Between brackets. -/
  | flow
  | block
  /-- Under a key, where the dashes of a list may stand in the column of the key. -/
  | underKey
  deriving DecidableEq, Repr

mutual

/-- A node with its properties, or the node of a name. -/
def node (position : Position) : (fuel : Nat) → Reader Node
  | 0, f => f.misfit
  | fuel + 1, f =>
      match f.next? with
      | some (.reference a) =>
          match f.anchors.lookup a with
          | some n => .ok (n, f.drop)
          | none => f.misfit
      | _ => do
          let ((anchor, tag), f) := f.properties
          if anchor.any f.isKnown then .error .misplaced
          else
            let (n, f) ← content position fuel (anchor.isSome || tag.isSome) f
            f.name anchor (n.under tag)

/-- A node without its properties. It may be left out if there are some. -/
def content (position : Position) : (fuel : Nat) → (mayBeAbsent : Bool) → Reader Node
  | 0, _, f => f.misfit
  | fuel + 1, mayBeAbsent, f =>
      let absent : Except Misfit (Node × Feed) :=
        if mayBeAbsent then .ok (.absent, f) else f.misfit
      match f.next? with
      | some (.scalar isPlain cs) => .ok (.scalar none isPlain cs, f.drop)
      | some .flowListStart => flowItems fuel true [] f.drop
      | some .flowTableStart => flowEntries fuel true [] f.drop
      | some .dash => if position == .underKey then looseItems fuel [] f else absent
      | some .listStart => if position == .flow then absent else items fuel [] f.drop
      | some .tableStart => if position == .flow then absent else entries fuel [] f.drop
      | _ => absent

/-- A node, or none in front of the end of the text and the given tokens. -/
def nodeBefore (ends : List Token) (position : Position) : (fuel : Nat) → Reader Node
  | 0, f => f.misfit
  | fuel + 1, f => if f.isBefore ends then .ok (.absent, f) else node position fuel f

/-- The further items of a list by indentation and its end; those read come first, the last one in
front. -/
def items : (fuel : Nat) → (read : List Node) → Reader Node
  | 0, _, f => f.misfit
  | fuel + 1, read, f =>
      match f.next? with
      | some .dash => do
          let (n, f) ← nodeBefore [.dash, .blockEnd] .block fuel f.drop
          items fuel (n :: read) f
      | some .blockEnd => .ok (.list none read.reverse, f.drop)
      | _ => f.misfit

/-- The further items of a list in the column of its key. -/
def looseItems : (fuel : Nat) → (read : List Node) → Reader Node
  | 0, _, f => f.misfit
  | fuel + 1, read, f =>
      match f.next? with
      | some .dash => do
          let (n, f) ← nodeBefore [.dash, .key, .value, .blockEnd] .block fuel f.drop
          looseItems fuel (n :: read) f
      | _ => .ok (.list none read.reverse, f)

/-- The further entries of a mapping by indentation and its end. -/
def entries : (fuel : Nat) → (read : List (Node × Node)) → Reader Node
  | 0, _, f => f.misfit
  | fuel + 1, read, f =>
      match f.next? with
      | some .key => do
          let ends : List Token := [.key, .value, .blockEnd]
          let (key, f) ← nodeBefore ends .underKey fuel f.drop
          let (value, f) ← valueBefore ends .underKey fuel f
          entries fuel ((key, value) :: read) f
      | some .blockEnd => .ok (.table none read.reverse, f.drop)
      | _ => f.misfit

/-- The value after a colon; there is none without a colon. -/
def valueBefore (ends : List Token) (position : Position) : (fuel : Nat) → Reader Node
  | 0, f => f.misfit
  | fuel + 1, f =>
      if f.next? == some .value then nodeBefore ends position fuel f.drop else .ok (.absent, f)

/-- The further items of a list between brackets and its end. An item with a key is a mapping of its
own. -/
def flowItems : (fuel : Nat) → (isFirst : Bool) → (read : List Node) → Reader Node
  | 0, _, _, f => f.misfit
  | fuel + 1, isFirst, read, f =>
      let f' := if isFirst then f else f.drop
      if f.next? == some .flowListEnd then .ok (.list none read.reverse, f.drop)
      else if !isFirst && f.next? != some .comma then f.misfit
      else
        match f'.next? with
        | some .flowListEnd => .ok (.list none read.reverse, f'.drop)
        | some .key => do
            let (key, f) ← nodeBefore [.value, .comma, .flowListEnd] .flow fuel f'.drop
            let (value, f) ← valueBefore [.comma, .flowListEnd] .flow fuel f
            flowItems fuel false (.table none [(key, value)] :: read) f
        | _ => do
            let (n, f) ← node .flow fuel f'
            flowItems fuel false (n :: read) f

/-- The further entries of a mapping between brackets and its end. An entry may be a key alone. -/
def flowEntries : (fuel : Nat) → (isFirst : Bool) → (read : List (Node × Node)) → Reader Node
  | 0, _, _, f => f.misfit
  | fuel + 1, isFirst, read, f =>
      let f' := if isFirst then f else f.drop
      if f.next? == some .flowTableEnd then .ok (.table none read.reverse, f.drop)
      else if !isFirst && f.next? != some .comma then f.misfit
      else
        match f'.next? with
        | some .flowTableEnd => .ok (.table none read.reverse, f'.drop)
        | some .key => do
            let (key, f) ← nodeBefore [.value, .comma, .flowTableEnd] .flow fuel f'.drop
            let (value, f) ← valueBefore [.comma, .flowTableEnd] .flow fuel f
            flowEntries fuel false ((key, value) :: read) f
        | _ => do
            let (key, f) ← node .flow fuel f'
            flowEntries fuel false ((key, .absent) :: read) f

end

/-! ### Documents -/

/-- Lines for the reader in front of a document: at most one version, of the first edition. -/
def afterDirectives : (hasVersion : Bool) → List Token → Except Misfit (List Token)
  | hasVersion, .directive version :: rest =>
      match version with
      | none => afterDirectives hasVersion rest
      | some major =>
          if hasVersion || major != 1 then .error .misplaced else afterDirectives true rest
  | _, ts => .ok ts

/-- The only document of a text; a text without tokens has none. -/
def only (ts : List Token) : Except Misfit Node := do
  let fuel := 4 * (ts.length + 1)
  let (n, f) ←
    match ts with
    | [] => pure (.absent, ⟨[], []⟩)
    | .directive _ :: _ | .documentStart :: _ =>
        match ← afterDirectives false ts with
        | .documentStart :: rest =>
            match rest with
            | .directive _ :: _ | .documentStart :: _ | .documentEnd :: _ | [] =>
                pure (.absent, ⟨rest, []⟩)
            | rest => node .block fuel ⟨rest, []⟩
        | rest => misfit ⟨rest, []⟩
    | ts => node .block fuel ⟨ts, []⟩
  if (f.tokens.dropWhile (· == .documentEnd)).isEmpty then pure n else .error .misplaced

end Feed

end Tabletop.Yaml
