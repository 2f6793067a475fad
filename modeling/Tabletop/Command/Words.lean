import Tabletop.Number.Integer

/-!
# The words of a command line

A command line is a list of words. Words that begin with a dash name options; some of these take a
value, which is part of the same word or the next word of all. The other words are operands. Two
dashes end the options.
-/
namespace Tabletop.Command

/-- What an option does. -/
inductive Effect where
  /-- It takes a value. -/
  | value
  /-- It switches something on or off. -/
  | switch (on : Bool)
  deriving DecidableEq, Repr

/-- An option: what it sets, and the names that it goes by. A name of one dash and one more
character is short, every other name is long. -/
structure Form where
  key : String
  names : List String
  effect : Effect
  deriving DecidableEq, Repr

/-- A value that was given. -/
inductive Setting where
  | text (s : String)
  | switch (on : Bool)
  deriving DecidableEq, Repr

/-- What the words of a command line give: settings, the latest first, and operands, the latest
first. -/
structure Given where
  settings : List (String × Setting)
  operands : List String
  deriving DecidableEq, Repr

namespace Given

def empty : Given := ⟨[], []⟩

/-- One more setting. -/
def set (g : Given) (key : String) (setting : Setting) : Given :=
  { g with settings := (key, setting) :: g.settings }

/-- One more operand. -/
def add (g : Given) (operand : String) : Given := { g with operands := operand :: g.operands }

/-- More operands. -/
def addAll (g : Given) (operands : List String) : Given := operands.foldl add g

/-- The operands in order. -/
def words (g : Given) : List String := g.operands.reverse

@[simp] theorem words_empty : empty.words = [] := rfl

@[simp] theorem words_set (g : Given) (key : String) (setting : Setting) :
    (g.set key setting).words = g.words := rfl

@[simp] theorem words_add (g : Given) (operand : String) :
    (g.add operand).words = g.words ++ [operand] := by
  simp [words, add]

@[simp] theorem words_addAll (g : Given) (operands : List String) :
    (g.addAll operands).words = g.words ++ operands := by
  induction operands generalizing g with
  | nil => simp [addAll]
  | cons w ws ih =>
      have := ih (g.add w)
      simp only [addAll, List.foldl_cons] at this ⊢
      simp [this]

/-- The latest setting of a key. -/
def find? (g : Given) (key : String) : Option Setting := g.settings.lookup key

/-- The text that is set, if there is one. -/
def text? (g : Given) (key : String) : Option String :=
  match g.find? key with
  | some (.text s) => some s
  | _ => none

/-- The text that is set, or a default. -/
def text (g : Given) (key default : String) : String := (g.text? key).getD default

/-- The state of a switch, or a default. -/
def isOn (g : Given) (key : String) (default : Bool) : Bool :=
  match g.find? key with
  | some (.switch on) => on
  | _ => default

/-- The integer that is set, if anything is; nothing at all if that is no integer. -/
def integer? (g : Given) (key : String) : Option (Option Int) :=
  match g.text? key with
  | none => some none
  | some s => (Integer.read? s).map some

/-- The integer that is set, or a default; nothing if what is set is no integer. -/
def integer (g : Given) (key : String) (default : Int) : Option Int :=
  (g.integer? key).map fun found => found.getD default

end Given

/-! ### Options -/

/-- The word names options. -/
def isOption (word : List Char) : Bool :=
  match word with
  | '-' :: _ :: _ => true
  | _ => false

/-- The option of a name. -/
def form? (forms : List Form) (name : List Char) : Option Form :=
  forms.find? fun form => form.names.contains (String.ofList name)

/-- What a word of options gives, and the key that still waits for a value. -/
abbrev OptionWord := List (String × Setting) × Option String

/-- Options of one character each. The first one that takes a value takes the rest of the word. -/
def readCluster (forms : List Form) : List Char → Option OptionWord
  | [] => some ([], none)
  | c :: rest => do
      let form ← form? forms ['-', c]
      match form.effect with
      | .switch on =>
          let (settings, waiting) ← readCluster forms rest
          some ((form.key, .switch on) :: settings, waiting)
      | .value =>
          if rest.isEmpty then some ([], some form.key)
          else some ([(form.key, .text (String.ofList rest))], none)

/-- What follows the first equals sign. -/
def attached? (word : List Char) : Option (List Char) :=
  match word.dropWhile (· != '=') with
  | [] => none
  | _ :: value => some value

/-- An option of a long name. -/
def readLong (forms : List Form) (word : List Char) : Option OptionWord := do
  let form ← form? forms (word.takeWhile (· != '='))
  match form.effect, attached? word with
  | .value, some value => some ([(form.key, .text (String.ofList value))], none)
  | .value, none => some ([], some form.key)
  | .switch on, none => some ([(form.key, .switch on)], none)
  | .switch _, some _ => none

/-- A word of options. -/
def readOption (forms : List Form) (word : List Char) : Option OptionWord :=
  match word with
  | '-' :: '-' :: _ => readLong forms word
  | _ :: rest => readCluster forms rest
  | [] => none

/-! ### Command lines -/

/-- Read the words of a command line. If options and operands do not mix, the options end with the
first operand. -/
def readWords (forms : List Form) (mixed : Bool) : List String → Given → Option Given
  | [], g => some g
  | word :: rest, g =>
      if word == "--" then some (g.addAll rest)
      else if isOption word.toList then
        match readOption forms word.toList with
        | none => none
        | some (settings, waiting) =>
            let g := settings.foldl (fun g (key, setting) => g.set key setting) g
            match waiting, rest with
            | none, rest => readWords forms mixed rest g
            | some _, [] => none
            | some key, value :: rest => readWords forms mixed rest (g.set key (.text value))
      else if mixed then readWords forms mixed rest (g.add word)
      else some (g.addAll (word :: rest))

end Tabletop.Command
