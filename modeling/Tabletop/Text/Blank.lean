/-!
# Blank characters

The characters that a name or a number may carry around it without effect: the ASCII blanks and
separators, the next-line control, and every space and line or paragraph separator of Unicode.
-/
namespace Tabletop.Text

/-- The white space of Unicode. -/
def isSpace (c : Char) : Bool :=
  let n := c.toNat
  (9 ≤ n && n ≤ 13) || n == 0x20 || n == 0x85 || n == 0xA0 || n == 0x1680 ||
    (0x2000 ≤ n && n ≤ 0x200A) || n == 0x2028 || n == 0x2029 || n == 0x202F || n == 0x205F ||
    n == 0x3000

/-- White space, or one of the four ASCII information separators. -/
def isBlank (c : Char) : Bool :=
  isSpace c || (0x1C ≤ c.toNat && c.toNat ≤ 0x1F)

/-- Drop what `p` holds of from both ends of a list of characters. -/
def trimWhere (p : Char → Bool) (cs : List Char) : List Char :=
  ((cs.dropWhile p).reverse.dropWhile p).reverse

/-- The text without the blanks around it. -/
def strip (s : String) : String := String.ofList (trimWhere isBlank s.toList)

/-- The words of a text, which blanks separate. -/
def words (cs : List Char) : List (List Char) :=
  let (word, done) :=
    cs.foldl
      (fun (word, done) c =>
        if !isBlank c then (c :: word, done)
        else if word.isEmpty then ([], done)
        else ([], word.reverse :: done))
      (([] : List Char), ([] : List (List Char)))
  (if word.isEmpty then done else word.reverse :: done).reverse

end Tabletop.Text
