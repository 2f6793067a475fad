import Tabletop.Schema

/-!
# Places in a formula

A span is a range of the characters of a formula. A diagnostic says something about a span: a
warning, or a mistake that keeps the formula from having a value.
-/
namespace Tabletop

/-- A range of a formula: how many characters come before it and how many it covers. -/
structure Span where
  start : Nat
  length : Nat
  deriving DecidableEq, Repr, Inhabited

namespace Span

/-- The offset of the first character after the span. -/
def stop (s : Span) : Nat := s.start + s.length

/-- The smallest span that covers two spans. -/
def cover (a b : Span) : Span :=
  let start := min a.start b.start
  ⟨start, max a.stop b.stop - start⟩

/-- The characters of a formula that the span covers. -/
def slice (s : Span) (cs : List Char) : List Char := (cs.drop s.start).take s.length

theorem cover_comm (a b : Span) : a.cover b = b.cover a := by
  simp [cover, Nat.min_comm, Nat.max_comm]

@[simp] theorem start_cover (a b : Span) : (a.cover b).start = min a.start b.start := rfl

@[simp] theorem stop_cover (a b : Span) : (a.cover b).stop = max a.stop b.stop := by
  simp only [cover, stop]
  omega

theorem length_slice (s : Span) (cs : List Char) (h : s.stop ≤ cs.length) :
    (s.slice cs).length = s.length := by
  simp only [stop] at h
  simp only [slice, List.length_take, List.length_drop]
  omega

/-- The span of a start and a length, neither of which may be negative. -/
def ofInts (start length : Int) : Checked Span :=
  let size (name : String) (n : Int) : Checked Nat :=
    if 0 ≤ n then .ok n.toNat else (Checked.fail .tooSmall).under (.key name)
  (Checked.both (size "start_index" start) (size "length" length)).map fun (s, l) => ⟨s, l⟩

end Span

/-- How much a diagnostic weighs. -/
inductive Severity where
  | warning
  | userError
  deriving DecidableEq, Repr

/-- The name of a severity in messages. -/
def Severity.label : Severity → String
  | warning => "warning"
  | userError => "user_error"

/-- A message about a span of a formula. -/
structure Diagnostic where
  span : Span
  text : String
  severity : Severity
  deriving DecidableEq, Repr

/-- The diagnostic on one line. -/
def Diagnostic.line (d : Diagnostic) : String :=
  d.severity.label ++ " at " ++ Decimal.text d.span.start ++ ": " ++ d.text

end Tabletop
