/-!
# The twisted generator

A generator of 32-bit words with a state of 624 words, seeded by an integer of any size. A whole
number below a bound is drawn by taking as many bits as the bound has, again and again until they
are below it.
-/
namespace Tabletop

/-- The words of the state, and how many of them have been handed out. -/
structure Twister where
  words : Array UInt32
  used : Nat

namespace Twister

/-- The number of words in the state. -/
def size : Nat := 624

/-- How far apart the words lie that are mixed. -/
def gap : Nat := 397

def word (words : Array UInt32) (i : Nat) : UInt32 := words.getD i 0

/-! ### Seeding -/

/-- A word folded on itself. -/
def folded (w : UInt32) : UInt32 := w ^^^ (w >>> 30)

/-- A state that a single word determines. -/
def plain (seed : UInt32) : Array UInt32 :=
  Nat.fold (size - 1)
    (fun i _ words => words.push (1812433253 * folded (word words i) + UInt32.ofNat (i + 1)))
    #[seed]

/-- The 32-bit words of a natural number, the least significant first; at least one. -/
def keyWith : Nat → Nat → List UInt32
  | 0, _ => []
  | fuel + 1, n =>
      let w := UInt32.ofNat (n % Nat.pow 2 32)
      if n < Nat.pow 2 32 then [w] else w :: keyWith fuel (n / Nat.pow 2 32)

/-- The 32-bit words of a natural number, the least significant first; at least one. -/
def key (n : Nat) : Array UInt32 := (keyWith (n.log2 / 32 + 1) n).toArray

/-- A position in the state after `i`; the first word follows the last one and is copied from it. -/
def advance (words : Array UInt32) (i : Nat) : Array UInt32 × Nat :=
  if i + 1 < size then (words, i + 1) else (words.set! 0 (word words (size - 1)), 1)

/-- The state with the words of a key mixed in. -/
def mixKey (key words : Array UInt32) : Array UInt32 × Nat :=
  Nat.fold (max size key.size)
    (fun k _ (words, i) =>
      let j := k % key.size
      let mixed := word words i ^^^ (folded (word words (i - 1)) * 1664525)
      let w := mixed + word key j + UInt32.ofNat j
      advance (words.set! i w) i)
    (words, 1)

/-- The state mixed once more from position `i` on. -/
def mixPlaces (words : Array UInt32) (i : Nat) : Array UInt32 :=
  (Nat.fold (size - 1)
    (fun _ _ (words, i) =>
      let w := (word words i ^^^ (folded (word words (i - 1)) * 1566083941)) - UInt32.ofNat i
      advance (words.set! i w) i)
    (words, i)).1

/-- The generator of a seed. The sign of the seed does not matter. -/
def ofSeed (seed : Int) : Twister :=
  let (words, i) := mixKey (key seed.natAbs) (plain 19650218)
  ⟨(mixPlaces words i).set! 0 0x80000000, size⟩

/-! ### Drawing -/

/-- The next state. -/
def twist (words : Array UInt32) : Array UInt32 :=
  Nat.fold size
    (fun i _ words =>
      let y := (word words i &&& 0x80000000) ||| (word words ((i + 1) % size) &&& 0x7fffffff)
      let mixed := word words ((i + gap) % size) ^^^ (y >>> 1)
      words.set! i (if y &&& 1 == 0 then mixed else mixed ^^^ 0x9908b0df))
    words

/-- A word of the state as it is handed out. -/
def temper (w : UInt32) : UInt32 :=
  let w := w ^^^ (w >>> 11)
  let w := w ^^^ ((w <<< 7) &&& 0x9d2c5680)
  let w := w ^^^ ((w <<< 15) &&& 0xefc60000)
  w ^^^ (w >>> 18)

/-- The next word. -/
def next (t : Twister) : UInt32 × Twister :=
  let t := if t.used < size then t else ⟨twist t.words, 0⟩
  (temper (word t.words t.used), ⟨t.words, t.used + 1⟩)

/-- A number of `32 * wholes + left` bits, the least significant words first. -/
def bitsFrom (left : Nat) : (wholes : Nat) → Twister → Nat × Twister
  | 0, t =>
      if left == 0 then (0, t)
      else
        let (w, t) := t.next
        (w.toNat / Nat.pow 2 (32 - left), t)
  | wholes + 1, t =>
      let (w, t) := t.next
      let (high, t) := bitsFrom left wholes t
      (w.toNat + high * Nat.pow 2 32, t)

/-- A number of `count` random bits. -/
def bits (count : Nat) (t : Twister) : Nat × Twister := bitsFrom (count % 32) (count / 32) t

/-- Draw until the bits are below the bound, at most `fuel` times; each draw succeeds more often
than not. -/
def belowWith (bound : Nat) : (fuel : Nat) → Twister → Nat × Twister
  | 0, t => (0, t)
  | fuel + 1, t =>
      let (n, t) := t.bits (bound.log2 + 1)
      if n < bound then (n, t) else belowWith bound fuel t

/-- A number below a bound. -/
def below (bound : Nat) (t : Twister) : Nat × Twister := belowWith bound 4096 t

end Twister

end Tabletop
