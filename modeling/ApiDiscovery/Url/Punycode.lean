/-!
# Punycode

Labels of a host name written in ASCII.  The ASCII characters of a label come
first; each further character is inserted by a number that says how far the
enumeration of positions and code points has to advance, and the number is
written in base 36 with thresholds that adapt to the numbers before.
-/

namespace ApiDiscovery.Url.Punycode

/-- A digit of base 36: letters first. -/
def digit (n : Nat) : Char :=
  if n < 26 then Char.ofNat (n + 97) else Char.ofNat (n + 22)

/-- The bias after a number, the first number being damped more. -/
def adapt (delta count : Nat) (first : Bool) : Nat :=
  let damped := if first then delta / 700 else delta / 2
  let rec scale : Nat → Nat → Nat → Nat
    | 0, offset, _ => offset
    | bound + 1, offset, value =>
        if 455 < value then scale bound (offset + 36) (value / 35)
        else offset + 36 * value / (value + 38)
  scale 32 0 (damped + damped / count)

/-- A number with the given bias, from the position of its next digit on. -/
def digitsOf (bias : Nat) : Nat → Nat → Nat → List Char
  | 0, _, _ => []
  | bound + 1, position, value =>
      let threshold := max 1 (min 26 (position - bias))
      if value < threshold then [digit value]
      else
        digit (threshold + (value - threshold) % (36 - threshold)) ::
          digitsOf bias bound (position + 36) ((value - threshold) / (36 - threshold))

structure State where
  output : List Char
  delta : Nat
  bias : Nat
  handled : Nat

def leastFrom (bound : Nat) (label : List Char) : Option Nat :=
  ((label.map Char.toNat).filter (bound ≤ ·)).min?

def insertAll (code basics : Nat) : List Char → State → State
  | [], state => state
  | c :: rest, state =>
      if c.toNat < code then insertAll code basics rest { state with delta := state.delta + 1 }
      else if c.toNat = code then
        insertAll code basics rest {
          output := state.output ++ digitsOf state.bias 64 36 state.delta
          delta := 0
          bias := adapt state.delta (state.handled + 1) (state.handled = basics)
          handled := state.handled + 1 }
      else insertAll code basics rest state

def insertFrom (label : List Char) (basics : Nat) : Nat → Nat → State → List Char
  | 0, _, state => state.output
  | bound + 1, code, state =>
      match leastFrom code label with
      | none => state.output
      | some next =>
          let advanced := { state with delta := state.delta + (next - code) * (state.handled + 1) }
          let inserted := insertAll next basics label advanced
          insertFrom label basics bound (next + 1) { inserted with delta := inserted.delta + 1 }

def encode (label : List Char) : List Char :=
  let basic := label.filter (·.toNat < 0x80)
  let start := if basic.isEmpty then [] else basic ++ ['-']
  insertFrom label basic.length (label.length + 1) 0x80 ⟨start, 0, 72, basic.length⟩

end ApiDiscovery.Url.Punycode
