/-!
# UTF-8

Text as octets.  `decode` accepts exactly well-formed sequences; `decodeLossy`
reads any sequence, giving U+FFFD for every maximal run that could have begun
a character but did not finish it, and for every octet that begins none.  Both
are read off `pieces`, one pass of a small machine over the octets.
-/

namespace ApiDiscovery.Text.Utf8

def octetCount : List Char → Nat
  | [] => 0
  | c :: rest => c.utf8Size + octetCount rest

def encode (text : List Char) : List UInt8 :=
  text.flatMap String.utf8EncodeChar

/--
A character begun but not finished: the bits gathered so far, how many octets
are owed after the next one, and the bounds that the next one must keep.
-/
structure Pending where
  gathered : Nat
  owedAfter : Nat
  low : Nat
  high : Nat
deriving DecidableEq, Repr

/-- The character that a first octet begins, finished or not; `none` for an octet that begins none. -/
def first (octet : Nat) : Option (Char ⊕ Pending) :=
  if octet < 0x80 then some (.inl (Char.ofNat octet))
  else if octet < 0xC2 then none
  else if octet < 0xE0 then some (.inr ⟨octet - 0xC0, 0, 0x80, 0xBF⟩)
  else if octet < 0xF0 then
    some (.inr ⟨octet - 0xE0, 1, if octet = 0xE0 then 0xA0 else 0x80,
      if octet = 0xED then 0x9F else 0xBF⟩)
  else if octet < 0xF5 then
    some (.inr ⟨octet - 0xF0, 2, if octet = 0xF0 then 0x90 else 0x80,
      if octet = 0xF4 then 0x8F else 0xBF⟩)
  else none

/-- What a first octet yields at once, with `none` standing for an ill-formed piece. -/
def opening (octet : Nat) : List (Option Char) × Option Pending :=
  match first octet with
  | none => ([none], none)
  | some (.inl c) => ([some c], none)
  | some (.inr pending) => ([], some pending)

/-- One octet more: the pieces it completes and the character left open. -/
def step : Option Pending → Nat → List (Option Char) × Option Pending
  | none, octet => opening octet
  | some pending, octet =>
      if pending.low ≤ octet ∧ octet ≤ pending.high then
        let gathered := pending.gathered * 64 + octet % 64
        match pending.owedAfter with
        | 0 => ([some (Char.ofNat gathered)], none)
        | owed + 1 => ([], some ⟨gathered, owed, 0x80, 0xBF⟩)
      else
        ((none :: (opening octet).1), (opening octet).2)

/-- The characters of a sequence in order, `none` for each ill-formed piece. -/
def pieces : Option Pending → List UInt8 → List (Option Char)
  | none, [] => []
  | some _, [] => [none]
  | state, octet :: rest =>
      (step state octet.toNat).1 ++ pieces (step state octet.toNat).2 rest

def decode (octets : List UInt8) : Option (List Char) :=
  (pieces none octets).mapM id

/-- The text that the octets encode, U+FFFD standing for each ill-formed piece. -/
def decodeLossy (octets : List UInt8) : List Char :=
  (pieces none octets).map (·.getD '\uFFFD')

end ApiDiscovery.Text.Utf8
