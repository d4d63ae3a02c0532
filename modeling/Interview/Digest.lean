import Interview.Text.Digit

/-!
# Document digests

A document without a source reference is identified by the SHA-256 digest of its text in UTF-8.
The padded message is cut into blocks of sixteen words, and each block is mixed into a state of
eight words by sixty-four rounds.
-/

namespace Interview.Digest

/-- The eight words of the running digest. -/
structure State where
  a : UInt32
  b : UInt32
  c : UInt32
  d : UInt32
  e : UInt32
  f : UInt32
  g : UInt32
  h : UInt32

/-- The state before the first block: the leading fraction bits of the square roots of the first
eight primes. -/
def State.initial : State :=
  ⟨0x6a09e667, 0xbb67ae85, 0x3c6ef372, 0xa54ff53a, 0x510e527f, 0x9b05688c, 0x1f83d9ab, 0x5be0cd19⟩

/-- The word added in each round: the leading fraction bits of the cube roots of the first
sixty-four primes. -/
def roundWords : List UInt32 :=
  [0x428a2f98, 0x71374491, 0xb5c0fbcf, 0xe9b5dba5, 0x3956c25b, 0x59f111f1, 0x923f82a4, 0xab1c5ed5,
   0xd807aa98, 0x12835b01, 0x243185be, 0x550c7dc3, 0x72be5d74, 0x80deb1fe, 0x9bdc06a7, 0xc19bf174,
   0xe49b69c1, 0xefbe4786, 0x0fc19dc6, 0x240ca1cc, 0x2de92c6f, 0x4a7484aa, 0x5cb0a9dc, 0x76f988da,
   0x983e5152, 0xa831c66d, 0xb00327c8, 0xbf597fc7, 0xc6e00bf3, 0xd5a79147, 0x06ca6351, 0x14292967,
   0x27b70a85, 0x2e1b2138, 0x4d2c6dfc, 0x53380d13, 0x650a7354, 0x766a0abb, 0x81c2c92e, 0x92722c85,
   0xa2bfe8a1, 0xa81a664b, 0xc24b8b70, 0xc76c51a3, 0xd192e819, 0xd6990624, 0xf40e3585, 0x106aa070,
   0x19a4c116, 0x1e376c08, 0x2748774c, 0x34b0bcb5, 0x391c0cb3, 0x4ed8aa4a, 0x5b9cca4f, 0x682e6ff3,
   0x748f82ee, 0x78a5636f, 0x84c87814, 0x8cc70208, 0x90befffa, 0xa4506ceb, 0xbef9a3f7, 0xc67178f2]

/-- A word rotated to the right. -/
def rotate (word amount : UInt32) : UInt32 :=
  (word >>> amount) ||| (word <<< (32 - amount))

/-- One round: the round's word and the message word are mixed into the state. -/
def State.round (s : State) (roundWord messageWord : UInt32) : State :=
  let sum := rotate s.e 6 ^^^ rotate s.e 11 ^^^ rotate s.e 25
  let choice := (s.e &&& s.f) ^^^ ((~~~ s.e) &&& s.g)
  let first := s.h + sum + choice + roundWord + messageWord
  let spread := rotate s.a 2 ^^^ rotate s.a 13 ^^^ rotate s.a 22
  let majority := (s.a &&& s.b) ^^^ (s.a &&& s.c) ^^^ (s.b &&& s.c)
  ⟨first + (spread + majority), s.a, s.b, s.c, s.d + first, s.e, s.f, s.g⟩

/-- The rounds of one block. The message words after the sixteenth are made from the sixteen before
them, which `window` holds in order. -/
def State.rounds (s : State) : (window : List UInt32) → (roundWords : List UInt32) → State
  | _, [] => s
  | [], _ => s
  | word :: others, roundWord :: roundWords =>
    let near := others.getD 13 0
    let far := others.getD 0 0
    let nearMix := rotate near 17 ^^^ rotate near 19 ^^^ (near >>> 10)
    let farMix := rotate far 7 ^^^ rotate far 18 ^^^ (far >>> 3)
    let next := word + farMix + others.getD 8 0 + nearMix
    (s.round roundWord word).rounds (others ++ [next]) roundWords

/-- The state after one block of sixteen words. -/
def State.block (s : State) (words : List UInt32) : State :=
  let t := s.rounds words roundWords
  ⟨s.a + t.a, s.b + t.b, s.c + t.c, s.d + t.d, s.e + t.e, s.f + t.f, s.g + t.g, s.h + t.h⟩

/-- Four octets as one word, most significant octet first. -/
def words : List UInt8 → List UInt32
  | a :: b :: c :: d :: rest =>
    ((a.toUInt32 <<< 24) ||| (b.toUInt32 <<< 16) ||| (c.toUInt32 <<< 8) ||| d.toUInt32) ::
      words rest
  | _ => []

/-- The message followed by a marker bit, zeros, and its length in bits as eight octets, so that it
fills whole blocks. -/
def padded (octets : List UInt8) : List UInt8 :=
  let length := octets.length
  let zeros := (119 - length % 64) % 64
  let lengthOctets := (List.range 8).map fun place =>
    UInt8.ofNat (length * 8 / Nat.pow 256 (7 - place))
  octets ++ [0x80] ++ List.replicate zeros 0 ++ lengthOctets

/-- The blocks of a list of words, mixed in one after the other. -/
def State.blocks (s : State) : (fuel : Nat) → (words : List UInt32) → State
  | 0, _ => s
  | _, [] => s
  | fuel + 1, words => (s.block (words.take 16)).blocks fuel (words.drop 16)

/-- The state after a whole message. -/
def digest (octets : List UInt8) : State :=
  let message := words (padded octets)
  State.initial.blocks message.length message

/-- The sixty-four hexadecimal digits of a digest. -/
def State.hex (s : State) : String :=
  .ofList ([s.a, s.b, s.c, s.d, s.e, s.f, s.g, s.h].flatMap fun word => Text.hex 8 word.toNat)

/-- The digest of a text in UTF-8, in hexadecimal. -/
def ofText (text : String) : String :=
  (digest text.toUTF8.toList).hex

end Interview.Digest
