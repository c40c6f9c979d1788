/-!
SipHash-1-3, the keyed hash with one compression round per word and three finalization rounds,
over 64-bit words in little-endian order. Texts are hashed as their UTF-8 bytes followed by the
byte `0xff`, so that no text hashes like a prefix of another. The client hashes routing keys
with both keys zero.
-/

namespace BrokerClient.Hash

/-- The four words of the hash state. -/
structure SipState where
  v0 : UInt64
  v1 : UInt64
  v2 : UInt64
  v3 : UInt64

/-- Rotates a word left by `n` bits. -/
def rotl (x : UInt64) (n : UInt64) : UInt64 := (x <<< n) ||| (x >>> (64 - n))

/-- One SipRound. -/
def SipState.round (s : SipState) : SipState :=
  let v0 := s.v0 + s.v1
  let v1 := rotl s.v1 13 ^^^ v0
  let v0 := rotl v0 32
  let v2 := s.v2 + s.v3
  let v3 := rotl s.v3 16 ^^^ v2
  let v0 := v0 + v3
  let v3 := rotl v3 21 ^^^ v0
  let v2 := v2 + v1
  let v1 := rotl v1 17 ^^^ v2
  let v2 := rotl v2 32
  ⟨v0, v1, v2, v3⟩

/-- Absorbs one word with one round. -/
def SipState.absorb (s : SipState) (m : UInt64) : SipState :=
  let s := { s with v3 := s.v3 ^^^ m }.round
  { s with v0 := s.v0 ^^^ m }

/-- A little-endian word of up to eight bytes. -/
def word (bs : List UInt8) : UInt64 :=
  bs.foldr (fun b acc => (acc <<< 8) ||| b.toUInt64) 0

/-- Absorbs the whole words of a message and returns the bytes left over. -/
def absorbWords : SipState → List UInt8 → SipState × List UInt8
  | s, b0 :: b1 :: b2 :: b3 :: b4 :: b5 :: b6 :: b7 :: rest =>
    absorbWords (s.absorb (word [b0, b1, b2, b3, b4, b5, b6, b7])) rest
  | s, rest => (s, rest)

/-- SipHash-1-3 of a message under the keys `k0` and `k1`. -/
def sipHash13 (k0 k1 : UInt64) (msg : List UInt8) : UInt64 :=
  let s : SipState := ⟨k0 ^^^ 0x736f6d6570736575, k1 ^^^ 0x646f72616e646f6d,
    k0 ^^^ 0x6c7967656e657261, k1 ^^^ 0x7465646279746573⟩
  let (s, rest) := absorbWords s msg
  let last := word rest ||| ((msg.length % 256).toUInt64 <<< 56)
  let s := s.absorb last
  let s := { s with v2 := s.v2 ^^^ 0xff }.round.round.round
  s.v0 ^^^ s.v1 ^^^ s.v2 ^^^ s.v3

/-- The hash of a text with both keys zero: its UTF-8 bytes, then `0xff`. -/
def textHash (s : String) : UInt64 :=
  sipHash13 0 0 (s.toUTF8.toList ++ [0xff])

end BrokerClient.Hash
