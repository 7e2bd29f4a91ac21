/-
This file computes the SHA-1 digest of a byte string.
-/
import PathStore.Bytes

namespace PathStore.Sha1

/-- The five words that the compression of a block updates. -/
structure State where
  a : UInt32
  b : UInt32
  c : UInt32
  d : UInt32
  e : UInt32

def initial : State := ⟨0x67452301, 0xEFCDAB89, 0x98BADCFE, 0x10325476, 0xC3D2E1F0⟩

def rotateLeft (word : UInt32) (count : UInt32) : UInt32 :=
  (word <<< count) ||| (word >>> (32 - count))

/-- The big-endian words of a byte string whose length is a multiple of four. -/
def words : Bytes → List UInt32
  | first :: second :: third :: fourth :: rest =>
      (first.toUInt32 <<< 24 ||| second.toUInt32 <<< 16 ||| third.toUInt32 <<< 8 ||| fourth.toUInt32) :: words rest
  | _ => []

/-- The given number of further words of the message schedule. -/
def extendSchedule : Nat → Array UInt32 → Array UInt32
  | 0, schedule => schedule
  | count + 1, schedule =>
      let earlier (distance : Nat) : UInt32 := schedule.getD (schedule.size - distance) 0
      extendSchedule count
        (schedule.push (rotateLeft (earlier 3 ^^^ earlier 8 ^^^ earlier 14 ^^^ earlier 16) 1))

/-- One round, with the function and the constant of its quarter. -/
def round (index : Nat) (word : UInt32) (state : State) : State :=
  let ⟨a, b, c, d, e⟩ := state
  let (mixed, constant) :=
    if index < 20 then ((b &&& c) ||| (~~~b &&& d), (0x5A827999 : UInt32))
    else if index < 40 then (b ^^^ c ^^^ d, 0x6ED9EBA1)
    else if index < 60 then ((b &&& c) ||| (b &&& d) ||| (c &&& d), 0x8F1BBCDC)
    else (b ^^^ c ^^^ d, 0xCA62C1D6)
  ⟨rotateLeft a 5 + mixed + e + constant + word, a, rotateLeft b 30, c, d⟩

/-- The rounds that remain of the eighty. -/
def rounds (schedule : Array UInt32) : Nat → State → State
  | 0, state => state
  | remaining + 1, state =>
      rounds schedule remaining (round (79 - remaining) (schedule.getD (79 - remaining) 0) state)

def compress (block : Bytes) (state : State) : State :=
  let mixed := rounds (extendSchedule 64 (words block).toArray) 80 state
  ⟨state.a + mixed.a, state.b + mixed.b, state.c + mixed.c, state.d + mixed.d, state.e + mixed.e⟩

/-- The given number of bytes of a number, the most significant first. -/
def bigEndian (count value : Nat) : Bytes :=
  (List.range count).map fun index => UInt8.ofNat (value / Nat.pow 256 (count - 1 - index))

/-- The message, a one bit, zeros and the length in bits, which together fill whole blocks. -/
def pad (message : Bytes) : Bytes :=
  message ++ 0x80 :: Bytes.zeros ((119 - message.length % 64) % 64) ++ bigEndian 8 (8 * message.length)

/-- The state after the given number of blocks. -/
def absorb : Nat → Bytes → State → State
  | 0, _, state => state
  | count + 1, message, state => absorb count (message.drop 64) (compress (message.take 64) state)

/-- The twenty bytes of the digest. -/
def digest (message : Bytes) : Bytes :=
  let padded := pad message
  let final := absorb (padded.length / 64) padded initial
  [final.a, final.b, final.c, final.d, final.e].flatMap fun word => bigEndian 4 word.toNat

end PathStore.Sha1
