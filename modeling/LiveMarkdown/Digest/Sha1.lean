import LiveMarkdown.Text.Hex

/-!
# SHA-1

The digest of a list of bytes, as the standard defines it: the message is padded to whole blocks of
sixteen words, and each block is mixed into five words of state in eighty rounds.
-/

namespace LiveMarkdown.Sha1

/-- The five words that are carried from block to block. -/
structure State where
  a : UInt32
  b : UInt32
  c : UInt32
  d : UInt32
  e : UInt32

/-- The state before the first block. -/
def State.initial : State :=
  ⟨0x67452301, 0xEFCDAB89, 0x98BADCFE, 0x10325476, 0xC3D2E1F0⟩

/-- The word turned left by `n` bits. -/
def rotate (n : UInt32) (x : UInt32) : UInt32 := (x <<< n) ||| (x >>> (32 - n))

/-- The `count` lowest bytes of a number, most significant first. -/
def bigEndian : (count : Nat) → Nat → List UInt8
  | 0, _ => []
  | count + 1, n => bigEndian count (n / 256) ++ [UInt8.ofNat (n % 256)]

/-- The message, a one bit, as many zeros as fill the block, and the length in bits. -/
def pad (message : List UInt8) : List UInt8 :=
  message ++ 0x80 :: List.replicate ((119 - message.length % 64) % 64) 0 ++
    bigEndian 8 (8 * message.length)

/-- Bytes taken four at a time as words. -/
def words : List UInt8 → List UInt32
  | b₀ :: b₁ :: b₂ :: b₃ :: rest =>
    ((b₀.toUInt32 <<< 24) ||| (b₁.toUInt32 <<< 16) ||| (b₂.toUInt32 <<< 8) ||| b₃.toUInt32) ::
      words rest
  | _ => []

/-- A list cut into pieces of sixteen, `count` of them. -/
def blocks : (count : Nat) → List UInt32 → List (List UInt32)
  | 0, _ => []
  | count + 1, ws => ws.take 16 :: blocks count (ws.drop 16)

/-- The schedule grown by `count` words. It is kept last word first, so that the words three, eight,
fourteen and sixteen steps back stand at fixed places. -/
def extend : (count : Nat) → List UInt32 → List UInt32
  | 0, schedule => schedule
  | count + 1, schedule =>
    let word (i : Nat) : UInt32 := schedule.getD i 0
    extend count (rotate 1 (word 2 ^^^ word 7 ^^^ word 13 ^^^ word 15) :: schedule)

/-- One round, numbered `t`, with the word `w` of the schedule. -/
def round (s : State) (t : Nat) (w : UInt32) : State :=
  let (f, k) : UInt32 × UInt32 :=
    if t < 20 then ((s.b &&& s.c) ||| (~~~s.b &&& s.d), 0x5A827999)
    else if t < 40 then (s.b ^^^ s.c ^^^ s.d, 0x6ED9EBA1)
    else if t < 60 then ((s.b &&& s.c) ||| (s.b &&& s.d) ||| (s.c &&& s.d), 0x8F1BBCDC)
    else (s.b ^^^ s.c ^^^ s.d, 0xCA62C1D6)
  ⟨rotate 5 s.a + f + s.e + k + w, s.a, rotate 30 s.b, s.c, s.d⟩

/-- The rounds from number `t` on. -/
def rounds (t : Nat) (s : State) : List UInt32 → State
  | [] => s
  | w :: rest => rounds (t + 1) (round s t w) rest

/-- One block mixed into the state. -/
def State.absorb (s : State) (block : List UInt32) : State :=
  let r := rounds 0 s (extend 64 block.reverse).reverse
  ⟨s.a + r.a, s.b + r.b, s.c + r.c, s.d + r.d, s.e + r.e⟩

/-- The five words of the digest. -/
def digest (message : List UInt8) : State :=
  let ws := words (pad message)
  (blocks (ws.length / 16) ws).foldl State.absorb .initial

/-- The digest in hexadecimal. -/
def State.hex (s : State) : Text :=
  [s.a, s.b, s.c, s.d, s.e].flatMap fun w => Text.hexDigits 8 w.toNat

/-- The digest of a message in hexadecimal, forty characters. -/
def hexDigest (message : List UInt8) : Text := (digest message).hex

/-- A digest has forty digits. -/
theorem hexDigest_length (message : List UInt8) : (hexDigest message).length = 40 := by
  simp [hexDigest, State.hex, Text.hexDigits_length]

end LiveMarkdown.Sha1
