/-!
# The digest SHA-256

The digest of a list of bytes: the bytes are padded to whole blocks of 64, and each block is mixed
into eight 32-bit words by 64 rounds. The result is the eight words, as 32 bytes.
-/

namespace GuestImage.Sha256

/-- The eight working words. -/
structure Words where
  a : UInt32
  b : UInt32
  c : UInt32
  d : UInt32
  e : UInt32
  f : UInt32
  g : UInt32
  h : UInt32
  deriving DecidableEq, Repr

/-- The words before the first block: the fractional parts of the square roots of the first eight
primes. -/
def Words.initial : Words :=
  ⟨0x6a09e667, 0xbb67ae85, 0x3c6ef372, 0xa54ff53a,
    0x510e527f, 0x9b05688c, 0x1f83d9ab, 0x5be0cd19⟩

/-- The constants of the rounds: the fractional parts of the cube roots of the first 64 primes. -/
def roundConstants : Array UInt32 :=
  #[
    0x428a2f98, 0x71374491, 0xb5c0fbcf, 0xe9b5dba5, 0x3956c25b, 0x59f111f1, 0x923f82a4, 0xab1c5ed5,
    0xd807aa98, 0x12835b01, 0x243185be, 0x550c7dc3, 0x72be5d74, 0x80deb1fe, 0x9bdc06a7, 0xc19bf174,
    0xe49b69c1, 0xefbe4786, 0x0fc19dc6, 0x240ca1cc, 0x2de92c6f, 0x4a7484aa, 0x5cb0a9dc, 0x76f988da,
    0x983e5152, 0xa831c66d, 0xb00327c8, 0xbf597fc7, 0xc6e00bf3, 0xd5a79147, 0x06ca6351, 0x14292967,
    0x27b70a85, 0x2e1b2138, 0x4d2c6dfc, 0x53380d13, 0x650a7354, 0x766a0abb, 0x81c2c92e, 0x92722c85,
    0xa2bfe8a1, 0xa81a664b, 0xc24b8b70, 0xc76c51a3, 0xd192e819, 0xd6990624, 0xf40e3585, 0x106aa070,
    0x19a4c116, 0x1e376c08, 0x2748774c, 0x34b0bcb5, 0x391c0cb3, 0x4ed8aa4a, 0x5b9cca4f, 0x682e6ff3,
    0x748f82ee, 0x78a5636f, 0x84c87814, 0x8cc70208, 0x90befffa, 0xa4506ceb, 0xbef9a3f7, 0xc67178f2]

/-- Rotate a word to the right. -/
def rotate (word : UInt32) (amount : UInt32) : UInt32 :=
  (word >>> amount) ||| (word <<< (32 - amount))

/-- The four bytes of a word, the most significant first. -/
def bytesOfWord (word : UInt32) : List UInt8 :=
  [(word >>> 24).toUInt8, (word >>> 16).toUInt8, (word >>> 8).toUInt8, word.toUInt8]

/-- The words that groups of four bytes spell, the most significant byte first. -/
def wordsOfBytes : List UInt8 → List UInt32
  | first :: second :: third :: fourth :: rest =>
      ((first.toUInt32 <<< 24) ||| (second.toUInt32 <<< 16) ||| (third.toUInt32 <<< 8) |||
        fourth.toUInt32) :: wordsOfBytes rest
  | _ => []

/-- Add the next word to a message schedule. -/
def extendSchedule (schedule : Array UInt32) : Array UInt32 :=
  let back (distance : Nat) : UInt32 := schedule.getD (schedule.size - distance) 0
  let small := rotate (back 15) 7 ^^^ rotate (back 15) 18 ^^^ (back 15 >>> 3)
  let large := rotate (back 2) 17 ^^^ rotate (back 2) 19 ^^^ (back 2 >>> 10)
  schedule.push (back 16 + small + back 7 + large)

/-- The 64 words that the rounds of one block use. -/
def schedule (block : List UInt8) : Array UInt32 :=
  (List.range 48).foldl (fun words _ => extendSchedule words) (wordsOfBytes block).toArray

/-- One round. -/
def round (words : Words) (constant scheduled : UInt32) : Words :=
  let choice := (words.e &&& words.f) ^^^ (~~~words.e &&& words.g)
  let majority := (words.a &&& words.b) ^^^ (words.a &&& words.c) ^^^ (words.b &&& words.c)
  let low := rotate words.e 6 ^^^ rotate words.e 11 ^^^ rotate words.e 25
  let high := rotate words.a 2 ^^^ rotate words.a 13 ^^^ rotate words.a 22
  let mixed := words.h + low + choice + constant + scheduled
  ⟨mixed + high + majority, words.a, words.b, words.c, words.d + mixed, words.e, words.f, words.g⟩

/-- Mix one block of 64 bytes into the words. -/
def compress (words : Words) (block : List UInt8) : Words :=
  let mixed := (roundConstants.zip (schedule block)).foldl
    (fun current pair => round current pair.1 pair.2) words
  ⟨words.a + mixed.a, words.b + mixed.b, words.c + mixed.c, words.d + mixed.d,
    words.e + mixed.e, words.f + mixed.f, words.g + mixed.g, words.h + mixed.h⟩

/-- A message of whole blocks: the bytes, a one bit, zeros, and the number of bits in 64 bits. -/
def pad (message : List UInt8) : List UInt8 :=
  let bits := 8 * message.length
  message ++ 0x80 :: List.replicate ((119 - message.length % 64) % 64) 0 ++
    bytesOfWord (bits / UInt32.size).toUInt32 ++ bytesOfWord bits.toUInt32

/-- Mix a message of whole blocks into the words. -/
def absorb (words : Words) (message : List UInt8) : Words :=
  match message with
  | [] => words
  | first :: rest => absorb (compress words ((first :: rest).take 64)) ((first :: rest).drop 64)
termination_by message.length
decreasing_by simp only [List.length_drop, List.length_cons]; omega

/-- The bytes of the eight words. -/
def Words.bytes (words : Words) : List UInt8 :=
  [words.a, words.b, words.c, words.d, words.e, words.f, words.g, words.h].flatMap bytesOfWord

/-- The digest of a list of bytes. -/
def digest (message : List UInt8) : List UInt8 :=
  (absorb .initial (pad message)).bytes

@[simp] theorem length_digest (message : List UInt8) : (digest message).length = 32 := rfl

end GuestImage.Sha256
