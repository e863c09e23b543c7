import VectorIndex.Bytes

/-!
# The checksum XXH3-64

The 64-bit variant of the hash XXH3 with seed zero and its default secret.  Inputs of
up to 16, 128 and 240 octets are mixed in one go; longer ones go through eight lanes in
stripes of 64 octets, which are scrambled after every block of sixteen stripes.
-/

set_option autoImplicit false

namespace VectorIndex.Xxh3

/-- The default secret. -/
def secret : Array UInt8 := #[
  0xb8, 0xfe, 0x6c, 0x39, 0x23, 0xa4, 0x4b, 0xbe, 0x7c, 0x01, 0x81, 0x2c, 0xf7, 0x21, 0xad, 0x1c,
  0xde, 0xd4, 0x6d, 0xe9, 0x83, 0x90, 0x97, 0xdb, 0x72, 0x40, 0xa4, 0xa4, 0xb7, 0xb3, 0x67, 0x1f,
  0xcb, 0x79, 0xe6, 0x4e, 0xcc, 0xc0, 0xe5, 0x78, 0x82, 0x5a, 0xd0, 0x7d, 0xcc, 0xff, 0x72, 0x21,
  0xb8, 0x08, 0x46, 0x74, 0xf7, 0x43, 0x24, 0x8e, 0xe0, 0x35, 0x90, 0xe6, 0x81, 0x3a, 0x26, 0x4c,
  0x3c, 0x28, 0x52, 0xbb, 0x91, 0xc3, 0x00, 0xcb, 0x88, 0xd0, 0x65, 0x8b, 0x1b, 0x53, 0x2e, 0xa3,
  0x71, 0x64, 0x48, 0x97, 0xa2, 0x0d, 0xf9, 0x4e, 0x38, 0x19, 0xef, 0x46, 0xa9, 0xde, 0xac, 0xd8,
  0xa8, 0xfa, 0x76, 0x3f, 0xe3, 0x9c, 0x34, 0x3f, 0xf9, 0xdc, 0xbb, 0xc7, 0xc7, 0x0b, 0x4f, 0x1d,
  0x8a, 0x51, 0xe0, 0x4b, 0xcd, 0xb4, 0x59, 0x31, 0xc8, 0x9f, 0x7e, 0xc9, 0xd9, 0x78, 0x73, 0x64,
  0xea, 0xc5, 0xac, 0x83, 0x34, 0xd3, 0xeb, 0xc3, 0xc5, 0x81, 0xa0, 0xff, 0xfa, 0x13, 0x63, 0xeb,
  0x17, 0x0d, 0xdd, 0x51, 0xb7, 0xf0, 0xda, 0x49, 0xd3, 0x16, 0x55, 0x26, 0x29, 0xd4, 0x68, 0x9e,
  0x2b, 0x16, 0xbe, 0x58, 0x7d, 0x47, 0xa1, 0xfc, 0x8f, 0xf8, 0xb8, 0xd1, 0x7a, 0xd0, 0x31, 0xce,
  0x45, 0xcb, 0x3a, 0x8f, 0x95, 0x16, 0x04, 0x28, 0xaf, 0xd7, 0xfb, 0xca, 0xbb, 0x4b, 0x40, 0x7e]

/-! ## Primes -/

def prime32a : UInt64 := 0x9E3779B1
def prime32b : UInt64 := 0x85EBCA77
def prime32c : UInt64 := 0xC2B2AE3D
def prime64a : UInt64 := 0x9E3779B185EBCA87
def prime64b : UInt64 := 0xC2B2AE3D27D4EB4F
def prime64c : UInt64 := 0x165667B19E3779F9
def prime64d : UInt64 := 0x85EBCA77C2B2AE63
def prime64e : UInt64 := 0x27D4EB2F165667C5
def primeMixA : UInt64 := 0x165667919E3779F9
def primeMixB : UInt64 := 0x9FB21C651E98DF25

/-- The octet at an index, zero beyond the end. -/
def octet (a : Array UInt8) (i : Nat) : UInt64 :=
  (a.getD i 0).toUInt64

/-- Four octets as a little-endian word. -/
def word32 (a : Array UInt8) (i : Nat) : UInt64 :=
  octet a i ||| (octet a (i + 1) <<< 8) ||| (octet a (i + 2) <<< 16) ||| (octet a (i + 3) <<< 24)

/-- Eight octets as a little-endian word. -/
def word64 (a : Array UInt8) (i : Nat) : UInt64 :=
  word32 a i ||| (word32 a (i + 4) <<< 32)

/-- The two halves of a 128-bit product, combined by exclusive or. -/
def foldProduct (a b : UInt64) : UInt64 :=
  let p := a.toNat * b.toNat
  UInt64.ofNat p ^^^ UInt64.ofNat (p / 0x10000000000000000)

/-- A word rotated to the left. -/
def rotateLeft (x : UInt64) (r : UInt64) : UInt64 :=
  (x <<< r) ||| (x >>> (64 - r))

/-- The octets of a word in reverse order. -/
def reverseOctets (x : UInt64) : UInt64 :=
  (List.range 8).foldl (fun (y : UInt64) i => (y <<< 8) ||| ((x >>> UInt64.ofNat (8 * i)) &&& 0xFF)) 0

/-- The final mix of inputs of one to three octets. -/
def avalancheShort (h : UInt64) : UInt64 :=
  let h := (h ^^^ (h >>> 33)) * prime64b
  let h := (h ^^^ (h >>> 29)) * prime64c
  h ^^^ (h >>> 32)

/-- The final mix of inputs of more than eight octets. -/
def avalanche (h : UInt64) : UInt64 :=
  let h := (h ^^^ (h >>> 37)) * primeMixA
  h ^^^ (h >>> 32)

/-- The final mix of inputs of four to eight octets. -/
def avalancheWord (h size : UInt64) : UInt64 :=
  let h := (h ^^^ rotateLeft h 49 ^^^ rotateLeft h 24) * primeMixB
  let h := (h ^^^ ((h >>> 35) + size)) * primeMixB
  h ^^^ (h >>> 28)

/-- Sixteen octets mixed with sixteen octets of the secret. -/
def mix16 (a : Array UInt8) (i s : Nat) : UInt64 :=
  foldProduct (word64 a i ^^^ word64 secret s) (word64 a (i + 8) ^^^ word64 secret (s + 8))

/-- Inputs of at most sixteen octets. -/
def hashShort (a : Array UInt8) : UInt64 :=
  let n := a.size
  let size := UInt64.ofNat n
  if n = 0 then avalancheShort (word64 secret 56 ^^^ word64 secret 64)
  else if n ≤ 3 then
    let combined := (octet a 0 <<< 16) ||| (octet a (n / 2) <<< 24) ||| octet a (n - 1) |||
      (size <<< 8)
    avalancheShort (combined ^^^ (word32 secret 0 ^^^ word32 secret 4))
  else if n ≤ 8 then
    let combined := word32 a (n - 4) + (word32 a 0 <<< 32)
    avalancheWord (combined ^^^ (word64 secret 8 ^^^ word64 secret 16)) size
  else
    let low := word64 a 0 ^^^ (word64 secret 24 ^^^ word64 secret 32)
    let high := word64 a (n - 8) ^^^ (word64 secret 40 ^^^ word64 secret 48)
    avalanche (size + reverseOctets low + high + foldProduct low high)

/-- Inputs of 17 to 128 octets: pairs of pieces from both ends, the innermost first. -/
def hashMedium (a : Array UInt8) : UInt64 :=
  let n := a.size
  let start := UInt64.ofNat n * prime64a
  let pairs := (n - 1) / 32 + 1
  avalanche <| (List.range pairs).foldl
    (fun acc i => acc + mix16 a (16 * i) (32 * i) + mix16 a (n - 16 * (i + 1)) (32 * i + 16)) start

/-- Inputs of 129 to 240 octets. -/
def hashLarge (a : Array UInt8) : UInt64 :=
  let n := a.size
  let start := UInt64.ofNat n * prime64a
  let first := avalanche <|
    (List.range 8).foldl (fun acc i => acc + mix16 a (16 * i) (16 * i)) start
  let rest := (List.range (n / 16 - 8)).foldl
    (fun acc i => acc + mix16 a (16 * (i + 8)) (16 * i + 3)) first
  avalanche (rest + mix16 a (n - 16) 119)

/-- Neighbouring entries exchanged. -/
def swapPairs : List UInt64 → List UInt64
  | x :: y :: rest => y :: x :: swapPairs rest
  | rest => rest

/-- One stripe added to the eight lanes, with the secret from an offset on. -/
def accumulate (a : Array UInt8) (i s : Nat) (lanes : List UInt64) : List UInt64 :=
  let data := (List.range 8).map fun k => word64 a (i + 8 * k)
  let keys := (List.range 8).map fun k => word64 secret (s + 8 * k)
  let keyed : List UInt64 := data.zipWith (· ^^^ ·) keys
  let products : List UInt64 := keyed.map fun k => (k &&& (0xFFFFFFFF : UInt64)) * (k >>> (32 : UInt64))
  (lanes.zipWith (· + ·) (swapPairs data)).zipWith (· + ·) products

/-- The lanes scrambled after a block. -/
def scramble (lanes : List UInt64) : List UInt64 :=
  let keys := (List.range 8).map fun k => word64 secret (128 + 8 * k)
  lanes.zipWith (fun (lane key : UInt64) => (lane ^^^ (lane >>> 47) ^^^ key) * prime32a) keys

/-- The lanes combined into one word. -/
def merge (lanes : Array UInt64) (s : Nat) (start : UInt64) : UInt64 :=
  avalanche <| (List.range 4).foldl
    (fun acc i => acc + foldProduct
      (lanes.getD (2 * i) 0 ^^^ word64 secret (s + 16 * i))
      (lanes.getD (2 * i + 1) 0 ^^^ word64 secret (s + 16 * i + 8))) start

/-- Inputs of more than 240 octets. -/
def hashLong (a : Array UInt8) : UInt64 :=
  let n := a.size
  let stripes (block count : Nat) (lanes : List UInt64) : List UInt64 :=
    (List.range count).foldl (fun ls k => accumulate a (1024 * block + 64 * k) (8 * k) ls) lanes
  let start := [prime32c, prime64a, prime64b, prime64c, prime64d, prime32b, prime64e, prime32a]
  let blocks := (n - 1) / 1024
  let lanes := (List.range blocks).foldl (fun ls b => scramble (stripes b 16 ls)) start
  let lanes := stripes blocks ((n - 1 - 1024 * blocks) / 64) lanes
  let lanes := accumulate a (n - 64) 121 lanes
  merge lanes.toArray 11 (UInt64.ofNat n * prime64a)

/-- The checksum of a byte string. -/
def hash (bytes : Bytes) : UInt64 :=
  let a := bytes.toArray
  if a.size ≤ 16 then hashShort a
  else if a.size ≤ 128 then hashMedium a
  else if a.size ≤ 240 then hashLarge a
  else hashLong a

end VectorIndex.Xxh3
