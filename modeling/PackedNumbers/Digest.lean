import PackedNumbers.Record

/-!
A 64-bit digest of bytes: the XXH3 hash with seed zero and its default secret.
-/
namespace PackedNumbers.Digest

def secret : List UInt8 :=
  [0xb8, 0xfe, 0x6c, 0x39, 0x23, 0xa4, 0x4b, 0xbe, 0x7c, 0x01, 0x81, 0x2c, 0xf7, 0x21, 0xad, 0x1c,
    0xde, 0xd4, 0x6d, 0xe9, 0x83, 0x90, 0x97, 0xdb, 0x72, 0x40, 0xa4, 0xa4, 0xb7, 0xb3, 0x67, 0x1f,
    0xcb, 0x79, 0xe6, 0x4e, 0xcc, 0xc0, 0xe5, 0x78, 0x82, 0x5a, 0xd0, 0x7d, 0xcc, 0xff, 0x72, 0x21,
    0xb8, 0x08, 0x46, 0x74, 0xf7, 0x43, 0x24, 0x8e, 0xe0, 0x35, 0x90, 0xe6, 0x81, 0x3a, 0x26, 0x4c,
    0x3c, 0x28, 0x52, 0xbb, 0x91, 0xc3, 0x00, 0xcb, 0x88, 0xd0, 0x65, 0x8b, 0x1b, 0x53, 0x2e, 0xa3,
    0x71, 0x64, 0x48, 0x97, 0xa2, 0x0d, 0xf9, 0x4e, 0x38, 0x19, 0xef, 0x46, 0xa9, 0xde, 0xac, 0xd8,
    0xa8, 0xfa, 0x76, 0x3f, 0xe3, 0x9c, 0x34, 0x3f, 0xf9, 0xdc, 0xbb, 0xc7, 0xc7, 0x0b, 0x4f, 0x1d,
    0x8a, 0x51, 0xe0, 0x4b, 0xcd, 0xb4, 0x59, 0x31, 0xc8, 0x9f, 0x7e, 0xc9, 0xd9, 0x78, 0x73, 0x64,
    0xea, 0xc5, 0xac, 0x83, 0x34, 0xd3, 0xeb, 0xc3, 0xc5, 0x81, 0xa0, 0xff, 0xfa, 0x13, 0x63, 0xeb,
    0x17, 0x0d, 0xdd, 0x51, 0xb7, 0xf0, 0xda, 0x49, 0xd3, 0x16, 0x55, 0x26, 0x29, 0xd4, 0x68, 0x9e,
    0x2b, 0x16, 0xbe, 0x58, 0x7d, 0x47, 0xa1, 0xfc, 0x8f, 0xf8, 0xb8, 0xd1, 0x7a, 0xd0, 0x31, 0xce,
    0x45, 0xcb, 0x3a, 0x8f, 0x95, 0x16, 0x04, 0x28, 0xaf, 0xd7, 0xfb, 0xca, 0xbb, 0x4b, 0x40, 0x7e]

def word (bytes : List UInt8) (offset : Nat) : UInt64 :=
  .ofNat (LittleEndian.decode ((bytes.drop offset).take 8))

def halfWord (bytes : List UInt8) (offset : Nat) : UInt64 :=
  .ofNat (LittleEndian.decode ((bytes.drop offset).take 4))

def primes32 : Vector UInt64 3 := #v[0x9e3779b1, 0x85ebca77, 0xc2b2ae3d]

def primes64 : Vector UInt64 5 :=
  #v[0x9e3779b185ebca87, 0xc2b2ae3d27d4eb4f, 0x165667b19e3779f9, 0x85ebca77c2b2ae63,
    0x27d4eb2f165667c5]

def rotateLeft (value count : UInt64) : UInt64 := value <<< count ||| value >>> (64 - count)

def reverseBytes (value : UInt64) : UInt64 :=
  .ofNat (LittleEndian.decode (LittleEndian.encode 8 value.toNat).reverse)

def foldProduct (left right : UInt64) : UInt64 :=
  let product := left.toNat * right.toNat
  .ofNat product ^^^ .ofNat (product / 2 ^ 64)

def shortAvalanche (hash : UInt64) : UInt64 :=
  let hash := (hash ^^^ hash >>> 33) * primes64[1]
  let hash := (hash ^^^ hash >>> 29) * primes64[2]
  hash ^^^ hash >>> 32

def avalanche (hash : UInt64) : UInt64 :=
  let hash := (hash ^^^ hash >>> 37) * 0x165667919e3779f9
  hash ^^^ hash >>> 32

def strongAvalanche (hash size : UInt64) : UInt64 :=
  let hash := (hash ^^^ rotateLeft hash 49 ^^^ rotateLeft hash 24) * 0x9fb21c651e98df25
  let hash := (hash ^^^ (hash >>> 35 + size)) * 0x9fb21c651e98df25
  hash ^^^ hash >>> 28

def upTo3 (bytes : List UInt8) : UInt64 :=
  match bytes with
  | [] => shortAvalanche (word secret 56 ^^^ word secret 64)
  | first :: _ =>
    let size := bytes.length
    let middle := bytes.getD (size / 2) 0
    let last := bytes.getD (size - 1) 0
    let input := first.toUInt64 <<< 16 ||| middle.toUInt64 <<< 24 ||| last.toUInt64 |||
      UInt64.ofNat size <<< 8
    shortAvalanche (input ^^^ (halfWord secret 0 ^^^ halfWord secret 4))

def from4To8 (bytes : List UInt8) : UInt64 :=
  let size := bytes.length
  let input := halfWord bytes (size - 4) + halfWord bytes 0 <<< 32
  strongAvalanche (input ^^^ (word secret 8 ^^^ word secret 16)) (.ofNat size)

def from9To16 (bytes : List UInt8) : UInt64 :=
  let size := bytes.length
  let low := word bytes 0 ^^^ (word secret 24 ^^^ word secret 32)
  let high := word bytes (size - 8) ^^^ (word secret 40 ^^^ word secret 48)
  avalanche (.ofNat size + reverseBytes low + high + foldProduct low high)

def mix (bytes : List UInt8) (offset secretOffset : Nat) : UInt64 :=
  foldProduct (word bytes offset ^^^ word secret secretOffset)
    (word bytes (offset + 8) ^^^ word secret (secretOffset + 8))

def sum (terms : List UInt64) : UInt64 := terms.foldl (· + ·) 0

def from17To128 (bytes : List UInt8) : UInt64 :=
  let size := bytes.length
  let pairs := (List.range ((size - 1) / 32 + 1)).map fun pair =>
    mix bytes (16 * pair) (32 * pair) + mix bytes (size - 16 * (pair + 1)) (32 * pair + 16)
  avalanche (.ofNat size * primes64[0] + sum pairs)

/-- Sixteen bytes at a time; after eight rounds the secret is read again from its fourth byte. -/
def from129To240 (bytes : List UInt8) : UInt64 :=
  let size := bytes.length
  let early := (List.range 8).map fun round => mix bytes (16 * round) (16 * round)
  let late := (List.range (size / 16 - 8)).map fun round =>
    mix bytes (16 * (round + 8)) (16 * round + 3)
  let start := avalanche (.ofNat size * primes64[0] + sum early)
  avalanche (start + sum late + mix bytes (size - 16) 119)

abbrev Lanes := Vector UInt64 8

def initialLanes : Lanes :=
  #v[primes32[2], primes64[0], primes64[1], primes64[2], primes64[3], primes32[1], primes64[4],
    primes32[0]]

def accumulate (lanes : Lanes) (stripe : List UInt8) (secretOffset : Nat) : Lanes :=
  lanes.mapFinIdx fun lane value _ =>
    let key := word stripe (8 * lane) ^^^ word secret (secretOffset + 8 * lane)
    let low : UInt64 := key &&& 0xffffffff
    let high : UInt64 := key >>> 32
    value + word stripe (8 * (lane ^^^ 1)) + low * high

def scramble (lanes : Lanes) : Lanes :=
  lanes.mapFinIdx fun lane value _ =>
    (value ^^^ value >>> 47 ^^^ word secret (128 + 8 * lane)) * primes32[0]

/-- Takes in whole stripes of 64 bytes, and scrambles after each sixteenth. -/
def stripes (lanes : Lanes) (bytes : List UInt8) (index : Nat) : (count : Nat) → Lanes
  | 0 => lanes
  | count + 1 =>
    let next := accumulate lanes (bytes.take 64) (8 * (index % 16))
    stripes (if index % 16 = 15 then scramble next else next) (bytes.drop 64) (index + 1) count

def above240 (bytes : List UInt8) : UInt64 :=
  let size := bytes.length
  let lanes := stripes initialLanes bytes 0 ((size - 1) / 64)
  let lanes := accumulate lanes (bytes.drop (size - 64)) 121
  let pairs := List.ofFn fun pair : Fin 4 =>
    foldProduct (lanes[2 * pair.val] ^^^ word secret (11 + 16 * pair.val))
      (lanes[2 * pair.val + 1] ^^^ word secret (19 + 16 * pair.val))
  avalanche (.ofNat size * primes64[0] + sum pairs)

def ofBytes (bytes : List UInt8) : UInt64 :=
  let size := bytes.length
  if size ≤ 3 then upTo3 bytes
  else if size ≤ 8 then from4To8 bytes
  else if size ≤ 16 then from9To16 bytes
  else if size ≤ 128 then from17To128 bytes
  else if size ≤ 240 then from129To240 bytes
  else above240 bytes

end PackedNumbers.Digest

namespace PackedNumbers.Packed

def digest (vector : Packed) : UInt64 := Digest.ofBytes (Record.encode vector)

end PackedNumbers.Packed
