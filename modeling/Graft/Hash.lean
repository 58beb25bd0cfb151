set_option autoImplicit false

/-!
# A 64-bit hash of bytes

Long stretches of text are remembered by their hash. The hash mixes the bytes with a fixed secret:
short inputs in one step, inputs of a few hundred bytes in strides of sixteen, longer ones in eight
lanes over strides of sixty-four.
-/

namespace Graft.Hash

def prime32a : UInt64 := 0x9E3779B1
def prime32b : UInt64 := 0x85EBCA77
def prime32c : UInt64 := 0xC2B2AE3D
def prime64a : UInt64 := 0x9E3779B185EBCA87
def prime64b : UInt64 := 0xC2B2AE3D27D4EB4F
def prime64c : UInt64 := 0x165667B19E3779F9
def prime64d : UInt64 := 0x85EBCA77C2B2AE63
def prime64e : UInt64 := 0x27D4EB2F165667C5
def mixer1 : UInt64 := 0x165667919E3779F9
def mixer2 : UInt64 := 0x9FB21C651E98DF25

/-- The fixed secret. -/
def secret : ByteArray := ⟨#[
  0xb8, 0xfe, 0x6c, 0x39, 0x23, 0xa4, 0x4b, 0xbe, 0x7c, 0x01, 0x81, 0x2c, 0xf7, 0x21, 0xad, 0x1c,
  0xde, 0xd4, 0x6d, 0xe9, 0x83, 0x90, 0x97, 0xdb, 0x72, 0x40, 0xa4, 0xa4, 0xb7, 0xb3, 0x67, 0x1f,
  0xcb, 0x79, 0xe6, 0x4e, 0xcc, 0xc0, 0xe5, 0x78, 0x82, 0x5a, 0xd0, 0x7d, 0xcc, 0xff, 0x72, 0x21,
  0xb8, 0x08, 0x46, 0x74, 0xf7, 0x43, 0x24, 0x8e, 0xe0, 0x35, 0x90, 0xe6, 0x81, 0x3a, 0x26, 0x4c,
  0x3c, 0x28, 0x52, 0xbb, 0x91, 0xc3, 0x00, 0xcb, 0x88, 0xd0, 0x65, 0x8b, 0x1b, 0x53, 0x2e, 0xa3,
  0x71, 0x64, 0x48, 0x97, 0xa2, 0x0d, 0xf9, 0x4e, 0x38, 0x19, 0xef, 0x46, 0xa9, 0xde, 0xac, 0xd8,
  0xa8, 0xfa, 0x76, 0x3f, 0xe3, 0x9c, 0x34, 0x3f, 0xf9, 0xdc, 0xbb, 0xc7, 0xc7, 0x0b, 0x4f, 0x1d,
  0x8a, 0x51, 0xe0, 0x4b, 0xcd, 0xb4, 0x59, 0x31, 0xc8, 0x9f, 0x7e, 0xc9, 0xd9, 0x78, 0x73, 0x64,
  0xea, 0xc5, 0xac, 0x83, 0x34, 0xd3, 0xeb, 0xc3, 0xc5, 0x81, 0xa0, 0xff, 0xfa, 0x13, 0x63, 0xeb,
  0x17, 0x0d, 0xdd, 0x51, 0xb7, 0xf0, 0xda, 0x49, 0xd3, 0x16, 0x55, 0x26, 0x29, 0xd4, 0x68, 0x9e,
  0x2b, 0x16, 0xbe, 0x58, 0x7d, 0x47, 0xa1, 0xfc, 0x8f, 0xf8, 0xb8, 0xd1, 0x7a, 0xd0, 0x31, 0xce,
  0x45, 0xcb, 0x3a, 0x8f, 0x95, 0x16, 0x04, 0x28, 0xaf, 0xd7, 0xfb, 0xca, 0xbb, 0x4b, 0x40, 0x7e]⟩

/-! ## Reading and mixing words -/

/-- The byte at a place, zero behind the end. -/
def byteAt (bytes : ByteArray) (i : Nat) : UInt64 := (bytes.data.getD i 0).toUInt64

/-- The little-endian word of `n` bytes. -/
def word (bytes : ByteArray) (i : Nat) (n : Nat) : UInt64 :=
  (List.range n).foldl (fun acc k => acc ||| (byteAt bytes (i + k) <<< (8 * k).toUInt64)) 0

def word32 (bytes : ByteArray) (i : Nat) : UInt64 := word bytes i 4

def word64 (bytes : ByteArray) (i : Nat) : UInt64 := word bytes i 8

def rotateLeft (x : UInt64) (n : UInt64) : UInt64 := (x <<< n) ||| (x >>> (64 - n))

/-- The bytes of a word in the opposite order. -/
def swapBytes (x : UInt64) : UInt64 :=
  (List.range 8).foldl (fun acc k => (acc <<< 8) ||| ((x >>> (8 * k).toUInt64) &&& 0xFF)) 0

/-- Both halves of the full product, combined. -/
def foldedProduct (x y : UInt64) : UInt64 :=
  let product := x.toNat * y.toNat
  (product % 0x10000000000000000).toUInt64 ^^^ (product / 0x10000000000000000).toUInt64

/-- The last mixing of inputs of middle length and longer. -/
def finish (h : UInt64) : UInt64 :=
  let h := (h ^^^ (h >>> 37)) * mixer1
  h ^^^ (h >>> 32)

/-- The last mixing of the shortest inputs. -/
def finishShort (h : UInt64) : UInt64 :=
  let h := (h ^^^ (h >>> 33)) * prime64b
  let h := (h ^^^ (h >>> 29)) * prime64c
  h ^^^ (h >>> 32)

/-- Sixteen bytes of input with sixteen bytes of the secret. -/
def mix16 (bytes : ByteArray) (i key : Nat) : UInt64 :=
  foldedProduct (word64 bytes i ^^^ word64 secret key) (word64 bytes (i + 8) ^^^ word64 secret (key + 8))

/-! ## By length -/

/-- Up to sixteen bytes. -/
def short (bytes : ByteArray) : UInt64 :=
  let n := bytes.size
  let length := n.toUInt64
  if n == 0 then finishShort (word64 secret 56 ^^^ word64 secret 64)
  else if n ≤ 3 then
    let combined := (byteAt bytes 0 <<< 16) ||| (byteAt bytes (n / 2) <<< 24) ||| byteAt bytes (n - 1) |||
      (length <<< 8)
    finishShort (combined ^^^ (word32 secret 0 ^^^ word32 secret 4))
  else if n ≤ 8 then
    let input := word32 bytes (n - 4) + (word32 bytes 0 <<< 32)
    let h := input ^^^ (word64 secret 8 ^^^ word64 secret 16)
    let h := (h ^^^ rotateLeft h 49 ^^^ rotateLeft h 24) * mixer2
    let h := (h ^^^ ((h >>> 35) + length)) * mixer2
    h ^^^ (h >>> 28)
  else
    let low := word64 bytes 0 ^^^ (word64 secret 24 ^^^ word64 secret 32)
    let high := word64 bytes (n - 8) ^^^ (word64 secret 40 ^^^ word64 secret 48)
    finish (length + swapBytes low + high + foldedProduct low high)

/-- From 17 to 128 bytes: pairs of strides from both ends towards the middle. -/
def middle (bytes : ByteArray) : UInt64 :=
  let n := bytes.size
  let pairs := (n + 31) / 32
  finish ((List.range pairs).foldl (fun acc k =>
    acc + mix16 bytes (16 * k) (32 * k) + mix16 bytes (n - 16 * (k + 1)) (32 * k + 16)) (n.toUInt64 * prime64a))

/-- From 129 to 240 bytes. -/
def long (bytes : ByteArray) : UInt64 :=
  let n := bytes.size
  let start := (List.range 8).foldl (fun acc k => acc + mix16 bytes (16 * k) (16 * k)) (n.toUInt64 * prime64a)
  let rest := ((List.range (n / 16)).drop 8).foldl (fun acc k => acc + mix16 bytes (16 * k) (16 * (k - 8) + 3))
    (finish start)
  finish (rest + mix16 bytes (n - 16) 119)

/-- Eight lanes. -/
abbrev Lanes := Array UInt64

def startLanes : Lanes := #[prime32c, prime64a, prime64b, prime64c, prime64d, prime32b, prime64e, prime32a]

/-- Take in sixty-four bytes. -/
def absorb (bytes : ByteArray) (i key : Nat) (lanes : Lanes) : Lanes :=
  (List.range 8).foldl (fun (lanes : Lanes) k =>
    let value := word64 bytes (i + 8 * k)
    let keyed := value ^^^ word64 secret (key + 8 * k)
    let lanes := lanes.modify (k ^^^ 1) fun lane => lane + value
    lanes.modify k fun lane => lane + (keyed &&& (0xFFFFFFFF : UInt64)) * (keyed >>> 32)) lanes

/-- Mix the lanes after a block. -/
def scramble (lanes : Lanes) : Lanes :=
  lanes.mapIdx fun k (lane : UInt64) => (lane ^^^ (lane >>> 47) ^^^ word64 secret (128 + 8 * k)) * prime32a

/-- More than 240 bytes. -/
def veryLong (bytes : ByteArray) : UInt64 :=
  let n := bytes.size
  let blocks := (n - 1) / 1024
  let stripes (lanes : Lanes) (start count : Nat) : Lanes :=
    (List.range count).foldl (fun lanes k => absorb bytes (start + 64 * k) (8 * k) lanes) lanes
  let lanes := (List.range blocks).foldl (fun lanes b => scramble (stripes lanes (1024 * b) 16)) startLanes
  let lanes := stripes lanes (1024 * blocks) ((n - 1 - 1024 * blocks) / 64)
  let lanes := absorb bytes (n - 64) 121 lanes
  finish ((List.range 4).foldl (fun acc k =>
    acc + foldedProduct (lanes.getD (2 * k) 0 ^^^ word64 secret (11 + 16 * k))
      (lanes.getD (2 * k + 1) 0 ^^^ word64 secret (19 + 16 * k))) (n.toUInt64 * prime64a))

/-- The hash of bytes. -/
def ofBytes (bytes : ByteArray) : UInt64 :=
  if bytes.size ≤ 16 then short bytes
  else if bytes.size ≤ 128 then middle bytes
  else if bytes.size ≤ 240 then long bytes
  else veryLong bytes

/-- The hash of a text. -/
def ofText (text : String) : UInt64 := ofBytes text.toUTF8

end Graft.Hash
