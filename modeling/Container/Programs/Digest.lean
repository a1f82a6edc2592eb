import Container.Programs.Options

set_option autoImplicit false

/-!
# Digests of files

A digest is a short text that is worked out from all bytes of a file.

## Main definitions

* `Digest.md5`, `Digest.sha1`, `Digest.sha256` — digests of byte strings.
* `Digest.checksum` — the checksum of a byte string and its length.
* `digestOf`, `cksum` — the programs.
-/

namespace Container.Programs

namespace Digest

/-- The bits of a word, moved to the left and around. -/
def turned (x : UInt32) (n : UInt32) : UInt32 := (x <<< n) ||| (x >>> (32 - n))

/-- The words of bytes, four to a word, of which the first counts most if `bigFirst` is set. -/
def words (bigFirst : Bool) : Bytes → List UInt32
  | a :: b :: c :: d :: rest =>
    let (a, b, c, d) := if bigFirst then (a, b, c, d) else (d, c, b, a)
    (a.toUInt32 <<< 24 ||| b.toUInt32 <<< 16 ||| c.toUInt32 <<< 8 ||| d.toUInt32) ::
      words bigFirst rest
  | _ => []

/-- The bytes of a word. -/
def bytesOf (bigFirst : Bool) (x : UInt32) : Bytes :=
  let bytes := [(x >>> 24).toUInt8, (x >>> 16).toUInt8, (x >>> 8).toUInt8, x.toUInt8]
  if bigFirst then bytes else bytes.reverse

/-- The bytes of a length in bits. -/
def lengthBytes (bigFirst : Bool) (n : Nat) : Bytes :=
  let low := UInt32.ofNat (n * 8)
  let high := UInt32.ofNat (n * 8 / 2 ^ 32)
  if bigFirst then bytesOf true high ++ bytesOf true low
  else bytesOf false low ++ bytesOf false high

/-- Bytes filled up to whole blocks, the last of which ends with the length. -/
def filled (bigFirst : Bool) (bs : Bytes) : Bytes :=
  let zeros := (119 - bs.length % 64) % 64
  bs ++ 0x80 :: List.replicate zeros 0 ++ lengthBytes bigFirst bs.length

/-- Words in blocks of sixteen. -/
def blocks : Nat → List UInt32 → List (Array UInt32)
  | 0, _ => []
  | _, [] => []
  | fuel + 1, ws => (ws.take 16).toArray :: blocks fuel (ws.drop 16)

/-- The text of bytes in base 16. -/
def hexadecimal (bs : Bytes) : Chars :=
  bs.flatMap fun b => [Nat.digitChar (b.toNat / 16), Nat.digitChar (b.toNat % 16)]

/-- What becomes of some words when block after block is worked in. -/
def overBlocks (bigFirst : Bool) (start : List UInt32)
    (round : List UInt32 → Array UInt32 → List UInt32) (bs : Bytes) : Chars :=
  let ws := words bigFirst (filled bigFirst bs)
  let result := (blocks (ws.length + 1) ws).foldl (fun state block =>
    state.zipWith (· + ·) (round state block)) start
  hexadecimal (result.flatMap (bytesOf bigFirst))

/-- The word at a place of a table. -/
def pick (table : Array UInt32) (i : Nat) : UInt32 := table[i]?.getD 0

/-! ## Three digests -/

/-- How far words are moved in the four stages of a digest. -/
def md5Turns : Array UInt32 := #[7, 12, 17, 22, 5, 9, 14, 20, 4, 11, 16, 23, 6, 10, 15, 21]

/-- The whole parts of the sines of the numbers from one on, in units of which there are `2 ^ 32`
in one. -/
def md5Table : Array UInt32 :=
  ((List.range 64).map fun i => ((Float.ofNat (i + 1)).sin.abs * 4294967296.0).toUInt32).toArray

/-- Works a block into words. -/
def md5Round (state : List UInt32) (block : Array UInt32) : List UInt32 :=
  match state with
  | [a, b, c, d] =>
    let (a, b, c, d) := (List.range 64).foldl (fun (a, b, c, d) i =>
      let (f, k) : UInt32 × Nat :=
        if i < 16 then ((b &&& c) ||| (~~~b &&& d), i)
        else if i < 32 then ((d &&& b) ||| (~~~d &&& c), (5 * i + 1) % 16)
        else if i < 48 then (b ^^^ c ^^^ d, (3 * i + 5) % 16)
        else (c ^^^ (b ||| ~~~d), 7 * i % 16)
      let sum := a + f + pick md5Table i + pick block k
      (d, b + turned sum (pick md5Turns (i / 16 * 4 + i % 4)), b, c)) (a, b, c, d)
    [a, b, c, d]
  | state => state

/-- The digest of four words. -/
def md5 : Bytes → Chars :=
  overBlocks false [0x67452301, 0xefcdab89, 0x98badcfe, 0x10325476] md5Round

/-- The words of a block with those that follow from them, up to `count` more, by a rule. -/
def extended (rule : Array UInt32 → Nat → UInt32) (count : Nat) (block : Array UInt32) :
    Array UInt32 :=
  (List.range count).foldl (fun ws _ => ws.push (rule ws ws.size)) block

/-- Works a block into words. -/
def sha1Round (state : List UInt32) (block : Array UInt32) : List UInt32 :=
  let ws := extended (fun ws i =>
    turned (pick ws (i - 3) ^^^ pick ws (i - 8) ^^^ pick ws (i - 14) ^^^ pick ws (i - 16)) 1)
    64 block
  match state with
  | [a, b, c, d, e] =>
    let (a, b, c, d, e) := (List.range 80).foldl (fun (a, b, c, d, e) i =>
      let (f, k) : UInt32 × UInt32 :=
        if i < 20 then ((b &&& c) ||| (~~~b &&& d), 0x5a827999)
        else if i < 40 then (b ^^^ c ^^^ d, 0x6ed9eba1)
        else if i < 60 then ((b &&& c) ||| (b &&& d) ||| (c &&& d), 0x8f1bbcdc)
        else (b ^^^ c ^^^ d, 0xca62c1d6)
      (turned a 5 + f + e + k + pick ws i, a, turned b 30, c, d)) (a, b, c, d, e)
    [a, b, c, d, e]
  | state => state

/-- The digest of five words. -/
def sha1 : Bytes → Chars :=
  overBlocks true [0x67452301, 0xefcdab89, 0x98badcfe, 0x10325476, 0xc3d2e1f0] sha1Round

/-- The first primes. -/
def primes : List Nat :=
  ((List.range 312).drop 2).filter fun n => (List.range n).all fun d => d < 2 || n % d ≠ 0

/-- The first 32 bits of the fraction of the root of a number, of a degree, found bit by bit. -/
def rootFraction (degree n : Nat) : UInt32 :=
  let bits := 40
  let root := (List.range bits).foldl (fun root i =>
    let next := root + 2 ^ (bits - 1 - i)
    if next ^ degree ≤ n * 2 ^ (32 * degree) then next else root) 0
  UInt32.ofNat root

/-- The words that are worked in with each step. -/
def sha256Table : Array UInt32 := (primes.take 64 |>.map (rootFraction 3)).toArray

/-- Works a block into words. -/
def sha256Round (state : List UInt32) (block : Array UInt32) : List UInt32 :=
  let ws := extended (fun ws i =>
    let x := pick ws (i - 15)
    let y := pick ws (i - 2)
    let s := turned x 25 ^^^ turned x 14 ^^^ (x >>> 3)
    let t := turned y 15 ^^^ turned y 13 ^^^ (y >>> 10)
    pick ws (i - 16) + s + pick ws (i - 7) + t) 48 block
  match state with
  | [a, b, c, d, e, f, g, h] =>
    let (a, b, c, d, e, f, g, h) := (List.range 64).foldl (fun (a, b, c, d, e, f, g, h) i =>
      let s := turned e 26 ^^^ turned e 21 ^^^ turned e 7
      let choice := (e &&& f) ^^^ (~~~e &&& g)
      let first := h + s + choice + pick sha256Table i + pick ws i
      let t := turned a 30 ^^^ turned a 19 ^^^ turned a 10
      let majority := (a &&& b) ^^^ (a &&& c) ^^^ (b &&& c)
      (first + t + majority, a, b, c, d + first, e, f, g)) (a, b, c, d, e, f, g, h)
    [a, b, c, d, e, f, g, h]
  | state => state

/-- The digest of eight words. -/
def sha256 : Bytes → Chars :=
  overBlocks true (primes.take 8 |>.map (rootFraction 2)) sha256Round

/-! ## A checksum -/

/-- A checksum after one more byte. -/
def checksumStep (sum : UInt32) (b : UInt8) : UInt32 :=
  (List.range 8).foldl (fun sum _ =>
    if sum >>> 31 = 1 then (sum <<< 1) ^^^ 0x04c11db7 else sum <<< 1) (sum ^^^ (b.toUInt32 <<< 24))

/-- The bytes of a length, the least first, as far as they are needed. -/
def leastBytes : Nat → Nat → Bytes
  | 0, _ => []
  | fuel + 1, n => if n = 0 then [] else UInt8.ofNat (n % 256) :: leastBytes fuel (n / 256)

/-- The checksum of a byte string and its length. -/
def checksum (bs : Bytes) : Nat :=
  let sum := (bs ++ leastBytes 8 bs.length).foldl checksumStep 0
  (~~~sum).toNat

end Digest

/-- Whether a line of digests is right: its digest, two characters, and the name of a file. -/
def checkDigest (digest : Bytes → Chars) (inv : Invocation) (line : Chars) : HostM Bool := do
  let (wanted, rest) := line.span (· ≠ ' ')
  let name := rest.drop 2
  match ← contentOf inv name with
  | .ok content =>
    let isRight : Bool := digest content = wanted
    say inv (name ++ chars (if isRight then ": OK\n" else ": FAILED\n"))
    return isRight
  | .error e =>
    complainOver inv name e
    say inv (name ++ chars ": FAILED open or read\n")
    return false

/-- Writes the digests of files, or says whether files have the digests that they had. -/
def digestOf (digest : Bytes → Chars) : Body := withOptions "bctwz" 1 fun inv o =>
  overContents inv o.operands fun name content => do
    if o.has 'c' then
      let results ← (Chars.lines content).mapM (checkDigest digest inv)
      return results.all id
    else
      say inv (digest (Chars.bytes content) ++ [' ', ' '] ++ name ++ ['\n'])
      return true

/-- Writes checksums and lengths of files. -/
def cksum : Body := withOptions "" 1 fun inv o =>
  overContents inv o.operands fun name content => do
    let sum := Digest.checksum (Chars.bytes content)
    let label := if o.operands.isEmpty then [] else ' ' :: name
    say inv (Chars.ofNat sum ++ ' ' :: Chars.ofNat content.length ++ label ++ ['\n'])
    return true

end Container.Programs
