import MatrixFlow.Script.Tool.Basic

/-!
# Digests

Short numbers that stand for long texts.

* `md5`, `sha1`, `sha2`: digests as bytes.
* `digestTool`: shows the digests of files, or checks them.
* `cksumTool`: shows a checksum of 32 bits; `sumTool` one of 16.
-/

namespace MatrixFlow.Script

open ToolM

/-! ## Blocks -/

/-- A message filled up to whole blocks: a bit, zeros, and its length in bits. -/
def paddedMessage (lastFirst : Bool) (block : Nat) (bytes : List UInt8) : List UInt8 :=
  let lengthSize := block / 8
  let gap := (2 * block - 1 - lengthSize - bytes.length % block) % block
  let bits := 8 * bytes.length
  let length := (List.range lengthSize).map fun i => (bits / pow2 (8 * i)).toUInt8
  bytes ++ 0x80 :: List.replicate gap 0 ++ if lastFirst then length else length.reverse

/-- The blocks of a message. -/
def blocksOf (size : Nat) : (fuel : Nat) → List UInt8 → List (List UInt8)
  | 0, _ => []
  | fuel + 1, bytes =>
    if bytes.isEmpty then [] else bytes.take size :: blocksOf size fuel (bytes.drop size)

/-- The number of bytes, the first of which counts most. -/
def bigNumber (bytes : List UInt8) : Nat :=
  bytes.foldl (fun n b => 256 * n + b.toNat) 0

/-- The words of a block. -/
def wordsOf (lastFirst : Bool) (size : Nat) (block : List UInt8) : Array Nat :=
  ((blocksOf size (block.length + 1) block).map fun word =>
    bigNumber (if lastFirst then word.reverse else word)).toArray

/-- A word turned to the left. -/
def turnLeft (bits : Nat) (n : Nat) (x : Nat) : Nat :=
  ((x <<< n) ||| (x >>> (bits - n))) % pow2 bits

/-- A word turned to the right. -/
def turnRight (bits : Nat) (n : Nat) (x : Nat) : Nat := turnLeft bits (bits - n) x

/-- The bits of a word, changed. -/
def flipBits (bits : Nat) (x : Nat) : Nat := pow2 bits - 1 - x

/-- The bytes of a word. -/
def wordBytes (lastFirst : Bool) (size : Nat) (x : Nat) : List UInt8 :=
  let bytes := (List.range size).map fun i => (x / pow2 (8 * i)).toUInt8
  if lastFirst then bytes else bytes.reverse

/-- The first bits of the fraction of a root of a number. -/
def rootBits (cubic : Bool) (bits n : Nat) : Nat :=
  let target := if cubic then n * pow2 (3 * bits) else n * pow2 (2 * bits)
  let fits (r : Nat) : Bool := (if cubic then r * r * r else r * r) ≤ target
  let root := (List.range (bits + 6)).reverse.foldl (fun r i =>
    if fits (r + pow2 i) then r + pow2 i else r) 0
  root % pow2 bits

/-- The first prime numbers. -/
def firstPrimes (count : Nat) : List Nat :=
  ((List.range 420).filter fun n => 2 ≤ n && (List.range n).all fun d => d < 2 || n % d ≠ 0).take
    count

/-! ## Three families -/

/-- How far the words of the first family are turned. -/
def md5Turns : Array Nat :=
  #[7, 12, 17, 22, 5, 9, 14, 20, 4, 11, 16, 23, 6, 10, 15, 21]

/-- The constants of the first family: the fractions of sines of the numbers from one on. -/
def md5Sines : Array Nat :=
  ((List.range 64).map fun i =>
    ((Float.sin (i + 1).toFloat).abs * 4294967296.0).floor.toUInt64.toNat).toArray

/-- One block of the first family. -/
def md5Block (sines : Array Nat) (state : Nat × Nat × Nat × Nat) (block : List UInt8) :
    Nat × Nat × Nat × Nat :=
  let words := wordsOf true 4 block
  let (a, b, c, d) := (List.range 64).foldl (fun (a, b, c, d) i =>
    let (f, g) := match i / 16 with
      | 0 => ((b &&& c) ||| (flipBits 32 b &&& d), i)
      | 1 => ((d &&& b) ||| (flipBits 32 d &&& c), (5 * i + 1) % 16)
      | 2 => (b ^^^ c ^^^ d, (3 * i + 5) % 16)
      | _ => (c ^^^ (b ||| flipBits 32 d), (7 * i) % 16)
    let sum := (a + f + sines.getD i 0 + words.getD g 0) % pow2 32
    let turn := md5Turns.getD (4 * (i / 16) + i % 4) 0
    (d, (b + turnLeft 32 turn sum) % pow2 32, b, c)) state
  let (w, x, y, z) := state
  ((w + a) % pow2 32, (x + b) % pow2 32, (y + c) % pow2 32, (z + d) % pow2 32)

/-- The digest of 128 bits. -/
def md5 (bytes : List UInt8) : List UInt8 :=
  let message := paddedMessage true 64 bytes
  let sines := md5Sines
  let (a, b, c, d) := (blocksOf 64 (message.length + 1) message).foldl (md5Block sines)
    (0x67452301, 0xefcdab89, 0x98badcfe, 0x10325476)
  [a, b, c, d].flatMap (wordBytes true 4)

/-- One block of the second family. -/
def sha1Block (state : List Nat) (block : List UInt8) : List Nat :=
  let start := wordsOf false 4 block
  let words := (List.range 64).foldl (fun (w : Array Nat) i =>
    w.push (turnLeft 32 1 (w.getD (i + 13) 0 ^^^ w.getD (i + 8) 0 ^^^ w.getD (i + 2) 0 ^^^
      w.getD i 0))) start
  match state with
  | [v, w, x, y, z] =>
    let (a, b, c, d, e) := (List.range 80).foldl (fun (a, b, c, d, e) i =>
      let (f, k) := match i / 20 with
        | 0 => ((b &&& c) ||| (flipBits 32 b &&& d), 0x5a827999)
        | 1 => (b ^^^ c ^^^ d, 0x6ed9eba1)
        | 2 => ((b &&& c) ||| (b &&& d) ||| (c &&& d), 0x8f1bbcdc)
        | _ => (b ^^^ c ^^^ d, 0xca62c1d6)
      let sum := (turnLeft 32 5 a + f + e + k + words.getD i 0) % pow2 32
      (sum, a, turnLeft 32 30 b, c, d)) (v, w, x, y, z)
    [(v + a), (w + b), (x + c), (y + d), (z + e)].map (· % pow2 32)
  | other => other

/-- The digest of 160 bits. -/
def sha1 (bytes : List UInt8) : List UInt8 :=
  let message := paddedMessage false 64 bytes
  ((blocksOf 64 (message.length + 1) message).foldl sha1Block
    [0x67452301, 0xefcdab89, 0x98badcfe, 0x10325476, 0xc3d2e1f0]).flatMap (wordBytes false 4)

/-- How the third family works on words of a size. -/
structure Sha2 where
  bits : Nat
  rounds : Nat
  /-- How far words are turned: four sums of three, of which two end with a shift. -/
  turns : List (Nat × Nat × Nat)
  start : List Nat
  /-- How many words the digest has. -/
  size : Nat

/-- Three turned forms of a word together; the last one may lose what leaves it. -/
def Sha2.mixed (h : Sha2) (shifts : Bool) (i x : Nat) : Nat :=
  let (a, b, c) := (h.turns[i]?).getD (0, 0, 0)
  turnRight h.bits a x ^^^ turnRight h.bits b x ^^^
    (if shifts then x >>> c else turnRight h.bits c x)

/-- One block of the third family. -/
def Sha2.block (h : Sha2) (constants : Array Nat) (state : List Nat) (block : List UInt8) :
    List Nat :=
  let m := pow2 h.bits
  let start := wordsOf false (h.bits / 8) block
  let words := (List.range (h.rounds - 16)).foldl (fun (w : Array Nat) i =>
    w.push ((w.getD i 0 + h.mixed true 2 (w.getD (i + 1) 0) + w.getD (i + 9) 0 +
      h.mixed true 3 (w.getD (i + 14) 0)) % m)) start
  let final := (List.range h.rounds).foldl (fun (s : List Nat) i =>
    match s with
    | [a, b, c, d, e, f, g, k] =>
      let choice := (e &&& f) ^^^ (flipBits h.bits e &&& g)
      let majority := (a &&& b) ^^^ (a &&& c) ^^^ (b &&& c)
      let x := (k + h.mixed false 1 e + choice + constants.getD i 0 + words.getD i 0) % m
      let y := (h.mixed false 0 a + majority) % m
      [(x + y) % m, a, b, c, (d + x) % m, e, f, g]
    | other => other) state
  (state.zip final).map fun (a, b) => (a + b) % m

/-- A digest of the third family. -/
def Sha2.digest (h : Sha2) (bytes : List UInt8) : List UInt8 :=
  let size := 2 * h.bits
  let message := paddedMessage false size bytes
  let constants := ((firstPrimes h.rounds).map (rootBits true h.bits)).toArray
  let state := (blocksOf size (message.length + 1) message).foldl (h.block constants) h.start
  (state.flatMap (wordBytes false (h.bits / 8))).take h.size

/-- The digest of 256 bits. -/
def sha256 : Sha2 :=
  ⟨32, 64, [(2, 13, 22), (6, 11, 25), (7, 18, 3), (17, 19, 10)],
    (firstPrimes 8).map (rootBits false 32), 32⟩

/-- The digest of 224 bits. -/
def sha224 : Sha2 :=
  { sha256 with
    size := 28
    start := ((firstPrimes 16).drop 8).map fun p => rootBits false 64 p % pow2 32 }

/-- The digest of 512 bits. -/
def sha512 : Sha2 :=
  ⟨64, 80, [(28, 34, 39), (14, 18, 41), (1, 8, 7), (19, 61, 6)],
    (firstPrimes 8).map (rootBits false 64), 64⟩

/-- The digest of 384 bits. -/
def sha384 : Sha2 :=
  { sha512 with size := 48, start := ((firstPrimes 16).drop 8).map (rootBits false 64) }

/-! ## Tools -/

/-- Bytes in hexadecimal digits. -/
def hexText (bytes : List UInt8) : Octets :=
  bytes.flatMap fun b =>
    let digits := Nat.toDigits 16 b.toNat
    List.replicate (2 - digits.length) '0' ++ digits

/-- Checks the digests in a list of them. -/
def checkDigests (digest : List UInt8 → List UInt8) (quiet : Bool) (list : Octets) : Tool := do
  let rows := (Text.splitOn '\n' list).filter (! ·.isEmpty)
  let results ← rows.mapM fun row => do
    let hex := row.takeWhile (· != ' ')
    let path := row.drop (hex.length + 2)
    match ← contents path with
    | .ok cs =>
      let same := hexText (digest (bytesOf cs)) == hex.map Char.toLower
      if !same then sayLine (path ++ octets ": FAILED")
      else if !quiet then sayLine (path ++ octets ": OK")
      return (same, true)
    | .error e =>
      warn (fileMessage path e)
      sayLine (path ++ octets ": FAILED open or read")
      return (false, false)
  let unread := (results.filter fun (_, read) => !read).length
  let wrong := (results.filter fun (same, read) => read && !same).length
  let plural (n : Nat) (one many : String) : Octets := octets (if n = 1 then one else many)
  if unread > 0 then
    warn (octets "WARNING: " ++ numberOctets unread ++
      plural unread " listed file could not be read" " listed files could not be read")
  if wrong > 0 then
    warn (octets "WARNING: " ++ numberOctets wrong ++
      plural wrong " computed checksum did NOT match" " computed checksums did NOT match")
  return if wrong + unread = 0 then 0 else 1

/-- A tool that shows digests of files, or checks them. -/
def digestTool (digest : List UInt8 → List UInt8) : Tool :=
  withOptions (.of "bctzw" "" [("binary", "b"), ("check", "c"), ("text", "t"),
    ("quiet", "quiet"), ("status", "status")]) fun o => do
    if o.has 'c' then
      match ← contents (o.rest.head?.getD ['-']) with
      | .ok list => checkDigests digest (o.hasName "quiet" || o.hasName "status") list
      | .error e =>
        warn (fileMessage (o.rest.head?.getD ['-']) e)
        return 1
    else
      let lost ← forInputs o.rest fileMessage fun path text =>
        sayLine (hexText (digest (bytesOf text)) ++ [' ', if o.has 'b' then '*' else ' '] ++ path)
      return if lost = 0 then 0 else 1

/-- One byte more in a checksum of 32 bits. -/
def checksumStep (sum : UInt32) (b : UInt8) : UInt32 :=
  (List.range 8).foldl (fun (x : UInt32) _ =>
    if x &&& 0x80000000 = 0 then x <<< 1 else (x <<< 1) ^^^ 0x04c11db7) (sum ^^^ (b.toUInt32 <<< 24))

/-- The bytes of a length without those that are zero at its end, the least first. -/
def lengthBytes : (fuel : Nat) → Nat → List UInt8
  | 0, _ => []
  | fuel + 1, n => if n = 0 then [] else n.toUInt8 :: lengthBytes fuel (n / 256)

/-- The tool `cksum`. -/
def cksumTool : Tool := withOptions (.of "" "" []) fun o => do
  let lost ← forInputs o.rest fileMessage fun path text => do
    let bytes := bytesOf text ++ lengthBytes 16 text.length
    let sum := ~~~(bytes.foldl checksumStep 0)
    sayLine (numberOctets sum.toNat ++ ' ' :: numberOctets text.length ++
      if path == ['-'] && o.rest.isEmpty then [] else ' ' :: path)
  return if lost = 0 then 0 else 1

/-- A sum of bytes that is turned by one bit before each of them. -/
def turningSum (bytes : List UInt8) : Nat :=
  bytes.foldl (fun n b => (n / 2 + n % 2 * pow2 15 + b.toNat) % pow2 16) 0

/-- A plain sum of bytes, whose upper half is added to the lower. -/
def foldedSum (bytes : List UInt8) : Nat :=
  let n := bytes.foldl (fun n b => (n + b.toNat) % pow2 32) 0
  let once := n % pow2 16 + n / pow2 16
  once % pow2 16 + once / pow2 16

/-- The tool `sum`. -/
def sumTool : Tool := withOptions (.of "rs" "" [("sysv", "s")]) fun o => do
  let plain := o.last? ['r', 's'] == some 's'
  let block := if plain then 512 else 1024
  let lost ← forInputs o.rest fileMessage fun path text => do
    let sum := if plain then foldedSum (bytesOf text) else turningSum (bytesOf text)
    let digits := numberOctets sum
    let blocks := numberOctets ((text.length + block - 1) / block)
    let fill (n : Nat) (c : Char) (cs : Octets) : Octets := List.replicate (n - cs.length) c ++ cs
    let numbers := if plain then digits ++ ' ' :: blocks
      else fill 5 '0' digits ++ ' ' :: fill 5 ' ' blocks
    sayLine (numbers ++ if o.rest.isEmpty then [] else ' ' :: path)
  return if lost = 0 then 0 else 1

end MatrixFlow.Script
