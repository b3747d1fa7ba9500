/-!
# SHA-256 and HMAC

The hash of FIPS 180-4 over byte arrays, and the keyed hash HMAC (RFC 2104) built on it.
Messages are padded with a one bit, zeros and the bit length, and processed in 64-byte
blocks; each block updates the eight-word state through 64 rounds.
-/

namespace Autoresponder.Crypto

/-- The round constants. -/
def roundK : Array UInt32 := #[
  0x428a2f98, 0x71374491, 0xb5c0fbcf, 0xe9b5dba5, 0x3956c25b, 0x59f111f1, 0x923f82a4, 0xab1c5ed5,
  0xd807aa98, 0x12835b01, 0x243185be, 0x550c7dc3, 0x72be5d74, 0x80deb1fe, 0x9bdc06a7, 0xc19bf174,
  0xe49b69c1, 0xefbe4786, 0x0fc19dc6, 0x240ca1cc, 0x2de92c6f, 0x4a7484aa, 0x5cb0a9dc, 0x76f988da,
  0x983e5152, 0xa831c66d, 0xb00327c8, 0xbf597fc7, 0xc6e00bf3, 0xd5a79147, 0x06ca6351, 0x14292967,
  0x27b70a85, 0x2e1b2138, 0x4d2c6dfc, 0x53380d13, 0x650a7354, 0x766a0abb, 0x81c2c92e, 0x92722c85,
  0xa2bfe8a1, 0xa81a664b, 0xc24b8b70, 0xc76c51a3, 0xd192e819, 0xd6990624, 0xf40e3585, 0x106aa070,
  0x19a4c116, 0x1e376c08, 0x2748774c, 0x34b0bcb5, 0x391c0cb3, 0x4ed8aa4a, 0x5b9cca4f, 0x682e6ff3,
  0x748f82ee, 0x78a5636f, 0x84c87814, 0x8cc70208, 0x90befffa, 0xa4506ceb, 0xbef9a3f7, 0xc67178f2]

/-- The initial state. -/
def initialState : Array UInt32 :=
  #[0x6a09e667, 0xbb67ae85, 0x3c6ef372, 0xa54ff53a, 0x510e527f, 0x9b05688c, 0x1f83d9ab, 0x5be0cd19]

/-- Rotation to the right. -/
def rotr (x : UInt32) (n : UInt32) : UInt32 := (x >>> n) ||| (x <<< (32 - n))

/-- The big-endian word at a byte offset. -/
def readBE32 (b : ByteArray) (off : Nat) : UInt32 :=
  [0, 1, 2, 3].foldl (fun w i => (w <<< 8) ||| (b.get! (off + i)).toUInt32) 0

/-- The 64-word message schedule of the block at `off`. -/
def schedule (b : ByteArray) (off : Nat) : Array UInt32 :=
  let first := (List.range 16).foldl (fun w i => w.push (readBE32 b (off + i * 4))) #[]
  (List.range' 16 48).foldl (fun w i =>
    let x := w.getD (i - 15) 0
    let y := w.getD (i - 2) 0
    let s0 := rotr x 7 ^^^ rotr x 18 ^^^ (x >>> 3)
    let s1 := rotr y 17 ^^^ rotr y 19 ^^^ (y >>> 10)
    w.push (w.getD (i - 16) 0 + s0 + w.getD (i - 7) 0 + s1)) first

/-- Updates the state with the block at `off`. -/
def compress (h : Array UInt32) (b : ByteArray) (off : Nat) : Array UInt32 :=
  let w := schedule b off
  let v := (List.range 64).foldl (fun (v : Array UInt32) i =>
    let a := v.getD 0 0; let bb := v.getD 1 0; let c := v.getD 2 0; let d := v.getD 3 0
    let e := v.getD 4 0; let f := v.getD 5 0; let g := v.getD 6 0; let hh := v.getD 7 0
    let s1 := rotr e 6 ^^^ rotr e 11 ^^^ rotr e 25
    let ch := (e &&& f) ^^^ ((~~~ e) &&& g)
    let t1 := hh + s1 + ch + roundK.getD i 0 + w.getD i 0
    let s0 := rotr a 2 ^^^ rotr a 13 ^^^ rotr a 22
    let maj := (a &&& bb) ^^^ (a &&& c) ^^^ (bb &&& c)
    let t2 := s0 + maj
    #[t1 + t2, a, bb, c, d + t1, e, f, g]) h
  (List.range 8).foldl (fun acc i => acc.push (h.getD i 0 + v.getD i 0)) #[]

/-- The message padded to a whole number of blocks. -/
def pad (msg : ByteArray) : ByteArray :=
  let len := msg.size
  let zeros := (119 - len % 64) % 64
  let lenBytes := (List.range 8).reverse.map fun i => ((len * 8) / Nat.pow 2 (8 * i) % 256).toUInt8
  let withOne := msg.push 0x80
  let padded := (List.range zeros).foldl (fun b _ => b.push 0) withOne
  lenBytes.foldl (fun b x => b.push x) padded

/-- The SHA-256 digest of a message. -/
def sha256 (msg : ByteArray) : ByteArray :=
  let p := pad msg
  let h := (List.range (p.size / 64)).foldl (fun h k => compress h p (k * 64)) initialState
  h.foldl (fun out w =>
    [24, 16, 8, 0].foldl (fun o s => o.push ((w >>> s) &&& 0xff).toUInt8) out) ByteArray.empty

/-- HMAC-SHA256 of a message under a key. -/
def hmacSha256 (key msg : ByteArray) : ByteArray :=
  let k := if key.size > 64 then sha256 key else key
  let k := (List.range (64 - k.size)).foldl (fun b _ => b.push 0) k
  let inner := (k.data.map (· ^^^ 0x36)).toList
  let outer := (k.data.map (· ^^^ 0x5c)).toList
  let innerHash := sha256 (ByteArray.mk (inner.toArray ++ msg.data))
  sha256 (ByteArray.mk (outer.toArray ++ innerHash.data))

/-- Lower-case hexadecimal text of bytes. -/
def hexText (b : ByteArray) : String :=
  let digit (n : Nat) : Char := "0123456789abcdef".toList.getD n '0'
  String.ofList (b.data.toList.flatMap fun x => [digit (x.toNat / 16), digit (x.toNat % 16)])

end Autoresponder.Crypto
