import HomeIoControl.ProtocolFrames

/-!
# Frame authentication and key transfer

The encryption side of the AES-128 helper, the initialization vectors built from frame
bytes and a challenge, the truncated authenticator and the key transfer.
-/

namespace HomeIoControl.ProtocolCrypto

open ProtocolFrames

/-- A 16-byte block: a plaintext, a key or an initialization vector. -/
abbrev Block := Vector UInt8 16

abbrev Challenge := Mac

def ivPadding : UInt8 := 0x55

def transferKey : Block :=
  #v[0x34, 0xC3, 0x46, 0x6E, 0xD8, 0x8F, 0x4E, 0x8E,
     0x16, 0xAA, 0x47, 0x39, 0x49, 0x88, 0x43, 0x73]

set_option maxRecDepth 2000 in
def aesSbox : Array UInt8 := #[
  0x63, 0x7C, 0x77, 0x7B, 0xF2, 0x6B, 0x6F, 0xC5, 0x30, 0x01, 0x67, 0x2B, 0xFE, 0xD7, 0xAB, 0x76,
  0xCA, 0x82, 0xC9, 0x7D, 0xFA, 0x59, 0x47, 0xF0, 0xAD, 0xD4, 0xA2, 0xAF, 0x9C, 0xA4, 0x72, 0xC0,
  0xB7, 0xFD, 0x93, 0x26, 0x36, 0x3F, 0xF7, 0xCC, 0x34, 0xA5, 0xE5, 0xF1, 0x71, 0xD8, 0x31, 0x15,
  0x04, 0xC7, 0x23, 0xC3, 0x18, 0x96, 0x05, 0x9A, 0x07, 0x12, 0x80, 0xE2, 0xEB, 0x27, 0xB2, 0x75,
  0x09, 0x83, 0x2C, 0x1A, 0x1B, 0x6E, 0x5A, 0xA0, 0x52, 0x3B, 0xD6, 0xB3, 0x29, 0xE3, 0x2F, 0x84,
  0x53, 0xD1, 0x00, 0xED, 0x20, 0xFC, 0xB1, 0x5B, 0x6A, 0xCB, 0xBE, 0x39, 0x4A, 0x4C, 0x58, 0xCF,
  0xD0, 0xEF, 0xAA, 0xFB, 0x43, 0x4D, 0x33, 0x85, 0x45, 0xF9, 0x02, 0x7F, 0x50, 0x3C, 0x9F, 0xA8,
  0x51, 0xA3, 0x40, 0x8F, 0x92, 0x9D, 0x38, 0xF5, 0xBC, 0xB6, 0xDA, 0x21, 0x10, 0xFF, 0xF3, 0xD2,
  0xCD, 0x0C, 0x13, 0xEC, 0x5F, 0x97, 0x44, 0x17, 0xC4, 0xA7, 0x7E, 0x3D, 0x64, 0x5D, 0x19, 0x73,
  0x60, 0x81, 0x4F, 0xDC, 0x22, 0x2A, 0x90, 0x88, 0x46, 0xEE, 0xB8, 0x14, 0xDE, 0x5E, 0x0B, 0xDB,
  0xE0, 0x32, 0x3A, 0x0A, 0x49, 0x06, 0x24, 0x5C, 0xC2, 0xD3, 0xAC, 0x62, 0x91, 0x95, 0xE4, 0x79,
  0xE7, 0xC8, 0x37, 0x6D, 0x8D, 0xD5, 0x4E, 0xA9, 0x6C, 0x56, 0xF4, 0xEA, 0x65, 0x7A, 0xAE, 0x08,
  0xBA, 0x78, 0x25, 0x2E, 0x1C, 0xA6, 0xB4, 0xC6, 0xE8, 0xDD, 0x74, 0x1F, 0x4B, 0xBD, 0x8B, 0x8A,
  0x70, 0x3E, 0xB5, 0x66, 0x48, 0x03, 0xF6, 0x0E, 0x61, 0x35, 0x57, 0xB9, 0x86, 0xC1, 0x1D, 0x9E,
  0xE1, 0xF8, 0x98, 0x11, 0x69, 0xD9, 0x8E, 0x94, 0x9B, 0x1E, 0x87, 0xE9, 0xCE, 0x55, 0x28, 0xDF,
  0x8C, 0xA1, 0x89, 0x0D, 0xBF, 0xE6, 0x42, 0x68, 0x41, 0x99, 0x2D, 0x0F, 0xB0, 0x54, 0xBB, 0x16]

def aesRcon : List UInt8 :=
  [0x00, 0x01, 0x02, 0x04, 0x08, 0x10, 0x20, 0x40, 0x80, 0x1B, 0x36]

def subByte (b : UInt8) : UInt8 := aesSbox.getD b.toNat 0

/-- The loop of `aes_mul`; a byte factor is used up after eight rounds. -/
def aesMulLoop : ℕ → UInt8 → UInt8 → UInt8 → UInt8
  | 0, _, _, result => result
  | rounds + 1, value, factor, result =>
    aesMulLoop rounds (if value &&& 0x80 ≠ 0 then (value <<< 1) ^^^ 0x1B else value <<< 1)
      (factor >>> 1) (if factor &&& 1 ≠ 0 then result ^^^ value else result)

def aesMul (value factor : UInt8) : UInt8 := aesMulLoop 8 value factor 0

def aesSubBytes (state : Block) : Block := state.map subByte

def aesShiftRows (t : Block) : Block :=
  #v[t[0], t[5], t[10], t[15], t[4], t[9], t[14], t[3],
     t[8], t[13], t[2], t[7], t[12], t[1], t[6], t[11]]

/-- One column of `aes_mix_columns`. -/
def aesMixColumn (a0 a1 a2 a3 : UInt8) : Vector UInt8 4 :=
  #v[aesMul a0 0x02 ^^^ aesMul a1 0x03 ^^^ a2 ^^^ a3,
     a0 ^^^ aesMul a1 0x02 ^^^ aesMul a2 0x03 ^^^ a3,
     a0 ^^^ a1 ^^^ aesMul a2 0x02 ^^^ aesMul a3 0x03,
     aesMul a0 0x03 ^^^ a1 ^^^ a2 ^^^ aesMul a3 0x02]

def aesMixColumns (s : Block) : Block :=
  aesMixColumn s[0] s[1] s[2] s[3] ++ aesMixColumn s[4] s[5] s[6] s[7] ++
    aesMixColumn s[8] s[9] s[10] s[11] ++ aesMixColumn s[12] s[13] s[14] s[15]

/-- One four-byte round of `aes_expand_key`: appends word `i` to the words generated so far. -/
def aesExpandWord (roundKeys : List UInt8) (i : ℕ) : List UInt8 :=
  let byte (k : ℕ) := roundKeys.getD k 0
  let temp := (byte (4 * i - 4), byte (4 * i - 3), byte (4 * i - 2), byte (4 * i - 1))
  let temp := if i % 4 = 0 then
      (subByte temp.2.1 ^^^ aesRcon.getD (i / 4) 0, subByte temp.2.2.1, subByte temp.2.2.2,
        subByte temp.1)
    else temp
  roundKeys ++ [byte (4 * i - 16) ^^^ temp.1, byte (4 * i - 15) ^^^ temp.2.1,
    byte (4 * i - 14) ^^^ temp.2.2.1, byte (4 * i - 13) ^^^ temp.2.2.2]

/-- `aes_expand_key`: the 176 bytes of the key schedule. -/
def aesExpandKey (key : Block) : List UInt8 :=
  (List.range' 4 40).foldl aesExpandWord key.toList

def xorBlocks (a b : Block) : Block := Vector.zipWith (· ^^^ ·) a b

def aesAddRoundKey (state : Block) (roundKeys : List UInt8) (round : ℕ) : Block :=
  xorBlocks state (Vector.ofFn fun i => roundKeys.getD (16 * round + i) 0)

/-- `aes128_encrypt`; the source's version always reports success. -/
def aes128Encrypt (block key : Block) : Block :=
  let roundKeys := aesExpandKey key
  let state := (List.range' 1 9).foldl
    (fun state round =>
      aesAddRoundKey (aesMixColumns (aesShiftRows (aesSubBytes state))) roundKeys round)
    (aesAddRoundKey block roundKeys 0)
  aesAddRoundKey (aesShiftRows (aesSubBytes state)) roundKeys 10

/-- `compute_checksum`: the next pair of running checksum bytes. -/
def computeChecksum (c : UInt8 × UInt8) (byte : UInt8) : UInt8 × UInt8 :=
  let tmp := byte ^^^ c.2
  let shifted := (c.1 &&& 0x7F) <<< 1
  let carried := if tmp ≥ 128 then shifted ||| 1 else shifted
  if c.1 &&& 0x80 = 0 then (carried, tmp <<< 1)
  else (carried ^^^ 0x55, (tmp <<< 1) ^^^ 0x5B)

/-- `construct_iv_prefix`: eight data bytes, padded, and the checksum over all of them. -/
def constructIvPrefix (data : List UInt8) : Vector UInt8 10 :=
  let checksum := data.foldl computeChecksum (0, 0)
  Vector.ofFn (n := 8) (fun i => data.getD i ivPadding) ++ #v[checksum.1, checksum.2]

/-- `construct_iv`: the prefix followed by the challenge. -/
def constructIv (data : List UInt8) (challenge : Challenge) : Block :=
  constructIvPrefix data ++ challenge

/-- `construct_iv_1w_sequence`: the prefix followed by the rolling sequence and padding. -/
def constructIv1wSequence (data : List UInt8) (sequence : UInt16) : Block :=
  constructIvPrefix data ++ #v[(sequence >>> 8).toUInt8, sequence.toUInt8, ivPadding, ivPadding,
    ivPadding, ivPadding]

/-- `construct_iv_1w_node`: the sender's address, repeated. -/
def constructIv1wNode (node : NodeId) : Block :=
  Vector.ofFn fun i => node.bytes.getD (i % 3) 0

/-- `create_hmac`: the first six bytes of the encrypted initialization vector. -/
def createHmac (data : List UInt8) (challenge : Challenge) (key : Block) : Mac :=
  (aes128Encrypt (constructIv data challenge) key).take 6

def create1wHmac (data : List UInt8) (sequence : UInt16) (controllerKey : Block) : Mac :=
  (aes128Encrypt (constructIv1wSequence data sequence) controllerKey).take 6

def verifyHmac (data : List UInt8) (hmac : Mac) (challenge : Challenge) (key : Block) : Bool :=
  hmac = createHmac data challenge key

def xorWithEncryptedIv (iv input : Block) : Block :=
  xorBlocks input (aes128Encrypt iv transferKey)

/-- `crypt_key`: hides a key under the shared transfer key, or recovers it. -/
def cryptKey (data : List UInt8) (challenge : Challenge) (input : Block) : Block :=
  xorWithEncryptedIv (constructIv data challenge) input

/-- `crypt_1w_key`: the same, under the address of the sender. -/
def crypt1wKey (node : NodeId) (input : Block) : Block :=
  xorWithEncryptedIv (constructIv1wNode node) input

theorem xorBlocks_cancel (a mask : Block) : xorBlocks (xorBlocks a mask) mask = a := by
  apply Vector.ext
  intro i hi
  rw [xorBlocks, xorBlocks, Vector.getElem_zipWith, Vector.getElem_zipWith, UInt8.xor_assoc,
    UInt8.xor_self, UInt8.xor_zero]

/-- Applying the key transfer twice under one challenge gives the key back. -/
theorem cryptKey_cryptKey (data : List UInt8) (challenge : Challenge) (key : Block) :
    cryptKey data challenge (cryptKey data challenge key) = key :=
  xorBlocks_cancel key _

end HomeIoControl.ProtocolCrypto
