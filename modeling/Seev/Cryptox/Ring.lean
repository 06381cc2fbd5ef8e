import Seev.Lib.Decimal
import Seev.Lib.Result

/-!
# Envelope encryption

A field is sealed under a random data key, and the data key under the ring's
current key-encryption key; both layers authenticate the service, the table, the
column, the row and the key version. The envelope is
`magic | keyVersion(4 BE) | len(wrappedDEK)(4 BE) | wrappedDEK | dataCiphertext`.
AES-GCM is a parameter, `Aead`, and so are the random bytes of a call, `Draw`.
-/

namespace Seev.Cryptox

open Lib (Bytes)

/-- The errors of the package. -/
inductive Error where
  /-- `cryptox: ring requires at least one key` -/
  | noKeys
  /-- `cryptox: key version %d must be %d bytes, got %d` -/
  | keyBytes (version : Int64) (got : ℕ)
  /-- `cryptox: current key version %d is not present in the ring` -/
  | currentMissing (current : Int64)
  /-- `cryptox: KEK must be %d bytes` -/
  | kekBytes
  /-- `cryptox: new cipher: %w` -/
  | newCipher
  /-- `cryptox: invalid or unauthenticated envelope` -/
  | invalidEnvelope
  /-- `cryptox: key version unavailable` -/
  | keyVersionUnavailable
  deriving DecidableEq, Repr

/-- AES-256. -/
def keySize : ℕ := 32

/-! ## The cipher -/

/-- AES-GCM, with its tag of 16 bytes. -/
structure Aead where
  enc : (key nonce aad plaintext : Bytes) → Bytes
  dec : (key nonce aad ciphertext : Bytes) → Option Bytes
  dec_enc : ∀ key nonce aad plaintext, dec key nonce aad (enc key nonce aad plaintext) = some plaintext
  length_enc : ∀ key nonce aad plaintext, (enc key nonce aad plaintext).length = plaintext.length + 16

/-- `gcm.NonceSize()` -/
def nonceSize : ℕ := 12

/-- The random bytes of one `Seal`. -/
structure Draw where
  dek : Bytes
  dataNonce : Bytes
  wrapNonce : Bytes
  dek_length : dek.length = keySize
  dataNonce_length : dataNonce.length = nonceSize
  wrapNonce_length : wrapNonce.length = nonceSize

/-- `aes.NewCipher` takes keys of 16, 24 and 32 bytes. -/
def newCipher (key : Bytes) : Bool := key.length = 16 ∨ key.length = 24 ∨ key.length = 32

/-- The nonce stands before the ciphertext. -/
def gcmSeal (A : Aead) (nonce key aad plaintext : Bytes) : Except Error Bytes :=
  if newCipher key then .ok (nonce ++ A.enc key nonce aad plaintext) else .error .newCipher

/-- Every failure is the same error. -/
def gcmOpen (A : Aead) (key aad sealed : Bytes) : Except Error Bytes :=
  if !newCipher key then .error .invalidEnvelope
  else if sealed.length < nonceSize then .error .invalidEnvelope
  else
    match A.dec key (sealed.take nonceSize) aad (sealed.drop nonceSize) with
    | some plaintext => .ok plaintext
    | none => .error .invalidEnvelope

/-! ## Associated data -/

/-- The place of a value, which its envelope is bound to. -/
structure AAD where
  service : Bytes
  table : Bytes
  column : Bytes
  rowID : Bytes
  version : Int64
  deriving DecidableEq, Repr

/-- `strconv.Itoa` -/
def itoa (v : Int64) : Bytes := (Lib.formatInt v).map fun c => UInt8.ofNat c.toNat

/-- The parts, separated by zero bytes. -/
def AAD.bytes (a : AAD) : Bytes :=
  a.service ++ 0 :: (a.table ++ 0 :: (a.column ++ 0 :: (a.rowID ++ 0 :: itoa a.version)))

/-! ## Envelopes -/

/-- `CRX1` -/
def magic : Bytes := [67, 82, 88, 49]

/-- `binary.Write(.., binary.BigEndian, uint32(n))` -/
def putUint32 (n : ℤ) : Bytes :=
  let m := (n % 2 ^ 32).toNat
  [UInt8.ofNat (m / 2 ^ 24), UInt8.ofNat (m / 2 ^ 16), UInt8.ofNat (m / 2 ^ 8), UInt8.ofNat m]

/-- `binary.BigEndian.Uint32` -/
def getUint32 : Bytes → ℕ
  | [a, b, c, d] => a.toNat * 2 ^ 24 + b.toNat * 2 ^ 16 + c.toNat * 2 ^ 8 + d.toNat
  | _ => 0

/-- A fresh key encrypts the data, and the key of the ring encrypts that key. -/
def sealEnvelope (A : Aead) (draw : Draw) (kek : Bytes) (keyVersion : Int64) (aad : AAD) (plaintext : Bytes) :
    Except Error Bytes :=
  if kek.length ≠ keySize then .error .kekBytes
  else do
    let dataCiphertext ← gcmSeal A draw.dataNonce draw.dek aad.bytes plaintext
    let wrappedDEK ← gcmSeal A draw.wrapNonce kek aad.bytes draw.dek
    return magic ++ (putUint32 keyVersion.toInt
      ++ (putUint32 wrappedDEK.length ++ (wrappedDEK ++ dataCiphertext)))

/-- The key version, the wrapped data key and the data. -/
def parseEnvelope (envelope : Bytes) : Except Error (Int64 × Bytes × Bytes) :=
  if envelope.length < 12 ∨ envelope.take 4 ≠ magic then .error .invalidEnvelope
  else
    let keyVersion := getUint32 ((envelope.drop 4).take 4)
    let wrappedLen := getUint32 ((envelope.drop 8).take 4)
    let rest := envelope.drop 12
    if rest.length < wrappedLen then .error .invalidEnvelope
    else if rest.drop wrappedLen = [] then .error .invalidEnvelope
    else .ok (Int64.ofInt keyVersion, rest.take wrappedLen, rest.drop wrappedLen)

/-- The version in the envelope is not looked at here. -/
def openEnvelope (A : Aead) (kek : Bytes) (aad : AAD) (envelope : Bytes) : Except Error Bytes :=
  if kek.length ≠ keySize then .error .invalidEnvelope
  else do
    let (_, wrappedDEK, dataCiphertext) ← parseEnvelope envelope
    let dek ← gcmOpen A kek aad.bytes wrappedDEK
    gcmOpen A dek aad.bytes dataCiphertext

/-- The version that an envelope names. -/
def envelopeKeyVersion (envelope : Bytes) : Except Error Int64 := do
  let (keyVersion, _, _) ← parseEnvelope envelope
  return keyVersion

/-! ## The ring -/

/-- A map of versions to keys, in the order it is ranged over. -/
structure KeySet where
  entries : List (Int64 × Bytes)
  nodup : (entries.map Prod.fst).Nodup

/-- The key of a version. -/
def KeySet.get (keys : KeySet) (version : Int64) : Option Bytes := keys.entries.lookup version

/-- A ring that `NewRing` accepts. -/
structure Ring where
  keys : KeySet
  current : Int64
  keyBytes : ∀ e ∈ keys.entries, e.2.length = keySize
  present : (keys.get current).isSome

/-- A ring is built of keys of the right size only, its current one among them. -/
def newRing (keys : KeySet) (current : Int64) : Except Error Ring :=
  if keys.entries = [] then .error .noKeys
  else
    match hsize : keys.entries.find? fun e => e.2.length ≠ keySize with
    | some e => .error (.keyBytes e.1 e.2.length)
    | none =>
      if hcurrent : (keys.get current).isSome then
        .ok ⟨keys, current, fun e he => by simpa using List.find?_eq_none.1 hsize e he, hcurrent⟩
      else .error (.currentMissing current)

/-- `Ring.Seal` -/
def Ring.seal (r : Ring) (A : Aead) (draw : Draw) (aad : AAD) (plaintext : Bytes) : Except Error Bytes :=
  sealEnvelope A draw ((r.keys.get r.current).getD []) r.current { aad with version := r.current } plaintext

/-- `Ring.Open` -/
def Ring.open (r : Ring) (A : Aead) (aad : AAD) (envelope : Bytes) : Except Error Bytes := do
  let version ← envelopeKeyVersion envelope
  match r.keys.get version with
  | none => .error .keyVersionUnavailable
  | some kek => openEnvelope A kek { aad with version := version } envelope

end Seev.Cryptox
