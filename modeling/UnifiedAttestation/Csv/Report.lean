import UnifiedAttestation.Eventlog.Report

/-! The layout of Hygon CSV reports and certificates, and SM2 signatures over them.

A report masks most of its fields with a word of its own, `anonce`. The raw front part of
the report is signed under the key of the certificate that the report embeds.
-/

set_option autoImplicit false

namespace UnifiedAttestation.Csv

open Wire (Bytes Outcome bail ensure)

section Layout

def hashLen : Nat := 32
def vmIdSize : Nat := 16
def vmVersionSize : Nat := 16
def userDataSize : Nat := 64
def nonceSize : Nat := 16
def snLen : Nat := 64
def reserved2Size : Nat := 32
def eccLen : Nat := 32
def eccPointSize : Nat := 72
def hygonUserIdSize : Nat := 256
def eccPubkeySize : Nat := 4 + eccPointSize + eccPointSize + hygonUserIdSize
def eccSignatureSize : Nat := eccPointSize + eccPointSize
def rootCertSize : Nat := 832
def rootCertSignedSize : Nat := 576
def rootCertPubkeyOffset : Nat := 64
def rootCertSignatureOffset : Nat := 576
def csvCertSize : Nat := 2084
def csvCertSignedSize : Nat := 1044
def reportSignedSize : Nat := 180
def reportSize : Nat := 2548

def userDataOffset : Nat := hashLen + vmIdSize + vmVersionSize
def mnonceOffset : Nat := userDataOffset + userDataSize
def measureOffset : Nat := mnonceOffset + nonceSize
def policyOffset : Nat := measureOffset + hashLen
def sigUsageOffset : Nat := policyOffset + 4
def sigAlgoOffset : Nat := sigUsageOffset + 4
def anonceOffset : Nat := sigAlgoOffset + 4
def reportSigOffset : Nat := anonceOffset + 4
def pekCertOffset : Nat := reportSigOffset + eccSignatureSize
def snOffset : Nat := pekCertOffset + csvCertSize
def reserved2Offset : Nat := snOffset + snLen
def macOffset : Nat := reserved2Offset + reserved2Size

def rootCertKeyUsageOffset : Nat := 36
def csvCertPubkeyUsageOffset : Nat := 8
def csvCertPubkeyOffset : Nat := 16
def csvCertSig1UsageOffset : Nat := 1044
def csvCertSig1Offset : Nat := 1052
def csvCertSig2UsageOffset : Nat := 1564
def csvCertSig2Offset : Nat := 1572

end Layout

section Words

/-- `bytes[offset..offset + size]`. Every one that is taken lies inside: see `CsvReport.fields_sized`. -/
def window (bytes : Bytes) (offset size : Nat) : Bytes := (bytes.drop offset).take size

def u32FromLe (a b c d : UInt8) : UInt32 :=
  a.toUInt32 ||| b.toUInt32 <<< 8 ||| c.toUInt32 <<< 16 ||| d.toUInt32 <<< 24

def u32ToLe (value : UInt32) : Bytes :=
  [value.toUInt8, (value >>> 8).toUInt8, (value >>> 16).toUInt8, (value >>> 24).toUInt8]

def u32AtLe (input : Bytes) (offset : Nat) : UInt32 :=
  u32FromLe (input.getD offset 0) (input.getD (offset + 1) 0) (input.getD (offset + 2) 0) (input.getD (offset + 3) 0)

def xorU32Chunks (key : UInt32) : Bytes → Bytes
  | a :: b :: c :: d :: rest => u32ToLe (u32FromLe a b c d ^^^ key) ++ xorU32Chunks key rest
  | _ => []

/-- The first 32 bytes of a little-endian coordinate, highest first. -/
def firstEccLenReversed (input : Bytes) : Bytes := (input.take eccLen).reverse

end Words

section Reports

structure EccPubKey where
  data : Bytes
  deriving DecidableEq, Repr

def EccPubKey.qx (key : EccPubKey) : Bytes := firstEccLenReversed (window key.data 4 eccPointSize)

def EccPubKey.qy (key : EccPubKey) : Bytes :=
  firstEccLenReversed (window key.data (4 + eccPointSize) eccPointSize)

def EccPubKey.userId (key : EccPubKey) : Bytes :=
  let raw := window key.data (4 + eccPointSize * 2) hygonUserIdSize
  let len := Eventlog.littleEndian (raw.take 2)
  window raw 2 (min len (hygonUserIdSize - 2))

structure EccSignature where
  data : Bytes
  deriving DecidableEq, Repr

def EccSignature.r (signature : EccSignature) : Bytes := firstEccLenReversed (signature.data.take eccPointSize)

def EccSignature.s (signature : EccSignature) : Bytes :=
  firstEccLenReversed (window signature.data eccPointSize eccPointSize)

structure CsvReport where
  raw : Bytes
  size : raw.length = reportSize
  userData : Bytes
  mnonce : Bytes
  measure : Bytes
  policy : UInt32
  sigUsage : UInt32
  sigAlgo : UInt32
  anonce : UInt32
  pekCert : Bytes
  chipId : Bytes
  reserved2 : Bytes
  mac : Bytes

/-- The fields of a report that has its exact size. -/
def CsvReport.ofRaw (raw : Bytes) (size : raw.length = reportSize) : CsvReport :=
  let anonce := u32AtLe raw anonceOffset
  { raw
    size
    userData := xorU32Chunks anonce (window raw userDataOffset userDataSize)
    mnonce := xorU32Chunks anonce (window raw mnonceOffset nonceSize)
    measure := xorU32Chunks anonce (window raw measureOffset hashLen)
    policy := u32AtLe raw policyOffset ^^^ anonce
    sigUsage := u32AtLe raw sigUsageOffset ^^^ anonce
    sigAlgo := u32AtLe raw sigAlgoOffset ^^^ anonce
    anonce
    pekCert := xorU32Chunks anonce (window raw pekCertOffset csvCertSize)
    chipId := xorU32Chunks anonce (window raw snOffset snLen)
    reserved2 := window raw reserved2Offset reserved2Size
    mac := window raw macOffset hashLen }

def CsvReport.parse (raw : Bytes) : Outcome CsvReport :=
  if long : reportSize ≤ raw.length then .ok (.ofRaw (raw.take reportSize) (List.length_take_of_le long))
  else bail s!"Hygon CSV report length is wrong, expecting at least {reportSize}, got {raw.length}"

namespace CsvReport
variable (report : CsvReport)

def signedBytes : Bytes := report.raw.take reportSignedSize

def reportSignature : EccSignature := ⟨window report.raw reportSigOffset eccSignatureSize⟩

def macInput : Bytes := window report.raw pekCertOffset (macOffset - pekCertOffset)

def pekPubkey : EccPubKey := ⟨window report.pekCert csvCertPubkeyOffset eccPubkeySize⟩

end CsvReport

theorem window_length {bytes : Bytes} {offset size : Nat} (inside : offset + size ≤ bytes.length) :
    (window bytes offset size).length = size := by
  rw [window, List.length_take_of_le]
  rw [List.length_drop]
  omega

theorem xorU32Chunks_length (key : UInt32) {words : Nat} {input : Bytes} (whole : input.length = 4 * words) :
    (xorU32Chunks key input).length = input.length := by
  induction words generalizing input with
  | zero => simp [List.length_eq_zero_iff.mp whole, xorU32Chunks]
  | succ words ih =>
    match input, whole with
    | a :: b :: c :: d :: rest, whole =>
      have fewer : rest.length = 4 * words := by
        simp only [List.length_cons] at whole
        omega
      rw [xorU32Chunks, List.length_append, ih fewer, u32ToLe]
      simp only [List.length_cons, List.length_nil]
      omega

/-- A field of whole words keeps its size when it is unmasked. -/
theorem unmasked_length (key : UInt32) {bytes : Bytes} {offset : Nat} (words : Nat)
    (inside : offset + 4 * words ≤ bytes.length) :
    (xorU32Chunks key (window bytes offset (4 * words))).length = 4 * words := by
  have sized := window_length inside
  rw [xorU32Chunks_length key sized, sized]

/-- The fields of a parsed report fill the arrays they are copied into, and its embedded
certificate is whole. -/
theorem CsvReport.fields_sized {raw : Bytes} {report : CsvReport} (parsed : CsvReport.parse raw = .ok report) :
    report.userData.length = userDataSize ∧ report.mnonce.length = nonceSize ∧ report.measure.length = hashLen ∧
      report.pekCert.length = csvCertSize ∧ report.chipId.length = snLen ∧
      report.reserved2.length = reserved2Size ∧ report.mac.length = hashLen := by
  by_cases long : reportSize ≤ raw.length
  · rw [CsvReport.parse, dif_pos long] at parsed
    cases parsed
    have size : (raw.take reportSize).length = 2548 := List.length_take_of_le long
    refine ⟨unmasked_length _ 16 ?_, unmasked_length _ 4 ?_, unmasked_length _ 8 ?_, unmasked_length _ 521 ?_,
      unmasked_length _ 16 ?_, window_length ?_, window_length ?_⟩
    all_goals
      rw [size]
      decide
  · rw [CsvReport.parse, dif_neg long] at parsed
    cases parsed

end Reports

section Sm2

/-- The library of curves and hashes. -/
structure OpenSsl where
  Group : Type
  Point : Type
  fromComponents (p a b : Nat) : Outcome Group
  setGenerator : Group → Point → Nat → Nat → Outcome Group
  fromAffine : Group → Nat → Nat → Outcome Point
  order : Group → Outcome Nat
  /-- `n` times the generator and `m` times the point. -/
  mulFull (group : Group) (n : Nat) (point : Point) (m : Nat) : Outcome Point
  affineX : Group → Point → Outcome Nat
  sm3 : Bytes → Outcome Bytes
  hmacSm3 (key message : Bytes) : Outcome Bytes

def sm2P : Nat := 0xfffffffeffffffffffffffffffffffffffffffff00000000ffffffffffffffff
def sm2A : Nat := 0xfffffffeffffffffffffffffffffffffffffffff00000000fffffffffffffffc
def sm2B : Nat := 0x28e9fa9e9d9f5e344d5a9e4bcf6509a7f39789f515ab8f92ddbcbd414d940e93
def sm2Gx : Nat := 0x32c4ae2c1f1981195f9904466a39c9948fe30bbff2660be1715a4589334c74c7
def sm2Gy : Nat := 0xbc3736a2f4f6779c59bdcee36b692153d0a9877cc62a474002df32e52139f0a0
def sm2N : Nat := 0xfffffffeffffffffffffffffffffffff7203df6b21c6052b53bbf40939d54123

variable (S : OpenSsl)

def sm2Group : Outcome S.Group := do
  let group ← S.fromComponents sm2P sm2A sm2B
  let generator ← S.fromAffine group sm2Gx sm2Gy
  S.setGenerator group generator sm2N 1

def sm2MessageDigest (msg : Bytes) (pubkey : EccPubKey) : Outcome Bytes := do
  let userId := pubkey.userId
  ensure (userId.length ≤ 65535 / 8) (.error ["SM2 user id is too long"])
  let entl := Wire.toBeBytes 2 (userId.length * 8)
  let za ← S.sm3 (entl ++ userId ++ ([sm2A, sm2B, sm2Gx, sm2Gy].flatMap (Wire.toBeBytes eccLen)) ++
    pubkey.qx ++ pubkey.qy)
  S.sm3 (za ++ msg)

def verifySm2Digest (group : S.Group) (pubkey : S.Point) (digest : Bytes) (signature : EccSignature) :
    Outcome Bool := do
  let order ← S.order group
  let r := Wire.fromBytesBe signature.r
  let s := Wire.fromBytesBe signature.s
  let t := (r + s) % order
  if r = 0 ∨ order ≤ r ∨ s = 0 ∨ order ≤ s ∨ t = 0 then .ok false
  else do
    let calculated ← S.mulFull group s pubkey t
    let x ← S.affineX group calculated
    .ok (decide ((Wire.fromBytesBe digest + x) % order = r))

def verifySignature (msg : Bytes) (signature : EccSignature) (pubkey : EccPubKey) : Outcome Unit := do
  let group ← sm2Group S
  let point ← S.fromAffine group (Wire.fromBytesBe pubkey.qx) (Wire.fromBytesBe pubkey.qy)
  let digest ← sm2MessageDigest S msg pubkey
  let verified ← verifySm2Digest S group point digest signature
  ensure (verified = true) (.error ["Hygon CSV report SM2 signature verification failed"])

def verifyReportSignature (report : CsvReport) : Outcome Unit :=
  verifySignature S report.signedBytes report.reportSignature report.pekPubkey

end Sm2

end UnifiedAttestation.Csv
