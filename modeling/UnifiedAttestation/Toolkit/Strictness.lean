import UnifiedAttestation.Toolkit.Submissions
import UnifiedAttestation.Toolkit.Reference
import UnifiedAttestation.Wire.Layout

/-! What the decoders let pass: for every format, when encoding gives back the bytes that
were decoded.

No decoder looks at what follows its last field, and the fields with a decoder of their own
are kept as values, not as the bytes they came as.
-/

set_option autoImplicit false

namespace UnifiedAttestation.Toolkit

open Wire (Bytes Outcome Reader Layout Oddity Reading toBeBytes fromBytesBe utf8 fromUtf8 bail orBail reserve)

section Fields

/-- Length-prefixed bytes. -/
def bytesLayout : Layout := .blob some

def textLayout : Layout := .blob fun bytes => (fromUtf8 bytes).map fun _ => bytes

/-- Length-prefixed bytes with a decoder and an encoder of their own. -/
def spelled {β : Type} (read : Bytes → Option β) (write : β → Bytes) : Layout := .blob fun bytes => (read bytes).map write

theorem utf8_fromUtf8 {bytes : Bytes} {text : String} (decoded : fromUtf8 bytes = some text) : utf8 text = bytes := by
  unfold fromUtf8 String.fromUTF8? at decoded
  split at decoded
  · cases decoded
    rfl
  · cases decoded

theorem readNumber_eq_ok {count n : Nat} {bytes rest : Bytes} :
    (fromBytesBe <$> readExact count : Reader Nat) bytes = .ok (n, rest) ↔ Wire.number count bytes = some (n, rest) := by
  simp only [Wire.reader_map_eq_ok, readExact, Wire.take_eq_ok, Wire.number, Option.map_eq_some_iff, Prod.exists,
    Prod.mk.injEq]
  constructor
  · rintro ⟨front, parts, rfl⟩
    exact ⟨front, rest, parts, rfl, rfl⟩
  · rintro ⟨front, _, parts, rfl, rfl⟩
    exact ⟨front, parts, rfl⟩

theorem readLenBytes_eq_ok {bytes content rest : Bytes} (reads : readLenBytes bytes = .ok (content, rest)) :
    Wire.slice bytes = some (content, rest) := by
  simp only [readLenBytes, readU64, Wire.reader_bind_eq_ok, readNumber_eq_ok, Wire.reader_lift_eq_ok,
    Wire.take_eq_ok] at reads
  obtain ⟨len, middle, length, _, _, ⟨_, rfl⟩, content⟩ := reads
  simp only [Wire.slice, length, Option.bind_eq_bind, Option.bind_some, content]

theorem spelled_scan {β : Type} {read : Bytes → Option β} {write : β → Bytes} {bytes content rest : Bytes} {value : β}
    (reads : readLenBytes bytes = .ok (content, rest)) (decodes : read content = some value) :
    (spelled read write).Finds bytes (appendLenBytes (write value)) rest := by
  simp only [Layout.Finds, spelled, Layout.scan, readLenBytes_eq_ok reads, Option.bind_eq_bind, Option.bind_some, decodes,
    Option.map_some]
  exact ⟨_, rfl⟩

theorem spelled_scans {β : Type} {read : Bytes → Option β} {write : β → Bytes} {message : String} :
    (spelled read write).Scans (do let bytes ← readLenBytes; orBail message (read bytes))
      (fun value => appendLenBytes (write value)) := by
  intro bytes value rest reads
  simp only [Wire.reader_bind_eq_ok, Wire.reader_lift_eq_ok, Wire.orBail_eq_ok] at reads
  obtain ⟨content, _, reads, decodes, rfl⟩ := reads
  exact spelled_scan reads decodes

theorem bytesLayout_scans : bytesLayout.Scans readLenBytes appendLenBytes := by
  intro bytes content rest reads
  exact @spelled_scan Bytes some id _ _ _ _ reads rfl

theorem textLayout_scans : textLayout.Scans readString appendString := by
  intro bytes text rest reads
  simp only [readString, Wire.reader_bind_eq_ok, Wire.reader_lift_eq_ok, Wire.orBail_eq_ok] at reads
  obtain ⟨content, _, reads, decodes, rfl⟩ := reads
  simp only [Layout.Finds, textLayout, Layout.scan, readLenBytes_eq_ok reads, Option.bind_eq_bind, Option.bind_some, decodes,
    Option.map_some, appendString, utf8_fromUtf8 decodes]
  exact ⟨_, rfl⟩

theorem duration_scans : Layout.duration.Scans readDuration appendDuration := by
  intro bytes value rest reads
  simp only [readDuration, readU64, readU32, Wire.reader_bind_eq_ok, readNumber_eq_ok, Wire.reader_lift_eq_ok] at reads
  obtain ⟨secs, _, readSecs, nanos, _, readNanos, made, rfl⟩ := reads
  unfold Duration.new at made
  split at made
  · next fits =>
    cases made
    simp only [Layout.Finds, Layout.scan, Wire.scanDuration, readSecs, readNanos, Option.bind_eq_bind, Option.bind_some, if_pos fits,
      appendDuration]
    exact ⟨_, rfl⟩
  · cases made

theorem flag_scans (invalid : Nat → String) :
    Layout.flag.Scans (readBool invalid) fun value => toBeBytes 1 value.toNat := by
  intro bytes value rest reads
  simp only [readBool, readU8, Wire.reader_bind_eq_ok, readNumber_eq_ok] at reads
  obtain ⟨n, _, read, reads⟩ := reads
  simp only [Layout.Finds, Layout.scan, read, Option.bind_eq_bind, Option.bind_some]
  obtain _ | _ | _ := n
  · obtain ⟨rfl, rfl⟩ := Wire.reader_pure_eq_ok.mp reads
    exact ⟨[], rfl⟩
  · obtain ⟨rfl, rfl⟩ := Wire.reader_pure_eq_ok.mp reads
    exact ⟨[], rfl⟩
  · cases reads

/-- A slice with fields of its own. -/
theorem nested_finds {inner : Layout} {bytes content rest written left : Bytes}
    (reads : readLenBytes bytes = .ok (content, rest)) (finds : inner.Finds content written left) :
    (Layout.nested inner).Finds bytes (appendLenBytes written) rest := by
  obtain ⟨noted, scanned⟩ := finds
  simp only [Layout.Finds, Layout.scan, readLenBytes_eq_ok reads, scanned, Option.bind_eq_bind, Option.bind_some]
  exact ⟨_, rfl⟩

/-- A vector of elements of the given size behind their number. -/
theorem vector_scans {β : Type} {layout : Layout} {read : Reader β} {write : β → Bytes} {size : Nat}
    (scans : layout.Scans read write) :
    (Layout.vector size layout).Scans (do let len ← readU64; reserve isizeMax (size * len); Wire.replicate read len)
      (fun values => toBeBytes 8 values.length ++ values.flatMap write) := by
  intro bytes values rest reads
  simp only [readU64, Wire.reader_bind_eq_ok, readNumber_eq_ok, Wire.reader_lift_eq_ok] at reads
  obtain ⟨count, _, read, _, _, ⟨_, rfl⟩, reads⟩ := reads
  obtain ⟨rfl, noted, scanned⟩ := scans.repeated reads
  simp only [Layout.Finds, Layout.scan, read, scanned, Option.bind_eq_bind, Option.bind_some, Option.map_some, Reading.after]
  exact ⟨noted, rfl⟩

theorem option_scans {β : Type} {layout : Layout} {read : Reader β} {write : β → Bytes} (invalid : Nat → String)
    (scans : layout.Scans read write) :
    (Layout.option layout).Scans (readOption invalid read) (appendOption write) := by
  intro bytes value rest reads
  simp only [readOption, readU8, Wire.reader_bind_eq_ok, readNumber_eq_ok] at reads
  obtain ⟨n, _, tag, reads⟩ := reads
  simp only [Layout.Finds, Layout.scan, tag, Option.bind_eq_bind, Option.bind_some]
  obtain _ | _ | _ := n
  · obtain ⟨rfl, rfl⟩ := Wire.reader_pure_eq_ok.mp reads
    exact ⟨[], rfl⟩
  · obtain ⟨held, inside, rfl⟩ := Wire.reader_map_eq_ok.mp reads
    obtain ⟨noted, scanned⟩ := scans _ _ _ inside
    simp only [scanned, Option.map_some, Reading.after]
    exact ⟨noted, rfl⟩
  · cases reads

end Fields

section Messages

def boolVecLayout : Layout := .vector 1 .flag

theorem boolVecLayout_scans (invalid : Nat → String) : boolVecLayout.Scans (readBoolVec invalid) appendBoolVec := by
  have vector := @vector_scans _ _ _ _ 1 (flag_scans invalid)
  simp only [Nat.one_mul] at vector
  exact vector

def deviceClientInforWireLayout : Layout :=
  .fields [bytesLayout, textLayout, bytesLayout, .duration, .duration]

theorem deviceClientInforWireLayout_scans :
    deviceClientInforWireLayout.Scans readDeviceClientInforWire encodeDeviceClientInforWire := by
  intro bytes value rest reads
  simp only [readDeviceClientInforWire, Wire.reader_bind_eq_ok, Wire.reader_pure_eq_ok] at reads
  obtain ⟨verifyingKey, _, readKey, measuredValue, _, readValue, merkleLeaf, _, readLeaf, timestamp, _, readTime, period,
    _, readPeriod, rfl, rfl⟩ := reads
  have whole := (bytesLayout_scans _ _ _ readKey).cons <| (textLayout_scans _ _ _ readValue).cons <|
    (bytesLayout_scans _ _ _ readLeaf).cons <| (duration_scans _ _ _ readTime).cons <|
    (duration_scans _ _ _ readPeriod).cons <| .nil _
  simpa only [encodeDeviceClientInforWire, deviceClientInforWireLayout, List.append_assoc, List.append_nil] using whole

def signedDeviceClientInforWireLayout : Layout := .fields [.nested deviceClientInforWireLayout, bytesLayout]

theorem signedDeviceClientInforWireLayout_scans :
    signedDeviceClientInforWireLayout.Scans readSignedDeviceClientInforWire encodeSignedDeviceClientInforWire := by
  intro bytes value rest reads
  simp only [readSignedDeviceClientInforWire, Wire.reader_bind_eq_ok, Wire.reader_lift_eq_ok, Wire.reader_pure_eq_ok,
    decodeDeviceClientInforWire, Wire.decode_eq_ok] at reads
  obtain ⟨content, _, readContent, device, _, ⟨⟨_, readDevice⟩, rfl⟩, signature, _, readSignature, rfl, rfl⟩ := reads
  have whole := (nested_finds readContent (deviceClientInforWireLayout_scans _ _ _ readDevice)).cons <|
    (bytesLayout_scans _ _ _ readSignature).cons <| .nil _
  simpa only [encodeSignedDeviceClientInforWire, signedDeviceClientInforWireLayout, List.append_nil] using whole

def encryptedMessageLayout : Layout := .fields [bytesLayout, bytesLayout, bytesLayout]

theorem encryptedMessageLayout_scans :
    encryptedMessageLayout.Scans readEncryptedMessage encodeEncryptedMessage := by
  intro bytes value rest reads
  simp only [readEncryptedMessage, Wire.reader_bind_eq_ok, Wire.reader_pure_eq_ok] at reads
  obtain ⟨key, _, readKey, nonce, _, readNonce, ciphertext, _, readCiphertext, rfl, rfl⟩ := reads
  have whole := (bytesLayout_scans _ _ _ readKey).cons <| (bytesLayout_scans _ _ _ readNonce).cons <|
    (bytesLayout_scans _ _ _ readCiphertext).cons <| .nil _
  simpa only [encodeEncryptedMessage, encryptedMessageLayout, List.append_assoc, List.append_nil] using whole

def responseDeviceInforWireLayout : Layout :=
  .fields [bytesLayout, textLayout, .duration, .duration, .option bytesLayout, .option (.vector 24 bytesLayout),
    .option boolVecLayout]

theorem responseDeviceInforWireLayout_scans :
    responseDeviceInforWireLayout.Scans readResponseDeviceInforWire encodeResponseDeviceInforWire := by
  intro bytes value rest reads
  simp only [readResponseDeviceInforWire, Wire.reader_bind_eq_ok, Wire.reader_pure_eq_ok] at reads
  obtain ⟨verifyingKey, _, readKey, attesterAddr, _, readAddr, timestamp, _, readTime, period, _, readPeriod, sig, _,
    readSig, shrubsPath, _, readPath, shrubsTag, _, readTag, rfl, rfl⟩ := reads
  have path : (Layout.vector 24 bytesLayout).Scans readPathBytes appendPathBytes := vector_scans bytesLayout_scans
  have whole := (bytesLayout_scans _ _ _ readKey).cons <| (textLayout_scans _ _ _ readAddr).cons <|
    (duration_scans _ _ _ readTime).cons <| (duration_scans _ _ _ readPeriod).cons <|
    (option_scans _ bytesLayout_scans _ _ _ readSig).cons <| (option_scans _ path _ _ _ readPath).cons <|
    (option_scans _ (boolVecLayout_scans _) _ _ _ readTag).cons <| .nil _
  simpa only [encodeResponseDeviceInforWire, responseDeviceInforWireLayout, List.append_assoc, List.append_nil] using whole

section Values
variable (S : Suite)

def scalarLayout : Layout := spelled S.scalarOf S.scalarBytes

def signatureLayout : Layout := spelled S.derOf S.derBytes

def verifyingKeyLayout : Layout := spelled S.pointOf S.pointBytes

def proofLayout : Layout := spelled S.proofOf S.proofBytes

def arkVkLayout : Layout := spelled S.grothKeyOf S.grothKeyBytes

theorem scalarLayout_scans : (scalarLayout S).Scans (readScalar S) (appendScalar S) := spelled_scans

theorem signatureLayout_scans : (signatureLayout S).Scans (readSignature S) (appendSignature S) := spelled_scans

theorem verifyingKeyLayout_scans : (verifyingKeyLayout S).Scans (readVerifyingKey S) (appendVerifyingKey S) :=
  spelled_scans

theorem proofLayout_scans : (proofLayout S).Scans (readProof S) (appendProof S) := spelled_scans

theorem arkVkLayout_scans : (arkVkLayout S).Scans (readArkVk S) (appendArkVk S) := spelled_scans

def publicContextLayout : Layout := .fields [.vector 32 (scalarLayout S), verifyingKeyLayout S]

theorem publicContextLayout_scans : (publicContextLayout S).Scans (readPublicContext S) (encodePublicContext S) := by
  intro bytes value rest reads
  simp only [readPublicContext, Wire.reader_bind_eq_ok, Wire.reader_pure_eq_ok] at reads
  obtain ⟨root, _, readRoot, verifierPk, _, readPk, rfl, rfl⟩ := reads
  have roots : (Layout.vector 32 (scalarLayout S)).Scans (readScalarVec S) (appendScalarVec S) :=
    vector_scans (scalarLayout_scans S)
  have whole := (roots _ _ _ readRoot).cons <| (verifyingKeyLayout_scans S _ _ _ readPk).cons <| .nil _
  simpa only [encodePublicContext, publicContextLayout, List.append_nil] using whole

def evidenceBundleLayout : Layout :=
  .fields [proofLayout S, arkVkLayout S, signatureLayout S, verifyingKeyLayout S, .duration, .duration, scalarLayout S,
    .duration, .duration, signatureLayout S, signatureLayout S]

theorem evidenceBundleLayout_scans : (evidenceBundleLayout S).Scans (readEvidenceBundle S)
    fun bundle => encodeEvidenceBundle S bundle.1 bundle.2 := by
  intro bytes value rest reads
  simp only [readEvidenceBundle, Wire.reader_bind_eq_ok, Wire.reader_pure_eq_ok] at reads
  obtain ⟨proof, _, readProof, vk, _, readVk, sig, _, readSig, pk, _, readPk, timestamp, _, readTime, period, _,
    readPeriod, authorizedInfor, _, readInfor, timestampAttester, _, readTime', periodAttester, _, readPeriod', inner, _,
    readInner, deviceSignature, _, readSignature, rfl, rfl⟩ := reads
  have whole := (proofLayout_scans S _ _ _ readProof).cons <| (arkVkLayout_scans S _ _ _ readVk).cons <|
    (signatureLayout_scans S _ _ _ readSig).cons <| (verifyingKeyLayout_scans S _ _ _ readPk).cons <|
    (duration_scans _ _ _ readTime).cons <| (duration_scans _ _ _ readPeriod).cons <|
    (scalarLayout_scans S _ _ _ readInfor).cons <| (duration_scans _ _ _ readTime').cons <|
    (duration_scans _ _ _ readPeriod').cons <| (signatureLayout_scans S _ _ _ readInner).cons <|
    (signatureLayout_scans S _ _ _ readSignature).cons <| .nil _
  simpa only [encodeEvidenceBundle, evidenceBundleLayout, List.append_assoc, List.append_nil] using whole

/-- The layout of a response, whose fields are converted after they are read. -/
def responseDeviceInforLayout : Layout :=
  .fields [verifyingKeyLayout S, textLayout, .duration, .duration, .option (signatureLayout S),
    .option (.vector 24 (scalarLayout S)), .option boolVecLayout]

variable {S}

/-- Scalars that are converted after all were read. -/
theorem scalars_convert {count : Nat} {bytes rest : Bytes} {contents : List Bytes} {values : List S.Scalar}
    (reads : Wire.replicate readLenBytes count bytes = .ok (contents, rest))
    (decodes : contents.mapM (decodeScalar S) = .ok values) :
    Wire.replicate (readScalar S) count bytes = .ok (values, rest) := by
  induction count generalizing bytes contents values with
  | zero =>
    obtain ⟨rfl, rfl⟩ := Wire.reader_pure_eq_ok.mp reads
    cases decodes
    rfl
  | succ count ih =>
    simp only [Wire.replicate, Wire.reader_bind_eq_ok, Wire.reader_pure_eq_ok] at reads
    obtain ⟨content, middle, first, others, _, later, rfl, rfl⟩ := reads
    simp only [List.mapM_cons, Wire.bind_eq_ok] at decodes
    obtain ⟨value, decoded, values', decodes', same⟩ := decodes
    cases same
    simp only [Wire.replicate, Wire.reader_bind_eq_ok, Wire.reader_pure_eq_ok, readScalar, Wire.reader_lift_eq_ok]
    exact ⟨value, middle, ⟨content, middle, first, decoded, rfl⟩, values', _, ih later decodes', rfl, rfl⟩

theorem readOption_converts {β γ : Type} {read : Reader β} {read' : Reader γ} {convert : β → Outcome γ}
    {invalid : Nat → String} {bytes rest : Bytes} {held : Option β} {value : Option γ}
    (converts : ∀ {bytes rest held value}, read bytes = .ok (held, rest) → convert held = .ok value →
      read' bytes = .ok (value, rest))
    (reads : readOption invalid read bytes = .ok (held, rest)) (decodes : held.mapM convert = .ok value) :
    readOption invalid read' bytes = .ok (value, rest) := by
  simp only [readOption, Wire.reader_bind_eq_ok] at reads ⊢
  obtain ⟨n, middle, tag, reads⟩ := reads
  refine ⟨n, middle, tag, ?_⟩
  match n with
  | 0 =>
    obtain ⟨rfl, rfl⟩ := Wire.reader_pure_eq_ok.mp reads
    cases decodes
    rfl
  | 1 =>
    obtain ⟨inner, inside, rfl⟩ := Wire.reader_map_eq_ok.mp reads
    obtain ⟨result, converted, rfl⟩ := Wire.map_eq_ok.mp decodes
    exact Wire.reader_map_eq_ok.mpr ⟨result, converts inside converted, rfl⟩
  | _ + 2 => cases reads

theorem readSignature_converts {bytes content rest : Bytes} {value : S.Signature}
    (reads : readLenBytes bytes = .ok (content, rest)) (decodes : decodeSignature S content = .ok value) :
    readSignature S bytes = .ok (value, rest) := by
  simp only [readSignature, Wire.reader_bind_eq_ok, Wire.reader_lift_eq_ok]
  exact ⟨content, rest, reads, decodes, rfl⟩

/-- A path whose scalars are decoded as they are read. -/
def readPath (S : Suite) : Reader (List S.Scalar) := do
  let len ← readU64
  reserve isizeMax (24 * len)
  Wire.replicate (readScalar S) len

theorem readPath_converts {bytes rest : Bytes} {path : List Bytes} {values : List S.Scalar}
    (reads : readPathBytes bytes = .ok (path, rest)) (decodes : path.mapM (decodeScalar S) = .ok values) :
    readPath S bytes = .ok (values, rest) := by
  simp only [readPathBytes, readPath, Wire.reader_bind_eq_ok] at reads ⊢
  obtain ⟨len, middle, length, held, front, reserved, elements⟩ := reads
  exact ⟨len, middle, length, held, front, reserved, scalars_convert elements decodes⟩

theorem readPath_scans : (Layout.vector 24 (scalarLayout S)).Scans (readPath S)
    fun values => appendPathBytes (values.map (encodeScalar S)) := by
  have written : (fun values : List S.Scalar => appendPathBytes (values.map (encodeScalar S))) =
      fun values => toBeBytes 8 values.length ++ values.flatMap (appendScalar S) := by
    funext values
    rw [appendPathBytes, List.length_map, List.flatMap_map]
    rfl
  rw [written]
  exact vector_scans (scalarLayout_scans S)

theorem appendOption_map {β γ : Type} (append : γ → Bytes) (f : β → γ) (value : Option β) :
    appendOption append (value.map f) = appendOption (fun held => append (f held)) value := by
  cases value <;> rfl

theorem responseDeviceInforLayout_finds {bytes : Bytes} {value : ResponseDeviceInfor S}
    (decoded : decodeResponseDeviceInfor S bytes = .ok value) :
    ∃ rest, (responseDeviceInforLayout S).Finds bytes (encodeResponseDeviceInfor S value) rest := by
  simp only [decodeResponseDeviceInfor, decodeResponseDeviceInforWire, Wire.bind_eq_ok, Wire.decode_eq_ok] at decoded
  obtain ⟨wire, ⟨rest, reads⟩, converted⟩ := decoded
  simp only [readResponseDeviceInforWire, Wire.reader_bind_eq_ok, Wire.reader_pure_eq_ok] at reads
  obtain ⟨verifyingKey, _, readKey, attesterAddr, _, readAddr, timestamp, _, readTime, period, _, readPeriod, sig, _,
    readSig, shrubsPath, _, readShrubsPath, shrubsTag, left, readTag, rfl, rfl⟩ := reads
  simp only [responseDeviceInforFromWire, Wire.bind_eq_ok, Wire.orBail_eq_ok] at converted
  obtain ⟨path, pathDecodes, key, keyDecodes, signature, sigDecodes, same⟩ := converted
  cases same
  have pathReads := readOption_converts readPath_converts readShrubsPath pathDecodes
  have sigReads := readOption_converts readSignature_converts readSig sigDecodes
  have point : (verifyingKeyLayout S).Finds bytes (appendLenBytes (S.pointBytes key)) _ := spelled_scan readKey keyDecodes
  have whole := point.cons <| (textLayout_scans _ _ _ readAddr).cons <| (duration_scans _ _ _ readTime).cons <|
    (duration_scans _ _ _ readPeriod).cons <| (option_scans _ (signatureLayout_scans S) _ _ _ sigReads).cons <|
    (option_scans _ readPath_scans _ _ _ pathReads).cons <|
    (option_scans _ (boolVecLayout_scans _) _ _ _ readTag).cons <| .nil _
  have written : appendSignature S = fun held => appendLenBytes (encodeSignature S held) := rfl
  refine ⟨left, ?_⟩
  simpa only [encodeResponseDeviceInfor, responseDeviceInforToWire, encodeResponseDeviceInforWire, appendOption_map,
    responseDeviceInforLayout, written, List.append_assoc, List.append_nil] using whole

/-- The layout of a verifier response: two slices with the layouts of its halves. -/
def verifierResponseLayout (S : Suite) : Layout :=
  .fields [.nested (responseDeviceInforLayout S), .nested (publicContextLayout S)]

theorem verifierResponseLayout_finds {bytes : Bytes} {value : ResponseDeviceInfor S × PublicContext S}
    (decoded : decodeVerifierResponse S bytes = .ok value) :
    ∃ rest, (verifierResponseLayout S).Finds bytes (encodeVerifierResponse S value.1 value.2) rest := by
  simp only [decodeVerifierResponse, Wire.bind_eq_ok, Wire.decode_eq_ok, readVerifierResponse, Wire.reader_bind_eq_ok,
    Wire.reader_pure_eq_ok, decodePublicContext] at decoded
  obtain ⟨_, ⟨rest, first, _, readFirst, second, left, readSecond, rfl, rfl⟩, devRes, decodedRes, publicContext,
    ⟨_, readContext⟩, same⟩ := decoded
  cases same
  obtain ⟨_, response⟩ := responseDeviceInforLayout_finds decodedRes
  have whole := (nested_finds readFirst response).cons <|
    (nested_finds readSecond (publicContextLayout_scans S _ _ _ readContext)).cons <| .nil _
  refine ⟨left, ?_⟩
  simpa only [encodeVerifierResponse, verifierResponseLayout, List.append_nil] using whole

end Values

end Messages

section Formats
variable (S : Suite)

/-- The formats with an encoder and a decoder. -/
inductive Format where
  | publicContext | deviceClientInforWire | signedDeviceClientInforWire | encryptedMessage | responseDeviceInforWire
  | verifierResponse | evidenceBundle
  deriving DecidableEq, Repr

def Format.Message : Format → Type
  | .publicContext => PublicContext S
  | .deviceClientInforWire => DeviceClientInforWire
  | .signedDeviceClientInforWire => SignedDeviceClientInforWire
  | .encryptedMessage => EncryptedMessage
  | .responseDeviceInforWire => ResponseDeviceInforWire
  | .verifierResponse => ResponseDeviceInfor S × PublicContext S
  | .evidenceBundle => EvidenceReply S × S.Signature

def Format.encode : (format : Format) → format.Message S → Bytes
  | .publicContext, value => encodePublicContext S value
  | .deviceClientInforWire, value => encodeDeviceClientInforWire value
  | .signedDeviceClientInforWire, value => encodeSignedDeviceClientInforWire value
  | .encryptedMessage, value => encodeEncryptedMessage value
  | .responseDeviceInforWire, value => encodeResponseDeviceInforWire value
  | .verifierResponse, value => encodeVerifierResponse S value.1 value.2
  | .evidenceBundle, value => encodeEvidenceBundle S value.1 value.2

def Format.decode : (format : Format) → Bytes → Outcome (format.Message S)
  | .publicContext, bytes => decodePublicContext S bytes
  | .deviceClientInforWire, bytes => decodeDeviceClientInforWire bytes
  | .signedDeviceClientInforWire, bytes => decodeSignedDeviceClientInforWire bytes
  | .encryptedMessage, bytes => decodeEncryptedMessage bytes
  | .responseDeviceInforWire, bytes => decodeResponseDeviceInforWire bytes
  | .verifierResponse, bytes => decodeVerifierResponse S bytes
  | .evidenceBundle, bytes => decodeEvidenceBundle S bytes

def Format.layout : Format → Layout
  | .publicContext => publicContextLayout S
  | .deviceClientInforWire => deviceClientInforWireLayout
  | .signedDeviceClientInforWire => signedDeviceClientInforWireLayout
  | .encryptedMessage => encryptedMessageLayout
  | .responseDeviceInforWire => responseDeviceInforWireLayout
  | .verifierResponse => verifierResponseLayout S
  | .evidenceBundle => evidenceBundleLayout S

variable {S}

/-- The layout of a format holds of everything that is decoded. -/
theorem Format.decode_finds {format : Format} {bytes : Bytes} {message : format.Message S}
    (decoded : format.decode S bytes = .ok message) :
    ∃ rest, (format.layout S).Finds bytes (format.encode S message) rest := by
  have scanned : ∀ {β : Type} {layout : Layout} {reader : Reader β} {write : β → Bytes} {value : β},
      layout.Scans reader write → Wire.decode reader bytes = .ok value → ∃ rest, layout.Finds bytes (write value) rest := by
    intro β layout reader write value scans decoded
    obtain ⟨rest, reads⟩ := Wire.decode_eq_ok.mp decoded
    exact ⟨rest, scans _ _ _ reads⟩
  cases format with
  | publicContext => exact scanned (publicContextLayout_scans S) decoded
  | deviceClientInforWire => exact scanned deviceClientInforWireLayout_scans decoded
  | signedDeviceClientInforWire => exact scanned signedDeviceClientInforWireLayout_scans decoded
  | encryptedMessage => exact scanned encryptedMessageLayout_scans decoded
  | responseDeviceInforWire => exact scanned responseDeviceInforWireLayout_scans decoded
  | verifierResponse => exact verifierResponseLayout_finds decoded
  | evidenceBundle => exact scanned (evidenceBundleLayout_scans S) decoded

/-- Encoding what was decoded rewrites the front of the bytes field by field, and gives the
bytes back exactly when nothing in them is odd; so bytes without anything odd are the only ones
of their message. -/
theorem Format.encode_decoded {format : Format} {bytes : Bytes} {message : format.Message S}
    (small : bytes.length ≤ isizeMax) (decoded : format.decode S bytes = .ok message) :
    (∃ reading, (format.layout S).scan bytes = some reading ∧ format.encode S message = reading.canonical) ∧
      (format.encode S message = bytes ↔ (format.layout S).oddities bytes = []) ∧
      ∀ other, other.length ≤ isizeMax → format.decode S other = .ok message →
        (format.layout S).oddities bytes = [] → (format.layout S).oddities other = [] → other = bytes := by
  have encode_iff : ∀ {bytes : Bytes}, bytes.length ≤ isizeMax → format.decode S bytes = .ok message →
      (format.encode S message = bytes ↔ (format.layout S).oddities bytes = []) := by
    intro bytes small decoded
    obtain ⟨rest, noted, scanned⟩ := Format.decode_finds decoded
    have fits : bytes.length < 2 ^ 64 := Nat.lt_of_le_of_lt small (by decide)
    exact Layout.canonical_eq_iff fits scanned
  obtain ⟨rest, noted, scanned⟩ := Format.decode_finds decoded
  refine ⟨⟨_, scanned, rfl⟩, encode_iff small decoded, ?_⟩
  intro other small' decoded' plain plain'
  exact ((encode_iff small' decoded').mpr plain').symm.trans ((encode_iff small decoded).mpr plain)

/-- An encrypted message of three empty fields, and a byte behind it. -/
def trailedMessage : Bytes := List.replicate 24 0 ++ [7]

/-- The byte behind the message is not noticed: two byte strings decode to one message. -/
theorem trailing_byte_decoded :
    decodeEncryptedMessage trailedMessage = .ok ⟨[], [], []⟩ ∧
      decodeEncryptedMessage (List.replicate 24 0) = .ok ⟨[], [], []⟩ ∧
      encodeEncryptedMessage ⟨[], [], []⟩ ≠ trailedMessage := by
  refine ⟨rfl, rfl, by decide⟩

theorem Format.encode_decoded_trailing :
    Format.encode reference .encryptedMessage ⟨[], [], []⟩ = trailedMessage ↔
      (Format.layout reference .encryptedMessage).oddities trailedMessage = [] :=
  (@Format.encode_decoded reference .encryptedMessage _ _ (by decide) rfl).2.1

end Formats

end UnifiedAttestation.Toolkit
