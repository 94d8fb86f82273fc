import UnifiedAttestation.Grpc.Verify

/-! A reference instance of the crates, in which requests can be evaluated.

Base64 is the real one, JSON is restricted to the texts of given values. Tokens,
reports and quotes are their signed fields written out, without zeros at the end of
the field for the nonce, and every signature holds.
-/

set_option autoImplicit false

namespace UnifiedAttestation.Grpc

open Wire (Bytes)
open Json (Value Serde)

section Base64

def base64Digit (urlSafe : Bool) (n : Nat) : Char :=
  if n < 26 then Char.ofNat (65 + n)
  else if n < 52 then Char.ofNat (71 + n)
  else if n < 62 then Char.ofNat (n - 4)
  else if n = 62 then (if urlSafe then '-' else '+')
  else if urlSafe then '_' else '/'

/-- The value of a digit of the standard alphabet. -/
def base64Value (digit : Char) : Nat :=
  if digit.isUpper then digit.toNat - 65
  else if digit.isLower then digit.toNat - 71
  else if digit.isDigit then digit.toNat + 4
  else if digit = '+' then 62
  else 63

/-- The digits of one group of one to three bytes. -/
def base64Group (urlSafe : Bool) (bytes : List Nat) : List Char :=
  let word := bytes.getD 0 0 * 65536 + bytes.getD 1 0 * 256 + bytes.getD 2 0
  ([word / 262144, word / 4096 % 64, word / 64 % 64, word % 64].take (bytes.length + 1)).map (base64Digit urlSafe)

/-- The URL-safe alphabet goes without padding. -/
def base64Digits (urlSafe : Bool) : Bytes → List Char
  | [] => []
  | [a] => base64Group urlSafe [a.toNat] ++ if urlSafe then [] else ['=', '=']
  | [a, b] => base64Group urlSafe [a.toNat, b.toNat] ++ if urlSafe then [] else ['=']
  | a :: b :: c :: rest => base64Group urlSafe [a.toNat, b.toNat, c.toNat] ++ base64Digits urlSafe rest

def standardBase64 (bytes : Bytes) : String := String.ofList (base64Digits false bytes)

def urlSafeBase64 (bytes : Bytes) : String := String.ofList (base64Digits true bytes)

def base64Bytes : List Char → Bytes
  | a :: b :: c :: d :: rest =>
    let word := base64Value a * 262144 + base64Value b * 4096 + base64Value c * 64 + base64Value d
    let count := if c = '=' then 1 else if d = '=' then 2 else 3
    ([word / 65536, word / 256, word].take count).map UInt8.ofNat ++ base64Bytes rest
  | _ => []

/-- Only the text that encoding gives is decoded. -/
def decodeStandardBase64 (text : String) : Except String Bytes :=
  let bytes := base64Bytes text.toList
  if standardBase64 bytes = text then .ok bytes else .error "Invalid padding"

theorem base64Value_digit : ∀ n < 64, base64Value (base64Digit false n) = n := by decide

theorem base64Digit_ne : ∀ n < 64, base64Digit false n ≠ '=' := by decide

theorem ofNat_eq_byte {n : Nat} {byte : UInt8} (same : n % 256 = byte.toNat) : UInt8.ofNat n = byte := by
  apply UInt8.toNat_inj.mp
  rw [UInt8.toNat_ofNat']
  exact same

theorem base64_roundTrip (bytes : Bytes) : base64Bytes (base64Digits false bytes) = bytes := by
  induction bytes using base64Digits.induct with
  | case1 => rfl
  | case2 a =>
    have small := a.toNat_lt
    have high := base64Value_digit ((a.toNat * 65536 + 0 * 256 + 0) / 262144) (by omega)
    have low := base64Value_digit ((a.toNat * 65536 + 0 * 256 + 0) / 4096 % 64) (by omega)
    have last : base64Value '=' = 63 := rfl
    simp only [base64Digits, base64Group, List.getD_cons_zero, List.getD_cons_succ, List.getD_nil, List.length_cons,
      List.length_nil, List.take_succ_cons, List.take_zero, List.map_cons, List.map_nil, List.cons_append,
      List.nil_append, if_false, base64Bytes, Bool.false_eq_true, if_true, high, low, last]
    exact congrArg (· :: []) (ofNat_eq_byte (by omega))
  | case3 a b =>
    have small := a.toNat_lt
    have lower := b.toNat_lt
    have high := base64Value_digit ((a.toNat * 65536 + b.toNat * 256 + 0) / 262144) (by omega)
    have middle := base64Value_digit ((a.toNat * 65536 + b.toNat * 256 + 0) / 4096 % 64) (by omega)
    have low := base64Value_digit ((a.toNat * 65536 + b.toNat * 256 + 0) / 64 % 64) (by omega)
    have unfilled := base64Digit_ne ((a.toNat * 65536 + b.toNat * 256 + 0) / 64 % 64) (by omega)
    have last : base64Value '=' = 63 := rfl
    simp only [base64Digits, base64Group, List.getD_cons_zero, List.getD_cons_succ, List.getD_nil, List.length_cons,
      List.length_nil, List.take_succ_cons, List.take_zero, List.map_cons, List.map_nil, List.cons_append,
      List.nil_append, if_false, base64Bytes, Bool.false_eq_true, if_true, high, middle, low, unfilled, last]
    rw [@ofNat_eq_byte _ a (by omega), @ofNat_eq_byte _ b (by omega)]
  | case4 a b c rest ih =>
    have small := a.toNat_lt
    have lower := b.toNat_lt
    have lowest := c.toNat_lt
    have first := base64Value_digit ((a.toNat * 65536 + b.toNat * 256 + c.toNat) / 262144) (by omega)
    have second := base64Value_digit ((a.toNat * 65536 + b.toNat * 256 + c.toNat) / 4096 % 64) (by omega)
    have third := base64Value_digit ((a.toNat * 65536 + b.toNat * 256 + c.toNat) / 64 % 64) (by omega)
    have fourth := base64Value_digit ((a.toNat * 65536 + b.toNat * 256 + c.toNat) % 64) (by omega)
    have unfilled := base64Digit_ne ((a.toNat * 65536 + b.toNat * 256 + c.toNat) / 64 % 64) (by omega)
    have filled := base64Digit_ne ((a.toNat * 65536 + b.toNat * 256 + c.toNat) % 64) (by omega)
    simp only [base64Digits, base64Group, List.getD_cons_zero, List.getD_cons_succ, List.length_cons,
      List.length_nil, List.take_succ_cons, List.take_zero, List.map_cons, List.map_nil, List.cons_append,
      List.nil_append, if_false, base64Bytes, first, second, third, fourth, unfilled, filled, ih]
    rw [@ofNat_eq_byte _ a (by omega), @ofNat_eq_byte _ b (by omega), @ofNat_eq_byte _ c (by omega)]

theorem decodeStandardBase64_encode (bytes : Bytes) : decodeStandardBase64 (standardBase64 bytes) = .ok bytes := by
  have back : base64Bytes (standardBase64 bytes).toList = bytes := by
    rw [standardBase64, String.toList_ofList, base64_roundTrip]
  simp only [decodeStandardBase64, back, if_true]

/-- The digit of the standard alphabet with the same value. -/
def standardDigit (digit : Char) : Char := if digit = '-' then '+' else if digit = '_' then '/' else digit

/-- The padding that a text without padding lacks. -/
def paddingDigits (count : Nat) : List Char := List.replicate ((4 - count % 4) % 4) '='

/-- Only the text that encoding gives is decoded. -/
def decodeUrlSafeBase64 (text : String) : Except String Bytes :=
  let bytes := base64Bytes (text.toList.map standardDigit ++ paddingDigits text.toList.length)
  if urlSafeBase64 bytes = text then .ok bytes else .error "Invalid padding"

theorem standardDigit_base64Digit : ∀ n < 64, standardDigit (base64Digit true n) = base64Digit false n := by
  decide

theorem standard_base64Group (bytes : List Nat) (small : ∀ byte ∈ bytes, byte < 256) :
    (base64Group true bytes).map standardDigit = base64Group false bytes := by
  have each : ∀ position, bytes.getD position 0 < 256 := by
    intro position
    rw [List.getD_eq_getElem?_getD]
    cases found : bytes[position]? with
    | none => decide
    | some byte => exact small byte (List.mem_of_getElem? found)
  have first := each 0
  have second := each 1
  have third := each 2
  rw [base64Group, base64Group, List.map_map]
  refine List.map_congr_left fun n member => standardDigit_base64Digit n ?_
  have digit := List.mem_of_mem_take member
  simp only [List.mem_cons, List.not_mem_nil, or_false] at digit
  omega

theorem length_base64Group (urlSafe : Bool) (bytes : List Nat) :
    (base64Group urlSafe bytes).length = min (bytes.length + 1) 4 := by
  simp only [base64Group, List.length_map, List.length_take, List.length_cons, List.length_nil]

/-- The texts of both alphabets differ in two digits and in the padding. -/
theorem standard_base64Digits (bytes : Bytes) :
    (base64Digits true bytes).map standardDigit ++ paddingDigits (base64Digits true bytes).length =
      base64Digits false bytes := by
  induction bytes using base64Digits.induct with
  | case1 => rfl
  | case2 a =>
    have one := standard_base64Group [a.toNat] (by simpa using a.toNat_lt)
    simp [base64Digits, one, paddingDigits, length_base64Group]
  | case3 a b =>
    have two := standard_base64Group [a.toNat, b.toNat] (by simpa using ⟨a.toNat_lt, b.toNat_lt⟩)
    simp [base64Digits, two, paddingDigits, length_base64Group]
  | case4 a b c rest ih =>
    have three := standard_base64Group [a.toNat, b.toNat, c.toNat]
      (by simpa using ⟨a.toNat_lt, b.toNat_lt, c.toNat_lt⟩)
    have same : paddingDigits (4 + (base64Digits true rest).length) = paddingDigits (base64Digits true rest).length := by
      rw [paddingDigits, Nat.add_mod_left, paddingDigits]
    simp only [base64Digits, List.map_append, three, List.length_append, length_base64Group, List.length_cons,
      List.length_nil, List.append_assoc]
    rw [show min (0 + 1 + 1 + 1 + 1) 4 = 4 from rfl, same, ih]

theorem decodeUrlSafeBase64_encode (bytes : Bytes) : decodeUrlSafeBase64 (urlSafeBase64 bytes) = .ok bytes := by
  have back : base64Bytes ((urlSafeBase64 bytes).toList.map standardDigit ++
      paddingDigits (urlSafeBase64 bytes).toList.length) = bytes := by
    rw [urlSafeBase64, String.toList_ofList, standard_base64Digits, base64_roundTrip]
  simp only [decodeUrlSafeBase64, back, if_true]

end Base64

/-- The TD report of a quote. -/
def referenceTdReport (quote : Bytes) : TdReport where
  mrTd := []
  mrSeam := []
  mrSignerSeam := []
  mrConfigId := []
  reportData := resize quote 64
  reportData_length := resize_length quote 64

def referenceCrates (values : List (Value Empty)) : Crates where
  json := Serde.ofValues values
  decodeBase64 := decodeStandardBase64
  encodeBase64 := standardBase64
  encodeBase64Url := urlSafeBase64
  TrustAnchors := Unit
  RefValues := Unit
  CcaEvidence := Bytes
  decodeCca token := .ok token
  verifyCca _ e := .ok e
  appraiseCca _ e := .ok e
  realmAffirming _ := true
  challenge e := resize e 64
  rim e := e.drop 64
  perso _ := []
  instId _ := []
  implId _ := []
  lifecycle _ := 0x6000
  swComponents _ := []
  ReportWrapper := Bytes
  AttestationReport := Bytes
  CaCert := Unit
  CsvCert := Unit
  readWrapper := Value.asBytes
  readCaCert _ := some ()
  readCsvCert _ := some ()
  decodeCa bytes := .ok ((), bytes)
  decodeCsv bytes := .ok ((), bytes)
  report := .ok
  caSignsCa _ _ := .ok ()
  caSignsCsv _ _ := .ok ()
  csvSignsCsv _ _ := .ok ()
  csvSignsReport _ _ := .ok ()
  reportData report := resize report 64
  measure report := report.drop 64
  vmVersion _ := []
  nodbg _ := 0
  noks _ := 0
  HRK := []
  Collateral := Unit
  printCollateral _ := .ok []
  readCollateral _ := .ok ()
  verifyQuote _ _ _ := .ok { status := "UpToDate", advisoryIds := [] }
  parseQuote quote := .ok (some (referenceTdReport quote))

variable (K : Crates)

/-- A host without files or network, with an open policy; the EAR is the text of its nonce. -/
def referenceState (ccaVerifier : Option (CcaVerifier K)) (csvVerifier : Option CsvPolicy) : AppState K where
  ccaPolicy := { trustedSubjects := [], trustedRimHex := [] }
  tdxPolicy := {
    pccsUrl := ""
    trustedMrTdHex := []
    trustedMrSeamHex := []
    trustedMrConfigIdHex := []
    acceptTcbStatus := [] }
  ccaVerifier
  csvVerifier
  sign claims := .ok claims.eatNonce

def referenceWorld (now : Int) : World K where
  readFile _ := none
  fetch url := .error url
  getCollateral url _ := .error url
  injectedAt := now
  issuedAt := now
  expiresAt := now

/-- One appraiser is registered under its name. -/
def referenceRegistered (appraiser : Appraiser) : Registered where
  register _ := .ok appraiser.teeType
  compiled id := if id = appraiser.teeType then some (appraiser.component K) else none

theorem referenceRegistered_shipped (appraiser : Appraiser) : Shipped K (referenceRegistered K appraiser) := by
  intro id component held
  by_cases named : id = appraiser.teeType
  · exact ⟨appraiser, by simpa [referenceRegistered, named] using held.symm⟩
  · simp [referenceRegistered, named] at held

end UnifiedAttestation.Grpc
