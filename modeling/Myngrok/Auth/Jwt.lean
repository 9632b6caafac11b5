import Myngrok.Auth.Service
import Myngrok.Go.Base64
import Myngrok.Go.Strings
import Myngrok.Go.Structs

open golang

namespace myngrok.auth

/-- The claims of an access token. -/
structure Claims where
  subject : GoString
  type : GoString
  issuedAt : Int64
  expiresAt : Int64
  deriving DecidableEq

def Claims.zero : Claims := { subject := [], type := [], issuedAt := 0, expiresAt := 0 }

def Claims.value (c : Claims) : json.Value :=
  .object [(lit "sub", .string c.subject), (lit "type", .string c.type), (lit "iat", .number c.issuedAt.toInt),
    (lit "exp", .number c.expiresAt.toInt)]

def claimsFields : List (json.Field Claims) :=
  [.string (lit "sub") (·.subject) fun c value => { c with subject := value },
    .string (lit "type") (·.type) fun c value => { c with type := value },
    .int (lit "iat") (·.issuedAt.toInt) fun c value => { c with issuedAt := .ofInt value },
    .int (lit "exp") (·.expiresAt.toInt) fun c value => { c with expiresAt := .ofInt value }]

/-- The part of a token that is signed. -/
def unsignedJWT (c : Claims) : GoString :=
  base64.encodeToString (lit "\x7b\"alg\":\"HS256\",\"typ\":\"JWT\"\x7d") ++ lit "." ++
    base64.encodeToString (json.encode c.value)

section

-- HMAC-SHA256 of a secret and a message; nothing about it is used.
variable (hmac : Bytes → Bytes → Bytes)

/-- `json.Marshal` does not fail for these claims. -/
def signJWT (c : Claims) (secret : Bytes) : GoString :=
  unsignedJWT c ++ lit "." ++ base64.encodeToString (hmac secret (unsignedJWT c))

def verifyJWT (raw : GoString) (secret : Bytes) : Except Error Claims :=
  match strings.splitByte 0x2E raw with
  | [header, payload, signature] =>
    match base64.decodeString signature with
    | none => .error errUnauthorized
    | some sig =>
      if hmac secret (header ++ lit "." ++ payload) ≠ sig then .error errUnauthorized
      else match base64.decodeString payload with
        | none => .error errUnauthorized
        | some data =>
          match json.unmarshal claimsFields Claims.zero data with
          | none => .error errUnauthorized
          | some c => .ok c
  | _ => .error errUnauthorized

end

theorem isInt64_toInt (value : Int64) : IsInt64 value.toInt :=
  ⟨value.le_toInt, value.toInt_lt⟩

variable {c : Claims} {header payload signature : GoString}

theorem unmarshal_claims (hsubject : utf8.validString c.subject = true) (htype : utf8.validString c.type = true) :
    json.unmarshal claimsFields Claims.zero (json.encode c.value) = some c := by
  have hdepth : c.value.depth ≤ json.maxNestingDepth := by
    simp [Claims.value, json.Value.depth, json.membersDepth, json.maxNestingDepth]
  refine (json.unmarshal_encode hdepth).trans ?_
  rw [Claims.value]
  refine (json.intoStruct_cons rfl (json.Field.set_string rfl)).trans ?_
  refine (json.intoStruct_cons rfl (json.Field.set_string rfl)).trans ?_
  refine (json.intoStruct_cons rfl (json.Field.set_int (json.intoInt_number (isInt64_toInt _)))).trans ?_
  refine (json.intoStruct_cons rfl (json.Field.set_int (json.intoInt_number (isInt64_toInt _)))).trans ?_
  refine congrArg some ?_
  rw [utf8.toValid_of_validString hsubject, utf8.toValid_of_validString htype, Int64.ofInt_toInt, Int64.ofInt_toInt]

variable {hmac : Bytes → Bytes → Bytes} {raw : GoString} {secret : Bytes}

theorem splitByte_token (hheader : 0x2E ∉ header) (hpayload : 0x2E ∉ payload) (hsignature : 0x2E ∉ signature) :
    strings.splitByte 0x2E (header ++ lit "." ++ payload ++ lit "." ++ signature) = [header, payload, signature] := by
  have htext : header ++ lit "." ++ payload ++ lit "." ++ signature =
      header ++ 0x2E :: (payload ++ 0x2E :: signature) := by
    simp only [List.append_assoc]
    rfl
  rw [htext, strings.splitByte_append_cons hheader, strings.splitByte_append_cons hpayload,
    strings.splitByte_of_notMem hsignature]

theorem verifyJWT_signJWT (hsubject : utf8.validString c.subject = true) (htype : utf8.validString c.type = true) :
    verifyJWT hmac (signJWT hmac c secret) secret = .ok c := by
  have hsplit := splitByte_token (base64.dot_notMem_encodeToString (lit "\x7b\"alg\":\"HS256\",\"typ\":\"JWT\"\x7d"))
    (base64.dot_notMem_encodeToString (json.encode c.value))
    (base64.dot_notMem_encodeToString (hmac secret (unsignedJWT c)))
  rw [← unsignedJWT] at hsplit
  rw [verifyJWT, signJWT, hsplit]
  dsimp only
  rw [base64.decodeString_encodeToString]
  dsimp only
  rw [← unsignedJWT, if_neg (fun h => h rfl), base64.decodeString_encodeToString]
  dsimp only
  rw [unmarshal_claims hsubject htype]

/-- A text that splits into three parts is those parts with dots between them. -/
theorem eq_token_of_splitByte (hsplit : strings.splitByte 0x2E raw = [header, payload, signature]) :
    raw = header ++ lit "." ++ payload ++ lit "." ++ signature ∧
      0x2E ∉ header ∧ 0x2E ∉ payload ∧ 0x2E ∉ signature := by
  have hdots : ∀ part ∈ [header, payload, signature], 0x2E ∉ part := by
    intro part hpart
    rw [← hsplit] at hpart
    exact strings.notMem_of_mem_splitByte hpart
  simp only [List.forall_mem_cons] at hdots
  refine ⟨?_, hdots.1, hdots.2.1, hdots.2.2.1⟩
  rw [← strings.joinByte_splitByte 0x2E raw, hsplit]
  simp only [strings.joinByte, List.append_assoc]
  rfl

/-- What an accepted token is made of. -/
theorem parts_of_verifyJWT (h : verifyJWT hmac raw secret = .ok c) :
    ∃ header payload signature data, raw = header ++ lit "." ++ payload ++ lit "." ++ signature ∧
      0x2E ∉ header ∧ 0x2E ∉ payload ∧ 0x2E ∉ signature ∧
      base64.decodeString signature = some (hmac secret (header ++ lit "." ++ payload)) ∧
      base64.decodeString payload = some data ∧ json.unmarshal claimsFields Claims.zero data = some c := by
  unfold verifyJWT at h
  split at h
  swap
  · cases h
  next header payload signature hsplit =>
  split at h
  · cases h
  next sig hsig =>
  split at h
  · cases h
  next hmac_eq =>
  split at h
  · cases h
  next data hdata =>
  split at h
  · cases h
  next claims hclaims =>
  obtain rfl := Except.ok.inj h
  obtain ⟨hraw, hheader, hpayload, hsignature⟩ := eq_token_of_splitByte hsplit
  refine ⟨header, payload, signature, data, hraw, hheader, hpayload, hsignature, ?_, hdata, hclaims⟩
  rw [hsig, not_not.mp hmac_eq]

/-- The codec of access tokens: what was signed is verified and read back, what is verified was signed part by part, and
    a signature made for something else is accepted only if the two codes are equal. -/
theorem jwt_codec (hmac : Bytes → Bytes → Bytes) :
    (∀ c secret, utf8.validString c.subject = true → utf8.validString c.type = true →
      verifyJWT hmac (signJWT hmac c secret) secret = .ok c) ∧
    (∀ raw secret c, verifyJWT hmac raw secret = .ok c →
      ∃ header payload signature data, raw = header ++ lit "." ++ payload ++ lit "." ++ signature ∧
        0x2E ∉ header ∧ 0x2E ∉ payload ∧ 0x2E ∉ signature ∧
        base64.decodeString signature = some (hmac secret (header ++ lit "." ++ payload)) ∧
        base64.decodeString payload = some data ∧ json.unmarshal claimsFields Claims.zero data = some c) ∧
    ∀ signed signer header payload secret c,
      verifyJWT hmac
        (header ++ lit "." ++ payload ++ lit "." ++ base64.encodeToString (hmac signer (unsignedJWT signed))) secret =
          .ok c → hmac secret (header ++ lit "." ++ payload) = hmac signer (unsignedJWT signed) := by
  refine ⟨fun c secret => verifyJWT_signJWT, fun raw secret c => parts_of_verifyJWT, ?_⟩
  intro signed signer header payload secret c hverify
  obtain ⟨first, second, signature, data, hraw, -, -, hdot, hsignature, -, -⟩ := parts_of_verifyJWT hverify
  have hlast : ∀ text rest : GoString, text ++ lit "." ++ rest = text ++ 0x2E :: rest := by
    intro text rest
    rw [List.append_assoc]
    rfl
  rw [hlast, hlast (first ++ lit "." ++ second)] at hraw
  obtain ⟨hsame, hcode⟩ := strings.append_separator_inj (base64.dot_notMem_encodeToString _) hdot hraw
  rw [← hcode, base64.decodeString_encodeToString, ← hsame] at hsignature
  exact (Option.some.inj hsignature).symm

def accessClaims : Claims := { subject := lit "usr_1", type := lit "access", issuedAt := 1, expiresAt := 901 }

/-- A code that depends on the first byte of the secret alone. -/
def shortKeyMac (secret message : Bytes) : Bytes := secret.take 1 ++ message

/-- Under such a code a token is read back with its secret, and with another one of the same code. -/
theorem jwt_codec_access :
    verifyJWT shortKeyMac (signJWT shortKeyMac accessClaims (lit "key")) (lit "key") = .ok accessClaims ∧
    (∃ header payload signature data,
      signJWT shortKeyMac accessClaims (lit "key") = header ++ lit "." ++ payload ++ lit "." ++ signature ∧
      0x2E ∉ header ∧ 0x2E ∉ payload ∧ 0x2E ∉ signature ∧
      base64.decodeString signature = some (shortKeyMac (lit "key") (header ++ lit "." ++ payload)) ∧
      base64.decodeString payload = some data ∧
      json.unmarshal claimsFields Claims.zero data = some accessClaims) ∧
    verifyJWT shortKeyMac (signJWT shortKeyMac accessClaims (lit "key")) (lit "k") = .ok accessClaims ∧
    shortKeyMac (lit "k") (unsignedJWT accessClaims) = shortKeyMac (lit "key") (unsignedJWT accessClaims) := by
  have hkey := (jwt_codec shortKeyMac).1 accessClaims (lit "key") (by decide) (by decide)
  have hother := (jwt_codec shortKeyMac).1 accessClaims (lit "k") (by decide) (by decide)
  exact ⟨hkey, (jwt_codec shortKeyMac).2.1 _ _ _ hkey, hother,
    (jwt_codec shortKeyMac).2.2 accessClaims (lit "key") _ _ _ _ hother⟩

end myngrok.auth
