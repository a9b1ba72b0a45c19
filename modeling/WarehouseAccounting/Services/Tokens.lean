import WarehouseAccounting.Foundations.NumberedTokens
import WarehouseAccounting.Services.Authorizer
import WarehouseAccounting.StringConverters

/-!
# Tokens

`ValidateToken` of `authorizer.cpp`, on the tokens that `GenerateToken` issues and on any other
text. Tokens are made and read by `jwt-cpp`, which is a parameter.

- `validateToken_eq_success`: what a text must carry to be accepted.
- `validateToken_spec`: issued tokens are good for their user up to their expiration, and no text
  is accepted but one that is signed, with claims that begin with numbers.
-/

namespace Srv.Auth

open Ufa StringConverters

/-! ## The library -/

/-- A claim in the payload of a token. A number is kept as the text that `to_str` writes. -/
inductive ClaimValue where
  | null
  | boolean (value : Bool)
  | number (text : String)
  | string (text : String)
  | array
  | object
  deriving DecidableEq, Repr

/-- `to_str`. -/
def ClaimValue.toStr : ClaimValue → String
  | .null => "null"
  | .boolean value => if value then "true" else "false"
  | .number text => text
  | .string text => text
  | .array => "array"
  | .object => "object"

/-- `jwt-cpp`, as far as the authorizer uses it. -/
structure JwtLibrary where
  /-- A decoded token. -/
  Decoded : Type
  /-- `jwt::decode`, which throws on a text that is no token. -/
  decode : String → Option Decoded
  /-- `get_payload_json`. -/
  payload : Decoded → List (String × ClaimValue)
  /-- `jwt::create` with an issuer and payload claims, signed with HS256 and a secret. -/
  create : (issuer : String) → (claims : List (String × String)) → (secret : String) → String
  /-- `verify` of a verifier with an issuer that allows HS256 with a secret: whether the error code
  was left alone; it may throw. -/
  verify : (issuer secret : String) → Decoded → Option Bool
  /-- The token names HS256 and carries the signature of its contents under the secret. -/
  SignedHs256 : (secret : String) → Decoded → Prop

/-- `USERID_PAYLOAD_KEY`. -/
def userIdPayloadKey : String := "userId"

/-- `EXP_PAYLOAD_KEY`. -/
def expPayloadKey : String := "expiration"

/-- `ISSUER`. -/
def issuer : String := "was"

/-- `SECRET`. -/
def secret : String := "secret"

/-- The token that `GenerateToken` makes of a user and a time. -/
def createToken (jwt : JwtLibrary) (userId expiration : UInt64) : String :=
  jwt.create issuer
    [(userIdPayloadKey, toString userId), (expPayloadKey, toString expiration)] secret

/-- What the documentation of `jwt-cpp` says of these functions. -/
structure JwtLibrary.Documented (jwt : JwtLibrary) : Prop where
  /-- A token that was created is decoded with its claims, and passes the verification with its
  own issuer and secret. -/
  decode_create : ∀ userId expiration, ∃ decoded,
    jwt.decode (createToken jwt userId expiration) = some decoded ∧
      (jwt.payload decoded).lookup userIdPayloadKey = some (.string (toString userId)) ∧
      (jwt.payload decoded).lookup expPayloadKey = some (.string (toString expiration)) ∧
      jwt.verify issuer secret decoded = some true
  /-- A token that passes the verification has the signature and the issuer. -/
  of_verify : ∀ decoded, jwt.verify issuer secret decoded = some true →
    jwt.SignedHs256 secret decoded ∧
      (jwt.payload decoded).lookup "iss" = some (.string issuer)

/-! ## ValidateToken -/

/-- The text of a claim: `payload[key].to_str()`, where a claim that is missing is null. -/
def claimText (jwt : JwtLibrary) (decoded : jwt.Decoded) (key : String) : String :=
  (((jwt.payload decoded).lookup key).getD .null).toStr

/-- `Authorizer::ValidateToken`: the code, and the user id if it was written. -/
def validateToken (jwt : JwtLibrary) (timestamp : UInt64) (token : String) :
    Result × Option UInt64 :=
  match jwt.decode token with
  | none => (.wrongFormat, none)
  | some decoded =>
    match fromStringUInt64 (claimText jwt decoded expPayloadKey) with
    | .error _ => (.wrongFormat, none)
    | .ok expiration =>
      if expiration < timestamp then
        (.unauthorized, none)
      else
        match fromStringUInt64 (claimText jwt decoded userIdPayloadKey) with
        | .error _ => (.wrongFormat, none)
        | .ok userId =>
          -- The id is written before the signature is looked at.
          match jwt.verify issuer secret decoded with
          | none => (.wrongFormat, some userId)
          | some false => (.unauthorized, some userId)
          | some true => (.success, some userId)

/-- A text is accepted exactly when it is a token whose claims begin with numbers, that has not
expired, and that passes the verification. -/
theorem validateToken_eq_success {jwt : JwtLibrary} {timestamp : UInt64} {token : String}
    {userId : Option UInt64} :
    validateToken jwt timestamp token = (.success, userId) ↔
      ∃ decoded expiration id, jwt.decode token = some decoded ∧
        fromStringUInt64 (claimText jwt decoded expPayloadKey) = .ok expiration ∧
        timestamp ≤ expiration ∧
        fromStringUInt64 (claimText jwt decoded userIdPayloadKey) = .ok id ∧
        jwt.verify issuer secret decoded = some true ∧ userId = some id := by
  constructor
  · intro h
    unfold validateToken at h
    split at h
    · cases h
    · rename_i decoded hdecode
      split at h
      · cases h
      · rename_i expiration hexpiration
        split at h
        · cases h
        · rename_i hvalid
          split at h
          · cases h
          · rename_i id hid
            split at h
            · cases h
            · cases h
            · rename_i hverify
              cases h
              exact ⟨decoded, expiration, id, hdecode, hexpiration, UInt64.not_lt.mp hvalid, hid,
                hverify, rfl⟩
  · rintro ⟨decoded, expiration, id, hdecode, hexpiration, hvalid, hid, hverify, rfl⟩
    unfold validateToken
    rw [hdecode]
    dsimp only
    rw [hexpiration]
    dsimp only
    rw [if_neg (UInt64.not_lt.mpr hvalid), hid]
    dsimp only
    rw [hverify]

/-! ## Tokens that were issued -/

/-- A string claim has its own text. -/
theorem claimText_of_lookup {jwt : JwtLibrary} {decoded : jwt.Decoded} {key text : String}
    (h : (jwt.payload decoded).lookup key = some (.string text)) :
    claimText jwt decoded key = text := by
  rw [claimText, h]
  rfl

/-- A token that was created is answered by its expiration alone. -/
theorem validateToken_createToken {jwt : JwtLibrary} (hjwt : jwt.Documented)
    (userId expiration timestamp : UInt64) :
    validateToken jwt timestamp (createToken jwt userId expiration) =
      if expiration < timestamp then (.unauthorized, none) else (.success, some userId) := by
  obtain ⟨decoded, hdecode, huser, hexpiration, hverify⟩ := hjwt.decode_create userId expiration
  unfold validateToken
  rw [hdecode]
  dsimp only
  rw [claimText_of_lookup hexpiration, fromStringUInt64_toString]
  dsimp only
  rw [claimText_of_lookup huser, fromStringUInt64_toString]
  dsimp only
  rw [hverify]

/-- The time that `GenerateToken` writes into a token, where it does not overflow. -/
theorem toNat_add_tokenLifetime {issued : UInt64}
    (h : issued.toNat + tokenLifetime.toNat < 18446744073709551616) :
    (issued + tokenLifetime).toNat = issued.toNat + tokenLifetime.toNat := by
  rw [UInt64.toNat_add]
  exact Nat.mod_eq_of_lt h

/-- A token that is generated was created for the user that was found. -/
theorem token_of_generateToken {jwt : JwtLibrary} {issued : UInt64}
    {validated : Result × UserInfo} {token : String} {userInfo : UserInfo}
    (h : generateToken (createToken jwt) issued validated = (.success, token, userInfo)) :
    ∃ id, userInfo.id = some id ∧ token = createToken jwt id (issued + tokenLifetime) := by
  unfold generateToken at h
  dsimp only at h
  split at h
  · cases h
  · cases hid : validated.2.id with
    | none =>
      rw [hid] at h
      cases h
    | some id =>
      rw [hid] at h
      cases h
      exact ⟨id, hid, rfl⟩

/-! ## Any text -/

/-- What a text carries: a signature, the issuer, an expiration claim whose number is not before
now, and a user id claim whose number is this one. `HasNumber` says which texts have which
number. -/
structure Carries (jwt : JwtLibrary) (HasNumber : String → UInt64 → Prop) (timestamp : UInt64)
    (decoded : jwt.Decoded) (userId : UInt64) : Prop where
  signed : jwt.SignedHs256 secret decoded
  issuer : (jwt.payload decoded).lookup "iss" = some (.string issuer)
  expiration : ∃ expiration, HasNumber (claimText jwt decoded expPayloadKey) expiration ∧
    timestamp ≤ expiration
  userId : HasNumber (claimText jwt decoded userIdPayloadKey) userId

/-- A text is a number: digits and nothing else. -/
def IsUInt64 (text : String) (number : UInt64) : Prop :=
  text.toList ≠ [] ∧ (∀ digit ∈ text.toList, digit.isDigit = true) ∧
    Nat.ofDigitChars 10 text.toList 0 = number.toNat

/-- Tokens that are generated for a user are accepted for that user until thirty hours have passed,
and answered `UNAUTHORIZED` afterwards; and no text is accepted but one with the signature and the
issuer whose claims begin with numbers, the expiration not before now, and the user id the one
that is returned. -/
theorem validateToken_spec {jwt : JwtLibrary} (hjwt : jwt.Documented) :
    (∀ (issued timestamp : UInt64) (validated : Result × UserInfo) (token : String)
        (userInfo : UserInfo), issued.toNat + tokenLifetime.toNat < 18446744073709551616 →
      generateToken (createToken jwt) issued validated = (.success, token, userInfo) →
        (timestamp.toNat ≤ issued.toNat + tokenLifetime.toNat →
            userInfo.id.isSome = true ∧
              validateToken jwt timestamp token = (.success, userInfo.id)) ∧
          (issued.toNat + tokenLifetime.toNat < timestamp.toNat →
            (validateToken jwt timestamp token).1 = .unauthorized)) ∧
      ∀ (timestamp : UInt64) (token : String) (userId : Option UInt64),
        validateToken jwt timestamp token = (.success, userId) →
          ∃ decoded id, jwt.decode token = some decoded ∧ userId = some id ∧
            Carries jwt BeginsWithUInt64 timestamp decoded id := by
  constructor
  · intro issued timestamp validated token userInfo hrange hgenerated
    obtain ⟨id, hid, rfl⟩ := token_of_generateToken hgenerated
    have hexpiration := toNat_add_tokenLifetime hrange
    rw [validateToken_createToken hjwt, hid]
    constructor
    · intro hvalid
      refine ⟨rfl, if_neg ?_⟩
      rw [UInt64.lt_iff_toNat_lt, hexpiration]
      omega
    · intro hexpired
      rw [if_pos]
      rw [UInt64.lt_iff_toNat_lt, hexpiration]
      exact hexpired
  · intro timestamp token userId hsuccess
    obtain ⟨decoded, expiration, id, hdecode, hexpiration, hvalid, hid, hverify, rfl⟩ :=
      validateToken_eq_success.mp hsuccess
    obtain ⟨hsigned, hissuer⟩ := hjwt.of_verify decoded hverify
    refine ⟨decoded, id, hdecode, rfl, hsigned, hissuer, ⟨expiration, ?_, hvalid⟩, ?_⟩
    · exact fromStringUInt64_eq_ok.mp hexpiration
    · exact fromStringUInt64_eq_ok.mp hid

/-- The three parts of a text with dots between them. -/
def dottedParts (text : List Char) : String × String × String :=
  let rest := (text.dropWhile (· ≠ '.')).tail
  (String.ofList (text.takeWhile (· ≠ '.')), String.ofList (rest.takeWhile (· ≠ '.')),
    String.ofList (rest.dropWhile (· ≠ '.')).tail)

/-- A library whose tokens are the texts of the claims and the secret, with dots between them. -/
def dottedLibrary : JwtLibrary where
  Decoded := String × String × String
  decode token := some (dottedParts token.toList)
  payload decoded :=
    [("iss", .string issuer), (userIdPayloadKey, .string decoded.1),
      (expPayloadKey, .string decoded.2.1)]
  create _ claims secret :=
    String.ofList (claims.flatMap (fun claim => claim.2.toList ++ ['.']) ++ secret.toList)
  verify expected secret decoded := some (expected == issuer && decoded.2.2 == secret)
  SignedHs256 secret decoded := decoded.2.2 = secret

/-- No dot stands in a number. -/
theorem dot_notMem_toString (number : UInt64) : '.' ∉ (toString number).toList := by
  have htext : (toString number).toList = Nat.toDigits 10 number.toNat := Nat.toList_repr
  rw [htext]
  intro hdot
  exact absurd (Nat.isDigit_of_mem_toDigits (by decide) (by decide) hdot) (by decide)

/-- The library does what is documented. -/
theorem documented_dottedLibrary : dottedLibrary.Documented where
  decode_create userId expiration := by
    refine ⟨(toString userId, toString expiration, secret), congrArg some ?_, rfl, rfl, ?_⟩
    · have htext : (createToken dottedLibrary userId expiration).toList =
          (toString userId).toList ++ '.' :: ((toString expiration).toList ++ '.' ::
            secret.toList) := by
        simp [createToken, dottedLibrary]
      rw [htext, dottedParts, NumberedTokens.takeWhile_cut (dot_notMem_toString userId),
        NumberedTokens.dropWhile_cut (dot_notMem_toString userId), List.tail_cons,
        NumberedTokens.takeWhile_cut (dot_notMem_toString expiration),
        NumberedTokens.dropWhile_cut (dot_notMem_toString expiration), List.tail_cons,
        String.ofList_toList, String.ofList_toList, String.ofList_toList]
    · show some (issuer == issuer && secret == secret) = some true
      rw [beq_self_eq_true, beq_self_eq_true]
      rfl
  of_verify decoded hverify := by
    refine ⟨?_, rfl⟩
    have hboth : (issuer == issuer && decoded.2.2 == secret) = true := Option.some.inj hverify
    exact beq_iff_eq.mp (Bool.and_eq_true_iff.mp hboth).2

/-- A token that was issued at noon is good in the evening. -/
theorem validateToken_evening :
    validateToken dottedLibrary 21600000000000 (createToken dottedLibrary 7 (0 + tokenLifetime)) =
      (.success, some 7) := by
  have hissued := (validateToken_spec documented_dottedLibrary).1 0 21600000000000
    (.success, { id := some 7 }) _ _ (by decide) rfl
  exact (hissued.1 (by decide)).2

/-- A token that is signed for the user `7up` is accepted for the user 7. -/
theorem validateToken_beginning :
    ¬ ∀ (jwt : JwtLibrary), jwt.Documented →
      ∀ (timestamp : UInt64) (token : String) (userId : Option UInt64),
        validateToken jwt timestamp token = (.success, userId) →
          ∃ decoded id, jwt.decode token = some decoded ∧ userId = some id ∧
            Carries jwt IsUInt64 timestamp decoded id := by
  intro h
  obtain ⟨decoded, id, hdecode, -, hcarries⟩ := h dottedLibrary documented_dottedLibrary 5
    "7up.10.secret" (some 7) (by decide)
  cases hdecode
  have hdigit := hcarries.userId.2.1 'u' (by decide)
  exact absurd hdigit (by decide)

end Srv.Auth
