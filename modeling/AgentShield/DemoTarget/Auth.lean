import AgentShield.Lib.Base64
import AgentShield.Lib.Binary64
import AgentShield.Lib.Integers

/-!
The session tokens of the demo service (`demo_target/app/auth.py`), as they are verified
before the patch and after it.
-/
namespace AgentShield.DemoTarget
open Integers Binary64

abbrev Bytes := List UInt8

def utf8 (s : List Char) : Bytes := (String.ofList s).toUTF8.data.toList

def fromUtf8 (bytes : Bytes) : Option (List Char) :=
  (String.fromUTF8? ⟨bytes.toArray⟩).map String.toList

/- A message of the service, or an exception of a call it does not catch. -/
inductive Failure where
  | authError (message : String)
  | typeError
  | valueError
  | overflowError
  deriving DecidableEq

def b64 (raw : List Char) : List Char := Base64.unpadded (utf8 raw)

def unb64 (encoded : List Char) : Option (List Char) :=
  if encoded.all (·.toNat < 128) then
    (Base64.decode (encoded ++ Base64.padding encoded)).bind fromUtf8
  else none

def hexDigits (byte : UInt8) : List Char :=
  [Nat.digitChar (byte.toNat / 16), Nat.digitChar (byte.toNat % 16)]

def truncated (q : ℚ) : ℤ := if 0 ≤ q then ⌊q⌋ else ⌈q⌉

/- `int(issued_at + ttl_seconds)`; `none` is an `OverflowError`. -/
def expiryOf (issuedAt : ℚ) (ttlSeconds : ℤ) : Option ℤ :=
  match (Double.finite issuedAt).plus (.of ttlSeconds) with
  | .finite sum => some (truncated sum)
  | .infinite _ => none
  | .nan => none

/- `hmac.compare_digest` takes texts of ASCII characters only. -/
def compareDigest (a b : List Char) : Except Failure Bool :=
  if (a ++ b).all (·.toNat < 128) then .ok (a = b) else .error .typeError

section
/- HMAC with SHA-256 of a key and a message, the time (a finite float), and the limit of
   `int`. -/
variable (hmac : Bytes → Bytes → Bytes) (time : ℚ) (limit : Limit)

def sign (payload signingKey : List Char) : List Char :=
  (hmac (utf8 signingKey) (utf8 payload)).flatMap hexDigits

def issueToken (userId signingKey : List Char) (ttlSeconds : ℤ) (now : Option ℚ) :
    Except Failure (List Char) :=
  if userId = [] then .error (.authError "user_id must not be empty")
  else if ttlSeconds ≤ 0 then .error (.authError "ttl_seconds must be positive")
  else
    match expiryOf (now.getD time) ttlSeconds with
    | none => .error .overflowError
    | some expiresAt => match toText limit expiresAt with
      | none => .error .valueError
      | some expiry =>
        let payload := b64 userId ++ '.' :: expiry
        .ok (payload ++ '.' :: sign hmac payload signingKey)

def tokenExpiresAt (token : List Char) : Except Failure ℤ :=
  match token.splitOn '.' with
  | [_, expiry, _] => match ofText limit expiry with
    | some expiresAt => .ok expiresAt
    | none => .error (.authError "malformed token")
  | _ => .error (.authError "malformed token")

def authentic (token signingKey : List Char) : Except Failure (List Char × ℤ) :=
  match token.splitOn '.' with
  | [encodedUser, encodedExpiry, signature] => do
    let payload := encodedUser ++ '.' :: encodedExpiry
    if !(← compareDigest (sign hmac payload signingKey) signature) then
      throw (.authError "bad signature")
    match unb64 encodedUser with
    | none => throw (.authError "malformed token")
    | some userId => match ofText limit encodedExpiry with
      | none => throw (.authError "malformed token")
      | some expiresAt => return (userId, expiresAt)
  | _ => .error (.authError "malformed token")

/-- `verify_token` of the vulnerable module: the expiry is read and put aside. -/
def verifyToken (token signingKey : List Char) (_now : Option ℚ) :
    Except Failure (List Char) :=
  (authentic hmac limit token signingKey).map Prod.fst

/-- `verify_token` of the patched module. -/
def verifyPatched (token signingKey : List Char) (now : Option ℚ) :
    Except Failure (List Char) := do
  let (userId, expiresAt) ← authentic hmac limit token signingKey
  if (expiresAt : ℚ) ≤ now.getD time then throw (.authError "token expired")
  return userId

end

end AgentShield.DemoTarget
