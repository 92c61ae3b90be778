import AgentShield.DemoTarget.Auth

/-!
Which tokens the two modules accept: what the service mints comes back, and what the patch
takes away are exactly the expired ones.
-/
namespace AgentShield.DemoTarget
open Integers Binary64

theorem utf8_read (s : List Char) : fromUtf8 (utf8 s) = some s := by
  have valid : (String.ofList s).toUTF8.IsValidUTF8 := (String.ofList s).isValidUTF8
  change (String.fromUTF8? (String.ofList s).toUTF8).map String.toList = some s
  have decoded : String.fromUTF8? (String.ofList s).toUTF8 = some (String.ofList s) := by
    unfold String.fromUTF8?
    rw [dif_pos valid]
    rfl
  rw [decoded, Option.map_some, String.toList_ofList]

theorem b64_plain {raw : List Char} {c : Char} (member : c ∈ b64 raw) : c ≠ '.' ∧ c.toNat < 128 :=
  Base64.encode_plain ((List.rdropWhile_prefix _ _).subset member)

/-- The user id is read again. -/
theorem unb64_b64 (raw : List Char) : unb64 (b64 raw) = some raw := by
  have ascii : (b64 raw).all (fun c => decide (c.toNat < 128)) = true :=
    List.all_eq_true.mpr fun c member => decide_eq_true (b64_plain member).2
  rw [unb64, if_pos ascii, b64, Base64.unpadded_padding, Base64.decode_encode]
  exact utf8_read raw

theorem hex_plain (byte : UInt8) : ∀ c ∈ hexDigits byte, c ≠ '.' ∧ c.toNat < 128 := by
  have digit : ∀ n : Fin 16, Nat.digitChar n.val ≠ '.' ∧ (Nat.digitChar n.val).toNat < 128 := by
    decide
  have small := byte.toNat_lt
  intro c member
  simp only [hexDigits, List.mem_cons, List.not_mem_nil, or_false] at member
  rcases member with rfl | rfl
  · exact digit ⟨byte.toNat / 16, by omega⟩
  · exact digit ⟨byte.toNat % 16, by omega⟩

section
variable {hmac : Bytes → Bytes → Bytes} {time : ℚ} {limit : Limit}

theorem sign_plain {payload signingKey : List Char} {c : Char}
    (member : c ∈ sign hmac payload signingKey) : c ≠ '.' ∧ c.toNat < 128 := by
  obtain ⟨byte, -, inside⟩ := List.mem_flatMap.mp member
  exact hex_plain byte c inside

theorem toText_plain {n : ℤ} {s : List Char} (printed : toText limit n = some s) : '.' ∉ s := by
  have digit : ∀ c ∈ Nat.toDigits 10 n.natAbs, c.isDigit = true := fun c member =>
    Nat.isDigit_of_mem_toDigits (by decide) (by decide) member
  obtain ⟨-, rfl⟩ : limit.exceeded (Nat.toDigits 10 n.natAbs).length = false ∧
      (if n < 0 then '-' :: Nat.toDigits 10 n.natAbs else Nat.toDigits 10 n.natAbs) = s := by
    simpa [toText] using printed
  have plain : '.' ∉ Nat.toDigits 10 n.natAbs := fun member => absurd (digit '.' member) (by decide)
  split
  · simp [plain]
  · exact plain

theorem split_three {a b c : List Char} (first : '.' ∉ a) (second : '.' ∉ b) (third : '.' ∉ c) :
    ((a ++ '.' :: b) ++ '.' :: c).splitOn '.' = [a, b, c] := by
  have joined : (a ++ '.' :: b) ++ '.' :: c = Text.join '.' [a, b, c] := by
    simp [Text.join]
  rw [joined, Text.split_join '.' (by simp) (by simp [first, second, third])]

theorem three_split {token a b c : List Char} (parts : token.splitOn '.' = [a, b, c]) :
    token = (a ++ '.' :: b) ++ '.' :: c ∧ '.' ∉ a ∧ '.' ∉ b ∧ '.' ∉ c := by
  have absent := Text.split_absent '.' token
  rw [parts] at absent
  refine ⟨?_, absent a (by simp), absent b (by simp), absent c (by simp)⟩
  rw [← Text.join_split '.' token, parts]
  simp [Text.join]

theorem compared {a b : List Char} (same : compareDigest a b = .ok true) : a = b := by
  unfold compareDigest at same
  split at same
  · simpa using same
  · cases same

theorem compare_self {a : List Char} (ascii : ∀ c ∈ a, c.toNat < 128) :
    compareDigest a a = .ok true := by
  unfold compareDigest
  rw [if_pos (by simpa using ascii)]
  simp

/-- The tokens that are signed, with what they carry. -/
theorem authentic_iff (token signingKey userId : List Char) (expiresAt : ℤ) :
    authentic hmac limit token signingKey = .ok (userId, expiresAt) ↔
      ∃ encoded expiry, '.' ∉ encoded ∧ '.' ∉ expiry ∧
        token = (encoded ++ '.' :: expiry) ++
          '.' :: sign hmac (encoded ++ '.' :: expiry) signingKey ∧
        unb64 encoded = some userId ∧ ofText limit expiry = some expiresAt := by
  constructor
  · intro read
    unfold authentic at read
    split at read
    · rename_i encoded expiry signature parts
      obtain ⟨spelled, first, second, -⟩ := three_split parts
      cases compare : compareDigest (sign hmac (encoded ++ '.' :: expiry) signingKey) signature with
      | error e => simp [compare, bind, Except.bind] at read
      | ok same =>
        cases same with
        | false => simp [compare, bind, Except.bind, throw, throwThe, MonadExceptOf.throw] at read
        | true =>
          obtain rfl := compared compare
          simp only [compare, bind, Except.bind, Bool.not_true, Bool.false_eq_true, if_false,
            pure, Except.pure] at read
          cases user : unb64 encoded with
          | none => simp [user, throw, throwThe, MonadExceptOf.throw] at read
          | some name =>
            cases carried : ofText limit expiry with
            | none => simp [user, carried, throw, throwThe, MonadExceptOf.throw] at read
            | some number =>
              obtain ⟨rfl, rfl⟩ : name = userId ∧ number = expiresAt := by
                simpa [user, carried] using read
              exact ⟨encoded, expiry, first, second, spelled, user, carried⟩
    · cases read
  · rintro ⟨encoded, expiry, first, second, rfl, user, carried⟩
    have plain : '.' ∉ sign hmac (encoded ++ '.' :: expiry) signingKey := fun member =>
      (sign_plain member).1 rfl
    have compare : compareDigest (sign hmac (encoded ++ '.' :: expiry) signingKey)
        (sign hmac (encoded ++ '.' :: expiry) signingKey) = .ok true :=
      compare_self fun c member => (sign_plain member).2
    unfold authentic
    rw [split_three first second plain]
    simp [compare, user, carried, bind, Except.bind, pure, Except.pure]

/-- A token that is read tells when it expires. -/
theorem authentic_expiry {token signingKey userId : List Char} {expiresAt : ℤ}
    (read : authentic hmac limit token signingKey = .ok (userId, expiresAt)) :
    tokenExpiresAt limit token = .ok expiresAt := by
  obtain ⟨encoded, expiry, first, second, rfl, -, carried⟩ :=
    (authentic_iff token signingKey userId expiresAt).mp read
  have plain : '.' ∉ sign hmac (encoded ++ '.' :: expiry) signingKey := fun member =>
    (sign_plain member).1 rfl
  unfold tokenExpiresAt
  rw [split_three first second plain]
  simp [carried]

theorem authentic_issued {userId signingKey token : List Char} {ttlSeconds : ℤ} {now : Option ℚ}
    (issued : issueToken hmac time limit userId signingKey ttlSeconds now = .ok token) :
    ∃ expiresAt, expiryOf (now.getD time) ttlSeconds = some expiresAt ∧
      authentic hmac limit token signingKey = .ok (userId, expiresAt) := by
  unfold issueToken at issued
  split at issued
  · cases issued
  split at issued
  · cases issued
  split at issued
  · cases issued
  rename_i expiresAt summed
  refine ⟨expiresAt, summed, ?_⟩
  split at issued
  · cases issued
  · rename_i expiry printed
    obtain rfl := Except.ok.inj issued
    exact (authentic_iff _ signingKey userId _).mpr
      ⟨b64 userId, expiry, fun member => (b64_plain member).1 rfl, toText_plain printed, rfl,
        unb64_b64 userId, ofText_toText printed⟩

theorem authentic_not_expired (token signingKey : List Char) :
    authentic hmac limit token signingKey ≠ .error (.authError "token expired") := by
  intro expired
  unfold authentic at expired
  split at expired
  · rename_i encoded expiry signature _
    cases compare : compareDigest (sign hmac (encoded ++ '.' :: expiry) signingKey) signature with
    | error failure =>
      unfold compareDigest at compare
      split at compare
      · cases compare
      · obtain rfl := Except.error.inj compare
        rename_i outside
        simp [compareDigest, outside, bind, Except.bind] at expired
    | ok same =>
      cases same with
      | false => simp [compare, bind, Except.bind, throw, throwThe, MonadExceptOf.throw] at expired
      | true =>
        cases user : unb64 encoded with
        | none => simp [compare, user, bind, Except.bind, throw, throwThe,
            MonadExceptOf.throw] at expired
        | some name =>
          cases carried : ofText limit expiry <;>
            simp [compare, user, carried, bind, Except.bind, throw, throwThe,
              MonadExceptOf.throw, pure, Except.pure] at expired
  · simp at expired

end

/-- A token that the service mints gives its user back at any time before the patch, and until
    it expires, not after, with the patch. -/
theorem issued_tokens (hmac : Bytes → Bytes → Bytes) (time : ℚ) (limit : Limit)
    (userId signingKey token : List Char) (ttlSeconds : ℤ) (now : Option ℚ)
    (issued : issueToken hmac time limit userId signingKey ttlSeconds now = .ok token) :
    ∃ expiresAt, expiryOf (now.getD time) ttlSeconds = some expiresAt ∧
      tokenExpiresAt limit token = .ok expiresAt ∧
      (∀ later, verifyToken hmac limit token signingKey later = .ok userId) ∧
      ∀ later clock, verifyPatched hmac clock limit token signingKey later =
        if (expiresAt : ℚ) ≤ later.getD clock then
          .error (.authError "token expired") else .ok userId := by
  obtain ⟨expiresAt, summed, read⟩ := authentic_issued issued
  refine ⟨expiresAt, summed, authentic_expiry read, fun later => ?_, fun later clock => ?_⟩
  · rw [verifyToken, read]
    rfl
  · simp only [verifyPatched, read, bind, Except.bind]
    split <;> rfl

def unlimited : Limit := ⟨0, Or.inl rfl⟩

theorem issued_tokens_at_first :
    tokenExpiresAt unlimited "YQ.1.ab".toList = .ok 1 ∧
      verifyToken (fun _ _ => [171]) unlimited "YQ.1.ab".toList [] none = .ok ['a'] ∧
      verifyPatched (fun _ _ => [171]) 1 unlimited "YQ.1.ab".toList [] none =
        .error (.authError "token expired") := by
  have summed : expiryOf ((some 0).getD 0) 1 = some 1 := by
    have one : Double.of ((1 : ℤ) : ℚ) = .finite (1 : ℕ) := Double.of_nat (by decide)
    have sum : (Double.finite (0 : ℕ)).plus (.finite (1 : ℕ)) = .finite (0 + 1 : ℕ) :=
      Double.plus_nat (by decide)
    unfold expiryOf
    rw [one, Option.getD_some, ← Nat.cast_zero, sum]
    simp [truncated]
  have issued : issueToken (fun _ _ => [171]) 0 unlimited ['a'] [] 1 (some 0) =
      .ok "YQ.1.ab".toList := by
    unfold issueToken
    rw [if_neg (by simp), if_neg (by omega), summed]
    rfl
  obtain ⟨expiresAt, same, told, before, after⟩ :=
    issued_tokens (fun _ _ => [171]) 0 unlimited ['a'] [] _ 1 (some 0) issued
  obtain rfl := Option.some.inj (summed.symm.trans same)
  refine ⟨told, before none, ?_⟩
  rw [after none 1, if_pos (by simp)]

def Expired (time : ℚ) (limit : Limit) (token : List Char) (now : Option ℚ) : Prop :=
  ∃ expiresAt : ℤ, tokenExpiresAt limit token = .ok expiresAt ∧ expiresAt ≤ now.getD time

theorem expired_iff {hmac : Bytes → Bytes → Bytes} {limit : Limit} {token signingKey : List Char}
    {userId : List Char} {expiresAt : ℤ} (time : ℚ) (now : Option ℚ)
    (read : authentic hmac limit token signingKey = .ok (userId, expiresAt)) :
    Expired time limit token now ↔ expiresAt ≤ now.getD time := by
  constructor
  · rintro ⟨carried, told, passed⟩
    rw [authentic_expiry read] at told
    obtain rfl := Except.ok.inj told
    exact passed
  · exact fun passed => ⟨expiresAt, authentic_expiry read, passed⟩

theorem verifyToken_accepts {hmac : Bytes → Bytes → Bytes} {limit : Limit}
    {token signingKey : List Char} (now : Option ℚ) (userId : List Char) :
    verifyToken hmac limit token signingKey now = .ok userId ↔
      ∃ expiresAt, authentic hmac limit token signingKey = .ok (userId, expiresAt) := by
  unfold verifyToken
  cases authentic hmac limit token signingKey <;> simp [Except.map, Prod.ext_iff]

theorem verifyToken_never_expired {hmac : Bytes → Bytes → Bytes} {limit : Limit}
    {token signingKey : List Char} (now : Option ℚ) :
    verifyToken hmac limit token signingKey now ≠ .error (.authError "token expired") := by
  intro expired
  have failed := @authentic_not_expired hmac limit token signingKey
  unfold verifyToken at expired
  cases read : authentic hmac limit token signingKey with
  | error failure =>
    rw [read] at failed expired
    exact failed (by simpa [Except.map] using expired)
  | ok carried =>
    rw [read] at expired
    cases expired

/-- Exactly the signed tokens that can be read are accepted before the patch; the patch
    rejects the expired ones among them and answers every other token as before. -/
theorem patch_rejects_expired (hmac : Bytes → Bytes → Bytes) (time : ℚ) (limit : Limit)
    (token signingKey : List Char) (now : Option ℚ) :
    (∀ userId, verifyToken hmac limit token signingKey now = .ok userId ↔
      ∃ encoded expiry expiresAt, '.' ∉ encoded ∧ '.' ∉ expiry ∧
        token = (encoded ++ '.' :: expiry) ++
          '.' :: sign hmac (encoded ++ '.' :: expiry) signingKey ∧
        unb64 encoded = some userId ∧ ofText limit expiry = some expiresAt) ∧
    verifyToken hmac limit token signingKey now ≠ .error (.authError "token expired") ∧
    (∀ userId, verifyPatched hmac time limit token signingKey now = .ok userId ↔
      verifyToken hmac limit token signingKey now = .ok userId ∧
        ¬ Expired time limit token now) ∧
    ∀ failure, verifyPatched hmac time limit token signingKey now = .error failure ↔
      verifyToken hmac limit token signingKey now = .error failure ∨
        failure = .authError "token expired" ∧ Expired time limit token now ∧
          ∃ userId, verifyToken hmac limit token signingKey now = .ok userId := by
  refine ⟨fun userId => ?_, verifyToken_never_expired now, ?_⟩
  · simp only [verifyToken_accepts, authentic_iff]
    constructor
    · rintro ⟨expiresAt, encoded, expiry, carried⟩
      exact ⟨encoded, expiry, expiresAt, carried⟩
    · rintro ⟨encoded, expiry, expiresAt, carried⟩
      exact ⟨expiresAt, encoded, expiry, carried⟩
  · unfold verifyToken verifyPatched
    cases read : authentic hmac limit token signingKey with
    | error failure => simp [bind, Except.bind, Except.map]
    | ok carried =>
      obtain ⟨userId, expiresAt⟩ := carried
      rw [expired_iff time now read]
      by_cases passed : (expiresAt : ℚ) ≤ now.getD time
      · simp [bind, Except.bind, Except.map, passed, throw, throwThe, MonadExceptOf.throw, eq_comm]
      · simp [bind, Except.bind, Except.map, passed, pure, Except.pure]

end AgentShield.DemoTarget
