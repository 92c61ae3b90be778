import AgentShield.Lib.Text
import Mathlib.Data.List.FinRange

/-!
Base64 with the URL-safe letters, as Python's `base64` module has it: the encoder, and the
decoder that skips every character outside the alphabet and reads up to the padding.
-/
namespace Base64

def letters : List Char :=
  "ABCDEFGHIJKLMNOPQRSTUVWXYZabcdefghijklmnopqrstuvwxyz0123456789+/".toList

def urlSafe (c : Char) : Char := if c = '+' then '-' else if c = '/' then '_' else c

def standard (c : Char) : Char := if c = '-' then '+' else if c = '_' then '/' else c

def letter (sextet : Nat) : Char := urlSafe (letters.getD sextet 'A')

def value (c : Char) : Option Nat := letters.idxOf? (standard c)

def encode : List UInt8 → List Char
  | a :: b :: c :: rest =>
    letter (a.toNat / 4) :: letter (a.toNat % 4 * 16 + b.toNat / 16) ::
      letter (b.toNat % 16 * 4 + c.toNat / 64) :: letter (c.toNat % 64) :: encode rest
  | [a, b] =>
    [letter (a.toNat / 4), letter (a.toNat % 4 * 16 + b.toNat / 16), letter (b.toNat % 16 * 4), '=']
  | [a] => [letter (a.toNat / 4), letter (a.toNat % 4 * 16), '=', '=']
  | [] => []

/- `binascii.a2b_base64`: the position in the quad, the bits left over and the pads seen. -/
def scan : Nat → Nat → Nat → List Char → Option (List UInt8)
  | quad, _, _, [] => if quad = 0 then some [] else none
  | quad, left, pads, c :: rest =>
    if c = '=' then
      if 2 ≤ quad then
        if 4 ≤ quad + (pads + 1) then some [] else scan quad left (pads + 1) rest
      else scan quad left pads rest
    else match value c with
      | none => scan quad left pads rest
      | some v =>
        match quad with
        | 0 => scan 1 v 0 rest
        | 1 => (scan 2 (v % 16) 0 rest).map (UInt8.ofNat (left * 4 + v / 16) :: ·)
        | 2 => (scan 3 (v % 4) 0 rest).map (UInt8.ofNat (left * 16 + v / 4) :: ·)
        | _ => (scan 0 0 0 rest).map (UInt8.ofNat (left * 64 + v) :: ·)

def decode (s : List Char) : Option (List UInt8) := scan 0 0 0 s

theorem value_letter {sextet : Nat} (small : sextet < 64) : value (letter sextet) = some sextet := by
  have all : ∀ sextet : Fin 64, value (letter sextet.val) = some sextet.val := by decide +kernel
  exact all ⟨sextet, small⟩

theorem letter_not_pad {sextet : Nat} (small : sextet < 64) : letter sextet ≠ '=' := by
  have all : ∀ sextet : Fin 64, letter sextet.val ≠ '=' := by decide +kernel
  exact all ⟨sextet, small⟩

section
variable {left pads sextet : Nat} (small : sextet < 64) (rest : List Char)
include small

theorem scan_first : scan 0 left pads (letter sextet :: rest) = scan 1 sextet 0 rest := by
  rw [scan, if_neg (letter_not_pad small), value_letter small]
  rfl

theorem scan_second : scan 1 left pads (letter sextet :: rest) =
    (scan 2 (sextet % 16) 0 rest).map (UInt8.ofNat (left * 4 + sextet / 16) :: ·) := by
  rw [scan, if_neg (letter_not_pad small), value_letter small]
  rfl

theorem scan_third : scan 2 left pads (letter sextet :: rest) =
    (scan 3 (sextet % 4) 0 rest).map (UInt8.ofNat (left * 16 + sextet / 4) :: ·) := by
  rw [scan, if_neg (letter_not_pad small), value_letter small]
  rfl

theorem scan_fourth : scan 3 left pads (letter sextet :: rest) =
    (scan 0 0 0 rest).map (UInt8.ofNat (left * 64 + sextet) :: ·) := by
  rw [scan, if_neg (letter_not_pad small), value_letter small]
  rfl

end

theorem byte_joined {a : UInt8} {high low : Nat} (parts : high + low = a.toNat) :
    UInt8.ofNat (high + low) = a := by
  rw [parts]
  exact UInt8.ofNat_toNat

/-- What is encoded is read again. -/
theorem decode_encode (bytes : List UInt8) : decode (encode bytes) = some bytes := by
  unfold decode
  induction bytes using encode.induct with
  | case1 a b c rest ih =>
    have := a.toNat_lt
    have := b.toNat_lt
    have := c.toNat_lt
    rw [encode, scan_first (by omega), scan_second (by omega), scan_third (by omega),
      scan_fourth (by omega), ih]
    have first : a.toNat / 4 * 4 + (a.toNat % 4 * 16 + b.toNat / 16) / 16 = a.toNat := by omega
    have second : (a.toNat % 4 * 16 + b.toNat / 16) % 16 * 16 +
        (b.toNat % 16 * 4 + c.toNat / 64) / 4 = b.toNat := by omega
    have third : (b.toNat % 16 * 4 + c.toNat / 64) % 4 * 64 + c.toNat % 64 = c.toNat := by omega
    simp only [Option.map_some, byte_joined first, byte_joined second, byte_joined third]
  | case2 a b =>
    have := a.toNat_lt
    have := b.toNat_lt
    rw [encode, scan_first (by omega), scan_second (by omega), scan_third (by omega)]
    have first : a.toNat / 4 * 4 + (a.toNat % 4 * 16 + b.toNat / 16) / 16 = a.toNat := by omega
    have second : (a.toNat % 4 * 16 + b.toNat / 16) % 16 * 16 + b.toNat % 16 * 4 / 4 =
        b.toNat := by omega
    have padded : ∀ left, scan 3 left 0 ['='] = some [] := fun _ => rfl
    rw [padded]
    simp only [Option.map_some, byte_joined first, byte_joined second]
  | case3 a =>
    have := a.toNat_lt
    rw [encode, scan_first (by omega), scan_second (by omega)]
    have first : a.toNat / 4 * 4 + a.toNat % 4 * 16 / 16 = a.toNat := by omega
    have padded : ∀ left, scan 2 left 0 ['=', '='] = some [] := fun _ => rfl
    rw [padded]
    simp only [Option.map_some, byte_joined first]
  | case4 => rfl

def unpadded (bytes : List UInt8) : List Char := Text.rstrip ['='] (encode bytes)

def padding (encoded : List Char) : List Char :=
  List.replicate ((4 - encoded.length % 4) % 4) '='

theorem unpadded_past {sextet : Nat} (small : sextet < 64) (before after : List Char) :
    Text.rstrip ['='] (before ++ letter sextet :: after) =
      before ++ letter sextet :: Text.rstrip ['='] after := by
  have stays : decide (letter sextet ∈ ['=']) = false := by simp [letter_not_pad small]
  exact @Text.rdropWhile_past _ (fun c => decide (c ∈ ['='])) _ stays before after

theorem unpadded_padding (bytes : List UInt8) :
    unpadded bytes ++ padding (unpadded bytes) = encode bytes := by
  unfold unpadded
  induction bytes using encode.induct with
  | case1 a b c rest ih =>
    have whole := unpadded_past (by omega : c.toNat % 64 < 64)
      [letter (a.toNat / 4), letter (a.toNat % 4 * 16 + b.toNat / 16),
        letter (b.toNat % 16 * 4 + c.toNat / 64)] (encode rest)
    have same : ∀ w x y z : Char, ∀ s : List Char, padding (w :: x :: y :: z :: s) = padding s := by
      intro w x y z s
      simp only [padding, List.length_cons]
      congr 1
      omega
    simp only [List.cons_append, List.nil_append] at whole
    rw [encode, whole, same]
    simp only [List.cons_append, ih]
  | case2 a b =>
    have whole := unpadded_past (by omega : b.toNat % 16 * 4 < 64)
      [letter (a.toNat / 4), letter (a.toNat % 4 * 16 + b.toNat / 16)] ['=']
    simp only [List.cons_append, List.nil_append] at whole
    rw [encode, whole]
    rfl
  | case3 a =>
    have whole := unpadded_past (by omega : a.toNat % 4 * 16 < 64) [letter (a.toNat / 4)] ['=', '=']
    simp only [List.cons_append, List.nil_append] at whole
    rw [encode, whole]
    rfl
  | case4 => rfl

theorem encode_letters {bytes : List UInt8} {c : Char} (member : c ∈ encode bytes) :
    c = '=' ∨ ∃ sextet < 64, c = letter sextet := by
  induction bytes using encode.induct with
  | case1 x y z rest ih =>
    have := x.toNat_lt
    have := y.toNat_lt
    have := z.toNat_lt
    simp only [encode, List.mem_cons] at member
    rcases member with rfl | rfl | rfl | rfl | later
    · exact Or.inr ⟨_, by omega, rfl⟩
    · exact Or.inr ⟨_, by omega, rfl⟩
    · exact Or.inr ⟨_, by omega, rfl⟩
    · exact Or.inr ⟨_, by omega, rfl⟩
    · exact ih later
  | case2 x y =>
    have := x.toNat_lt
    have := y.toNat_lt
    simp only [encode, List.mem_cons, List.not_mem_nil, or_false] at member
    rcases member with rfl | rfl | rfl | rfl
    · exact Or.inr ⟨_, by omega, rfl⟩
    · exact Or.inr ⟨_, by omega, rfl⟩
    · exact Or.inr ⟨_, by omega, rfl⟩
    · exact Or.inl rfl
  | case3 x =>
    have := x.toNat_lt
    simp only [encode, List.mem_cons, List.not_mem_nil, or_false] at member
    rcases member with rfl | rfl | rfl | rfl
    · exact Or.inr ⟨_, by omega, rfl⟩
    · exact Or.inr ⟨_, by omega, rfl⟩
    · exact Or.inl rfl
    · exact Or.inl rfl
  | case4 => simp [encode] at member

theorem letter_plain {sextet : Nat} (small : sextet < 64) :
    letter sextet ≠ '.' ∧ (letter sextet).toNat < 128 := by
  have all : ∀ sextet : Fin 64, letter sextet.val ≠ '.' ∧ (letter sextet.val).toNat < 128 := by
    decide +kernel
  exact all ⟨sextet, small⟩

theorem encode_plain {bytes : List UInt8} {c : Char} (member : c ∈ encode bytes) :
    c ≠ '.' ∧ c.toNat < 128 := by
  rcases encode_letters member with rfl | ⟨sextet, small, rfl⟩
  · decide
  · exact letter_plain small

end Base64
