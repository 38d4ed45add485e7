import Mathlib.Tactic

/- Base64 texts of bytes.

A text is read as far as its first `=`; characters that are no signs are passed over, and
the two signs of the alphabet for URLs are read as well.

What is provided:
  1. `encode`, `decode`, and `isStandard`, whether a text is made of full groups.
  2. `decode_encode` — the bytes are read back; `isStandard_encode`.
-/
namespace Base64

def alphabet : List Char :=
  "ABCDEFGHIJKLMNOPQRSTUVWXYZabcdefghijklmnopqrstuvwxyz0123456789+/".toList

def sign (n : ℕ) : Char := alphabet.getD n '='

def value (c : Char) : Option ℕ :=
  if c = '-' then some 62 else if c = '_' then some 63 else alphabet.idxOf? c

def isSign (c : Char) : Bool := c ∈ alphabet

def encode : List UInt8 → List Char
  | [] => []
  | [a] => [sign (a.toNat / 4), sign (a.toNat % 4 * 16), '=', '=']
  | [a, b] =>
    [sign (a.toNat / 4), sign (a.toNat % 4 * 16 + b.toNat / 16), sign (b.toNat % 16 * 4), '=']
  | a :: b :: c :: rest =>
    sign (a.toNat / 4) :: sign (a.toNat % 4 * 16 + b.toNat / 16) ::
      sign (b.toNat % 16 * 4 + c.toNat / 64) :: sign (c.toNat % 64) :: encode rest

/-- The bytes of a row of six bits each; bits that fill no byte are dropped. -/
def bytesOf : List ℕ → List UInt8
  | w :: x :: y :: z :: rest =>
    .ofNat (w * 4 + x / 16) :: .ofNat (x % 16 * 16 + y / 4) :: .ofNat (y % 4 * 64 + z) ::
      bytesOf rest
  | [w, x, y] => [.ofNat (w * 4 + x / 16), .ofNat (x % 16 * 16 + y / 4)]
  | [w, x] => [.ofNat (w * 4 + x / 16)]
  | _ => []

def decode (text : List Char) : List UInt8 :=
  bytesOf ((text.takeWhile (· ≠ '=')).filterMap value)

/-- `^(?:[A-Za-z0-9+/]{4})*(?:[A-Za-z0-9+/]{2}==|[A-Za-z0-9+/]{3}=)?$`. -/
def isStandard : List Char → Bool
  | [] => true
  | [a, b, '=', '='] => isSign a && isSign b
  | [a, b, c, '='] => isSign a && isSign b && isSign c
  | a :: b :: c :: d :: rest => isSign a && isSign b && isSign c && isSign d && isStandard rest
  | _ => false

lemma sign_spec : ∀ n < 64, isSign (sign n) ∧ sign n ≠ '=' ∧ value (sign n) = some n := by
  decide +kernel

lemma takeWhile_sign {n : ℕ} (h : n < 64) (text : List Char) :
    (sign n :: text).takeWhile (· ≠ '=') = sign n :: text.takeWhile (· ≠ '=') := by
  have hne := (sign_spec n h).2.1; simp [hne]

lemma filterMap_sign {n : ℕ} (h : n < 64) (text : List Char) :
    (sign n :: text).filterMap value = n :: text.filterMap value :=
  List.filterMap_cons_some (sign_spec n h).2.2

lemma read_sign {n : ℕ} (h : n < 64) (text : List Char) :
    ((sign n :: text).takeWhile (· ≠ '=')).filterMap value =
      n :: (text.takeWhile (· ≠ '=')).filterMap value := by
  rw [takeWhile_sign h, filterMap_sign h]

lemma read_fill (text : List Char) :
    (('=' :: text).takeWhile (· ≠ '=')).filterMap value = [] := rfl

lemma ofNat_eq {a : UInt8} {n : ℕ} (h : n = a.toNat) : UInt8.ofNat n = a := by
  rw [h, UInt8.ofNat_toNat]

theorem decode_encode (bytes : List UInt8) : decode (encode bytes) = bytes := by
  unfold decode
  fun_induction encode bytes with
  | case1 => rfl
  | case2 a =>
    have ha := a.toNat_lt
    rw [read_sign (by omega), read_sign (by omega), read_fill, bytesOf,
      ofNat_eq (a := a) (by omega)]
  | case3 a b =>
    have ha := a.toNat_lt
    have hb := b.toNat_lt
    rw [read_sign (by omega), read_sign (by omega), read_sign (by omega), read_fill, bytesOf,
      ofNat_eq (a := a) (by omega), ofNat_eq (a := b) (by omega)]
  | case4 a b c rest ih =>
    have ha := a.toNat_lt
    have hb := b.toNat_lt
    have hc := c.toNat_lt
    rw [read_sign (by omega), read_sign (by omega), read_sign (by omega), read_sign (by omega),
      bytesOf, ih, ofNat_eq (a := a) (by omega), ofNat_eq (a := b) (by omega),
      ofNat_eq (a := c) (by omega)]

lemma isStandard_cons {a b c d : Char} {rest : List Char} (hd : d ≠ '=')
    (h : (isSign a && isSign b && isSign c && isSign d)) :
    isStandard (a :: b :: c :: d :: rest) = isStandard rest := by
  rw [isStandard, h, Bool.true_and]
  · rintro - rfl; exact absurd rfl hd
  · rintro rfl; exact absurd rfl hd

theorem isStandard_encode (bytes : List UInt8) : isStandard (encode bytes) := by
  fun_induction encode bytes with
  | case1 => rfl
  | case2 a =>
    have ha := a.toNat_lt
    simp [isStandard, (sign_spec (a.toNat / 4) (by omega)).1,
      (sign_spec (a.toNat % 4 * 16) (by omega)).1]
  | case3 a b =>
    have ha := a.toNat_lt
    have hb := b.toNat_lt
    have hlast := sign_spec (b.toNat % 16 * 4) (by omega)
    rw [isStandard]
    · simp [(sign_spec (a.toNat / 4) (by omega)).1, hlast.1,
        (sign_spec (a.toNat % 4 * 16 + b.toNat / 16) (by omega)).1]
    · exact hlast.2.1
  | case4 a b c rest ih =>
    have ha := a.toNat_lt
    have hb := b.toNat_lt
    have hc := c.toNat_lt
    have hlast := sign_spec (c.toNat % 64) (by omega)
    rw [isStandard_cons hlast.2.1, ih]
    simp [(sign_spec (a.toNat / 4) (by omega)).1, hlast.1,
      (sign_spec (a.toNat % 4 * 16 + b.toNat / 16) (by omega)).1,
      (sign_spec (b.toNat % 16 * 4 + c.toNat / 64) (by omega)).1]

end Base64
