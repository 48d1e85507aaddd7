import Mathlib.Data.List.Basic

/-!
# Authenticated encryption with associated data

An ideal scheme: decryption under the key, nonce and associated data of the
encryption gives the plaintext, an accepted ciphertext is the encryption of what
comes out, and no other key or associated data accepts it.
-/

namespace DlpSystem.Lib

/-- An authenticated cipher.  `encrypt` and `decrypt` take key, nonce, associated
data and message; `tagLength` bounds how short a ciphertext can be. -/
structure Aead (Key Nonce : Type) where
  encrypt : Key → Nonce → List UInt8 → List UInt8 → List UInt8
  decrypt : Key → Nonce → List UInt8 → List UInt8 → Option (List UInt8)
  tagLength : Nat
  decrypt_encrypt : ∀ key nonce aad plaintext,
    decrypt key nonce aad (encrypt key nonce aad plaintext) = some plaintext
  eq_encrypt_of_decrypt : ∀ {key nonce aad ciphertext plaintext},
    decrypt key nonce aad ciphertext = some plaintext →
      ciphertext = encrypt key nonce aad plaintext
  decrypt_foreign : ∀ {key other : Key} {nonce : Nonce} {aad otherAad plaintext : List UInt8},
    (other ≠ key ∨ otherAad ≠ aad) →
      decrypt other nonce otherAad (encrypt key nonce aad plaintext) = none
  tagLength_le : ∀ key nonce aad plaintext,
    tagLength ≤ (encrypt key nonce aad plaintext).length

namespace Aead

variable {Key Nonce : Type}

/-- What one key opens, another does not. -/
theorem decrypt_eq_none_of_ne (aead : Aead Key Nonce) {key other : Key} {nonce : Nonce}
    {aad ciphertext plaintext : List UInt8}
    (opened : aead.decrypt key nonce aad ciphertext = some plaintext) (distinct : other ≠ key) :
    aead.decrypt other nonce aad ciphertext = none := by
  rw [aead.eq_encrypt_of_decrypt opened]
  exact aead.decrypt_foreign (Or.inl distinct)

/-- A run of ones is as long as its end says. -/
theorem replicate_one_inj {m n : Nat} {left right : List UInt8}
    (same : List.replicate m (1 : UInt8) ++ 0 :: left = List.replicate n 1 ++ 0 :: right) :
    m = n ∧ left = right := by
  induction m generalizing n with
  | zero =>
      cases n with
      | zero => simpa using same
      | succ n => simp [List.replicate_succ] at same
  | succ m ih =>
      cases n with
      | zero => simp [List.replicate_succ] at same
      | succ n =>
          simp only [List.replicate_succ, List.cons_append, List.cons.injEq, true_and] at same
          rcases ih same with ⟨sameLength, sameRest⟩
          exact ⟨by rw [sameLength], sameRest⟩

/-- A label names key and associated data in front of the message.  The scheme
hides nothing, and it has the laws. -/
def labelled (keyBytes : Key → List UInt8) (width : Nat)
    (keyBytes_length : ∀ key, (keyBytes key).length = width)
    (keyBytes_injective : Function.Injective keyBytes) : Aead Key Nonce where
  encrypt key _ aad plaintext :=
    keyBytes key ++ (List.replicate aad.length 1 ++ 0 :: (aad ++ plaintext))
  decrypt key _ aad ciphertext :=
    let label := keyBytes key ++ (List.replicate aad.length 1 ++ 0 :: aad)
    if label <+: ciphertext then some (ciphertext.drop label.length) else none
  tagLength := width
  decrypt_encrypt := by
    intro key _ aad plaintext
    have shape : keyBytes key ++ (List.replicate aad.length 1 ++ 0 :: (aad ++ plaintext)) =
        (keyBytes key ++ (List.replicate aad.length 1 ++ 0 :: aad)) ++ plaintext := by
      simp
    simp only [shape, List.prefix_append, if_true, List.drop_left]
  eq_encrypt_of_decrypt := by
    intro key _ aad ciphertext plaintext opened
    simp only at opened
    split at opened
    · rename_i labelled
      rcases labelled with ⟨rest, rfl⟩
      rw [List.drop_left] at opened
      cases Option.some.inj opened
      simp
    · exact absurd opened (by simp)
  decrypt_foreign := by
    intro key other _ aad otherAad plaintext different
    apply if_neg
    rintro ⟨rest, same⟩
    rw [List.append_assoc, List.append_assoc] at same
    obtain ⟨sameKey, sameLabel⟩ :=
      List.append_inj same ((keyBytes_length other).trans (keyBytes_length key).symm)
    have sameAad : otherAad = aad := by
      rcases replicate_one_inj sameLabel with ⟨sameLength, sameRest⟩
      exact (List.append_inj sameRest sameLength).1
    rcases different with otherKey | other
    · exact otherKey (keyBytes_injective sameKey)
    · exact other sameAad
  tagLength_le := by
    intro key _ aad plaintext
    rw [List.length_append, keyBytes_length]
    omega

end Aead

end DlpSystem.Lib
