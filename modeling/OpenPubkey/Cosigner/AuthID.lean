import OpenPubkey.Cosigner.AuthCosigner

set_option autoImplicit false

namespace OpenPubkey.Cosigner

theorem toNat_uint8_ofNat (n : Nat) : (UInt8.ofNat n).toNat = n % 256 := by
  simp [UInt8.toNat, UInt8.ofNat]

theorem uint64_ofNat_add_one (n : Nat) : UInt64.ofNat n + 1 = UInt64.ofNat (n + 1) :=
  UInt64.toNat.inj (by simp [UInt64.toNat, UInt64.ofNat, UInt64.add_def, Nat.add_mod])

theorem uint64_ofNat_inj (n m : Nat) (hn : n < 2 ^ 64) (hm : m < 2 ^ 64)
    (same : UInt64.ofNat n = UInt64.ofNat m) : n = m := by
  have := congrArg UInt64.toNat same
  simp only [UInt64.toNat, UInt64.ofNat, BitVec.toNat_ofNat] at this
  omega

@[simp] theorem appendUint64_length (b : List UInt8) (v : UInt64) : (appendUint64 b v).length = b.length + 8 := by
  simp [appendUint64]

theorem eq_of_low_byte (a b : Nat) (low : UInt8.ofNat a = UInt8.ofNat b) (high : a >>> 8 = b >>> 8) : a = b := by
  have := congrArg UInt8.toNat low
  simp only [toNat_uint8_ofNat, Nat.shiftRight_eq_div_pow] at this high
  omega

theorem appendUint64_injective (v w : UInt64) (same : appendUint64 [] v = appendUint64 [] w) : v = w := by
  simp only [appendUint64, List.nil_append, List.map_cons, List.map_nil, List.cons.injEq, and_true] at same
  obtain ⟨h0, h1, h2, h3, h4, h5, h6, h7⟩ := same
  have top : v.toNat >>> 56 = w.toNat >>> 56 := by
    have hv := v.toNat_lt_size
    have hw := w.toNat_lt_size
    have := congrArg UInt8.toNat h7
    simp only [toNat_uint8_ofNat, Nat.shiftRight_eq_div_pow, UInt64.size] at this hv hw ⊢
    omega
  have b6 := eq_of_low_byte _ _ h6 (by rw [← Nat.shiftRight_add]; exact top)
  have b5 := eq_of_low_byte _ _ h5 (by rw [← Nat.shiftRight_add]; exact b6)
  have b4 := eq_of_low_byte _ _ h4 (by rw [← Nat.shiftRight_add]; exact b5)
  have b3 := eq_of_low_byte _ _ h3 (by rw [← Nat.shiftRight_add]; exact b4)
  have b2 := eq_of_low_byte _ _ h2 (by rw [← Nat.shiftRight_add]; exact b3)
  have b1 := eq_of_low_byte _ _ h1 (by rw [← Nat.shiftRight_add]; exact b2)
  exact UInt64.toNat.inj (eq_of_low_byte _ _ h0 b1)

theorem hexDigit_injective : ∀ n m : Fin 16, hexDigit n = hexDigit m → n = m := by decide

theorem hexEncode_injective (a b : List UInt8) (same : hexEncode a = hexEncode b) : a = b := by
  have chars : a.flatMap (fun x => [hexDigit (x.toNat / 16), hexDigit (x.toNat % 16)]) =
      b.flatMap (fun x => [hexDigit (x.toNat / 16), hexDigit (x.toNat % 16)]) := congrArg String.data same
  clear same
  induction a generalizing b with
  | nil => cases b <;> simp_all
  | cons x a ih =>
    cases b with
    | nil => simp at chars
    | cons y b =>
      simp only [List.flatMap_cons, List.cons_append, List.nil_append, List.cons.injEq] at chars
      obtain ⟨high, low, rest⟩ := chars
      have hx := x.toNat_lt_size
      have hy := y.toNat_lt_size
      have h1 := hexDigit_injective ⟨x.toNat / 16, by simp [UInt8.size] at hx; omega⟩
        ⟨y.toNat / 16, by simp [UInt8.size] at hy; omega⟩ high
      have h2 := hexDigit_injective ⟨x.toNat % 16, by omega⟩ ⟨y.toNat % 16, by omega⟩ low
      simp only [Fin.mk.injEq] at h1 h2
      rw [UInt8.toNat.inj (by omega : x.toNat = y.toNat), ih b rest]

theorem authIdOf_injective (lib : CosignerLibrary) (hmacKey : List UInt8)
    (injective : ∀ a b : List UInt8, a.length = 16 → b.length = 16 →
      lib.hmacSha3 hmacKey a = lib.hmacSha3 hmacKey b → a = b)
    (k k' : UInt64) (now now' : Int) (same : authIdOf lib hmacKey k now = authIdOf lib hmacKey k' now') :
    k = k' := by
  have inputs := injective _ _ (by simp) (by simp) (hexEncode_injective _ _ same)
  exact appendUint64_injective _ _ (List.append_inj_left inputs (by simp))

end OpenPubkey.Cosigner
