import Mixfix.Proofs.Binary64

/-!
# The sign of a double

The sign is a bit apart: a double with the other sign has the same other bits (`Binary64.neg_ofSignBits`). So a decimal
notation without its sign is read as the double of the other sign (`Binary64.neg_ofDecimal`).
-/

set_option autoImplicit false

namespace Mixfix.Binary64

open Float.Model (Format UnpackedFloat)

variable {bits : Nat}

/-! ## Fields of bits -/

theorem toNat_unpackExponent (b : UInt64) :
    (@UnpackedFloat.unpackExponent Format.binary64 b.toBitVec).toNat = b.toNat / 2 ^ 52 % 2 ^ 11 := by
  rw [UnpackedFloat.unpackExponent_def]
  simp [Nat.shiftRight_eq_div_pow]

theorem toNat_unpackMantissa (b : UInt64) :
    (@UnpackedFloat.unpackMantissa Format.binary64 b.toBitVec).toNat = b.toNat % 2 ^ 52 := by
  rw [UnpackedFloat.unpackMantissa_def]
  simp

theorem toNat_unpackSign (b : UInt64) :
    (@UnpackedFloat.unpackSign Format.binary64 b.toBitVec).toNat = b.toNat / 2 ^ 63 % 2 := by
  rw [UnpackedFloat.unpackSign_def]
  simp [Nat.shiftRight_eq_div_pow]

/-- The fields of a double tell whether it is no number. -/
theorem isNaN_eq_false {x : Float} (h : form x ≠ .nan) : x.isNaN = false := by
  have hexponent := toNat_unpackExponent x.toBits
  have hmantissa := toNat_unpackMantissa x.toBits
  unfold form at h
  change (UnpackedFloat.unpack Format.binary64 x.toBits.toBitVec).isNaN = false
  unfold UnpackedFloat.unpack
  dsimp only
  split
  · rename_i hones
    split
    · rfl
    · rename_i hfraction
      have hbiased : x.toBits.toNat / 2 ^ 52 % 2 ^ 11 = 2047 := by
        rw [← hexponent, hones]
        rfl
      have hsome : x.toBits.toNat % 2 ^ 52 ≠ 0 := by
        intro hzero
        apply hfraction
        rw [← BitVec.toNat_inj, hmantissa, hzero]
        rfl
      refine absurd ?_ h
      simp only [Nat.pow_eq, hbiased, hsome, if_true, if_false]
  · split
    · split <;> rfl
    · rfl

/-- Bits with the sign bit are unpacked to the other sign. -/
theorem unpack_add {b b' : UInt64} (h : b'.toNat = b.toNat + 2 ^ 63) :
    UnpackedFloat.unpack Format.binary64 b'.toBitVec = (UnpackedFloat.unpack Format.binary64 b.toBitVec).neg := by
  have hlt := b'.toNat_lt
  have hexponent : @UnpackedFloat.unpackExponent Format.binary64 b'.toBitVec =
      @UnpackedFloat.unpackExponent Format.binary64 b.toBitVec := by
    rw [← BitVec.toNat_inj, toNat_unpackExponent, toNat_unpackExponent]
    omega
  have hmantissa : @UnpackedFloat.unpackMantissa Format.binary64 b'.toBitVec =
      @UnpackedFloat.unpackMantissa Format.binary64 b.toBitVec := by
    rw [← BitVec.toNat_inj, toNat_unpackMantissa, toNat_unpackMantissa]
    omega
  have hsign : @UnpackedFloat.unpackSign Format.binary64 b.toBitVec = 0#1 := by
    rw [← BitVec.toNat_inj, toNat_unpackSign]
    change b.toNat / 2 ^ 63 % 2 = 0
    omega
  have hsign' : @UnpackedFloat.unpackSign Format.binary64 b'.toBitVec = 1#1 := by
    rw [← BitVec.toNat_inj, toNat_unpackSign]
    change b'.toNat / 2 ^ 63 % 2 = 1
    omega
  simp only [UnpackedFloat.unpack, hexponent, hmantissa, hsign, hsign']
  split
  · split <;> rfl
  · split
    · split <;> rfl
    · rfl

/-- A double of bits with the sign bit is the other one's negation. -/
theorem neg_eq_of_toBits {x y : Float} (h : y.toBits.toNat = x.toBits.toNat + 2 ^ 63) : -x = y := by
  have hneg : -x = ⟨.pack (UnpackedFloat.unpack Format.binary64 x.toBits.toBitVec).neg⟩ := rfl
  rw [hneg, ← unpack_add h]
  exact Float.ofBits_toBits y

/-- **The other sign** is another bit. -/
theorem neg_ofSignBits (h : bits ≤ infinityBits) : -ofSignBits false bits = ofSignBits true bits := by
  apply neg_eq_of_toBits
  rw [toNat_toBits_ofSignBits true h, toNat_toBits_ofSignBits false h]
  rfl

/-- **The minus sign** of a decimal notation is the sign of the double. -/
theorem neg_ofDecimal (digits : Nat) (exponent : Int) :
    -ofDecimal false digits exponent = ofDecimal true digits exponent := by
  unfold ofDecimal
  dsimp only
  split
  · exact neg_ofSignBits (Nat.zero_le _)
  · split
    · exact neg_ofSignBits (Nat.le_refl _)
    · unfold ofRatio
      cases hnear : nearest (digits * (powTen exponent).1) (powTen exponent).2 with
      | none => exact neg_ofSignBits (Nat.le_refl _)
      | some bits => exact neg_ofSignBits (Nat.le_of_lt (nearest_lt hnear))

end Mixfix.Binary64
