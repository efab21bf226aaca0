import ArgCheck.Binary64.Basic

set_option autoImplicit false

/-!
# Which bits make finite doubles

A double is finite unless its exponent field is full (`isFinite_ofBits`). A whole number that needs
all of 64 bits stays far below that (`isFinite_ofInt_wide`). Both go by what the model of doubles
does when it takes bits apart and packs them again.
-/

namespace ArgCheck.Binary64

open Float.Model.UnpackedFloat (unpack pack unpackExponent unpackMantissa packComponents
  packedInfinity Sign)
open Float.Model.Format (binary64)

abbrev fullExponent : BitVec binary64.exponentBits := -BitVec.ofNat binary64.exponentBits 1

/-- What bits stand for whose exponent field is not full. -/
theorem unpack_cases {bits : BitVec binary64.numBits} (h : unpackExponent bits ≠ fullExponent) :
    (∃ sign, unpack binary64 bits = .zero sign) ∨
      ∃ sign mantissa exponent positive,
        unpack binary64 bits = .finite sign mantissa exponent positive ∧
          (exponent + 1075).toNat < 2047 := by
  by_cases zero : unpackExponent bits = BitVec.ofNat _ 0
  · rw [show unpack binary64 bits = _ from (if_neg h).trans (if_pos zero)]
    by_cases empty : unpackMantissa bits = BitVec.ofNat _ 0
    · exact .inl ⟨_, dif_pos empty⟩
    · refine .inr ⟨_, _, _, _, dif_neg empty, ?_⟩
      rw [zero]
      decide
  · have bound : (unpackExponent bits).toNat < 2047 := by
      have all : (unpackExponent bits).toNat < 2048 := (unpackExponent bits).isLt
      have ne : (unpackExponent bits).toNat ≠ 2047 := fun same => h (BitVec.eq_of_toNat_eq same)
      omega
    refine .inr ⟨_, _, _, _, (if_neg h).trans (if_neg zero), ?_⟩
    change (((unpackExponent bits).toNat : Int) - (1023 + 52) + 1075).toNat < 2047
    omega

theorem isFinite_unpack {bits : BitVec binary64.numBits} (h : unpackExponent bits ≠ fullExponent) :
    (unpack binary64 bits).isFinite = true := by
  rcases unpack_cases h with ⟨sign, unpacked⟩ | ⟨sign, mantissa, exponent, positive, unpacked, -⟩
  · rw [unpacked]
    rfl
  · rw [unpacked]
    rfl

theorem exponent_pack_finite (sign : Sign) (mantissa : Nat) (exponent : Int)
    (positive : 0 < mantissa) (small : (exponent + 1075).toNat < 2047) :
    unpackExponent (pack binary64 (.finite sign mantissa exponent positive)) ≠
      fullExponent := by
  have biased : exponent + 1023 + 52 = exponent + 1075 := by omega
  change unpackExponent (if 2048 ≤ (exponent + 1023 + 52).toNat + 1 then
      packedInfinity binary64 sign
    else if mantissa.log2 + 1 = binary64.mantissaBits then
      packComponents binary64 sign (BitVec.ofNat _ (exponent + 1023 + 52).toNat)
        (BitVec.ofNat _ mantissa)
    else packComponents binary64 sign (BitVec.ofNat _ 0) (BitVec.ofNat _ mantissa)) ≠ _
  rw [biased, if_neg (by omega)]
  split
  · rw [Float.Model.UnpackedFloat.unpackExponent_packComponents]
    intro h
    have := congrArg BitVec.toNat h
    change (exponent + 1075).toNat % 2048 = 2047 at this
    omega
  · rw [Float.Model.UnpackedFloat.unpackExponent_packComponents]
    decide

theorem exponent_pack_unpack {bits : BitVec binary64.numBits}
    (h : unpackExponent bits ≠ fullExponent) :
    unpackExponent (pack binary64 (unpack binary64 bits)) ≠ fullExponent := by
  rcases unpack_cases h with ⟨sign, unpacked⟩ | ⟨sign, mantissa, exponent, positive, unpacked, small⟩
  · rw [unpacked]
    change unpackExponent (packComponents binary64 sign (BitVec.ofNat _ 0) (BitVec.ofNat _ 0)) ≠ _
    rw [Float.Model.UnpackedFloat.unpackExponent_packComponents]
    decide
  · rw [unpacked]
    exact exponent_pack_finite sign mantissa exponent positive small

/-- A double is finite unless its exponent field is full. -/
theorem isFinite_ofBits {bits : UInt64} (h : bits.toNat / 0x10000000000000 % 2048 ≠ 2047) :
    (Float.ofBits bits).isFinite = true := by
  change (unpack binary64 (pack binary64 (unpack binary64 bits.toBitVec))).isFinite = true
  refine isFinite_unpack (exponent_pack_unpack ?_)
  intro full
  apply h
  have field := congrArg BitVec.toNat full
  simpa [unpackExponent, Nat.shiftRight_eq_div_pow] using field

/-- Whole numbers that need all of 64 bits have doubles of the exponent 11. -/
theorem nearestBits_wide {n : Nat} (wide : 0x8000000000000000 ≤ n)
    (fits : n < 0x10000000000000000) : nearestBits n 1 < 1088 * 0x10000000000000 := by
  have log : Nat.log2 n = 63 := by
    rw [Nat.log2_eq_iff (by omega)]
    omega
  have exponent : exponentOf n 1 = 11 := by
    have below : ¬ n < 0x10000000000000 * 2048 := by omega
    simp only [exponentOf, log]
    change max (if n < 0x10000000000000 * 2048 then _ else _) _ = _
    rw [if_neg below]
    rfl
  have rounded : halfEven n 2048 ≤ n / 2048 + 1 := by
    simp only [halfEven]
    split
    · omega
    · split <;> omega
  have nonzero : n ≠ 0 := by omega
  simp only [nearestBits, nonzero, if_false, exponent]
  change (if halfEven n 2048 < 0x10000000000000 then halfEven n 2048 else
    min ((1086 : Nat) * 0x10000000000000 + (halfEven n 2048 - 0x10000000000000)) infinityBits) < _
  split <;> omega

theorem isFinite_ofInt_wide {n : Int} (wide : 0x8000000000000000 ≤ n)
    (fits : n < 0x10000000000000000) : (ofInt n).isFinite = true := by
  have positive : ¬ n < 0 := by omega
  have bound := nearestBits_wide (n := n.natAbs) (by omega) (by omega)
  rw [ofInt, ofRatio]
  simp only [positive, decide_false, Bool.false_eq_true, if_false]
  refine isFinite_ofBits ?_
  rw [UInt64.toNat_ofNat']
  omega

end ArgCheck.Binary64
