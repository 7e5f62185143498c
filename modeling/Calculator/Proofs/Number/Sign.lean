import Calculator.Number.Binary64
import Mathlib

/-! # Signs of binary64 numbers

A number is its sign, its exponent field and its mantissa field. Negation flips the sign and keeps
the fields, except on the one NaN; a number is its code with its sign put back.
-/

namespace Calculator.Binary64

open Float.Model (Format UnpackedFloat)
open Float.Model.UnpackedFloat

private theorem toNat_one_append (mantissa : BitVec 52) :
    (1#1 ++ mantissa).toNat = 2 ^ 52 + mantissa.toNat := by
  rw [BitVec.toNat_append, ← Nat.shiftLeft_add_eq_or_of_lt mantissa.isLt, Nat.shiftLeft_eq]
  rfl

/-- What three fields denote. -/
private def ofFields (sign : Sign) (exponent : BitVec 11) (mantissa : BitVec 52) : UnpackedFloat :=
  if exponent = -1#_ then
    if mantissa = 0#_ then .infinity sign else .notANumber
  else if exponent = 0#_ then
    if some : mantissa = 0#_ then .zero sign
    else .finite sign mantissa.toNat (exponent.toNat - (1023 + 52) + 1)
      (by simpa [BitVec.toNat_pos, BitVec.pos_iff_ne_zero] using some)
  else .finite sign (1#1 ++ mantissa).toNat (exponent.toNat - (1023 + 52))
    (by rw [toNat_one_append]; omega)

private theorem unpack_eq_ofFields (bits : BitVec 64) :
    unpack Format.binary64 bits =
      ofFields (Sign.ofBitVec (@unpackSign .binary64 bits))
        (@unpackExponent .binary64 bits) (@unpackMantissa .binary64 bits) := rfl

private theorem neg_ofFields (sign : Sign) (exponent : BitVec 11) (mantissa : BitVec 52) :
    (ofFields sign exponent mantissa).neg = ofFields (-sign) exponent mantissa := by
  unfold ofFields
  split
  · split <;> rfl
  · split
    · split <;> rfl
    · rfl

/-- Fields that denote a number are those it is packed into. -/
private theorem pack_ofFields (sign : Sign) (exponent : BitVec 11) (mantissa : BitVec 52)
    (number : exponent = -1#_ → mantissa = 0#_) :
    pack Format.binary64 (ofFields sign exponent mantissa) =
      packComponents .binary64 sign exponent mantissa := by
  have fields := unpack_eq_ofFields (packComponents .binary64 sign exponent mantissa)
  rw [unpackSign_packComponents, Sign.ofBitVec_toBitVec, unpackExponent_packComponents,
    unpackMantissa_packComponents] at fields
  rw [← fields, pack_unpack, if_neg]
  simpa [isNaNBits] using number

private theorem toNat_packComponents (sign : Sign) (exponent : BitVec 11) (mantissa : BitVec 52) :
    (packComponents .binary64 sign exponent mantissa).toNat =
      sign.toBitVec.toNat * 2 ^ 63 + (exponent.toNat * 2 ^ 52 + mantissa.toNat) := by
  unfold packComponents
  have upper :
      (sign.toBitVec ++ exponent).toNat = sign.toBitVec.toNat * 2 ^ 11 + exponent.toNat := by
    rw [BitVec.toNat_append, ← Nat.shiftLeft_add_eq_or_of_lt exponent.isLt, Nat.shiftLeft_eq]
  rw [BitVec.toNat_append, ← Nat.shiftLeft_add_eq_or_of_lt mantissa.isLt, Nat.shiftLeft_eq, upper]
  change (_ * 2 ^ 11 + _) * 2 ^ 52 + _ = _
  omega

/-- Every number is packed from three fields, and the one NaN is positive. -/
private theorem exists_fields (x : Float) :
    ∃ sign exponent mantissa,
      x.toBits.toBitVec = packComponents .binary64 sign exponent mantissa ∧
      x.toModel.unpack = ofFields sign exponent mantissa ∧
      (exponent = -1#_ → mantissa ≠ 0#_ → x.toBits.toBitVec = packedNaN .binary64) :=
  ⟨_, _, _,
    (@packComponents_unpackSign_unpackExponent_unpackMantissa .binary64 x.toBits.toBitVec).symm,
    unpack_eq_ofFields x.toBits.toBitVec, x.toModel.valid.eq_packedNaN⟩

private theorem toBitVec_neg (x : Float) :
    (-x).toBits.toBitVec = pack .binary64 x.toModel.unpack.neg := rfl

private theorem isNegative_eq {x : Float} {sign : Sign} {exponent : BitVec 11}
    {mantissa : BitVec 52}
    (bits : x.toBits.toBitVec = packComponents .binary64 sign exponent mantissa) :
    isNegative x = decide (sign.toBitVec = 1#1) := by
  have toNat := congrArg BitVec.toNat bits
  rw [toNat_packComponents] at toNat
  change x.toBits.toNat = _ at toNat
  have bound := mantissa.isLt
  have exponentBound := exponent.isLt
  unfold isNegative
  cases sign with
  | negative =>
    rw [show (Sign.toBitVec .negative).toNat = 1 from rfl] at toNat
    exact (decide_eq_true (by omega)).trans rfl
  | positive =>
    rw [show (Sign.toBitVec .positive).toNat = 0 from rfl] at toNat
    exact (decide_eq_false (by omega)).trans rfl

private theorem code_eq {x : Float} {sign : Sign} {exponent : BitVec 11}
    {mantissa : BitVec 52}
    (bits : x.toBits.toBitVec = packComponents .binary64 sign exponent mantissa) :
    code x = exponent.toNat * 2 ^ 52 + mantissa.toNat := by
  have toNat := congrArg BitVec.toNat bits
  rw [toNat_packComponents] at toNat
  change x.toBits.toNat = _ at toNat
  have bound := mantissa.isLt
  have exponentBound := exponent.isLt
  unfold code
  omega

/-- A number whose sign bit is set is no NaN. -/
theorem isNaN_eq_false {x : Float} (negative : isNegative x = true) : x.isNaN = false := by
  obtain ⟨sign, exponent, mantissa, bits, unpacked, nan⟩ := exists_fields x
  change x.toModel.unpack.isNaN = false
  rw [unpacked, ofFields]
  split
  case isTrue top =>
    split
    · rfl
    case isFalse some =>
      rw [isNegative_eq (nan top some)] at negative
      cases negative
  case isFalse =>
    split
    · split <;> rfl
    · rfl

private theorem number_of_isNaN {x : Float} {sign : Sign} {exponent : BitVec 11}
    {mantissa : BitVec 52} (unpacked : x.toModel.unpack = ofFields sign exponent mantissa)
    (number : x.isNaN = false) : exponent = -1#_ → mantissa = 0#_ := by
  intro top
  refine Classical.byContradiction fun some => ?_
  change x.toModel.unpack.isNaN = false at number
  rw [unpacked, ofFields, if_pos top, if_neg some] at number
  cases number

private theorem bits_neg {x : Float} {sign : Sign} {exponent : BitVec 11} {mantissa : BitVec 52}
    (unpacked : x.toModel.unpack = ofFields sign exponent mantissa) (number : x.isNaN = false) :
    (-x).toBits.toBitVec = packComponents .binary64 (-sign) exponent mantissa := by
  rw [toBitVec_neg, unpacked, neg_ofFields,
    pack_ofFields _ _ _ (number_of_isNaN unpacked number)]

/-- Negation flips the sign bit of a number. -/
theorem isNegative_neg {x : Float} (number : x.isNaN = false) :
    isNegative (-x) = !isNegative x := by
  obtain ⟨sign, exponent, mantissa, bits, unpacked, _⟩ := exists_fields x
  rw [isNegative_eq (bits_neg unpacked number), isNegative_eq bits]
  cases sign <;> rfl

/-- Negation keeps the code of a number. -/
theorem code_neg {x : Float} (number : x.isNaN = false) : code (-x) = code x := by
  obtain ⟨sign, exponent, mantissa, bits, unpacked, _⟩ := exists_fields x
  rw [code_eq (bits_neg unpacked number), code_eq bits]

private theorem toNat_toBits (x : Float) :
    x.toBits.toNat = (if isNegative x then 2 ^ 63 else 0) + code x := by
  have bound : x.toBits.toNat < 2 ^ 64 := x.toBits.toNat_lt
  unfold isNegative code
  split
  case isTrue negative =>
    have := of_decide_eq_true negative
    omega
  case isFalse positive =>
    have := of_decide_eq_false (Bool.eq_false_iff.mpr positive)
    omega

/-- A number is determined by its sign and its code. -/
theorem eq_of_sign_code {x y : Float} (sign : isNegative x = isNegative y)
    (same : code x = code y) : x = y := by
  apply Float.toBits_inj.mp
  apply UInt64.toNat_inj.mp
  rw [toNat_toBits, toNat_toBits, sign, same]

private theorem isFinite_ofFields (sign : Sign) (exponent : BitVec 11) (mantissa : BitVec 52) :
    (ofFields sign exponent mantissa).isFinite = true ↔ exponent.toNat < 2047 := by
  have lower : exponent.toNat < 2 ^ 11 := exponent.isLt
  have top : exponent = -1#_ ↔ exponent.toNat = 2047 := by
    rw [← BitVec.toNat_inj]
    rfl
  unfold ofFields
  split
  case isTrue all =>
    have := top.mp all
    split
    · exact ⟨fun finite => absurd finite Bool.false_ne_true, fun less => by omega⟩
    · exact ⟨fun finite => absurd finite Bool.false_ne_true, fun less => by omega⟩
  case isFalse some =>
    have := mt top.mpr some
    have less : exponent.toNat < 2047 := by omega
    split
    · split <;> exact ⟨fun _ => less, fun _ => rfl⟩
    · exact ⟨fun _ => less, fun _ => rfl⟩

/-- A number is finite if its code lies below that of infinity. -/
theorem isFinite_iff {x : Float} : x.isFinite = true ↔ code x < infinity := by
  obtain ⟨sign, exponent, mantissa, bits, unpacked, _⟩ := exists_fields x
  have bound : mantissa.toNat < 2 ^ 52 := mantissa.isLt
  change x.toModel.unpack.isFinite = true ↔ _
  rw [unpacked, isFinite_ofFields, code_eq bits, infinity]
  omega

private theorem isNaN_ofFields (sign : Sign) (exponent : BitVec 11) (mantissa : BitVec 52) :
    (ofFields sign exponent mantissa).isNaN = true ↔
      exponent.toNat = 2047 ∧ mantissa.toNat ≠ 0 := by
  have top : exponent = -1#_ ↔ exponent.toNat = 2047 := by
    rw [← BitVec.toNat_inj]
    rfl
  have zero : mantissa = 0#_ ↔ mantissa.toNat = 0 := by
    rw [← BitVec.toNat_inj]
    rfl
  rw [← top, Ne, ← zero]
  unfold ofFields
  split
  case isTrue all =>
    split
    case isTrue none =>
      exact ⟨fun nan => absurd nan Bool.false_ne_true, fun some => absurd none some.2⟩
    case isFalse some => exact ⟨fun _ => ⟨all, some⟩, fun _ => rfl⟩
  case isFalse other =>
    split
    · split <;>
        exact ⟨fun nan => absurd nan Bool.false_ne_true, fun all => absurd all.1 other⟩
    · exact ⟨fun nan => absurd nan Bool.false_ne_true, fun all => absurd all.1 other⟩

/-- A NaN has a code above that of infinity. -/
theorem isNaN_iff {x : Float} : x.isNaN = true ↔ infinity < code x := by
  obtain ⟨sign, exponent, mantissa, bits, unpacked, _⟩ := exists_fields x
  have bound : mantissa.toNat < 2 ^ 52 := mantissa.isLt
  have lower : exponent.toNat < 2 ^ 11 := exponent.isLt
  change x.toModel.unpack.isNaN = true ↔ _
  rw [unpacked, isNaN_ofFields, code_eq bits, infinity]
  omega

theorem isNaN_neg {x : Float} (number : x.isNaN = false) : (-x).isNaN = false := by
  rw [Bool.eq_false_iff, Ne, isNaN_iff, code_neg number, ← isNaN_iff, number]
  exact Bool.false_ne_true

/-- Negation undoes itself, also on infinities. -/
theorem neg_neg_of_number {x : Float} (number : x.isNaN = false) : - -x = x := by
  have number' := isNaN_neg number
  apply eq_of_sign_code
  · rw [isNegative_neg number', isNegative_neg number, Bool.not_not]
  · rw [code_neg number', code_neg number]

theorem isNaN_of_isFinite {x : Float} (finite : x.isFinite = true) : x.isNaN = false := by
  change x.toModel.unpack.isFinite = true at finite
  change x.toModel.unpack.isNaN = false
  cases unpacked : x.toModel.unpack with
  | notANumber =>
    rw [unpacked] at finite
    cases finite
  | _ => rfl

theorem neg_neg {x : Float} (finite : x.isFinite = true) : - -x = x :=
  neg_neg_of_number (isNaN_of_isFinite finite)

/-- A number without a sign is the number of its code. -/
theorem ofCode_code {x : Float} (unsigned : isNegative x = false) : ofCode (code x) = x := by
  have bits := toNat_toBits x
  rw [unsigned] at bits
  have same : UInt64.ofNat (code x) = x.toBits := by
    rw [← UInt64.toNat_inj, UInt64.toNat_ofNat']
    have bound := x.toBits.toNat_lt
    simp only [Bool.false_eq_true, ↓reduceIte, Nat.zero_add] at bits
    rw [← bits, Nat.mod_eq_of_lt bound]
  rw [ofCode, same, Float.ofBits_toBits]

/-- A finite number with a sign is the negated number of its code. -/
theorem neg_ofCode_code {x : Float} (finite : x.isFinite = true) (signed : isNegative x = true) :
    -ofCode (code x) = x := by
  have number := isNaN_of_isFinite finite
  have unsigned : isNegative (-x) = false := by
    rw [isNegative_neg number, signed]
    rfl
  rw [← code_neg number, ofCode_code unsigned, neg_neg finite]

private theorem beq_zero_ofFields (sign : Sign) (exponent : BitVec 11) (mantissa : BitVec 52) :
    (ofFields sign exponent mantissa).beq (.zero .positive) = true ↔
      exponent.toNat = 0 ∧ mantissa.toNat = 0 := by
  have zero : mantissa = 0#_ ↔ mantissa.toNat = 0 := by
    rw [← BitVec.toNat_inj]
    rfl
  have low : exponent = 0#_ ↔ exponent.toNat = 0 := by
    rw [← BitVec.toNat_inj]
    rfl
  have apart : ¬ (-1#11 : BitVec 11) = 0#_ := by decide
  rw [← zero, ← low]
  unfold ofFields
  split
  case isTrue top =>
    have other : ¬ (exponent = 0#_ ∧ mantissa = 0#_) := fun all => apart (top.symm.trans all.1)
    split
    · cases sign <;>
        exact ⟨fun same => absurd same Bool.false_ne_true, fun all => absurd all other⟩
    · exact ⟨fun same => absurd same Bool.false_ne_true, fun all => absurd all other⟩
  case isFalse =>
    split
    case isTrue low =>
      split
      case isTrue none => exact ⟨fun _ => ⟨low, none⟩, fun _ => rfl⟩
      case isFalse some =>
        cases sign <;>
          exact ⟨fun same => absurd same Bool.false_ne_true, fun all => absurd all.2 some⟩
    case isFalse high =>
      cases sign <;>
        exact ⟨fun same => absurd same Bool.false_ne_true, fun all => absurd all.1 high⟩

/-- What equals zero is a zero of either sign. -/
theorem beq_zero_iff {x : Float} : (x == 0.0) = true ↔ x = 0.0 ∨ x = -0.0 := by
  obtain ⟨sign, exponent, mantissa, bits, unpacked, _⟩ := exists_fields x
  have zeroCode : (x == 0.0) = true ↔ code x = 0 := by
    change x.toModel.unpack.beq (.zero .positive) = true ↔ _
    rw [unpacked, beq_zero_ofFields, code_eq bits]
    omega
  rw [zeroCode]
  constructor
  · intro none
    cases signed : isNegative x with
    | false => exact .inl (eq_of_sign_code signed none)
    | true =>
      have sign : isNegative x = isNegative (-0.0) := signed.trans (by decide +kernel)
      exact .inr (eq_of_sign_code sign (none.trans (by decide +kernel)))
  · rintro (rfl | rfl) <;> decide +kernel

end Calculator.Binary64
