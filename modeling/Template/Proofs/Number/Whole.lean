import Mathlib.Algebra.Group.Nat.Defs
import Template.Number.Parts

/-!
Whole numbers of at most 53 bits. A double holds each of them, with the number as mantissa, moved
to the left until it fills the 53 bits. Nothing is rounded when such a number is made into a double,
when two of them are added to a third, and when the double is taken apart again. A negative number
differs from the positive one in its sign bit only.
-/

namespace Template.Number

open Float.Model (Format UnpackedFloat totalExponent)
open Float.Model.UnpackedFloat

theorem log2_mul_pow {n : Nat} (hp : 0 < n) (k : Nat) : (n * 2 ^ k).log2 = n.log2 + k := by
  obtain ⟨lower, upper⟩ := (Nat.log2_eq_iff (Nat.ne_of_gt hp)).1 (Eq.refl n.log2)
  have positive : n * 2 ^ k ≠ 0 := Nat.ne_of_gt (Nat.mul_pos hp (Nat.two_pow_pos k))
  refine (Nat.log2_eq_iff positive).2 ⟨?_, ?_⟩
  · rw [Nat.pow_add]
    exact Nat.mul_le_mul_right _ lower
  · rw [show n.log2 + k + 1 = n.log2 + 1 + k by omega, Nat.pow_add]
    exact Nat.mul_lt_mul_of_pos_right upper (Nat.two_pow_pos k)

/-- The exponent that the format wants of a number does not tell where its bits stand. -/
theorem targetExponent_mul_pow {n : Nat} (hp : 0 < n) (e : Int) (k : Nat) :
    Format.binary64.targetExponent (totalExponent (n * 2 ^ k) (e - k)) =
      max (n.log2 + e - 52) (-1074) := by
  change max (((n * 2 ^ k).log2 : Int) + 1 + (e - k) - 53) (-1074) = _
  rw [log2_mul_pow hp]
  omega

/-- A mantissa that fills its bits, with an exponent that a double can have. -/
structure Normal (m : Nat) (e : Int) : Prop where
  lower : 2 ^ 52 ≤ m
  upper : m < 2 ^ 53
  least : -1074 ≤ e
  greatest : e ≤ 971

namespace Normal

variable {m : Nat} {e : Int}

theorem pos (h : Normal m e) : 0 < m := Nat.lt_of_lt_of_le (Nat.two_pow_pos 52) h.lower

theorem log2_eq (h : Normal m e) : m.log2 = 52 :=
  (Nat.log2_eq_iff (Nat.ne_of_gt h.pos)).2 ⟨h.lower, h.upper⟩

/-- The exponent is the one that the format wants. -/
theorem target (h : Normal m e) (k : Nat) :
    Format.binary64.targetExponent (totalExponent (m * 2 ^ k) (e - k)) = e := by
  have := h.least
  rw [targetExponent_mul_pow h.pos, h.log2_eq]
  omega

end Normal

/-- Zeros that are moved out at the right leave no trace. -/
theorem shiftRight_exact (m k : Nat) :
    ExtendedMantissa.ofMantissaAndAccuracy (m * 2 ^ k) .exact >>> k =
      ExtendedMantissa.ofMantissaAndAccuracy m .exact := by
  induction k generalizing m with
  | zero => rw [Nat.pow_zero, Nat.mul_one]; rfl
  | succ k ih =>
      have once : ExtendedMantissa.ofMantissaAndAccuracy (m * 2 ^ (k + 1)) .exact >>> (k + 1) =
          (ExtendedMantissa.ofMantissaAndAccuracy (m * 2 * 2 ^ k) .exact >>> k).shiftRightOne := by
        rw [Nat.pow_succ', ← Nat.mul_assoc]
        rfl
      rw [once, ih]
      simp [ExtendedMantissa.ofMantissaAndAccuracy, ExtendedMantissa.shiftRightOne]

theorem Normal.shiftToTarget {m : Nat} {e : Int} (h : Normal m e) (k : Nat) :
    shiftToTargetExponent Format.binary64 (m * 2 ^ k) (e - k) .exact =
      (ExtendedMantissa.ofMantissaAndAccuracy m .exact, e) := by
  have amount : (e - (e - k)).toNat = k := by omega
  simp only [shiftToTargetExponent, h.target, shiftToExponent, amount, shiftRight_exact]
  congr 1
  omega

theorem Normal.round {m : Nat} {e : Int} (h : Normal m e) (s : Sign) (k : Nat) :
    roundWithAccuracy Format.binary64 s (m * 2 ^ k) (e - k) .exact = .finite s m e h.pos := by
  have again := h.shiftToTarget 0
  rw [Nat.pow_zero, Nat.mul_one, Int.natCast_zero, Int.sub_zero] at again
  have rounded : (ExtendedMantissa.ofMantissaAndAccuracy m .exact).roundedMantissa = m := rfl
  unfold roundWithAccuracy
  rw [h.shiftToTarget]
  dsimp only
  rw [rounded, again]
  exact dif_neg (Nat.ne_of_gt h.pos)

/-- A positive number of the format is packed into its exponent and the bits behind the first. -/
theorem Normal.pack {m : Nat} {e : Int} (h : Normal m e) :
    UnpackedFloat.pack Format.binary64 (.finite .positive m e h.pos) =
      packComponents Format.binary64 .positive (BitVec.ofNat 11 (e + 1075).toNat)
        (BitVec.ofNat 52 m) := by
  have upper := h.greatest
  have biased : (e + Format.binary64.exponentBias + Format.binary64.mantissaBitsWithoutImplicit) =
      e + 1075 := by
    change e + 1023 + 52 = e + 1075
    omega
  have finite : ¬2 ^ Format.binary64.exponentBits ≤ (e + 1075).toNat + 1 := by
    change ¬2048 ≤ (e + 1075).toNat + 1
    omega
  unfold UnpackedFloat.pack
  dsimp only
  rw [biased, if_neg finite, if_pos (by rw [h.log2_eq]; rfl)]

theorem unpackSign_positive (x : BitVec 11) (y : BitVec 52) :
    @unpackSign Format.binary64 (packComponents Format.binary64 .positive x y) = 0#1 := by
  change (0#1 ++ x ++ y).extractLsb' 63 1 = 0#1
  rw [BitVec.extractLsb'_append_eq_of_le (by decide),
    BitVec.extractLsb'_append_eq_of_le (by decide)]
  rfl

theorem finite_congr {s : Sign} {m n : Nat} {e f : Int} {hm : 0 < m} {hn : 0 < n} (hmn : m = n)
    (hef : e = f) : UnpackedFloat.finite s m e hm = .finite s n f hn := by
  subst hmn hef
  rfl

theorem leading_toNat (y : BitVec 52) : (1#1 ++ y).toNat = 2 ^ 52 + y.toNat := by
  rw [BitVec.toNat_append, ← Nat.shiftLeft_add_eq_or_of_lt y.isLt]
  rfl

/-- Neither the greatest exponent, which infinities have, nor the least, which zero has. -/
theorem unpack_normal {x : BitVec 11} (finite : x ≠ -1#11) (normal : x ≠ 0#11) (y : BitVec 52) :
    UnpackedFloat.unpack Format.binary64 (packComponents Format.binary64 .positive x y) =
      .finite .positive (2 ^ 52 + y.toNat) ((x.toNat : Int) - 1075)
        (Nat.add_pos_left (Nat.two_pow_pos 52) _) := by
  have mantissa := leading_toNat y
  unfold UnpackedFloat.unpack
  dsimp only
  rw [unpackExponent_packComponents, if_neg finite, if_neg normal, unpackSign_positive]
  refine finite_congr ?_ rfl
  rw [unpackMantissa_packComponents]
  exact mantissa

theorem exponent_toNat {e : Int} (least : -1074 ≤ e) (greatest : e ≤ 971) :
    (BitVec.ofNat 11 (e + 1075).toNat).toNat = (e + 1075).toNat := by
  rw [BitVec.toNat_ofNat]
  omega

theorem Normal.unpack_pack {m : Nat} {e : Int} (h : Normal m e) :
    UnpackedFloat.unpack Format.binary64
      (UnpackedFloat.pack Format.binary64 (.finite .positive m e h.pos)) =
        .finite .positive m e h.pos := by
  have lower := h.lower
  have upper := h.upper
  have least := h.least
  have greatest := h.greatest
  have exponent := exponent_toNat least greatest
  have finite : BitVec.ofNat 11 (e + 1075).toNat ≠ -1#11 := by
    intro he
    rw [he] at exponent
    have all : (-1#11).toNat = 2047 := by decide
    omega
  have normal : BitVec.ofNat 11 (e + 1075).toNat ≠ 0#11 := by
    intro he
    rw [he] at exponent
    have none : (0#11).toNat = 0 := rfl
    omega
  rw [h.pack, unpack_normal finite normal]
  refine finite_congr ?_ ?_
  · rw [BitVec.toNat_ofNat]
    omega
  · rw [exponent]
    omega

theorem packed_toNat (x : BitVec 11) (y : BitVec 52) :
    (packComponents Format.binary64 .positive x y).toNat = x.toNat * 2 ^ 52 + y.toNat := by
  have sign : (0#1 ++ x).toNat = x.toNat := by
    rw [BitVec.toNat_append, ← Nat.shiftLeft_add_eq_or_of_lt x.isLt]
    exact Nat.zero_add _
  change (0#1 ++ x ++ y).toNat = _
  rw [BitVec.toNat_append, ← Nat.shiftLeft_add_eq_or_of_lt y.isLt, sign, Nat.shiftLeft_eq]

theorem Normal.parts {m : Nat} {e : Int} (h : Normal m e) :
    Number.parts (.ofModel (.pack (.finite .positive m e h.pos))) = .finite false m e := by
  have lower := h.lower
  have upper := h.upper
  have least := h.least
  have greatest := h.greatest
  have bits : (Float.ofModel (.pack (.finite .positive m e h.pos))).toBits.toNat =
      (e + 1075).toNat * 2 ^ 52 + (m - 2 ^ 52) := by
    change (UnpackedFloat.pack Format.binary64 (.finite .positive m e h.pos)).toNat = _
    rw [h.pack, packed_toNat, exponent_toNat least greatest, BitVec.toNat_ofNat]
    omega
  rw [Number.parts, bits]
  simp only [Parts.ofBits, Nat.pow_eq]
  have negative : (((e + 1075).toNat * 2 ^ 52 + (m - 2 ^ 52)) / 2 ^ 63 % 2 == 1) = false := by
    rw [beq_eq_false_iff_ne]
    omega
  have exponent : ((e + 1075).toNat * 2 ^ 52 + (m - 2 ^ 52)) / 2 ^ 52 % 2 ^ 11 =
      (e + 1075).toNat := by omega
  have fraction : ((e + 1075).toNat * 2 ^ 52 + (m - 2 ^ 52)) % 2 ^ 52 = m - 2 ^ 52 := by omega
  have mantissa : m - 2 ^ 52 + 2 ^ 52 = m := by omega
  have power : ((e + 1075).toNat : Int) - 1075 = e := by omega
  rw [negative, exponent, fraction, if_neg (by omega), if_neg (by omega), mantissa, power]

section Whole

variable {n : Nat}

/-- The mantissa of a whole number, moved to the left until it has 53 bits. -/
def mantissaOf (n : Nat) : Nat := n * 2 ^ (52 - n.log2)

def exponentOf (n : Nat) : Int := n.log2 - 52

theorem log2_le (hn : n < 2 ^ 53) : n.log2 ≤ 52 := by
  by_cases zero : n = 0
  · rw [zero]
    decide
  · exact Nat.le_of_lt_succ ((Nat.log2_lt zero).2 hn)

theorem normal_of_pos (hp : 0 < n) (hn : n < 2 ^ 53) : Normal (mantissaOf n) (exponentOf n) := by
  have log := log2_le hn
  obtain ⟨lower, upper⟩ := (Nat.log2_eq_iff (Nat.ne_of_gt hp)).1 (Eq.refl n.log2)
  refine ⟨?_, ?_, ?_, ?_⟩
  · have bound := Nat.mul_le_mul_right (2 ^ (52 - n.log2)) lower
    rwa [← Nat.pow_add, show n.log2 + (52 - n.log2) = 52 by omega] at bound
  · have bound := Nat.mul_lt_mul_of_pos_right upper (Nat.two_pow_pos (52 - n.log2))
    rwa [← Nat.pow_add, show n.log2 + 1 + (52 - n.log2) = 53 by omega] at bound
  · rw [exponentOf]
    omega
  · rw [exponentOf]
    omega

theorem target_whole (hp : 0 < n) (k : Nat) :
    Format.binary64.targetExponent (totalExponent (n * 2 ^ k) (-k)) = exponentOf n := by
  have target := targetExponent_mul_pow hp 0 k
  rw [Int.zero_sub] at target
  rw [target, exponentOf]
  omega

/-- A number that does not fill its 53 bits is moved to the left, and one that has more zeros behind
it than fit stays. -/
theorem decreaseExponent_target (hn : n < 2 ^ 53) (k : Nat) : ∃ j : Nat,
    decreaseExponent (n * 2 ^ k) (-k) (exponentOf n) =
      (mantissaOf n * 2 ^ j, exponentOf n - j) := by
  have log := log2_le hn
  simp only [decreaseExponent, Nat.shiftLeft_eq, exponentOf, mantissaOf]
  rcases Nat.le_total k (52 - n.log2) with left | right
  · have amount : (-(k : Int) - ((n.log2 : Int) - 52)).toNat = 52 - n.log2 - k := by omega
    refine ⟨0, Prod.ext ?_ ?_⟩
    · rw [amount, Nat.mul_assoc, ← Nat.pow_add, Nat.pow_zero, Nat.mul_one,
        show k + (52 - n.log2 - k) = 52 - n.log2 by omega]
    · rw [amount]
      omega
  · have amount : (-(k : Int) - ((n.log2 : Int) - 52)).toNat = 0 := by omega
    refine ⟨k - (52 - n.log2), Prod.ext ?_ ?_⟩
    · rw [amount, Nat.pow_zero, Nat.mul_one, Nat.mul_assoc, ← Nat.pow_add,
        show 52 - n.log2 + (k - (52 - n.log2)) = k by omega]
    · rw [amount]
      omega

/-- However far the number stands to the left, it is rounded to itself. -/
theorem round_whole (hp : 0 < n) (hn : n < 2 ^ 53) (k : Nat) :
    UnpackedFloat.round Format.binary64 .positive (n * 2 ^ k) (-k) =
      .finite .positive (mantissaOf n) (exponentOf n) (normal_of_pos hp hn).pos := by
  obtain ⟨j, moved⟩ := decreaseExponent_target hn k
  unfold UnpackedFloat.round
  dsimp only
  rw [target_whole hp, moved]
  exact (normal_of_pos hp hn).round .positive j

theorem mantissaOf_pos (hp : 0 < n) : 0 < mantissaOf n := Nat.mul_pos hp (Nat.two_pow_pos _)

/-- The whole number as the arithmetic of doubles has it. -/
def unpackedOf (n : Nat) : UnpackedFloat :=
  if hp : 0 < n then .finite .positive (mantissaOf n) (exponentOf n) (mantissaOf_pos hp)
  else .zero .positive

theorem unpackedOf_pos (hp : 0 < n) :
    unpackedOf n = .finite .positive (mantissaOf n) (exponentOf n) (mantissaOf_pos hp) :=
  dif_pos hp

theorem normalize_whole (hn : n < 2 ^ 53) (k : Nat) :
    UnpackedFloat.normalize Format.binary64 (n * 2 ^ k : Nat) (-k) .positive = unpackedOf n := by
  by_cases hp : 0 < n
  · have positive : compare ((n * 2 ^ k : Nat) : Int) 0 = .gt :=
      Int.compare_eq_gt.2 (by exact_mod_cast Nat.mul_pos hp (Nat.two_pow_pos k))
    unfold UnpackedFloat.normalize
    rw [positive, unpackedOf_pos hp]
    exact round_whole hp hn k
  · obtain rfl : n = 0 := Nat.eq_zero_of_not_pos hp
    rw [Nat.zero_mul]
    rfl

theorem unpack_pack_whole (hn : n < 2 ^ 53) :
    UnpackedFloat.unpack Format.binary64 (UnpackedFloat.pack Format.binary64 (unpackedOf n)) =
      unpackedOf n := by
  by_cases hp : 0 < n
  · rw [unpackedOf_pos hp]
    exact (normal_of_pos hp hn).unpack_pack
  · obtain rfl : n = 0 := Nat.eq_zero_of_not_pos hp
    rfl

theorem toFloat_whole (hn : n < 2 ^ 53) :
    n.toUInt64.toFloat = .ofModel (.pack (unpackedOf n)) := by
  have size : n.toUInt64.toNat = n := Nat.mod_eq_of_lt (by omega)
  have rounded := normalize_whole hn 0
  rw [Nat.pow_zero, Nat.mul_one, Int.natCast_zero, Int.neg_zero] at rounded
  change Float.ofModel (.pack
    (UnpackedFloat.normalize Format.binary64 (n.toUInt64.toNat : Int) 0 .positive)) = _
  rw [size, rounded]

/-- The number one, by which the library multiplies where the exponent of ten is zero. -/
theorem unpack_one : (Float.ofBits 0x3FF0000000000000).toModel.unpack =
    .finite .positive (2 ^ 52) (-52) (Nat.two_pow_pos 52) := by rfl

theorem mul_one (hn : n < 2 ^ 53) :
    UnpackedFloat.mul Format.binary64 (unpackedOf n)
      (.finite .positive (2 ^ 52) (-52) (Nat.two_pow_pos 52)) = unpackedOf n := by
  by_cases hp : 0 < n
  · rw [unpackedOf_pos hp]
    exact (normal_of_pos hp hn).round .positive 52
  · obtain rfl : n = 0 := Nat.eq_zero_of_not_pos hp
    rfl

/-- A number that needs no more than 53 bits becomes a double as it is. -/
theorem ofNat_eq (hn : n < 2 ^ 53) : Float.ofNat n = .ofModel (.pack (unpackedOf n)) := by
  have scaled : Float.ofNat n = n.toUInt64.toFloat * Float.ofBits 0x3FF0000000000000 := by
    change Float.ofScientific n false 0 = _
    unfold Float.ofScientific
    rw [dif_pos ⟨hn, Nat.zero_le 22⟩]
    rfl
  rw [scaled, toFloat_whole hn]
  change Float.ofModel (.pack (UnpackedFloat.mul Format.binary64
    (UnpackedFloat.unpack Format.binary64 (UnpackedFloat.pack Format.binary64 (unpackedOf n)))
    (Float.ofBits 0x3FF0000000000000).toModel.unpack)) = _
  rw [unpack_pack_whole hn, unpack_one, mul_one hn]

theorem unpack_ofNat (hn : n < 2 ^ 53) : (Float.ofNat n).toModel.unpack = unpackedOf n := by
  rw [ofNat_eq hn]
  exact unpack_pack_whole hn

/-- A mantissa moved on to an exponent at or below the least of two is the number moved there. -/
theorem decreaseExponent_whole (hn : n < 2 ^ 53) {k : Nat} (hk : -(k : Int) ≤ exponentOf n) :
    (decreaseExponent (mantissaOf n) (exponentOf n) (-k)).1 = n * 2 ^ k := by
  have log := log2_le hn
  rw [exponentOf] at hk
  have amount : (exponentOf n - -(k : Int)).toNat = k - (52 - n.log2) := by
    rw [exponentOf]
    omega
  have together : 52 - n.log2 + (k - (52 - n.log2)) = k := by omega
  simp only [decreaseExponent]
  rw [amount, Nat.shiftLeft_eq, mantissaOf, Nat.mul_assoc, ← Nat.pow_add, together]

theorem add_whole {m n : Nat} (h : m + n < 2 ^ 53) :
    UnpackedFloat.add Format.binary64 (unpackedOf m) (unpackedOf n) = unpackedOf (m + n) := by
  by_cases hm : 0 < m
  · by_cases hn : 0 < n
    · have low : min (exponentOf m) (exponentOf n) ≤ 0 := by
        have := log2_le (show m < 2 ^ 53 by omega)
        rw [exponentOf, exponentOf]
        omega
      obtain ⟨k, hk⟩ : ∃ k : Nat, min (exponentOf m) (exponentOf n) = -k :=
        ⟨(-min (exponentOf m) (exponentOf n)).toNat, by omega⟩
      have first := decreaseExponent_whole (show m < 2 ^ 53 by omega)
        (show -(k : Int) ≤ exponentOf m by omega)
      have second := decreaseExponent_whole (show n < 2 ^ 53 by omega)
        (show -(k : Int) ≤ exponentOf n by omega)
      have sum : ((m * 2 ^ k : Nat) : Int) + ((n * 2 ^ k : Nat) : Int) =
          ((m + n) * 2 ^ k : Nat) := by
        rw [Nat.add_mul]
        rfl
      rw [← normalize_whole h k, ← sum, unpackedOf_pos hm, unpackedOf_pos hn, ← first, ← second,
        ← hk]
      rfl
    · obtain rfl : n = 0 := Nat.eq_zero_of_not_pos hn
      rw [unpackedOf_pos hm, Nat.add_zero, unpackedOf_pos hm]
      rfl
  · obtain rfl : m = 0 := Nat.eq_zero_of_not_pos hm
    rw [Nat.zero_add]
    by_cases hn : 0 < n
    · rw [unpackedOf_pos hn]
      rfl
    · obtain rfl : n = 0 := Nat.eq_zero_of_not_pos hn
      rfl

theorem ofNat_add {m n : Nat} (h : m + n < 2 ^ 53) :
    Float.ofNat m + Float.ofNat n = Float.ofNat (m + n) := by
  change Float.ofModel (.pack (UnpackedFloat.add Format.binary64 (Float.ofNat m).toModel.unpack
    (Float.ofNat n).toModel.unpack)) = _
  rw [unpack_ofNat (by omega), unpack_ofNat (by omega), add_whole h, ofNat_eq h]

theorem parts_ofNat (hp : 0 < n) (hn : n < 2 ^ 53) :
    parts (Float.ofNat n) = .finite false (mantissaOf n) (exponentOf n) := by
  rw [ofNat_eq hn, unpackedOf_pos hp]
  exact (normal_of_pos hp hn).parts

theorem toInt?_ofNat (hn : n < 2 ^ 53) : toInt? (Float.ofNat n) = some (n : Int) := by
  by_cases hp : 0 < n
  · have log := log2_le hn
    have whole : wholePart (mantissaOf n) (exponentOf n) = n := by
      rw [wholePart, shiftTo, mantissaOf, exponentOf]
      by_cases full : (0 : Int) ≤ n.log2 - 52
      · rw [if_pos full, show 52 - n.log2 = 0 by omega, Nat.shiftLeft_eq,
          show (((n.log2 : Int) - 52) - 0).toNat = 0 by omega]
        simp
      · rw [if_neg full, show (0 - ((n.log2 : Int) - 52)).toNat = 52 - n.log2 by omega,
          Nat.shiftRight_eq_div_pow, Nat.mul_div_cancel _ (Nat.two_pow_pos _)]
    rw [toInt?, parts_ofNat hp hn]
    simp only [whole]
    rfl
  · obtain rfl : n = 0 := Nat.eq_zero_of_not_pos hp
    rw [ofNat_eq hn]
    decide

end Whole

/-- The bits of a negative number are those of the positive one behind the sign. -/
theorem packComponents_negative (x : BitVec 11) (y : BitVec 52) :
    (packComponents Format.binary64 .negative x y).toNat =
      2 ^ 63 + (packComponents Format.binary64 .positive x y).toNat := by
  have sign : (1#1 ++ x).toNat = 2 ^ 11 + x.toNat := by
    rw [BitVec.toNat_append, ← Nat.shiftLeft_add_eq_or_of_lt x.isLt]
    rfl
  rw [packed_toNat]
  change (1#1 ++ x ++ y).toNat = _
  rw [BitVec.toNat_append, ← Nat.shiftLeft_add_eq_or_of_lt y.isLt, sign, Nat.shiftLeft_eq]
  omega

theorem pack_negative {m : Nat} {e : Int} (hm : 0 < m) :
    (UnpackedFloat.pack Format.binary64 (.finite .negative m e hm)).toNat =
      2 ^ 63 + (UnpackedFloat.pack Format.binary64 (.finite .positive m e hm)).toNat := by
  unfold UnpackedFloat.pack
  dsimp only
  split
  · exact packComponents_negative _ _
  · split <;> exact packComponents_negative _ _

theorem Parts.ofBits_negative {bits m : Nat} {e : Int} (h : ofBits bits = .finite false m e)
    (hb : bits < 2 ^ 63) : ofBits (2 ^ 63 + bits) = .finite true m e := by
  have exponent : (2 ^ 63 + bits) / 2 ^ 52 % 2 ^ 11 = bits / 2 ^ 52 % 2 ^ 11 := by omega
  have fraction : (2 ^ 63 + bits) % 2 ^ 52 = bits % 2 ^ 52 := by omega
  have sign : (2 ^ 63 + bits) / 2 ^ 63 % 2 = 1 := by omega
  simp only [ofBits, Nat.pow_eq, exponent, fraction, sign] at h ⊢
  split at h
  · split at h <;> cases h
  next finite =>
    rw [if_neg finite]
    split at h
    next least =>
      obtain ⟨-, rfl, rfl⟩ := Parts.finite.inj h
      rw [if_pos least]
      rfl
    next normal =>
      obtain ⟨-, rfl, rfl⟩ := Parts.finite.inj h
      rw [if_neg normal]
      rfl

/-- The sign alone makes the difference between a number and its negative. -/
theorem parts_neg_ofNat {n : Nat} (hp : 0 < n) (hn : n < 2 ^ 53) :
    parts (-Float.ofNat n) = .finite true (mantissaOf n) (exponentOf n) := by
  have positive := parts_ofNat hp hn
  have negated : (-Float.ofNat n).toBits.toNat = 2 ^ 63 + (Float.ofNat n).toBits.toNat := by
    change (UnpackedFloat.pack Format.binary64 (Float.ofNat n).toModel.unpack.neg).toNat = _
    rw [unpack_ofNat hn, ofNat_eq hn, unpackedOf_pos hp]
    exact pack_negative (mantissaOf_pos hp)
  have bound := (-Float.ofNat n).toBits.toNat_lt
  rw [parts, negated]
  exact Parts.ofBits_negative positive (by omega)

/-- A whole number that 53 bits can count to, of either sign, is found again in its double. -/
theorem toInt?_ofInt {n : Int} (hn : n.natAbs ≤ 2 ^ 53) : toInt? (Float.ofInt n) = some n := by
  rcases Nat.lt_or_eq_of_le hn with less | full
  · cases n with
    | ofNat n => exact toInt?_ofNat less
    | negSucc n =>
        have read := toInt?_ofNat (n := n + 1) less
        rw [toInt?, parts_ofNat (Nat.succ_pos n) less] at read
        change toInt? (-Float.ofNat (n + 1)) = _
        rw [toInt?, parts_neg_ofNat (Nat.succ_pos n) less]
        exact congrArg (Option.map Neg.neg) read
  · rcases Int.natAbs_eq n with positive | negative
    · rw [positive, full]
      decide
    · rw [negative, full]
      decide

end Template.Number
