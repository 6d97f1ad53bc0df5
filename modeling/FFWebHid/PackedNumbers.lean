import Mathlib.Tactic.Ring
import Mathlib.Data.List.Basic
import FFWebHid.LittleEndian

/-!
Numbers packed into bytes: in groups of seven bits, as two's complement of a
fixed width, and as one bit for each of a list of flags.
-/
namespace FFWebHid.PackedNumbers

/-- The lowest group first; every byte but the last has its highest bit set. -/
def writeVarint (value : Nat) : List UInt8 :=
  if value / 128 ≠ 0 then UInt8.ofNat (value % 128 + 128) :: writeVarint (value / 128)
  else [UInt8.ofNat (value % 128)]
termination_by value
decreasing_by omega

/-- Groups are added to a number of 32 bits, with shifts modulo 32. -/
def readGroups (result shift : Nat) : List UInt8 → Option (Nat × List UInt8)
  | [] => none
  | byte :: rest =>
    let result := (result ||| (byte.toNat % 128) <<< (shift % 32)) % 2 ^ 32
    if byte.toNat < 128 then some (result,rest) else readGroups result (shift + 7) rest

def readVarint (bytes : List UInt8) : Option (Nat × List UInt8) := readGroups 0 0 bytes

theorem readGroups_shorter {bytes rest : List UInt8} {result shift value : Nat}
    (read : readGroups result shift bytes = some (value,rest)) : rest.length < bytes.length := by
  induction bytes generalizing result shift with
  | nil => cases read
  | cons byte tail ih =>
    rw [readGroups] at read
    split at read
    · cases read
      exact Nat.lt_succ_self _
    · exact Nat.lt_succ_of_lt (ih read)

theorem readVarint_shorter {bytes rest : List UInt8} {value : Nat} (read : readVarint bytes = some (value,rest)) :
    rest.length < bytes.length := readGroups_shorter read

/-- A group above the bits that are there is added to them. -/
theorem or_group {result shift group : Nat} (below : result < 2 ^ shift) :
    result ||| group <<< shift = result + group * 2 ^ shift := by
  rw [Nat.or_comm,← Nat.shiftLeft_add_eq_or_of_lt below,Nat.shiftLeft_eq,Nat.add_comm]

theorem readGroups_writeVarint {value result shift : Nat} (below : result < 2 ^ shift)
    (fits : result + value * 2 ^ shift < 2 ^ 32) (small : shift < 32) (rest : List UInt8) :
    readGroups result shift (writeVarint value ++ rest) = some (result + value * 2 ^ shift,rest) := by
  induction value using Nat.strongRecOn generalizing result shift with
  | ind value ih =>
    have group : value * 2 ^ shift = value % 128 * 2 ^ shift + value / 128 * (128 * 2 ^ shift) := by
      rw [← Nat.mul_assoc,← Nat.add_mul]
      congr 1
      omega
    have pos : 0 < 2 ^ shift := Nat.two_pow_pos shift
    rw [writeVarint]
    split
    · rename_i more
      have byte : (UInt8.ofNat (value % 128 + 128)).toNat = value % 128 + 128 := by
        rw [UInt8.toNat_ofNat']
        omega
      have some : 128 * 2 ^ shift ≤ value / 128 * (128 * 2 ^ shift) := Nat.le_mul_of_pos_left _ (Nat.pos_of_ne_zero more)
      have next : 2 ^ (shift + 7) = 128 * 2 ^ shift := by ring
      have taken : (result ||| (value % 128) <<< shift) % 2 ^ 32 = result + value % 128 * 2 ^ shift := by
        rw [or_group below]
        exact Nat.mod_eq_of_lt (by omega)
      have shorter : shift + 7 < 32 := by
        have short : 2 ^ (shift + 7) < 2 ^ 32 := by omega
        exact (Nat.pow_lt_pow_iff_right (by decide)).mp short
      rw [List.cons_append,readGroups]
      simp only [byte,Nat.mod_eq_of_lt small]
      rw [if_neg (by omega),show (value % 128 + 128) % 128 = value % 128 by omega,taken,
        ih (value / 128) (by omega) ?_ ?_ shorter,next,group,Nat.add_assoc]
      · rw [next]
        have bits : value % 128 * 2 ^ shift ≤ 127 * 2 ^ shift := Nat.mul_le_mul_right _ (by omega)
        omega
      · rw [next]
        omega
    · rename_i last
      have byte : (UInt8.ofNat (value % 128)).toNat = value % 128 := by
        rw [UInt8.toNat_ofNat']
        omega
      have whole : value % 128 = value := by omega
      rw [List.singleton_append,readGroups]
      simp only [byte,Nat.mod_eq_of_lt small]
      rw [if_pos (by omega),show value % 128 % 128 = value by omega,or_group below,Nat.mod_eq_of_lt fits]

/-- A number of 32 bits is read back. -/
theorem readVarint_writeVarint {value : Nat} (fits : value < 2 ^ 32) (rest : List UInt8) :
    readVarint (writeVarint value ++ rest) = some (value,rest) := by
  have read := @readGroups_writeVarint value 0 0 (by decide) (by omega) (by decide) rest
  rwa [Nat.zero_add,Nat.pow_zero,Nat.mul_one] at read

/-! ### Two's complement -/

/-- The lowest bits of a signed number. -/
def ofSigned (width : Nat) (value : Int) : Nat := (value % 2 ^ width).toNat

/-- The signed number with these bits. -/
def toSigned (width n : Nat) : Int := if 2 * n < 2 ^ width then n else (n : Int) - 2 ^ width

/-- The signed numbers of a width. -/
def InRange (width : Nat) (value : Int) : Prop := -2 ^ width ≤ 2 * value ∧ 2 * value < 2 ^ width

instance (width : Nat) (value : Int) : Decidable (InRange width value) := by
  unfold InRange
  infer_instance

/-- A signed number survives just when it is of the width. -/
theorem toSigned_ofSigned_iff (width : Nat) (value : Int) :
    toSigned width (ofSigned width value) = value ↔ InRange width value := by
  unfold toSigned ofSigned InRange
  have pos : (0 : Int) < 2 ^ width := by positivity
  have natural : ((value % 2 ^ width).toNat : Int) = value % 2 ^ width :=
    Int.toNat_of_nonneg (Int.emod_nonneg value (ne_of_gt pos))
  have small := Int.emod_lt_of_pos value pos
  have same : 2 * (value % 2 ^ width).toNat < 2 ^ width ↔ 2 * (value % 2 ^ width) < 2 ^ width := by
    rw [← natural]
    norm_cast
  simp only [same,natural]
  have low (within : 0 ≤ value ∧ value < 2 ^ width) : value % 2 ^ width = value :=
    Int.emod_eq_of_lt within.1 within.2
  have high (within : -2 ^ width ≤ value ∧ value < 0) : value % 2 ^ width = value + 2 ^ width := by
    rw [← Int.add_emod_right]
    exact Int.emod_eq_of_lt (by omega) (by omega)
  have nonneg := Int.emod_nonneg value (ne_of_gt pos)
  generalize (2 : Int) ^ width = bound at *
  split <;> omega

theorem ofSigned_lt (width : Nat) (value : Int) : ofSigned width value < 2 ^ width := by
  have pos : (0 : Int) < 2 ^ width := by positivity
  have small := Int.emod_lt_of_pos value pos
  have natural := Int.toNat_of_nonneg (Int.emod_nonneg value (ne_of_gt pos))
  unfold ofSigned
  have cast : (((value % 2 ^ width).toNat : Nat) : Int) < ((2 ^ width : Nat) : Int) := by
    rw [natural]
    exact_mod_cast small
  exact_mod_cast cast

/-- The number with a bit for each flag, the first one lowest. -/
def flagsOf (bits : List Bool) : Nat :=
  bits.zipIdx.foldl (fun flags (set,i) => if set then flags ||| 1 <<< i else flags) 0

theorem testBit_foldl (bits : List Bool) (start flags i : Nat) :
    ((bits.zipIdx start).foldl (fun flags (set,i) => if set then flags ||| 1 <<< i else flags) flags).testBit i
      = (flags.testBit i || (decide (start ≤ i) && bits.getD (i - start) false)) := by
  induction bits generalizing start flags with
  | nil => simp
  | cons set rest ih =>
    rw [List.zipIdx_cons,List.foldl_cons,ih]
    have head : (if set then flags ||| 1 <<< start else flags).testBit i
        = (flags.testBit i || (decide (start = i) && set)) := by
      cases set
      · simp
      · simp [Nat.one_shiftLeft,Nat.testBit_two_pow]
    simp only [head]
    rcases Nat.lt_trichotomy start i with before | rfl | after
    · have next : i - start = i - (start + 1) + 1 := by omega
      simp [next,show start + 1 ≤ i by omega,Nat.le_of_lt before,Nat.ne_of_lt before]
    · simp
    · simp [Nat.not_le.mpr after,Nat.ne_of_gt after,show ¬ start + 1 ≤ i by omega]

theorem testBit_flagsOf (bits : List Bool) (i : Nat) : (flagsOf bits).testBit i = bits.getD i false := by
  have bit := testBit_foldl bits 0 0 i
  simpa [flagsOf] using bit

theorem flagsOf_lt (bits : List Bool) : flagsOf bits < 2 ^ bits.length := by
  refine Nat.lt_pow_two_of_testBit _ fun i beyond => ?_
  rw [testBit_flagsOf,List.getD_eq_getElem?_getD,List.getElem?_eq_none beyond]
  rfl

end FFWebHid.PackedNumbers
