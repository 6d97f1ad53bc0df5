import Mathlib.Tactic.Ring
import Mathlib.Tactic.NormNum
import Mathlib.Data.List.Basic

/-!
Little-endian numbers of a fixed width in byte strings, and streams of byte
strings that are each preceded by their length.
-/
namespace FFWebHid.LittleEndian

/-- The `width` lowest bytes of a number, the lowest first. -/
def toLe : Nat → Nat → List UInt8
  | 0, _ => []
  | width + 1, n => UInt8.ofNat n :: toLe width (n / 256)

/-- The number that a byte string stands for, lowest byte first. -/
def ofLe : List UInt8 → Nat
  | [] => 0
  | byte :: rest => byte.toNat + 256 * ofLe rest

@[simp] theorem length_toLe (width n : Nat) : (toLe width n).length = width := by
  induction width generalizing n with
  | zero => rfl
  | succ width ih => rw [toLe,List.length_cons,ih]

/-- A number is read back up to the width it was written with. -/
theorem ofLe_toLe (width n : Nat) : ofLe (toLe width n) = n % 256 ^ width := by
  induction width generalizing n with
  | zero => simp [toLe,ofLe,Nat.mod_one]
  | succ width ih =>
    have byte : (UInt8.ofNat n).toNat = n % 256 := by simp
    rw [toLe,ofLe,ih,byte,pow_succ',Nat.mod_mul]

theorem ofLe_toLe_of_lt {width n : Nat} (fits : n < 256 ^ width) : ofLe (toLe width n) = n := by
  rw [ofLe_toLe,Nat.mod_eq_of_lt fits]

theorem ofLe_lt (bytes : List UInt8) : ofLe bytes < 256 ^ bytes.length := by
  induction bytes with
  | nil => simp [ofLe]
  | cons byte rest ih =>
    have small := byte.toNat_lt
    rw [ofLe,List.length_cons,pow_succ]
    omega

/-- The number in `width` bytes from a position on. -/
def fieldAt (bytes : List UInt8) (start width : Nat) : Nat := ofLe ((bytes.drop start).take width)

theorem fieldAt_lt (bytes : List UInt8) (start width : Nat) : fieldAt bytes start width < 256 ^ width := by
  have bound := ofLe_lt ((bytes.drop start).take width)
  have short : ((bytes.drop start).take width).length ≤ width := by simp
  exact Nat.lt_of_lt_of_le bound (Nat.pow_le_pow_right (by decide) short)

theorem fieldAt_append (before bytes after : List UInt8) :
    fieldAt (before ++ (bytes ++ after)) before.length bytes.length = ofLe bytes := by
  simp [fieldAt]

/-- Split off the first `n` bytes, if there are as many. -/
def readExact (n : Nat) (input : List UInt8) : Option (List UInt8 × List UInt8) :=
  if n ≤ input.length then some (input.take n,input.drop n) else none

theorem readExact_append (bytes rest : List UInt8) : readExact bytes.length (bytes ++ rest) = some (bytes,rest) := by
  simp [readExact]

theorem readExact_shorter {n : Nat} {input bytes rest : List UInt8} (read : readExact n input = some (bytes,rest)) :
    rest.length + n = input.length := by
  unfold readExact at read
  split at read
  · rename_i long
    obtain ⟨-,rfl⟩ := Prod.mk.inj (Option.some.inj read)
    rw [List.length_drop]
    omega
  · cases read

/-- Split off a number of `width` bytes. -/
def readLe (width : Nat) (input : List UInt8) : Option (Nat × List UInt8) :=
  (readExact width input).map fun (bytes,rest) => (ofLe bytes,rest)

theorem readLe_shorter {width n : Nat} {input rest : List UInt8} (read : readLe width input = some (n,rest)) :
    rest.length + width = input.length := by
  obtain ⟨⟨bytes,left⟩,split,same⟩ := Option.map_eq_some_iff.mp read
  obtain ⟨-,rfl⟩ := Prod.mk.inj same
  exact readExact_shorter split

theorem readLe_append {width n : Nat} (fits : n < 256 ^ width) (rest : List UInt8) :
    readLe width (toLe width n ++ rest) = some (n,rest) := by
  have split := readExact_append (toLe width n) rest
  rw [length_toLe] at split
  simp only [readLe,split,Option.map_some,ofLe_toLe_of_lt fits]

/-! ### Streams of byte strings -/

/-- A byte string after its length. -/
def prefixed (width : Nat) (body : List UInt8) : List UInt8 := toLe width body.length ++ body

/-- One after another, each after its length. -/
def stream (width : Nat) (bodies : List (List UInt8)) : List UInt8 := bodies.flatMap (prefixed width)

theorem stream_cons (width : Nat) (body : List UInt8) (rest : List (List UInt8)) :
    stream width (body :: rest) = toLe width body.length ++ (body ++ stream width rest) := by
  rw [stream,List.flatMap_cons,prefixed,List.append_assoc,stream]

theorem readLe_stream {width : Nat} {body : List UInt8} (fits : body.length < 256 ^ width)
    (rest : List (List UInt8)) (tail : List UInt8) :
    readLe width (stream width (body :: rest) ++ tail) = some (body.length,body ++ (stream width rest ++ tail)) := by
  rw [stream_cons,List.append_assoc,List.append_assoc]
  exact readLe_append fits _

end FFWebHid.LittleEndian
