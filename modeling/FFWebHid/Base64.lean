import Mathlib.Data.List.Basic

/-!
Bytes as text in base64: three bytes as four characters of six bits, and the
last group filled up with equals signs.
-/
namespace FFWebHid.Base64

def alphabet : List Char := "ABCDEFGHIJKLMNOPQRSTUVWXYZabcdefghijklmnopqrstuvwxyz0123456789+/".toList

/-- The character of six bits. -/
def character (n : Nat) : Char := alphabet.getD n '='

/-- The six bits of a character of the alphabet. -/
def bits (c : Char) : Option Nat := alphabet.findIdx? (· == c)

def encodeChars : List UInt8 → List Char
  | [] => []
  | [a] => [character (a.toNat / 4),character (a.toNat % 4 * 16),'=','=']
  | [a,b] =>
    [character (a.toNat / 4),character (a.toNat % 4 * 16 + b.toNat / 16),character (b.toNat % 16 * 4),'=']
  | a :: b :: c :: rest =>
    character (a.toNat / 4) :: character (a.toNat % 4 * 16 + b.toNat / 16) ::
      character (b.toNat % 16 * 4 + c.toNat / 64) :: character (c.toNat % 64) :: encodeChars rest

/-- Equals signs stand only at the end, and the bits that they cut off are zero. -/
def decodeChars : List Char → Option (List UInt8)
  | [] => some []
  | w :: x :: y :: z :: rest => do
    let p ← bits w
    let q ← bits x
    let first := UInt8.ofNat (p * 4 + q / 16)
    if y = '=' then
      if z = '=' ∧ rest = [] ∧ q % 16 = 0 then return [first] else none
    let r ← bits y
    let second := UInt8.ofNat (q % 16 * 16 + r / 4)
    if z = '=' then
      if rest = [] ∧ r % 4 = 0 then return [first,second] else none
    let s ← bits z
    let rest ← decodeChars rest
    return first :: second :: UInt8.ofNat (r % 4 * 64 + s) :: rest
  | _ => none

theorem bits_character {n : Nat} (six : n < 64) : bits (character n) = some n := by
  have all : ∀ n < 64, bits (character n) = some n := by decide +kernel
  exact all n six

theorem character_ne {n : Nat} (six : n < 64) : character n ≠ '=' := by
  have all : ∀ n < 64, character n ≠ '=' := by decide +kernel
  exact all n six

/-- Text that was made of bytes gives them back. -/
theorem decodeChars_encodeChars (bytes : List UInt8) : decodeChars (encodeChars bytes) = some bytes := by
  have byte {n : Nat} {b : UInt8} (same : n = b.toNat) : UInt8.ofNat n = b := by rw [same,UInt8.ofNat_toNat]
  induction bytes using encodeChars.induct with
  | case1 => rfl
  | case2 a =>
    have wide := a.toNat_lt
    have first := byte (show a.toNat / 4 * 4 + a.toNat % 4 * 16 / 16 = a.toNat by omega)
    have zero : a.toNat % 4 * 16 % 16 = 0 := by omega
    simp only [encodeChars,decodeChars,bits_character (show a.toNat / 4 < 64 by omega),
      bits_character (show a.toNat % 4 * 16 < 64 by omega),Option.bind_eq_bind,Option.bind_some,if_true,zero,and_self,
      first,pure]
  | case3 a b =>
    have wideA := a.toNat_lt
    have wideB := b.toNat_lt
    have p : a.toNat / 4 < 64 := by omega
    have q : a.toNat % 4 * 16 + b.toNat / 16 < 64 := by omega
    have r : b.toNat % 16 * 4 < 64 := by omega
    have first := byte (show a.toNat / 4 * 4 + (a.toNat % 4 * 16 + b.toNat / 16) / 16 = a.toNat by omega)
    have second := byte (show (a.toNat % 4 * 16 + b.toNat / 16) % 16 * 16 + b.toNat % 16 * 4 / 4 = b.toNat by omega)
    have zero : b.toNat % 16 * 4 % 4 = 0 := by omega
    simp only [encodeChars,decodeChars,bits_character p,bits_character q,bits_character r,if_neg (character_ne r),
      Option.bind_eq_bind,Option.bind_some,if_true,zero,and_self,first,second,pure]
  | case4 a b c rest ih =>
    have wideA := a.toNat_lt
    have wideB := b.toNat_lt
    have wideC := c.toNat_lt
    have p : a.toNat / 4 < 64 := by omega
    have q : a.toNat % 4 * 16 + b.toNat / 16 < 64 := by omega
    have r : b.toNat % 16 * 4 + c.toNat / 64 < 64 := by omega
    have s : c.toNat % 64 < 64 := by omega
    have first := byte (show a.toNat / 4 * 4 + (a.toNat % 4 * 16 + b.toNat / 16) / 16 = a.toNat by omega)
    have second := byte (show (a.toNat % 4 * 16 + b.toNat / 16) % 16 * 16 + (b.toNat % 16 * 4 + c.toNat / 64) / 4
      = b.toNat by omega)
    have third := byte (show (b.toNat % 16 * 4 + c.toNat / 64) % 4 * 64 + c.toNat % 64 = c.toNat by omega)
    simp only [encodeChars,decodeChars,bits_character p,bits_character q,bits_character r,bits_character s,
      if_neg (character_ne r),if_neg (character_ne s),Option.bind_eq_bind,Option.bind_some,ih,first,second,third,pure]

theorem character_mem {n : Nat} (six : n < 64) : character n ∈ alphabet := by
  have all : ∀ n < 64, character n ∈ alphabet := by decide +kernel
  exact all n six

/-- Characters of the alphabet, and at most two equals signs behind them. -/
theorem encodeChars_filled (bytes : List UInt8) :
    ∃ front : List Char, ∃ count ≤ 2, encodeChars bytes = front ++ List.replicate count '=' ∧
      (∀ c ∈ front, c ∈ alphabet) ∧ (bytes ≠ [] → front ≠ []) := by
  induction bytes using encodeChars.induct with
  | case1 => exact ⟨[],0,by omega,rfl,by simp,by simp⟩
  | case2 a =>
    have wide := a.toNat_lt
    refine ⟨[_,_],2,by omega,rfl,?_,by simp⟩
    simp [character_mem (show a.toNat / 4 < 64 by omega),character_mem (show a.toNat % 4 * 16 < 64 by omega)]
  | case3 a b =>
    have wide := a.toNat_lt
    have wide' := b.toNat_lt
    refine ⟨[_,_,_],1,by omega,rfl,?_,by simp⟩
    simp [character_mem (show a.toNat / 4 < 64 by omega),
      character_mem (show a.toNat % 4 * 16 + b.toNat / 16 < 64 by omega),
      character_mem (show b.toNat % 16 * 4 < 64 by omega)]
  | case4 a b c rest ih =>
    have wide := a.toNat_lt
    have wide' := b.toNat_lt
    have wide'' := c.toNat_lt
    obtain ⟨front,count,few,split,inside,-⟩ := ih
    let group := [character (a.toNat / 4),character (a.toNat % 4 * 16 + b.toNat / 16),
      character (b.toNat % 16 * 4 + c.toNat / 64),character (c.toNat % 64)]
    have known : ∀ d ∈ group, d ∈ alphabet := by
      simp only [group,List.mem_cons,List.not_mem_nil,or_false]
      rintro d (rfl | rfl | rfl | rfl)
      all_goals exact character_mem (by omega)
    refine ⟨group ++ front,count,few,?_,?_,by simp [group]⟩
    · rw [List.append_assoc,← split]
      rfl
    · intro d among
      exact (List.mem_append.mp among).elim (known d) (inside d)

theorem mem_encodeChars {bytes : List UInt8} {c : Char} (inside : c ∈ encodeChars bytes) : c ∈ alphabet ∨ c = '=' := by
  obtain ⟨front,count,-,split,among,-⟩ := encodeChars_filled bytes
  rw [split,List.mem_append] at inside
  exact inside.imp (among c) List.eq_of_mem_replicate

/-- The text of some bytes. -/
def encode (bytes : List UInt8) : String := String.ofList (encodeChars bytes)

def decode (text : String) : Option (List UInt8) := decodeChars text.toList

theorem decode_encode (bytes : List UInt8) : decode (encode bytes) = some bytes := by
  rw [decode,encode,String.toList_ofList,decodeChars_encodeChars]

/-! ### Forgiving decoding -/

/-- `TAB`, `LF`, `FF`, `CR` and the space. -/
def isSpace (c : Char) : Bool := c == ' ' || c == '\t' || c == '\n' || c == '\x0c' || c == '\r'

/-- The bytes of a last group of two or three characters; the bits that it cuts off may
    be any, and one character alone is no group. -/
def lastGroup : List Nat → Option (List UInt8)
  | [] => some []
  | [p,q] => some [UInt8.ofNat (p * 4 + q / 16)]
  | [p,q,r] => some [UInt8.ofNat (p * 4 + q / 16),UInt8.ofNat (q % 16 * 16 + r / 4)]
  | _ => none

/-- What may stand behind the first equals sign: a second one after two characters, and
    spaces. -/
def closes (group : List Nat) (rest : List Char) : Bool :=
  let marks := rest.filter fun c => !isSpace c
  if group.length = 2 then marks == ['='] else group.length == 3 && marks.isEmpty

/-- The decoder of `Uint8Array.fromBase64`, with the bits of the group that is open:
    spaces are skipped, and the equals signs at the end may be missing. -/
def fromChars : List Nat → List Char → Option (List UInt8)
  | group, [] => lastGroup group
  | group, c :: rest =>
    if isSpace c then fromChars group rest
    else if c = '=' then if closes group rest then lastGroup group else none
    else
      match bits c,group with
      | none,_ => none
      | some s,[p,q,r] => (fromChars [] rest).map fun bytes =>
        UInt8.ofNat (p * 4 + q / 16) :: UInt8.ofNat (q % 16 * 16 + r / 4) :: UInt8.ofNat (r % 4 * 64 + s) :: bytes
      | some s,group => fromChars (group ++ [s]) rest

def fromBase64 (text : String) : Option (List UInt8) := fromChars [] text.toList

theorem character_notSpace {n : Nat} (six : n < 64) : isSpace (character n) = false := by
  have all : ∀ n < 64, isSpace (character n) = false := by decide +kernel
  exact all n six

/-- A character that stands for six bits opens or extends a group. -/
theorem fromChars_character {n : Nat} (six : n < 64) {group : List Nat} (short : group.length < 3) (rest : List Char) :
    fromChars group (character n :: rest) = fromChars (group ++ [n]) rest := by
  conv_lhs => unfold fromChars
  rw [if_neg (by simp [character_notSpace six]),if_neg (character_ne six),bits_character six]
  match group,short with
  | [],_ => rfl
  | [_],_ => rfl
  | [_,_],_ => rfl

theorem fromChars_full {n : Nat} (six : n < 64) (p q r : Nat) (rest : List Char) :
    fromChars [p,q,r] (character n :: rest) = (fromChars [] rest).map fun bytes =>
      UInt8.ofNat (p * 4 + q / 16) :: UInt8.ofNat (q % 16 * 16 + r / 4) :: UInt8.ofNat (r % 4 * 64 + n) :: bytes := by
  conv_lhs => unfold fromChars
  rw [if_neg (by simp [character_notSpace six]),if_neg (character_ne six),bits_character six]

theorem fromChars_encodeChars (bytes : List UInt8) : fromChars [] (encodeChars bytes) = some bytes := by
  have byte {n : Nat} {b : UInt8} (same : n = b.toNat) : UInt8.ofNat n = b := by rw [same,UInt8.ofNat_toNat]
  induction bytes using encodeChars.induct with
  | case1 => rfl
  | case2 a =>
    have wide := a.toNat_lt
    rw [encodeChars,fromChars_character (by omega) (by simp),fromChars_character (by omega) (by simp)]
    show some [UInt8.ofNat (a.toNat / 4 * 4 + a.toNat % 4 * 16 / 16)] = some [a]
    rw [byte (show a.toNat / 4 * 4 + a.toNat % 4 * 16 / 16 = a.toNat by omega)]
  | case3 a b =>
    have wide := a.toNat_lt
    have wide' := b.toNat_lt
    rw [encodeChars,fromChars_character (by omega) (by simp),fromChars_character (by omega) (by simp),
      fromChars_character (by omega) (by simp)]
    show some [UInt8.ofNat (a.toNat / 4 * 4 + (a.toNat % 4 * 16 + b.toNat / 16) / 16),
      UInt8.ofNat ((a.toNat % 4 * 16 + b.toNat / 16) % 16 * 16 + b.toNat % 16 * 4 / 4)] = some [a,b]
    rw [byte (show a.toNat / 4 * 4 + (a.toNat % 4 * 16 + b.toNat / 16) / 16 = a.toNat by omega),
      byte (show (a.toNat % 4 * 16 + b.toNat / 16) % 16 * 16 + b.toNat % 16 * 4 / 4 = b.toNat by omega)]
  | case4 a b c rest ih =>
    have wide := a.toNat_lt
    have wide' := b.toNat_lt
    have wide'' := c.toNat_lt
    rw [encodeChars,fromChars_character (by omega) (by simp),fromChars_character (by omega) (by simp),
      fromChars_character (by omega) (by simp)]
    refine (fromChars_full (by omega) _ _ _ _).trans ?_
    rw [ih,Option.map_some,byte (show a.toNat / 4 * 4 + (a.toNat % 4 * 16 + b.toNat / 16) / 16 = a.toNat by omega),
      byte (show (a.toNat % 4 * 16 + b.toNat / 16) % 16 * 16 + (b.toNat % 16 * 4 + c.toNat / 64) / 4 = b.toNat by omega),
      byte (show (b.toNat % 16 * 4 + c.toNat / 64) % 4 * 64 + c.toNat % 64 = c.toNat by omega)]

theorem fromBase64_encode (bytes : List UInt8) : fromBase64 (encode bytes) = some bytes := by
  rw [fromBase64,encode,String.toList_ofList,fromChars_encodeChars]

end FFWebHid.Base64
