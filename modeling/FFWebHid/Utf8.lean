import Mathlib.Data.List.Basic

/-!
Text as bytes in UTF-8. The decoder takes its bytes in pieces: a character that is cut is
kept until the rest of it comes, and what is no character is replaced.
-/
namespace FFWebHid.Utf8

abbrev Text := List Char

def replacement : Char := '\uFFFD'

/-- The byte order mark. -/
def mark : Char := '\uFEFF'

def encodeChar (c : Char) : List UInt8 :=
  let n := c.toNat
  if n < 0x80 then [UInt8.ofNat n]
  else if n < 0x800 then [UInt8.ofNat (0xC0 + n / 64),UInt8.ofNat (0x80 + n % 64)]
  else if n < 0x10000 then
    [UInt8.ofNat (0xE0 + n / 4096),UInt8.ofNat (0x80 + n / 64 % 64),UInt8.ofNat (0x80 + n % 64)]
  else
    [UInt8.ofNat (0xF0 + n / 262144),UInt8.ofNat (0x80 + n / 4096 % 64),UInt8.ofNat (0x80 + n / 64 % 64),
      UInt8.ofNat (0x80 + n % 64)]

/-- In UTF-16, a character is one or two units. -/
def units (c : Char) : Nat := if c.toNat < 0x10000 then 1 else 2

/-- `TextEncoder`. -/
def encode (text : Text) : List UInt8 := text.flatMap encodeChar

/-- A character that has begun: the bytes it still needs, its bits so far, and the bounds of
    the next byte. -/
structure Pending where
  needed : Nat
  point : Nat
  lower : Nat
  upper : Nat
  deriving DecidableEq, Repr

/-- The first byte of a character. -/
def first (b : UInt8) : Text × Option Pending :=
  let n := b.toNat
  if n ≤ 0x7F then ([Char.ofNat n],none)
  else if 0xC2 ≤ n ∧ n ≤ 0xDF then ([],some ⟨1,n % 32,0x80,0xBF⟩)
  else if 0xE0 ≤ n ∧ n ≤ 0xEF then
    ([],some ⟨2,n % 16,if n = 0xE0 then 0xA0 else 0x80,if n = 0xED then 0x9F else 0xBF⟩)
  else if 0xF0 ≤ n ∧ n ≤ 0xF4 then
    ([],some ⟨3,n % 8,if n = 0xF0 then 0x90 else 0x80,if n = 0xF4 then 0x8F else 0xBF⟩)
  else ([replacement],none)

/-- A byte that does not go on with a character ends it, and is a first byte itself. -/
def step : Option Pending → UInt8 → Text × Option Pending
  | none,b => first b
  | some p,b =>
    if p.lower ≤ b.toNat ∧ b.toNat ≤ p.upper then
      let point := p.point * 64 + b.toNat % 64
      if p.needed = 1 then ([Char.ofNat point],none) else ([],some ⟨p.needed - 1,point,0x80,0xBF⟩)
    else (replacement :: (first b).1,(first b).2)

def decodeFrom : Option Pending → List UInt8 → Text × Option Pending
  | pending,[] => ([],pending)
  | pending,b :: rest =>
    ((step pending b).1 ++ (decodeFrom (step pending b).2 rest).1,(decodeFrom (step pending b).2 rest).2)

/-- At the end, a character that is cut is replaced. -/
def flush : Option Pending → Text
  | none => []
  | some _ => [replacement]

def decode (bytes : List UInt8) : Text := (decodeFrom none bytes).1 ++ flush (decodeFrom none bytes).2

/-- A byte order mark at the beginning is no part of the text. -/
def withoutMark : Text → Text
  | [] => []
  | c :: text => if c = mark then text else c :: text

/-- `TextDecoder`: what is pending, and whether the text has begun. -/
structure Decoder where
  pending : Option Pending := none
  begun : Bool := false
  deriving DecidableEq, Repr

/-- `decode(bytes, { stream: true })`. -/
def Decoder.stream (d : Decoder) (bytes : List UInt8) : Text × Decoder :=
  let out := decodeFrom d.pending bytes
  (if d.begun then out.1 else withoutMark out.1,⟨out.2,d.begun || !out.1.isEmpty⟩)

/-- `decode()` at the end of a stream. -/
def Decoder.finish (d : Decoder) : Text := flush d.pending

theorem units_pos (c : Char) : 0 < units c := by
  unfold units
  split <;> decide

theorem decodeFrom_append (pending : Option Pending) (one two : List UInt8) :
    decodeFrom pending (one ++ two) = ((decodeFrom pending one).1 ++ (decodeFrom (decodeFrom pending one).2 two).1,
      (decodeFrom (decodeFrom pending one).2 two).2) := by
  induction one generalizing pending with
  | nil => rfl
  | cons b one ih => simp only [List.cons_append,decodeFrom,ih,List.append_assoc]

theorem toNat_ofNat {n : Nat} (small : n < 256) : (UInt8.ofNat n).toNat = n := by
  rw [UInt8.toNat_ofNat']
  exact Nat.mod_eq_of_lt small

theorem first_two {n : Nat} (bounds : 0xC2 ≤ n ∧ n ≤ 0xDF) :
    first (UInt8.ofNat n) = ([],some ⟨1,n % 32,0x80,0xBF⟩) := by
  rw [first,toNat_ofNat (by omega),if_neg (by omega),if_pos bounds]

theorem first_three {n : Nat} (bounds : 0xE0 ≤ n ∧ n ≤ 0xEF) : first (UInt8.ofNat n)
    = ([],some ⟨2,n % 16,if n = 0xE0 then 0xA0 else 0x80,if n = 0xED then 0x9F else 0xBF⟩) := by
  rw [first,toNat_ofNat (by omega),if_neg (by omega),if_neg (by omega),if_pos bounds]

theorem first_four {n : Nat} (bounds : 0xF0 ≤ n ∧ n ≤ 0xF4) : first (UInt8.ofNat n)
    = ([],some ⟨3,n % 8,if n = 0xF0 then 0x90 else 0x80,if n = 0xF4 then 0x8F else 0xBF⟩) := by
  rw [first,toNat_ofNat (by omega),if_neg (by omega),if_neg (by omega),if_neg (by omega),if_pos bounds]

/-- A byte within the bounds goes on with the character. -/
theorem step_more {needed point lower upper n : Nat} (bounds : lower ≤ n ∧ n ≤ upper) (small : n < 256) :
    step (some ⟨needed + 2,point,lower,upper⟩) (UInt8.ofNat n)
      = ([],some ⟨needed + 1,point * 64 + n % 64,0x80,0xBF⟩) := by
  rw [step,toNat_ofNat small,if_pos bounds]
  rfl

/-- The last one gives it. -/
theorem step_last {point lower upper n : Nat} (bounds : lower ≤ n ∧ n ≤ upper) (small : n < 256) :
    step (some ⟨1,point,lower,upper⟩) (UInt8.ofNat n) = ([Char.ofNat (point * 64 + n % 64)],none) := by
  rw [step,toNat_ofNat small,if_pos bounds]
  rfl

theorem tail_bounds (n : Nat) : 0x80 ≤ 0x80 + n % 64 ∧ 0x80 + n % 64 ≤ 0xBF := by omega

theorem tail_small (n : Nat) : 0x80 + n % 64 < 256 := by omega

/-- The bytes of a character are read as that character. -/
theorem decodeFrom_encodeChar (c : Char) : decodeFrom none (encodeChar c) = ([c],none) := by
  have valid : c.toNat < 0xD800 ∨ (0xDFFF < c.toNat ∧ c.toNat < 0x110000) := c.valid
  have whole {n : Nat} (same : n = c.toNat) : Char.ofNat n = c := by rw [same,Char.ofNat_toNat]
  unfold encodeChar
  dsimp only
  split
  · have one : first (UInt8.ofNat c.toNat) = ([c],none) := by
      rw [first,toNat_ofNat (by omega),if_pos (by omega),whole rfl]
    simp only [decodeFrom,step,one,List.append_nil]
  · split
    · have one := first_two (n := 0xC0 + c.toNat / 64) (by omega)
      simp only [decodeFrom,show step none = first from rfl,one,step_last (tail_bounds _) (tail_small _)]
      rw [whole (by omega)]
      rfl
    · split
      · have one := first_three (n := 0xE0 + c.toNat / 4096) (by omega)
        have bounds : (if 0xE0 + c.toNat / 4096 = 0xE0 then 0xA0 else 0x80) ≤ 0x80 + c.toNat / 64 % 64 ∧
            0x80 + c.toNat / 64 % 64 ≤ if 0xE0 + c.toNat / 4096 = 0xED then 0x9F else 0xBF := by
          split <;> split <;> omega
        simp only [decodeFrom,show step none = first from rfl,one,step_more bounds (tail_small _),
          step_last (tail_bounds _) (tail_small _)]
        rw [whole (by omega)]
        rfl
      · have one := first_four (n := 0xF0 + c.toNat / 262144) (by omega)
        have bounds : (if 0xF0 + c.toNat / 262144 = 0xF0 then 0x90 else 0x80) ≤ 0x80 + c.toNat / 4096 % 64 ∧
            0x80 + c.toNat / 4096 % 64 ≤ if 0xF0 + c.toNat / 262144 = 0xF4 then 0x8F else 0xBF := by
          split <;> split <;> omega
        simp only [decodeFrom,show step none = first from rfl,one,step_more bounds (tail_small _),
          step_more (tail_bounds _) (tail_small _),step_last (tail_bounds _) (tail_small _)]
        rw [whole (by omega)]
        rfl

theorem decodeFrom_encode (text : Text) (rest : List UInt8) :
    decodeFrom none (encode text ++ rest) = (text ++ (decodeFrom none rest).1,(decodeFrom none rest).2) := by
  induction text with
  | nil => rfl
  | cons c text ih =>
    have split : encode (c :: text) ++ rest = encodeChar c ++ (encode text ++ rest) := by
      rw [encode,List.flatMap_cons,List.append_assoc]
      rfl
    rw [split,decodeFrom_append,decodeFrom_encodeChar,ih]
    rfl

theorem decode_encode_append (text : Text) (rest : List UInt8) : decode (encode text ++ rest) = text ++ decode rest := by
  rw [decode,decodeFrom_encode,decode,List.append_assoc]

theorem decode_encode (text : Text) : decode (encode text) = text := by
  have whole := decode_encode_append text []
  rwa [List.append_nil,show decode [] = [] from rfl,List.append_nil] at whole

theorem encode_inj {one two : Text} (same : encode one = encode two) : one = two := by
  rw [← decode_encode one,same,decode_encode]

theorem encode_append (one two : Text) : encode (one ++ two) = encode one ++ encode two := List.flatMap_append

/-- Bytes that are a text, and begin with no mark. -/
def IsText (bytes : List UInt8) : Prop := encode (decode bytes) = bytes ∧ (decode bytes).head? ≠ some mark

/-- The text of a stream is the text of its bytes, however they are cut. -/
theorem stream_append (d : Decoder) (one two : List UInt8) :
    d.stream (one ++ two) = ((d.stream one).1 ++ ((d.stream one).2.stream two).1,((d.stream one).2.stream two).2) := by
  cases begun : d.begun with
  | true => simp [Decoder.stream,begun,decodeFrom_append]
  | false =>
    cases out : (decodeFrom d.pending one).1 with
    | nil => simp [Decoder.stream,begun,decodeFrom_append,out,withoutMark]
    | cons c text =>
      by_cases isMark : c = mark
      · simp [Decoder.stream,begun,decodeFrom_append,out,withoutMark,isMark]
      · simp [Decoder.stream,begun,decodeFrom_append,out,withoutMark,isMark]

theorem stream_text {bytes : List UInt8} (text : IsText bytes) :
    (Decoder.stream {} bytes).1 = decode bytes ∧ (Decoder.stream {} bytes).2.pending = none := by
  have decoded := decodeFrom_encode (decode bytes) []
  rw [List.append_nil,text.1] at decoded
  rw [Decoder.stream]
  dsimp only
  rw [decoded]
  have begin' := text.2
  cases whole : decode bytes with
  | nil => exact ⟨rfl,rfl⟩
  | cons c t =>
    rw [whole] at begin'
    have unmarked : c ≠ mark := fun same => begin' (congrArg some same)
    simp [decodeFrom,withoutMark,unmarked]

end FFWebHid.Utf8
