import Mathlib
import FFWebHid.Base64

/-! The base64 helpers that stand in for `fromBase64` and `toBase64` where the browser lacks them: a loop over the
characters with the chunk that is open, in three ways to end. -/

namespace FFWebHid.Base64Helpers
open FFWebHid.Base64 (isSpace)

inductive Alphabet where
  | base64
  | base64url
  deriving DecidableEq,Repr

inductive LastChunkHandling where
  | loose
  | strict
  | stopBeforePartial
  deriving DecidableEq,Repr

def commonAlphabet : List Char := "ABCDEFGHIJKLMNOPQRSTUVWXYZabcdefghijklmnopqrstuvwxyz0123456789".toList

/-- `i2c` and `i2cUrl`. -/
def Alphabet.characters : Alphabet → List Char
  | .base64 => commonAlphabet ++ ['+','/']
  | .base64url => commonAlphabet ++ ['-','_']

/-- The number of a character, if the alphabet has it. -/
def Alphabet.index (a : Alphabet) (c : Char) : Option Nat := a.characters.findIdx? (· == c)

/-- `alphabet[chr]`, of a character it has. -/
def Alphabet.number (a : Alphabet) (c : Char) : Nat := (a.index c).getD 0

def Alphabet.character (a : Alphabet) (n : Nat) : Char := a.characters.getD n ' '

def maxSafeInteger : Nat := 2 ^ 53 - 1

/-- A string, which the language keeps shorter than that. -/
structure Text where
  chars : List Char
  short : chars.length ≤ maxSafeInteger

def charAtLookup (a : Alphabet) (triplet shift : Nat) : Char := a.character ((triplet >>> (6 * shift)) &&& 63)

def toBase64 (a : Alphabet) (omitPadding : Bool) : List UInt8 → List Char
  | x :: y :: z :: rest =>
    let triplet := (x.toNat <<< 16) + (y.toNat <<< 8) + z.toNat
    charAtLookup a triplet 3 :: charAtLookup a triplet 2 :: charAtLookup a triplet 1 :: charAtLookup a triplet 0 ::
      toBase64 a omitPadding rest
  | [x,y] =>
    let triplet := (x.toNat <<< 16) + (y.toNat <<< 8)
    [charAtLookup a triplet 3,charAtLookup a triplet 2,charAtLookup a triplet 1] ++ if omitPadding then [] else ['=']
  | [x] =>
    let triplet := x.toNat <<< 16
    [charAtLookup a triplet 3,charAtLookup a triplet 2] ++ if omitPadding then [] else ['=','=']
  | [] => []

/-- The bytes and how much of the string they are of. -/
structure Decoded where
  bytes : List UInt8
  read : Nat
  deriving DecidableEq,Repr

def decodeBase64Chunk (a : Alphabet) (chunk : List Char) (throwOnExtraBits : Bool) : Except String (List UInt8) :=
  let filled := if chunk.length < 4 then chunk ++ (if chunk.length = 2 then ['A','A'] else ['A']) else chunk
  let value (n : Nat) : Nat := a.number (filled.getD n 'A')
  let triplet := (value 0 <<< 18) + (value 1 <<< 12) + (value 2 <<< 6) + value 3
  let first := (triplet >>> 16) &&& 255
  let second := (triplet >>> 8) &&& 255
  let third := triplet &&& 255
  if chunk.length = 2 then
    if throwOnExtraBits && second != 0 then .error "Extra bits" else .ok [.ofNat first]
  else if chunk.length = 3 then
    if throwOnExtraBits && third != 0 then .error "Extra bits" else .ok [.ofNat first,.ofNat second]
  else .ok [.ofNat first,.ofNat second,.ofNat third]

section Loop
variable (a : Alphabet) (handling : LastChunkHandling) (maxLength stringLength : Nat)

/-- At the first equals sign, `rest` being what is behind it. -/
def padding (chunk : List Char) (bytes : List UInt8) (read : Nat) (rest : List Char) : Except String Decoded :=
  if chunk.length < 2 then .error "Padding is too early"
  else
    let rest := rest.dropWhile isSpace
    if chunk.length = 2 ∧ rest = [] then
      if handling = .stopBeforePartial then .ok ⟨bytes,read⟩ else .error "Malformed padding: only one ="
    else
      let rest := if chunk.length = 2 ∧ rest.head? = some '=' then rest.tail.dropWhile isSpace else rest
      if rest ≠ [] then .error "Unexpected character after padding"
      else
        match decodeBase64Chunk a chunk (handling = .strict) with
        | .error e => .error e
        | .ok last => .ok ⟨bytes ++ last,stringLength⟩

/-- At the end of the string. -/
def ending (chunk : List Char) (bytes : List UInt8) (read : Nat) : Except String Decoded :=
  if chunk.length > 0 then
    match handling with
    | .stopBeforePartial => .ok ⟨bytes,read⟩
    | .loose =>
      if chunk.length = 1 then .error "Malformed padding: exactly one additional character"
      else
        match decodeBase64Chunk a chunk false with
        | .error e => .error e
        | .ok last => .ok ⟨bytes ++ last,stringLength⟩
    | .strict => .error "Missing padding"
  else .ok ⟨bytes,stringLength⟩

/-- The loop, over what is left of the string; `written` is the number of the bytes. -/
def decodeFrom (chunk : List Char) (bytes : List UInt8) (read : Nat) : List Char → Except String Decoded
  | [] => ending a handling stringLength chunk bytes read
  | chr :: rest =>
    if isSpace chr then decodeFrom chunk bytes read rest
    else if chr = '=' then padding a handling stringLength chunk bytes read rest
    else if (a.index chr).isNone then .error "Unexpected character"
    else
      let remainingBytes := maxLength - bytes.length
      if remainingBytes = 1 ∧ chunk.length = 2 ∨ remainingBytes = 2 ∧ chunk.length = 3 then .ok ⟨bytes,read⟩
      else if (chunk ++ [chr]).length = 4 then
        match decodeBase64Chunk a (chunk ++ [chr]) false with
        | .error e => .error e
        | .ok decoded =>
          let index := stringLength - rest.length
          if (bytes ++ decoded).length = maxLength then .ok ⟨bytes ++ decoded,index⟩
          else decodeFrom [] (bytes ++ decoded) index rest
      else decodeFrom (chunk ++ [chr]) bytes read rest

end Loop

def fromBase64 (a : Alphabet) (handling : LastChunkHandling) (text : Text) : Except String Decoded :=
  decodeFrom a handling maxSafeInteger text.chars.length [] [] 0 text.chars

/-! ### Six bits and eight -/

theorem character_index {a : Alphabet} {c : Char} {n : Nat} (found : a.index c = some n) :
    n < 64 ∧ a.character n = c := by
  obtain ⟨inside,same,_⟩ := List.findIdx?_eq_some_iff_getElem.mp found
  have size : a.characters.length = 64 := by cases a <;> decide +kernel
  refine ⟨by omega,?_⟩
  rw [Alphabet.character,List.getD_eq_getElem?_getD,List.getElem?_eq_getElem inside,Option.getD_some]
  simpa using same

theorem index_character (a : Alphabet) {n : Nat} (six : n < 64) : a.index (a.character n) = some n := by
  have all : ∀ n < 64, a.index (a.character n) = some n := by cases a <;> decide +kernel
  exact all n six

theorem character_plain (a : Alphabet) {n : Nat} (six : n < 64) :
    isSpace (a.character n) = false ∧ a.character n ≠ '=' := by
  have all : ∀ n < 64, isSpace (a.character n) = false ∧ a.character n ≠ '=' := by cases a <;> decide +kernel
  exact all n six

theorem number_eq {a : Alphabet} {c : Char} {n : Nat} (found : a.index c = some n) : a.number c = n := by
  rw [Alphabet.number,found,Option.getD_some]

theorem and_byte (t : Nat) : t &&& 255 = t % 256 := Nat.and_two_pow_sub_one_eq_mod t 8

theorem and_sextet (t : Nat) : t &&& 63 = t % 64 := Nat.and_two_pow_sub_one_eq_mod t 6

/-- The characters of three bytes. -/
theorem toBase64_three (a : Alphabet) (omitPadding : Bool) (x y z : UInt8) (rest : List UInt8) :
    toBase64 a omitPadding (x :: y :: z :: rest) = a.character (x.toNat / 4) ::
      a.character (x.toNat % 4 * 16 + y.toNat / 16) :: a.character (y.toNat % 16 * 4 + z.toNat / 64) ::
      a.character (z.toNat % 64) :: toBase64 a omitPadding rest := by
  have wideX := x.toNat_lt
  have wideY := y.toNat_lt
  have wideZ := z.toNat_lt
  simp only [toBase64,charAtLookup,and_sextet]
  have triplet : (x.toNat <<< 16) + (y.toNat <<< 8) + z.toNat = x.toNat * 65536 + y.toNat * 256 + z.toNat := by
    simp only [Nat.shiftLeft_eq]
  have first : (x.toNat * 65536 + y.toNat * 256 + z.toNat) >>> (6 * 3) % 64 = x.toNat / 4 := by
    simp only [Nat.shiftRight_eq_div_pow]
    omega
  have second : (x.toNat * 65536 + y.toNat * 256 + z.toNat) >>> (6 * 2) % 64 = x.toNat % 4 * 16 + y.toNat / 16 := by
    simp only [Nat.shiftRight_eq_div_pow]
    omega
  have third : (x.toNat * 65536 + y.toNat * 256 + z.toNat) >>> (6 * 1) % 64 = y.toNat % 16 * 4 + z.toNat / 64 := by
    simp only [Nat.shiftRight_eq_div_pow]
    omega
  have fourth : (x.toNat * 65536 + y.toNat * 256 + z.toNat) >>> (6 * 0) % 64 = z.toNat % 64 := by
    simp only [Nat.shiftRight_eq_div_pow]
    omega
  rw [triplet,first,second,third,fourth]

theorem toBase64_two (a : Alphabet) (omitPadding : Bool) (x y : UInt8) :
    toBase64 a omitPadding [x,y] = [a.character (x.toNat / 4),a.character (x.toNat % 4 * 16 + y.toNat / 16),
      a.character (y.toNat % 16 * 4)] ++ if omitPadding then [] else ['='] := by
  have wideX := x.toNat_lt
  have wideY := y.toNat_lt
  have first : ((x.toNat <<< 16) + (y.toNat <<< 8)) >>> (6 * 3) % 64 = x.toNat / 4 := by
    simp only [Nat.shiftLeft_eq,Nat.shiftRight_eq_div_pow]
    omega
  have second : ((x.toNat <<< 16) + (y.toNat <<< 8)) >>> (6 * 2) % 64 = x.toNat % 4 * 16 + y.toNat / 16 := by
    simp only [Nat.shiftLeft_eq,Nat.shiftRight_eq_div_pow]
    omega
  have third : ((x.toNat <<< 16) + (y.toNat <<< 8)) >>> (6 * 1) % 64 = y.toNat % 16 * 4 := by
    simp only [Nat.shiftLeft_eq,Nat.shiftRight_eq_div_pow]
    omega
  simp only [toBase64,charAtLookup,and_sextet,first,second,third]

theorem toBase64_one (a : Alphabet) (omitPadding : Bool) (x : UInt8) :
    toBase64 a omitPadding [x] = [a.character (x.toNat / 4),a.character (x.toNat % 4 * 16)] ++
      if omitPadding then [] else ['=','='] := by
  have wideX := x.toNat_lt
  have first : (x.toNat <<< 16) >>> (6 * 3) % 64 = x.toNat / 4 := by
    simp only [Nat.shiftLeft_eq,Nat.shiftRight_eq_div_pow]
    omega
  have second : (x.toNat <<< 16) >>> (6 * 2) % 64 = x.toNat % 4 * 16 := by
    simp only [Nat.shiftLeft_eq,Nat.shiftRight_eq_div_pow]
    omega
  simp only [toBase64,charAtLookup,and_sextet,first,second]

/-- The three bytes of four characters. -/
theorem triplet_bytes {p q r s : Nat} (six : p < 64 ∧ q < 64 ∧ r < 64 ∧ s < 64) :
    let triplet := (p <<< 18) + (q <<< 12) + (r <<< 6) + s
    (triplet >>> 16) &&& 255 = p * 4 + q / 16 ∧ (triplet >>> 8) &&& 255 = q % 16 * 16 + r / 4 ∧
      triplet &&& 255 = r % 4 * 64 + s := by
  simp only [and_byte,Nat.shiftLeft_eq,Nat.shiftRight_eq_div_pow]
  omega

theorem chunk_four {a : Alphabet} {w x y z : Char} {p q r s : Nat} (first : a.index w = some p)
    (second : a.index x = some q) (third : a.index y = some r) (fourth : a.index z = some s) (strict : Bool) :
    decodeBase64Chunk a [w,x,y,z] strict =
      .ok [.ofNat (p * 4 + q / 16),.ofNat (q % 16 * 16 + r / 4),.ofNat (r % 4 * 64 + s)] := by
  have bytes := triplet_bytes ⟨(character_index first).1,(character_index second).1,(character_index third).1,
    (character_index fourth).1⟩
  have values : decodeBase64Chunk a [w,x,y,z] strict =
      let triplet := (a.number w <<< 18) + (a.number x <<< 12) + (a.number y <<< 6) + a.number z
      .ok [.ofNat ((triplet >>> 16) &&& 255),.ofNat ((triplet >>> 8) &&& 255),.ofNat (triplet &&& 255)] := rfl
  rw [values,number_eq first,number_eq second,number_eq third,number_eq fourth]
  simp only [bytes]

theorem number_A (a : Alphabet) : a.number 'A' = 0 := by cases a <;> decide +kernel

theorem chunk_three {a : Alphabet} {w x y : Char} {p q r : Nat} (first : a.index w = some p)
    (second : a.index x = some q) (third : a.index y = some r) (strict : Bool) :
    decodeBase64Chunk a [w,x,y] strict = if strict && r % 4 * 64 != 0 then .error "Extra bits" else
      .ok [.ofNat (p * 4 + q / 16),.ofNat (q % 16 * 16 + r / 4)] := by
  obtain ⟨one,two,three⟩ := triplet_bytes (s := 0) ⟨(character_index first).1,(character_index second).1,
    (character_index third).1,by omega⟩
  rw [Nat.add_zero (r % 4 * 64)] at three
  have values : decodeBase64Chunk a [w,x,y] strict =
      let triplet := (a.number w <<< 18) + (a.number x <<< 12) + (a.number y <<< 6) + a.number 'A'
      if strict && (triplet &&& 255) != 0 then .error "Extra bits"
      else .ok [.ofNat ((triplet >>> 16) &&& 255),.ofNat ((triplet >>> 8) &&& 255)] := by
    simp [decodeBase64Chunk]
  rw [values,number_eq first,number_eq second,number_eq third,number_A]
  simp only [one,two,three]

theorem chunk_two {a : Alphabet} {w x : Char} {p q : Nat} (first : a.index w = some p) (second : a.index x = some q)
    (strict : Bool) : decodeBase64Chunk a [w,x] strict = if strict && q % 16 * 16 != 0 then .error "Extra bits" else
      .ok [.ofNat (p * 4 + q / 16)] := by
  obtain ⟨one,two,-⟩ := triplet_bytes (r := 0) (s := 0) ⟨(character_index first).1,(character_index second).1,by omega,
    by omega⟩
  rw [Nat.zero_div,Nat.add_zero (q % 16 * 16)] at two
  have values : decodeBase64Chunk a [w,x] strict =
      let triplet := (a.number w <<< 18) + (a.number x <<< 12) + (a.number 'A' <<< 6) + a.number 'A'
      if strict && ((triplet >>> 8) &&& 255) != 0 then .error "Extra bits"
      else .ok [.ofNat ((triplet >>> 16) &&& 255)] := by
    simp [decodeBase64Chunk]
  rw [values,number_eq first,number_eq second,number_A]
  simp only [one,two]

/-- A character of an encoding is one of the alphabet or fills it up. -/
theorem mem_toBase64 {a : Alphabet} {omitPadding : Bool} {bytes : List UInt8} {c : Char}
    (member : c ∈ toBase64 a omitPadding bytes) : (a.index c).isSome ∨ c = '=' := by
  have known {n : Nat} (six : n < 64) : (a.index (a.character n)).isSome := by rw [index_character a six]; rfl
  induction bytes using toBase64.induct with
  | case1 x y z rest ih =>
    have wideX := x.toNat_lt
    have wideY := y.toNat_lt
    have wideZ := z.toNat_lt
    rw [toBase64_three] at member
    simp only [List.mem_cons] at member
    rcases member with rfl | rfl | rfl | rfl | later
    · exact .inl (known (by omega))
    · exact .inl (known (by omega))
    · exact .inl (known (by omega))
    · exact .inl (known (by omega))
    · exact ih later
  | case2 x y =>
    have wideX := x.toNat_lt
    have wideY := y.toNat_lt
    rw [toBase64_two] at member
    simp only [List.mem_append,List.mem_cons,List.not_mem_nil,or_false] at member
    rcases member with (rfl | rfl | rfl) | filled
    · exact .inl (known (by omega))
    · exact .inl (known (by omega))
    · exact .inl (known (by omega))
    · split at filled <;> simp_all
  | case3 x =>
    have wideX := x.toNat_lt
    rw [toBase64_one] at member
    simp only [List.mem_append,List.mem_cons,List.not_mem_nil,or_false] at member
    rcases member with (rfl | rfl) | filled
    · exact .inl (known (by omega))
    · exact .inl (known (by omega))
    · split at filled <;> simp_all
  | case4 => simp [toBase64] at member

/-- The characters of a chunk that is open. -/
def Known (a : Alphabet) (chunk : List Char) : Prop := ∀ c ∈ chunk, ∃ n, a.index c = some n

theorem index_equals (a : Alphabet) : a.index '=' = none := by cases a <;> decide +kernel

theorem Known.ne {a : Alphabet} {chunk : List Char} (known : Known a chunk) : '=' ∉ chunk := by
  intro member
  obtain ⟨n,found⟩ := known _ member
  rw [index_equals] at found
  cases found

theorem known_not_space {a : Alphabet} {c : Char} {n : Nat} (found : a.index c = some n) :
    isSpace c = false ∧ c ≠ '=' := by
  obtain ⟨six,rfl⟩ := character_index found
  exact character_plain a six

/-- The string without its blanks. -/
def solid (rest : List Char) : List Char := rest.filter (fun c => !isSpace c)

theorem solid_space {c : Char} (blank : isSpace c = true) (rest : List Char) : solid (c :: rest) = solid rest := by
  simp [solid,blank]

theorem solid_cons {c : Char} (plain : isSpace c = false) (rest : List Char) : solid (c :: rest) = c :: solid rest := by
  simp [solid,plain]

/-- Behind its blanks a string ends or goes on with what is none. -/
theorem solid_cases (rest : List Char) : rest.dropWhile isSpace = [] ∧ solid rest = [] ∨
    ∃ c more, rest.dropWhile isSpace = c :: more ∧ solid rest = c :: solid more := by
  induction rest with
  | nil => exact .inl ⟨rfl,rfl⟩
  | cons c rest ih =>
    cases blank : isSpace c with
    | true =>
      rw [List.dropWhile_cons_of_pos blank,solid_space blank]
      exact ih
    | false =>
      rw [List.dropWhile_cons_of_neg (by simp [blank]),solid_cons blank]
      exact .inr ⟨c,rest,rfl,rfl⟩

/-- A result with these bytes. -/
def Yields (result : Except String Decoded) (bytes : List UInt8) : Prop := ∃ read, result = .ok ⟨bytes,read⟩

section Loop
variable {a : Alphabet} {handling : LastChunkHandling} {maxLength stringLength : Nat} {chunk : List Char}
  {bytes out : List UInt8} {read : Nat}

/-- Two characters are filled up by two equals signs, three by one. -/
theorem padding_yields (ends : handling ≠ .stopBeforePartial) (partly : chunk.length < 4) (rest : List Char) :
    Yields (padding a handling stringLength chunk bytes read rest) out ↔
      ∃ last, decodeBase64Chunk a chunk (handling = .strict) = .ok last ∧ out = bytes ++ last ∧
        (chunk.length = 2 ∧ solid rest = ['='] ∨ chunk.length = 3 ∧ solid rest = []) := by
  have closed : Yields (match decodeBase64Chunk a chunk (handling = .strict) with
      | .error e => .error e
      | .ok last => .ok ⟨bytes ++ last,stringLength⟩) out ↔
      ∃ last, decodeBase64Chunk a chunk (handling = .strict) = .ok last ∧ out = bytes ++ last := by
    cases decodeBase64Chunk a chunk (handling = .strict) with
    | error e => simp [Yields]
    | ok last => simp [Yields,eq_comm]
  unfold padding
  by_cases short : chunk.length < 2
  · rw [if_pos short]
    have apart : ¬(chunk.length = 2 ∧ solid rest = ['='] ∨ chunk.length = 3 ∧ solid rest = []) := by omega
    simp [Yields,apart]
  rw [if_neg short]
  by_cases two : chunk.length = 2
  · rcases solid_cases rest with ⟨dropped,blank⟩ | ⟨c,more,dropped,text⟩
    · simp [dropped,blank,two,ends,Yields]
    · by_cases equals : c = '='
      · subst equals
        rcases solid_cases more with ⟨dropped',blank⟩ | ⟨c',more',dropped',text'⟩
        · simp only [dropped,two,text,List.head?_cons,List.tail_cons,dropped',blank]
          simpa using closed
        · simp [dropped,two,text,dropped',text',Yields]
      · simp [dropped,two,text,equals,Yields]
  · have three : chunk.length = 3 := by omega
    rcases solid_cases rest with ⟨dropped,blank⟩ | ⟨c,more,dropped,text⟩
    · simp only [dropped,blank,three]
      simpa using closed
    · simp [dropped,text,three,Yields]

/-- The length of the result stays away from the largest number. -/
def Room (maxLength : Nat) (bytes : List UInt8) (chunk rest : List Char) : Prop :=
  16 ≤ maxLength ∧ 4 * bytes.length + 3 * (chunk.length + rest.length) ≤ 3 * maxLength

theorem decodeFrom_known {c : Char} {n : Nat} {rest : List Char} (found : a.index c = some n) (short : chunk.length < 3)
    (room : Room maxLength bytes chunk (c :: rest)) :
    decodeFrom a handling maxLength stringLength chunk bytes read (c :: rest) =
      decodeFrom a handling maxLength stringLength (chunk ++ [c]) bytes read rest := by
  obtain ⟨plain,noEquals⟩ := known_not_space found
  obtain ⟨large,enough⟩ := room
  have goes : ¬(maxLength - bytes.length = 1 ∧ chunk.length = 2 ∨ maxLength - bytes.length = 2 ∧ chunk.length = 3) := by
    omega
  have partly : (chunk ++ [c]).length ≠ 4 := by simp; omega
  rw [decodeFrom,plain,found]
  simp only [noEquals,goes,partly,if_false,Option.isNone_some,Bool.false_eq_true]

/-- The fourth character closes a chunk. -/
theorem decodeFrom_full {w x y z : Char} {p q r s : Nat} {rest : List Char} (first : a.index w = some p)
    (second : a.index x = some q) (third : a.index y = some r) (fourth : a.index z = some s)
    (room : Room maxLength bytes [w,x,y] (z :: rest)) :
    decodeFrom a handling maxLength stringLength [w,x,y] bytes read (z :: rest) =
      decodeFrom a handling maxLength stringLength []
        (bytes ++ [.ofNat (p * 4 + q / 16),.ofNat (q % 16 * 16 + r / 4),.ofNat (r % 4 * 64 + s)])
        (stringLength - rest.length) rest := by
  obtain ⟨plain,noEquals⟩ := known_not_space fourth
  obtain ⟨large,enough⟩ := room
  simp only [List.length_cons,List.length_nil] at enough
  have goes :
      ¬(maxLength - bytes.length = 1 ∧ [w,x,y].length = 2 ∨ maxLength - bytes.length = 2 ∧ [w,x,y].length = 3) := by
    simp only [List.length_cons,List.length_nil]
    omega
  have unfinished : (bytes ++ [UInt8.ofNat (p * 4 + q / 16),.ofNat (q % 16 * 16 + r / 4),
      .ofNat (r % 4 * 64 + s)]).length ≠
      maxLength := by
    simp only [List.length_append,List.length_cons,List.length_nil]
    omega
  have full : ([w,x,y] ++ [z]).length = 4 := rfl
  have decoded := chunk_four first second third fourth false
  rw [decodeFrom,plain,fourth]
  simp only [noEquals,goes,full,if_false,if_true,Option.isNone_some,Bool.false_eq_true]
  rw [List.cons_append,List.cons_append,List.cons_append,List.nil_append,decoded]
  simp only [unfinished,if_false]

theorem Room.blank {c : Char} {rest : List Char} (room : Room maxLength bytes chunk (c :: rest)) :
    Room maxLength bytes chunk rest := by
  obtain ⟨large,enough⟩ := room
  simp only [List.length_cons] at enough
  exact ⟨large,by omega⟩

theorem Room.known {c : Char} {rest : List Char} (room : Room maxLength bytes chunk (c :: rest)) :
    Room maxLength bytes (chunk ++ [c]) rest := by
  obtain ⟨large,enough⟩ := room
  simp only [List.length_cons] at enough
  exact ⟨large,by simp; omega⟩

theorem Room.full {w x y z : Char} {u v b : UInt8} {rest : List Char} (room : Room maxLength bytes [w,x,y] (z :: rest)) :
    Room maxLength (bytes ++ [u,v,b]) [] rest := by
  obtain ⟨large,enough⟩ := room
  simp only [List.length_cons,List.length_nil] at enough
  exact ⟨large,by simp; omega⟩

theorem Known.append {c : Char} {n : Nat} (known : Known a chunk) (found : a.index c = some n) :
    Known a (chunk ++ [c]) := by
  intro d member
  rcases List.mem_append.mp member with before | last
  · exact known d before
  · rw [List.mem_singleton] at last
    subst last
    exact ⟨n,found⟩

end Loop

section Chunks
variable {a : Alphabet}

theorem ofNat_byte {n : Nat} {b : UInt8} (same : n = b.toNat) : UInt8.ofNat n = b := by rw [same,UInt8.ofNat_toNat]

theorem chunk_of_one (x : UInt8) (strict : Bool) :
    decodeBase64Chunk a [a.character (x.toNat / 4),a.character (x.toNat % 4 * 16)] strict = .ok [x] := by
  have wide := x.toNat_lt
  have noExtra : x.toNat % 4 * 16 % 16 * 16 = 0 := by omega
  rw [chunk_two (index_character a (by omega)) (index_character a (by omega)),noExtra,ofNat_byte (b := x) (by omega)]
  simp

theorem chunk_of_two (x y : UInt8) (strict : Bool) : decodeBase64Chunk a [a.character (x.toNat / 4),
    a.character (x.toNat % 4 * 16 + y.toNat / 16),a.character (y.toNat % 16 * 4)] strict = .ok [x,y] := by
  have wideX := x.toNat_lt
  have wideY := y.toNat_lt
  have noExtra : y.toNat % 16 * 4 % 4 * 64 = 0 := by omega
  rw [chunk_three (index_character a (by omega)) (index_character a (by omega)) (index_character a (by omega)),noExtra,
    ofNat_byte (b := x) (by omega),ofNat_byte (b := y) (by omega)]
  simp

/-- A chunk of two characters without bits too many is of one byte. -/
theorem one_of_chunk {w x : Char} {last : List UInt8} (known : Known a [w,x])
    (strict : decodeBase64Chunk a [w,x] true = .ok last) :
    ∃ b : UInt8, last = [b] ∧ w = a.character (b.toNat / 4) ∧ x = a.character (b.toNat % 4 * 16) := by
  obtain ⟨p,first⟩ := known w (by simp)
  obtain ⟨q,second⟩ := known x (by simp)
  obtain ⟨six,rfl⟩ := character_index first
  obtain ⟨six',rfl⟩ := character_index second
  rw [chunk_two first second] at strict
  by_cases extra : q % 16 * 16 = 0
  · simp only [extra,bne_self_eq_false,Bool.and_false,Bool.false_eq_true,if_false,Except.ok.injEq] at strict
    have value : (UInt8.ofNat (p * 4 + q / 16)).toNat = p * 4 + q / 16 := by
      rw [UInt8.toNat_ofNat']
      omega
    refine ⟨_,strict.symm,?_,?_⟩
    · rw [value]
      congr 1
      omega
    · rw [value]
      congr 1
      omega
  · simp [extra] at strict

theorem two_of_chunk {w x y : Char} {last : List UInt8} (known : Known a [w,x,y])
    (strict : decodeBase64Chunk a [w,x,y] true = .ok last) : ∃ b c : UInt8, last = [b,c] ∧
      w = a.character (b.toNat / 4) ∧ x = a.character (b.toNat % 4 * 16 + c.toNat / 16) ∧
      y = a.character (c.toNat % 16 * 4) := by
  obtain ⟨p,first⟩ := known w (by simp)
  obtain ⟨q,second⟩ := known x (by simp)
  obtain ⟨r,third⟩ := known y (by simp)
  obtain ⟨six,rfl⟩ := character_index first
  obtain ⟨six',rfl⟩ := character_index second
  obtain ⟨six'',rfl⟩ := character_index third
  rw [chunk_three first second third] at strict
  by_cases extra : r % 4 * 64 = 0
  · simp only [extra,bne_self_eq_false,Bool.and_false,Bool.false_eq_true,if_false,Except.ok.injEq] at strict
    have one : (UInt8.ofNat (p * 4 + q / 16)).toNat = p * 4 + q / 16 := by
      rw [UInt8.toNat_ofNat']
      omega
    have two : (UInt8.ofNat (q % 16 * 16 + r / 4)).toNat = q % 16 * 16 + r / 4 := by
      rw [UInt8.toNat_ofNat']
      omega
    refine ⟨_,_,strict.symm,?_,?_,?_⟩
    · rw [one]
      congr 1
      omega
    · rw [one,two]
      congr 1
      omega
    · rw [two]
      congr 1
      omega
  · simp [extra] at strict

/-- Every chunk of four characters is of three bytes. -/
theorem encode_four {p q r s : Nat} (six : p < 64 ∧ q < 64 ∧ r < 64 ∧ s < 64) (omitPadding : Bool) (rest : List UInt8) :
    toBase64 a omitPadding
      (.ofNat (p * 4 + q / 16) :: .ofNat (q % 16 * 16 + r / 4) :: .ofNat (r % 4 * 64 + s) :: rest) =
      a.character p :: a.character q :: a.character r :: a.character s :: toBase64 a omitPadding rest := by
  have one : (UInt8.ofNat (p * 4 + q / 16)).toNat = p * 4 + q / 16 := by
    rw [UInt8.toNat_ofNat']
    omega
  have two : (UInt8.ofNat (q % 16 * 16 + r / 4)).toNat = q % 16 * 16 + r / 4 := by
    rw [UInt8.toNat_ofNat']
    omega
  have three : (UInt8.ofNat (r % 4 * 64 + s)).toNat = r % 4 * 64 + s := by
    rw [UInt8.toNat_ofNat']
    omega
  rw [toBase64_three,one,two,three,show (p * 4 + q / 16) / 4 = p by omega,
    show (p * 4 + q / 16) % 4 * 16 + (q % 16 * 16 + r / 4) / 16 = q by omega,
    show (q % 16 * 16 + r / 4) % 16 * 4 + (r % 4 * 64 + s) / 64 = r by omega,
    show (r % 4 * 64 + s) % 64 = s by omega]

end Chunks

section Whole
variable {a : Alphabet} {handling : LastChunkHandling} {maxLength stringLength : Nat}

theorem decodeFrom_space {c : Char} (blank : isSpace c = true) (chunk : List Char) (bytes : List UInt8) (read : Nat)
    (rest : List Char) : decodeFrom a handling maxLength stringLength chunk bytes read (c :: rest) =
      decodeFrom a handling maxLength stringLength chunk bytes read rest := by
  rw [decodeFrom,if_pos blank]

theorem decodeFrom_equals (chunk : List Char) (bytes : List UInt8) (read : Nat) (rest : List Char) :
    decodeFrom a handling maxLength stringLength chunk bytes read ('=' :: rest) =
      padding a handling stringLength chunk bytes read rest := by
  rw [decodeFrom,if_neg (by decide),if_pos rfl]

theorem decodeFrom_unknown {c : Char} (plain : isSpace c = false) (noEquals : c ≠ '=') (unknown : a.index c = none)
    (chunk : List Char) (bytes : List UInt8) (read : Nat) (rest : List Char) :
    decodeFrom a handling maxLength stringLength chunk bytes read (c :: rest) = .error "Unexpected character" := by
  rw [decodeFrom,plain,unknown]
  simp [noEquals]

/-- Three known characters that are open. -/
theorem three_known {chunk : List Char} (known : Known a chunk) (three : chunk.length = 3) :
    ∃ w x y p q r, chunk = [w,x,y] ∧ a.index w = some p ∧ a.index x = some q ∧ a.index y = some r := by
  obtain ⟨w,x,y,rfl⟩ := List.length_eq_three.mp three
  obtain ⟨p,first⟩ := known w (by simp)
  obtain ⟨q,second⟩ := known x (by simp)
  obtain ⟨r,third⟩ := known y (by simp)
  exact ⟨w,x,y,p,q,r,rfl,first,second,third⟩

/-- A strict end with padding is the end of an encoding. -/
theorem padding_sound {chunk : List Char} {bytes out : List UInt8} {read : Nat} {rest : List Char} (known : Known a chunk)
    (partly : chunk.length < 4) (yields : Yields (padding a .strict stringLength chunk bytes read rest) out) :
    ∃ tail, out = bytes ++ tail ∧ chunk ++ '=' :: solid rest = toBase64 a false tail := by
  rw [padding_yields (by simp) partly] at yields
  obtain ⟨last,decoded,same,⟨two,marks⟩ | ⟨three,marks⟩⟩ := yields
  · obtain ⟨w,x,rfl⟩ := List.length_eq_two.mp two
    obtain ⟨b,rfl,rfl,rfl⟩ := one_of_chunk known (by simpa using decoded)
    refine ⟨[b],same,?_⟩
    rw [marks,toBase64_one]
    rfl
  · obtain ⟨w,x,y,rfl⟩ := List.length_eq_three.mp three
    obtain ⟨b,c,rfl,rfl,rfl,rfl⟩ := two_of_chunk known (by simpa using decoded)
    refine ⟨[b,c],same,?_⟩
    rw [marks,toBase64_two]
    rfl

/-- What the strict decoder accepts is an encoding. -/
theorem strict_sound {chunk : List Char} {bytes out : List UInt8} {read : Nat} {rest : List Char} (known : Known a chunk)
    (partly : chunk.length < 4) (room : Room maxLength bytes chunk rest)
    (yields : Yields (decodeFrom a .strict maxLength stringLength chunk bytes read rest) out) :
    ∃ tail, out = bytes ++ tail ∧ chunk ++ solid rest = toBase64 a false tail := by
  induction rest generalizing chunk bytes read with
  | nil =>
    rw [decodeFrom,ending] at yields
    by_cases opened : chunk.length > 0
    · simp [Yields,opened] at yields
    · have empty : chunk = [] := List.eq_nil_of_length_eq_zero (by omega)
      subst empty
      obtain ⟨_,same⟩ := yields
      cases same
      exact ⟨[],by simp,rfl⟩
  | cons c rest ih =>
    cases blank : isSpace c with
    | true =>
      rw [decodeFrom_space blank] at yields
      rw [solid_space blank]
      exact ih known partly room.blank yields
    | false =>
      rw [solid_cons blank]
      by_cases equals : c = '='
      · subst equals
        rw [decodeFrom_equals] at yields
        exact padding_sound known partly yields
      · cases found : a.index c with
        | none =>
          rw [decodeFrom_unknown blank equals found] at yields
          obtain ⟨_,same⟩ := yields
          cases same
        | some n =>
          by_cases short : chunk.length < 3
          · rw [decodeFrom_known found short room] at yields
            obtain ⟨tail,same,text⟩ := ih (known.append found) (by simp; omega) room.known yields
            refine ⟨tail,same,?_⟩
            rw [← text,List.append_assoc]
            rfl
          · obtain ⟨w,x,y,p,q,r,rfl,first,second,third⟩ := three_known known (by omega)
            rw [decodeFrom_full first second third found room] at yields
            obtain ⟨tail,same,text⟩ := ih (by simp [Known]) (by simp) room.full yields
            obtain ⟨six,rfl⟩ := character_index first
            obtain ⟨six',rfl⟩ := character_index second
            obtain ⟨six'',rfl⟩ := character_index third
            obtain ⟨sixLast,rfl⟩ := character_index found
            refine ⟨.ofNat (p * 4 + q / 16) :: .ofNat (q % 16 * 16 + r / 4) :: .ofNat (r % 4 * 64 + n) :: tail,?_,?_⟩
            · rw [same,List.append_assoc]
              rfl
            · rw [encode_four ⟨six,six',six'',sixLast⟩,← text]
              rfl

/-- The end of an encoding without padding, or of one that needs none. -/
theorem ending_yields (ends : handling ≠ .stopBeforePartial) {omitPadding : Bool}
    (padded : handling = .strict → omitPadding = false) {bytes tail : List UInt8} {read : Nat}
    (known : Known a (toBase64 a omitPadding tail)) (partly : (toBase64 a omitPadding tail).length < 4) :
    Yields (ending a handling stringLength (toBase64 a omitPadding tail) bytes read) (bytes ++ tail) := by
  rcases tail with _ | ⟨x,_ | ⟨y,_ | ⟨z,tail⟩⟩⟩
  · exact ⟨stringLength,by simp [ending,toBase64]⟩
  · cases omitPadding with
    | false => exact absurd (by simp [toBase64_one]) known.ne
    | true =>
      cases handling with
      | strict => simp at padded
      | stopBeforePartial => exact absurd rfl ends
      | loose =>
        rw [toBase64_one]
        exact ⟨stringLength,by simp [ending,chunk_of_one]⟩
  · cases omitPadding with
    | false => exact absurd (by simp [toBase64_two]) known.ne
    | true =>
      cases handling with
      | strict => simp at padded
      | stopBeforePartial => exact absurd rfl ends
      | loose =>
        rw [toBase64_two]
        exact ⟨stringLength,by simp [ending,chunk_of_two]⟩
  · rw [toBase64_three] at partly
    simp only [List.length_cons] at partly
    omega

omit a in
theorem equals_split {front front' more more' : List Char} (free : '=' ∉ front) (free' : '=' ∉ front')
    (same : front ++ '=' :: more = front' ++ '=' :: more') : front = front' ∧ more = more' := by
  induction front generalizing front' with
  | nil =>
    cases front' with
    | nil => simpa using same
    | cons c front' =>
      obtain ⟨here,-⟩ := List.cons.inj same
      exact absurd (by rw [here]; exact List.mem_cons_self) free'
  | cons c front ih =>
    cases front' with
    | nil =>
      obtain ⟨here,-⟩ := List.cons.inj same
      exact absurd (by rw [here]; exact List.mem_cons_self) free
    | cons c' front' =>
      simp only [List.cons_append,List.cons.injEq,List.mem_cons,not_or] at same free free'
      obtain ⟨rfl,rfl⟩ := ih free.2 free'.2 same.2
      exact ⟨by rw [same.1],rfl⟩

/-- Where its equals signs begin, an encoding ends. -/
theorem encoding_equals {omitPadding : Bool} {chunk more : List Char} {tail : List UInt8} (known : Known a chunk)
    (partly : chunk.length < 4) (text : chunk ++ '=' :: more = toBase64 a omitPadding tail) (strict : Bool) :
    decodeBase64Chunk a chunk strict = .ok tail ∧ (chunk.length = 2 ∧ more = ['='] ∨ chunk.length = 3 ∧ more = []) := by
  have inside {n : Nat} (six : n < 64) : '=' ≠ a.character n := Ne.symm (character_plain a six).2
  have marked : '=' ∈ chunk ++ '=' :: more := by simp
  rcases tail with _ | ⟨x,_ | ⟨y,_ | ⟨z,tail⟩⟩⟩
  · simp [toBase64] at text
  · have wide := x.toNat_lt
    have free : '=' ∉ [a.character (x.toNat / 4),a.character (x.toNat % 4 * 16)] := by
      simp [inside (show x.toNat / 4 < 64 by omega),inside (show x.toNat % 4 * 16 < 64 by omega)]
    rw [toBase64_one] at text
    cases omitPadding with
    | true =>
      rw [text] at marked
      exact absurd (by simpa using marked) free
    | false =>
      obtain ⟨rfl,rfl⟩ := equals_split known.ne free text
      exact ⟨chunk_of_one x strict,.inl ⟨rfl,rfl⟩⟩
  · have wide := x.toNat_lt
    have wide' := y.toNat_lt
    have free : '=' ∉ [a.character (x.toNat / 4),a.character (x.toNat % 4 * 16 + y.toNat / 16),
        a.character (y.toNat % 16 * 4)] := by
      simp [inside (show x.toNat / 4 < 64 by omega),inside (show x.toNat % 4 * 16 + y.toNat / 16 < 64 by omega),
        inside (show y.toNat % 16 * 4 < 64 by omega)]
    rw [toBase64_two] at text
    cases omitPadding with
    | true =>
      rw [text] at marked
      exact absurd (by simpa using marked) free
    | false =>
      obtain ⟨rfl,rfl⟩ := equals_split known.ne free text
      exact ⟨chunk_of_two x y strict,.inr ⟨rfl,rfl⟩⟩
  · -- None of the first four characters is an equals sign.
    have wide := x.toNat_lt
    have wide' := y.toNat_lt
    have wide'' := z.toNat_lt
    rw [toBase64_three] at text
    rcases chunk with _ | ⟨c,_ | ⟨d,_ | ⟨e,_ | ⟨f,chunk⟩⟩⟩⟩
    · simp [inside (show x.toNat / 4 < 64 by omega)] at text
    · simp [inside (show x.toNat % 4 * 16 + y.toNat / 16 < 64 by omega)] at text
    · simp [inside (show y.toNat % 16 * 4 + z.toNat / 64 < 64 by omega)] at text
    · simp [inside (show z.toNat % 64 < 64 by omega)] at text
    · simp only [List.length_cons] at partly
      omega

/-- Four characters that an encoding begins with are of its first three bytes. -/
theorem encoding_full {omitPadding : Bool} {w x y z : Char} {p q r s : Nat} {more : List Char} {tail : List UInt8}
    (first : a.index w = some p) (second : a.index x = some q) (third : a.index y = some r) (fourth : a.index z = some s)
    (text : [w,x,y] ++ z :: more = toBase64 a omitPadding tail) : ∃ later,
      tail = .ofNat (p * 4 + q / 16) :: .ofNat (q % 16 * 16 + r / 4) :: .ofNat (r % 4 * 64 + s) :: later ∧
      more = toBase64 a omitPadding later := by
  rcases tail with _ | ⟨u,_ | ⟨v,_ | ⟨b,tail⟩⟩⟩
  · simp [toBase64] at text
  · rw [toBase64_one] at text
    cases omitPadding with
    | true => simp at text
    | false =>
      simp only [List.cons_append,List.nil_append,Bool.false_eq_true,if_false,List.cons.injEq] at text
      obtain ⟨-,-,rfl,-⟩ := text
      rw [index_equals] at third
      cases third
  · rw [toBase64_two] at text
    cases omitPadding with
    | true => simp at text
    | false =>
      simp only [List.cons_append,List.nil_append,Bool.false_eq_true,if_false,List.cons.injEq] at text
      obtain ⟨-,-,-,rfl,-⟩ := text
      rw [index_equals] at fourth
      cases fourth
  · have wide := u.toNat_lt
    have wide' := v.toNat_lt
    have wide'' := b.toNat_lt
    rw [toBase64_three] at text
    simp only [List.cons_append,List.nil_append,List.cons.injEq] at text
    obtain ⟨rfl,rfl,rfl,rfl,rfl⟩ := text
    rw [index_character a (by omega),Option.some.injEq] at first second third fourth
    subst first second third fourth
    refine ⟨tail,?_,rfl⟩
    rw [ofNat_byte (b := u) (by omega),ofNat_byte (b := v) (by omega),ofNat_byte (b := b) (by omega)]

/-- An encoding is decoded, whatever blanks stand in it; the padding may be missing where it is not asked for. -/
theorem encoding_yields (bytes : List UInt8) (read : Nat) (ends : handling ≠ .stopBeforePartial) {omitPadding : Bool}
    (padded : handling = .strict → omitPadding = false) {chunk rest : List Char} {tail : List UInt8}
    (known : Known a chunk) (partly : chunk.length < 4) (room : Room maxLength bytes chunk rest)
    (text : chunk ++ solid rest = toBase64 a omitPadding tail) :
    Yields (decodeFrom a handling maxLength stringLength chunk bytes read rest) (bytes ++ tail) := by
  induction rest generalizing chunk bytes read tail with
  | nil =>
    rw [decodeFrom]
    rw [solid,List.filter_nil,List.append_nil] at text
    subst text
    exact ending_yields ends padded known partly
  | cons c rest ih =>
    cases blank : isSpace c with
    | true =>
      rw [decodeFrom_space blank]
      rw [solid_space blank] at text
      exact ih bytes read known partly room.blank text
    | false =>
      rw [solid_cons blank] at text
      by_cases equals : c = '='
      · subst equals
        rw [decodeFrom_equals,padding_yields ends partly]
        obtain ⟨decoded,marks⟩ := encoding_equals known partly text (handling = .strict)
        exact ⟨tail,decoded,rfl,marks⟩
      · have encoded : c ∈ toBase64 a omitPadding tail := by
          rw [← text]
          simp
        obtain ⟨n,found⟩ := Option.isSome_iff_exists.mp ((mem_toBase64 encoded).resolve_right equals)
        by_cases short : chunk.length < 3
        · rw [decodeFrom_known found short room]
          apply ih bytes read (known.append found) (by simp; omega) room.known
          rw [← text,List.append_assoc]
          rfl
        · obtain ⟨w,x,y,p,q,r,rfl,first,second,third⟩ := three_known known (by omega)
          rw [decodeFrom_full first second third found room]
          obtain ⟨later,rfl,more⟩ := encoding_full first second third found text
          have together : bytes ++ .ofNat (p * 4 + q / 16) :: .ofNat (q % 16 * 16 + r / 4) ::
              .ofNat (r % 4 * 64 + n) :: later =
              bytes ++ [.ofNat (p * 4 + q / 16),.ofNat (q % 16 * 16 + r / 4),.ofNat (r % 4 * 64 + n)] ++ later := by
            rw [List.append_assoc]
            rfl
          rw [together]
          exact ih _ _ (by simp [Known]) (by simp) room.full more

end Whole

theorem room_of_text (text : Text) : Room maxSafeInteger [] [] text.chars := by
  have short := text.short
  exact ⟨by decide,by simp; omega⟩

/-- The strict decoder takes the encodings with blanks strewn over them, each for the bytes it was made of, and nothing
    else. -/
theorem strict_takes_encodings (a : Alphabet) (text : Text) (bytes : List UInt8) :
    Yields (fromBase64 a .strict text) bytes ↔ solid text.chars = toBase64 a false bytes := by
  constructor
  · intro yields
    obtain ⟨tail,same,encoded⟩ := strict_sound (by simp [Known]) (by simp) (room_of_text text) yields
    rw [List.nil_append] at same encoded
    rw [same]
    exact encoded
  · intro encoded
    exact encoding_yields [] 0 (by simp) (by simp) (by simp [Known]) (by simp) (room_of_text text) encoded

/-! ### The browser's own -/

theorem index_bits (c : Char) : Alphabet.base64.index c = Base64.bits c := by
  have same : Alphabet.base64.characters = Base64.alphabet := by decide +kernel
  rw [Alphabet.index,same,Base64.bits]

theorem base64_character {n : Nat} (six : n < 64) : Alphabet.base64.character n = Base64.character n := by
  have all : ∀ n < 64, Alphabet.base64.character n = Base64.character n := by decide +kernel
  exact all n six

theorem toBase64_native (bytes : List UInt8) : toBase64 .base64 false bytes = Base64.encodeChars bytes := by
  induction bytes using toBase64.induct with
  | case1 x y z rest ih =>
    have wide := x.toNat_lt
    have wide' := y.toNat_lt
    have wide'' := z.toNat_lt
    rw [toBase64_three,Base64.encodeChars,ih,base64_character (by omega),base64_character (by omega),
      base64_character (by omega),base64_character (by omega)]
  | case2 x y =>
    have wide := x.toNat_lt
    have wide' := y.toNat_lt
    rw [toBase64_two,Base64.encodeChars,base64_character (by omega),base64_character (by omega),
      base64_character (by omega)]
    rfl
  | case3 x =>
    have wide := x.toNat_lt
    rw [toBase64_one,Base64.encodeChars,base64_character (by omega),base64_character (by omega)]
    rfl
  | case4 => rfl

section Native
variable {maxLength stringLength : Nat}

theorem native_known {group : List Nat} {c : Char} {n : Nat} {rest : List Char} (found : Alphabet.base64.index c = some n)
    (short : group.length < 3) : Base64.fromChars group (c :: rest) = Base64.fromChars (group ++ [n]) rest := by
  obtain ⟨six,rfl⟩ := character_index found
  rw [base64_character six]
  exact Base64.fromChars_character six short rest

theorem native_full {c : Char} {p q r n : Nat} {rest : List Char} (found : Alphabet.base64.index c = some n) :
    Base64.fromChars [p,q,r] (c :: rest) = (Base64.fromChars [] rest).map fun bytes =>
      UInt8.ofNat (p * 4 + q / 16) :: UInt8.ofNat (q % 16 * 16 + r / 4) :: UInt8.ofNat (r % 4 * 64 + n) :: bytes := by
  obtain ⟨six,rfl⟩ := character_index found
  rw [base64_character six]
  exact Base64.fromChars_full six p q r rest

/-- The last chunk without regard to the bits that are too many. -/
theorem last_native {chunk : List Char} (known : Known .base64 chunk) (partly : chunk.length < 4) :
    (2 ≤ chunk.length → ∃ last, decodeBase64Chunk .base64 chunk false = .ok last ∧
      Base64.lastGroup (chunk.map Alphabet.base64.number) = some last) ∧
    (chunk.length = 1 → Base64.lastGroup (chunk.map Alphabet.base64.number) = none) := by
  rcases chunk with _ | ⟨w,_ | ⟨x,_ | ⟨y,_ | ⟨z,chunk⟩⟩⟩⟩
  · simp
  · simp [Base64.lastGroup]
  · obtain ⟨p,first⟩ := known w (by simp)
    obtain ⟨q,second⟩ := known x (by simp)
    simp [chunk_two first second,number_eq first,number_eq second,Base64.lastGroup]
  · obtain ⟨p,first⟩ := known w (by simp)
    obtain ⟨q,second⟩ := known x (by simp)
    obtain ⟨r,third⟩ := known y (by simp)
    simp [chunk_three first second third,number_eq first,number_eq second,number_eq third,Base64.lastGroup]
  · simp only [List.length_cons] at partly
    omega

theorem closes_native (group : List Nat) (rest : List Char) :
    Base64.closes group rest = true ↔ group.length = 2 ∧ solid rest = ['='] ∨ group.length = 3 ∧ solid rest = [] := by
  unfold Base64.closes
  by_cases two : group.length = 2
  · simp [two,solid]
  · simp [two,solid]

/-- From an equals sign on both decoders ask the same of the rest. -/
theorem padding_native {chunk rest : List Char} {bytes out : List UInt8} {read : Nat} (known : Known .base64 chunk)
    (partly : chunk.length < 4) :
    Yields (padding .base64 .loose stringLength chunk bytes read rest) out ↔
      ∃ tail, Base64.fromChars (chunk.map Alphabet.base64.number) ('=' :: rest) = some tail ∧ out = bytes ++ tail := by
  have native : Base64.fromChars (chunk.map Alphabet.base64.number) ('=' :: rest) =
      if Base64.closes (chunk.map Alphabet.base64.number) rest then
        Base64.lastGroup (chunk.map Alphabet.base64.number) else none := by
    conv_lhs => unfold Base64.fromChars
    rw [if_neg (by decide),if_pos rfl]
  have closes := closes_native (chunk.map Alphabet.base64.number) rest
  rw [List.length_map] at closes
  rw [padding_yields (by simp) partly,native]
  by_cases closed : chunk.length = 2 ∧ solid rest = ['='] ∨ chunk.length = 3 ∧ solid rest = []
  · obtain ⟨last,decoded,group⟩ := (last_native known partly).1 (by omega)
    rw [if_pos (closes.mpr closed),group]
    constructor
    · rintro ⟨other,decoded',same,_⟩
      have both := decoded.symm.trans decoded'
      cases both
      exact ⟨last,rfl,same⟩
    · rintro ⟨_,⟨⟩,same⟩
      exact ⟨last,decoded,same,closed⟩
  · have opened : ¬Base64.closes (chunk.map Alphabet.base64.number) rest = true := fun c => closed (closes.mp c)
    rw [if_neg opened]
    simp only [closed,and_false,exists_const,reduceCtorEq,false_and]

theorem loose_native {chunk rest : List Char} (bytes out : List UInt8) (read : Nat) (known : Known .base64 chunk)
    (partly : chunk.length < 4) (room : Room maxLength bytes chunk rest) :
    Yields (decodeFrom .base64 .loose maxLength stringLength chunk bytes read rest) out ↔
      ∃ tail, Base64.fromChars (chunk.map Alphabet.base64.number) rest = some tail ∧ out = bytes ++ tail := by
  induction rest generalizing chunk bytes read with
  | nil =>
    obtain ⟨more,one⟩ := last_native known partly
    rw [decodeFrom,ending,Base64.fromChars]
    by_cases empty : chunk.length > 0
    · by_cases single : chunk.length = 1
      · simp [Yields,single,one single]
      · obtain ⟨last,decoded,native⟩ := more (by omega)
        simp [Yields,empty,single,decoded,native,eq_comm]
    · have nothing : chunk = [] := List.eq_nil_of_length_eq_zero (by omega)
      subst nothing
      simp [Yields,Base64.lastGroup,eq_comm]
  | cons c rest ih =>
    cases blank : isSpace c with
    | true =>
      have skipped : Base64.fromChars (chunk.map Alphabet.base64.number) (c :: rest) =
          Base64.fromChars (chunk.map Alphabet.base64.number) rest := by
        conv_lhs => unfold Base64.fromChars
        rw [if_pos blank]
      rw [decodeFrom_space blank,skipped]
      exact ih bytes read known partly room.blank
    | false =>
      by_cases equals : c = '='
      · subst equals
        rw [decodeFrom_equals]
        exact padding_native known partly
      · cases found : Alphabet.base64.index c with
        | none =>
          rw [decodeFrom_unknown blank equals found]
          have unknown : Base64.fromChars (chunk.map Alphabet.base64.number) (c :: rest) = none := by
            conv_lhs => unfold Base64.fromChars
            rw [index_bits] at found
            simp [blank,equals,found]
          simp [Yields,unknown]
        | some n =>
          by_cases short : chunk.length < 3
          · rw [decodeFrom_known found short room,native_known found (by simpa using short)]
            have later := ih bytes read (known.append found) (by simp; omega) room.known
            rw [List.map_append,List.map_singleton,number_eq found] at later
            exact later
          · obtain ⟨w,x,y,p,q,r,rfl,first,second,third⟩ := three_known known (by omega)
            rw [decodeFrom_full first second third found room,ih _ _ (by simp [Known]) (by simp) room.full]
            simp only [List.map_cons,List.map_nil,number_eq first,number_eq second,number_eq third]
            rw [native_full found]
            cases Base64.fromChars [] rest with
            | none => simp
            | some tail => simp

end Native

/-- In its default mode the decoder is the browser's own on every string, also where that fails; the encoder is the
    browser's; and whatever the alphabet, with or without padding, what was encoded is decoded. -/
theorem helpers_stand_in (text : Text) (bytes : List UInt8) :
    (fromBase64 .base64 .loose text).toOption.map Decoded.bytes = Base64.fromChars [] text.chars ∧
    toBase64 .base64 false bytes = Base64.encodeChars bytes ∧
    ∀ a omitPadding, solid text.chars = toBase64 a omitPadding bytes → Yields (fromBase64 a .loose text) bytes := by
  refine ⟨?_,toBase64_native bytes,?_⟩
  · have native (out : List UInt8) : Yields (fromBase64 .base64 .loose text) out ↔
        ∃ tail, Base64.fromChars [] text.chars = some tail ∧ out = tail :=
      loose_native [] out 0 (by simp [Known]) (by simp) (room_of_text text)
    cases result : fromBase64 .base64 .loose text with
    | error e =>
      cases decoded : Base64.fromChars [] text.chars with
      | none => rfl
      | some bytes =>
        obtain ⟨_,same⟩ := (native bytes).mpr ⟨bytes,decoded,rfl⟩
        rw [result] at same
        cases same
    | ok decoded =>
      obtain ⟨tail,same,rfl⟩ := (native decoded.bytes).mp ⟨decoded.read,result⟩
      exact same.symm
  · intro a omitPadding encoded
    exact encoding_yields [] 0 (by simp) (by simp) (by simp [Known]) (by simp) (room_of_text text) encoded

end FFWebHid.Base64Helpers
