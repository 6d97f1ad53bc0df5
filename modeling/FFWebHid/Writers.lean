import Mathlib.Data.List.Basic
import Mathlib.Data.List.TakeWhile

/-!
Destinations for bytes, which may accept less than they are given, and what
buffering such a destination does to the bytes that are given to it.
-/
namespace FFWebHid.Writers

/-- A destination for bytes. A call accepts some front of the slices it is given, or
    fails; what has been accepted is delivered by a flush. -/
structure Writer (σ : Type) where
  writeVectored : σ → List (List UInt8) → Option Nat × σ
  flush : σ → Option Unit × σ
  accepted : σ → List UInt8
  delivered : σ → List UInt8
  takes {state : σ} {slices : List (List UInt8)} {count : Nat} : (writeVectored state slices).1 = some count →
    count ≤ slices.flatten.length ∧
      accepted (writeVectored state slices).2 = accepted state ++ slices.flatten.take count
  flushes {state : σ} : (flush state).1 = some () →
    accepted (flush state).2 = accepted state ∧ delivered (flush state).2 = accepted state

/-- No call fails. -/
structure Writer.Steady {σ : Type} (w : Writer σ) : Prop where
  writes (state : σ) (slices : List (List UInt8)) : (w.writeVectored state slices).1.isSome
  flushes (state : σ) : (w.flush state).1 = some ()

/-- The calls that a pipe has answered, and the bytes it has taken. -/
structure Pipe where
  calls : Nat
  bytes : List UInt8

/-- A pipe takes as many bytes as its pattern allows, but at least one. -/
def Pipe.count (pattern : Nat → Nat) (pipe : Pipe) (bytes : List UInt8) : Nat :=
  min bytes.length (max 1 (pattern pipe.calls))

def Pipe.write (pattern : Nat → Nat) (pipe : Pipe) (bytes : List UInt8) : Pipe :=
  {calls := pipe.calls + 1,bytes := pipe.bytes ++ bytes.take (pipe.count pattern bytes)}

/-- Write again what was not taken, until all is. -/
def Pipe.writeAll (pattern : Nat → Nat) (pipe : Pipe) (bytes : List UInt8) : Pipe :=
  if bytes = [] then pipe
  else (pipe.write pattern bytes).writeAll pattern (bytes.drop (pipe.count pattern bytes))
termination_by bytes.length
decreasing_by
  rename_i some
  have long := List.length_pos_of_ne_nil some
  simp only [List.length_drop,Pipe.count]
  omega

@[simp] theorem Pipe.writeAll_bytes (pattern : Nat → Nat) (pipe : Pipe) (bytes : List UInt8) :
    (pipe.writeAll pattern bytes).bytes = pipe.bytes ++ bytes := by
  induction pipe,bytes using Pipe.writeAll.induct pattern with
  | case1 pipe => simp [Pipe.writeAll]
  | case2 pipe bytes some ih =>
    rw [Pipe.writeAll,if_neg some,ih,Pipe.write,List.append_assoc,List.take_append_drop]

/-! ### Buffers -/

/-- Bytes that wait in front of a pipe. -/
structure Buffered where
  buf : List UInt8
  inner : Pipe

/-- The bytes taken so far: those that the pipe has, and those that wait. -/
def Buffered.accepted (s : Buffered) : List UInt8 := s.inner.bytes ++ s.buf

/-- A buffer of some capacity, in front of a pipe that takes vectored writes or only plain ones. -/
structure Buffer where
  capacity : Nat
  vectored : Bool
  pattern : Nat → Nat

namespace Buffer

def flushBuf (b : Buffer) (s : Buffered) : Buffered :=
  {buf := [],inner := s.inner.writeAll b.pattern s.buf}

/-- Empty the buffer if `needed` more bytes do not fit. -/
def makeRoom (b : Buffer) (s : Buffered) (needed : Nat) : Buffered :=
  if b.capacity - s.buf.length < needed then b.flushBuf s else s

/-- Slices are buffered as long as they fit whole. -/
def fitting : Nat → List (List UInt8) → List UInt8
  | _, [] => []
  | room, slice :: rest => if slice.length ≤ room then slice ++ fitting (room - slice.length) rest else []

/-- What is at least as long as the buffer goes to the pipe directly, in one write. -/
def writeVectored (b : Buffer) (s : Buffered) (slices : List (List UInt8)) : Option Nat × Buffered :=
  if b.vectored then
    let bytes := slices.flatten
    let s := b.makeRoom s bytes.length
    if b.capacity ≤ bytes.length then
      (some (s.inner.count b.pattern bytes),{s with inner := s.inner.write b.pattern bytes})
    else (some bytes.length,{s with buf := s.buf ++ bytes})
  else
    match slices.dropWhile (·.isEmpty) with
    | [] => (some 0,s)
    | first :: rest =>
      let s := b.makeRoom s first.length
      if b.capacity ≤ first.length then
        (some (s.inner.count b.pattern first),{s with inner := s.inner.write b.pattern first})
      else
        let bytes := first ++ fitting (b.capacity - (s.buf.length + first.length)) rest
        (some bytes.length,{s with buf := s.buf ++ bytes})

def flush (b : Buffer) (s : Buffered) : Option Unit × Buffered := (some (),b.flushBuf s)

theorem fitting_prefix (room : Nat) (slices : List (List UInt8)) : fitting room slices <+: slices.flatten := by
  induction slices generalizing room with
  | nil => simp [fitting]
  | cons slice rest ih =>
    rw [fitting,List.flatten_cons]
    split
    · exact List.prefix_append_right_inj slice |>.mpr (ih _)
    · exact List.nil_prefix

theorem dropWhile_flatten (slices : List (List UInt8)) : (slices.dropWhile (·.isEmpty)).flatten = slices.flatten := by
  induction slices with
  | nil => rfl
  | cons slice rest ih =>
    rw [List.dropWhile_cons]
    split
    · rename_i empty
      rw [ih,List.flatten_cons,List.isEmpty_iff.mp empty,List.nil_append]
    · rfl

@[simp] theorem flushBuf_accepted (b : Buffer) (s : Buffered) : (b.flushBuf s).accepted = s.accepted := by
  simp [flushBuf,Buffered.accepted]

@[simp] theorem makeRoom_accepted (b : Buffer) (s : Buffered) (needed : Nat) :
    (b.makeRoom s needed).accepted = s.accepted := by
  unfold makeRoom
  split <;> simp

/-- Where a write goes to the pipe directly, nothing waits in front of it. -/
theorem makeRoom_direct {b : Buffer} {s : Buffered} {needed : Nat} (long : b.capacity ≤ needed) :
    (b.makeRoom s needed).buf = [] ∨ needed = 0 := by
  unfold makeRoom
  split
  · exact .inl rfl
  · by_cases empty : s.buf = []
    · exact .inl empty
    · have waits := List.length_pos_of_ne_nil empty
      right
      omega

/-- A direct write takes a front of the bytes. -/
theorem direct_accepted {b : Buffer} {s : Buffered} {bytes : List UInt8} (long : b.capacity ≤ bytes.length) :
    let s := b.makeRoom s bytes.length
    {s with inner := s.inner.write b.pattern bytes : Buffered}.accepted
      = s.accepted ++ bytes.take (s.inner.count b.pattern bytes) := by
  rcases makeRoom_direct (s := s) long with empty | none
  · simp [Buffered.accepted,Pipe.write,empty]
  · simp [Buffered.accepted,Pipe.write,List.eq_nil_of_length_eq_zero none]

theorem count_le (pattern : Nat → Nat) (pipe : Pipe) (bytes : List UInt8) :
    pipe.count pattern bytes ≤ bytes.length := Nat.min_le_left _ _

theorem takes {b : Buffer} {s : Buffered} {slices : List (List UInt8)} {count : Nat}
    (written : (b.writeVectored s slices).1 = some count) :
    count ≤ slices.flatten.length ∧
      (b.writeVectored s slices).2.accepted = s.accepted ++ slices.flatten.take count := by
  revert written
  unfold writeVectored
  split
  · dsimp only
    split
    · rename_i long
      rintro ⟨⟩
      refine ⟨count_le _ _ _,?_⟩
      rw [direct_accepted long,makeRoom_accepted]
    · rintro ⟨⟩
      refine ⟨le_rfl,?_⟩
      rw [List.take_length,← makeRoom_accepted b s slices.flatten.length]
      simp [Buffered.accepted]
  · split
    · rintro ⟨⟩
      simp
    · rename_i first rest found
      have whole : slices.flatten = first ++ rest.flatten := by
        rw [← dropWhile_flatten,found,List.flatten_cons]
      dsimp only
      split
      · rename_i long
        rintro ⟨⟩
        have short := count_le b.pattern (b.makeRoom s first.length).inner first
        rw [direct_accepted long,makeRoom_accepted,whole,List.take_append_of_le_length short,List.length_append]
        exact ⟨Nat.le_add_right_of_le short,rfl⟩
      · rintro ⟨⟩
        have front := fitting_prefix (b.capacity - ((b.makeRoom s first.length).buf.length + first.length)) rest
        have taken := (List.prefix_append_right_inj first).mpr front
        rw [← whole] at taken
        refine ⟨taken.length_le,?_⟩
        rw [← List.prefix_iff_eq_take.mp taken,← makeRoom_accepted b s first.length]
        simp [Buffered.accepted]

/-- A buffer in front of a pipe takes a front of what it is given, too. -/
def writer (b : Buffer) : Writer Buffered where
  writeVectored := b.writeVectored
  flush := b.flush
  accepted := Buffered.accepted
  delivered s := s.inner.bytes
  takes := takes
  flushes _ := by simp [flush,flushBuf,Buffered.accepted]

theorem writer_steady (b : Buffer) : b.writer.Steady where
  writes s slices := by
    show (b.writeVectored s slices).1.isSome
    unfold writeVectored
    split
    · dsimp only
      split <;> rfl
    · split
      · rfl
      · dsimp only
        split <;> rfl
  flushes _ := rfl

theorem makeRoom_empty {b : Buffer} {s : Buffered} (empty : s.buf = []) (needed : Nat) : b.makeRoom s needed = s := by
  obtain ⟨buf,inner⟩ := s
  obtain rfl : buf = [] := empty
  unfold makeRoom
  split
  · simp [flushBuf,Pipe.writeAll]
  · rfl

/-- What an empty buffer takes of a vectored write: all, or what the pipe takes of it. -/
theorem vectored_taken {b : Buffer} (vectored : b.vectored = true) {s : Buffered} (empty : s.buf = [])
    (slices : List (List UInt8)) :
    (b.writeVectored s slices).1 = some (if b.capacity ≤ slices.flatten.length
      then min slices.flatten.length (max 1 (b.pattern s.inner.calls)) else slices.flatten.length) := by
  rw [writeVectored,if_pos vectored]
  dsimp only
  rw [makeRoom_empty empty]
  split <;> rfl

/-- Without vectored writes, an empty buffer takes the second of two slices only if it fits
    behind the first one. -/
theorem plain_taken {b : Buffer} (plain : b.vectored = false) {s : Buffered} (empty : s.buf = [])
    (first second : List UInt8) (some : first ≠ []) (short : first.length < b.capacity) :
    (b.writeVectored s [first,second]).1 = Option.some (first.length
      + if second.length ≤ b.capacity - first.length then second.length else 0) := by
  have kept : [first,second].dropWhile (·.isEmpty) = [first,second] := by
    rw [List.dropWhile_cons,if_neg (by simpa using some)]
  simp only [writeVectored,plain,kept,Bool.false_eq_true,if_false]
  rw [makeRoom_empty empty,if_neg (Nat.not_le.mpr short),empty]
  simp only [fitting,List.length_nil,Nat.zero_add,List.append_nil,List.length_append]
  split <;> rfl

end Buffer
end FFWebHid.Writers
