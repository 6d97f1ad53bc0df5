import Mathlib.Data.List.Basic
import Mathlib.Tactic.Common

/-! Classic BPF as the kernel runs it over the record of a system call: instruction words, the check when a filter is
loaded and the run. Only forward jumps exist, so a run is a recursion over the program that is left. -/

namespace FFWebHid.ClassicBpf

/-- One instruction word: opcode, the offsets of the two jumps and the constant. -/
structure SockFilter where
  code : UInt16
  jt : UInt8
  jf : UInt8
  k : UInt32
  deriving DecidableEq,Repr

def bpfLd : UInt16 := 0x00
def bpfW : UInt16 := 0x00
def bpfAbs : UInt16 := 0x20
def bpfJmp : UInt16 := 0x05
def bpfJeq : UInt16 := 0x10
def bpfRet : UInt16 := 0x06
def bpfK : UInt16 := 0x00

def bpfStmt (code : UInt16) (k : UInt32) : SockFilter := ⟨code,0,0,k⟩
def bpfJump (code : UInt16) (k : UInt32) (jt jf : UInt8) : SockFilter := ⟨code,jt,jf,k⟩

/-- The instructions filters of loads, equality tests and verdicts are made of; offsets count from the next one. -/
inductive Insn where
  | load (offset : UInt32)
  | jeq (k : UInt32) (jt jf : Nat)
  | ret (verdict : UInt32)
  deriving DecidableEq,Repr

def SockFilter.decode (word : SockFilter) : Option Insn :=
  if word.code = bpfLd ||| bpfW ||| bpfAbs then some (.load word.k) else
  if word.code = bpfJmp ||| bpfJeq then some (.jeq word.k word.jt.toNat word.jf.toNat) else
  if word.code = bpfRet ||| bpfK then some (.ret word.k) else none

@[simp] theorem decode_load (k : UInt32) : (bpfStmt (bpfLd ||| bpfW ||| bpfAbs) k).decode = some (.load k) := rfl
@[simp] theorem decode_jeq (k : UInt32) (jt jf : UInt8) :
    (bpfJump (bpfJmp ||| bpfJeq) k jt jf).decode = some (.jeq k jt.toNat jf.toNat) := rfl
@[simp] theorem decode_ret (k : UInt32) : (bpfStmt (bpfRet ||| bpfK) k).decode = some (.ret k) := rfl

section Run

variable (input : UInt32 → Option UInt32)

/-- `skip` counts the instructions a taken jump still passes over. -/
def exec : List SockFilter → Nat → UInt32 → Option UInt32
  | [], _, _ => none
  | _ :: rest, skip + 1, acc => exec rest skip acc
  | word :: rest, 0, acc =>
    match word.decode with
    | some (.load offset) => (input offset).bind (fun loaded => exec rest 0 loaded)
    | some (.jeq k jt jf) => exec rest (if acc = k then jt else jf) acc
    | some (.ret verdict) => some verdict
    | none => none

/-- The verdict on one record. -/
def verdict (program : List SockFilter) : Option UInt32 := exec input program 0 0

@[simp] theorem exec_skip (word : SockFilter) (rest : List SockFilter) (skip : Nat) (acc : UInt32) :
    exec input (word :: rest) (skip + 1) acc = exec input rest skip acc := rfl

theorem exec_load {word : SockFilter} {offset : UInt32} (decoded : word.decode = some (.load offset))
    (rest : List SockFilter) (acc : UInt32) :
    exec input (word :: rest) 0 acc = (input offset).bind (exec input rest 0) := by
  simp [exec,decoded]

theorem exec_jeq {word : SockFilter} {k : UInt32} {jt jf : Nat} (decoded : word.decode = some (.jeq k jt jf))
    (rest : List SockFilter) (acc : UInt32) :
    exec input (word :: rest) 0 acc = exec input rest (if acc = k then jt else jf) acc := by
  simp [exec,decoded]

theorem exec_ret {word : SockFilter} {v : UInt32} (decoded : word.decode = some (.ret v))
    (rest : List SockFilter) (acc : UInt32) : exec input (word :: rest) 0 acc = some v := by
  simp [exec,decoded]

end Run

section Check

variable (readable : UInt32 → Bool)

/-- Every load reads inside the record and every jump lands inside the program. -/
def fits : List SockFilter → Bool
  | [] => true
  | word :: rest =>
    (match word.decode with
      | some (.load offset) => readable offset
      | some (.jeq _ jt jf) => decide (jt < rest.length) && decide (jf < rest.length)
      | some (.ret _) => true
      | none => false) && fits rest

def SockFilter.isVerdict (word : SockFilter) : Bool :=
  match word.decode with
  | some (.ret _) => true
  | _ => false

def maxInsns : Nat := 4096

/-- What the kernel asks of a filter before it installs it. -/
def check (program : List SockFilter) : Bool :=
  decide (program.length ≤ maxInsns) && fits readable program && program.getLast?.any SockFilter.isVerdict

end Check

/-! ### A table of equality tests -/

section Table

/-- One entry: on equality the verdict, otherwise past it. -/
def entry (verdict key : UInt32) : List SockFilter :=
  [bpfJump (bpfJmp ||| bpfJeq) key 0 1,bpfStmt (bpfRet ||| bpfK) verdict]

theorem exec_table (input : UInt32 → Option UInt32) (verdict : UInt32) (keys : List UInt32) (rest : List SockFilter)
    (acc : UInt32) :
    exec input (keys.flatMap (entry verdict) ++ rest) 0 acc =
      if acc ∈ keys then some verdict else exec input rest 0 acc := by
  induction keys with
  | nil => simp
  | cons key keys ih =>
    have first : exec input ((key :: keys).flatMap (entry verdict) ++ rest) 0 acc =
        exec input (bpfStmt (bpfRet ||| bpfK) verdict :: (keys.flatMap (entry verdict) ++ rest))
          (if acc = key then 0 else 1) acc := by
      simp only [List.flatMap_cons,entry,List.cons_append,List.nil_append]
      exact exec_jeq input (decode_jeq key 0 1) _ acc
    rw [first]
    by_cases same : acc = key
    · rw [if_pos same,exec_ret input (decode_ret verdict)]
      simp [same]
    · rw [if_neg same,exec_skip,ih]
      simp [same]

theorem fits_table (readable : UInt32 → Bool) (verdict : UInt32) (keys : List UInt32) (rest : List SockFilter)
    (nonempty : 0 < rest.length) :
    fits readable (keys.flatMap (entry verdict) ++ rest) = fits readable rest := by
  induction keys with
  | nil => simp
  | cons key keys ih =>
    have more : 0 < (keys.flatMap (entry verdict) ++ rest).length := by
      rw [List.length_append]
      omega
    rw [List.flatMap_cons,List.append_assoc,entry,List.cons_append,List.cons_append,List.nil_append]
    simp only [fits,decode_jeq,decode_ret,ih]
    have inside : (0 : UInt8).toNat < ((bpfStmt (bpfRet ||| bpfK) verdict) ::
        (keys.flatMap (entry verdict) ++ rest)).length ∧ (1 : UInt8).toNat <
        ((bpfStmt (bpfRet ||| bpfK) verdict) :: (keys.flatMap (entry verdict) ++ rest)).length := by
      rw [List.length_cons]
      exact ⟨by simp,by simpa using more⟩
    simp only [inside.1,inside.2,decide_true,Bool.true_and]

theorem length_table (verdict : UInt32) (keys : List UInt32) :
    (keys.flatMap (entry verdict)).length = 2 * keys.length := by
  induction keys with
  | nil => rfl
  | cons key keys ih =>
    simp only [List.flatMap_cons,List.length_append,ih,List.length_cons,entry,List.length_nil]
    omega

/-- The tests stand at the even places of the table. -/
theorem table_even (verdict : UInt32) (keys : List UInt32) (rest : List SockFilter) (i : Nat)
    (inside : i < keys.length) :
    ∃ key, (keys.flatMap (entry verdict) ++ rest)[2 * i]? = some (bpfJump (bpfJmp ||| bpfJeq) key 0 1) := by
  induction keys generalizing i with
  | nil => simp at inside
  | cons key keys ih =>
    cases i with
    | zero => exact ⟨key,rfl⟩
    | succ i =>
      have step : 2 * (i + 1) = 2 * i + 1 + 1 := by omega
      obtain ⟨k,found⟩ := ih i (by simpa using inside)
      exact ⟨k,by simpa [step,entry] using found⟩

end Table

end FFWebHid.ClassicBpf
