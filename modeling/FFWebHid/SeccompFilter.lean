import Mathlib
import FFWebHid.ClassicBpf

/-! The allow-list filters the two binaries put on themselves in a hardened Linux build. -/

namespace FFWebHid.SeccompFilter
open ClassicBpf

/-- The system calls the two lists name; their numbers come from the platform headers. -/
inductive Sys where
  | read | write | pread64 | pwrite64 | readv | writev | close | dup | dup3 | fcntl | ioctl | lseek | openat
  | mkdir | unlink | chmod | fstat | fstatfs | newfstatat | statx | getdents64 | readlink | readlinkat | faccessat
  | faccessat2 | access | truncate | ftruncate | mmap | munmap | mprotect | brk | mremap | madvise | arch_prctl
  | prlimit64 | poll | socket | bind | listen | accept4 | connect | getsockname | getpeername | setsockopt
  | getsockopt | sendto | recvfrom | sendmsg | recvmsg | shutdown | socketpair | recvmmsg | epoll_create1
  | epoll_ctl | epoll_wait | epoll_pwait | eventfd2 | timerfd_create | timerfd_settime | timerfd_gettime | clone
  | clone3 | futex | set_robust_list | get_robust_list | set_tid_address | rseq | exit_group | exit | getpid
  | gettid | getppid | getuid | getgid | geteuid | getegid | tgkill | rt_sigaction | rt_sigprocmask | rt_sigreturn
  | sigaltstack | clock_gettime | clock_nanosleep | nanosleep | gettimeofday | getrandom | prctl | pipe2 | uname
  | sched_getaffinity | sched_yield | fsync | fdatasync
  deriving DecidableEq,Repr

inductive Arch where
  | x86_64
  | aarch64
  deriving DecidableEq,Repr

def auditArch : Arch → UInt32
  | .x86_64 => 0xC000003E
  | .aarch64 => 0xC00000B7

/-- The entries that are compiled in: three calls exist on one architecture only. -/
def builtFor (arch : Arch) (call : Sys) : Bool :=
  match call with
  | .access | .arch_prctl | .epoll_wait => arch == .x86_64
  | _ => true

def daemonSyscalls (arch : Arch) : List Sys := List.filter (builtFor arch)
  [.read,.write,.pread64,.pwrite64,.readv,.writev,.close,.dup,.dup3,.fcntl,.ioctl,.lseek,.openat,
   .mkdir,.unlink,.chmod,.fstat,.fstatfs,.newfstatat,.statx,.getdents64,.readlink,.readlinkat,.faccessat,
   .faccessat2,.access,.truncate,.ftruncate,.mmap,.munmap,.mprotect,.brk,.mremap,.madvise,.arch_prctl,
   .prlimit64,.poll,.socket,.bind,.listen,.accept4,.connect,.getsockname,.getpeername,.setsockopt,
   .getsockopt,.sendto,.recvfrom,.sendmsg,.recvmsg,.shutdown,.socketpair,.recvmmsg,.epoll_create1,
   .epoll_ctl,.epoll_wait,.epoll_pwait,.eventfd2,.timerfd_create,.timerfd_settime,.timerfd_gettime,.clone,
   .clone3,.futex,.set_robust_list,.get_robust_list,.set_tid_address,.rseq,.exit_group,.exit,.getpid,
   .gettid,.getppid,.getuid,.getgid,.geteuid,.getegid,.tgkill,.rt_sigaction,.rt_sigprocmask,.rt_sigreturn,
   .sigaltstack,.clock_gettime,.clock_nanosleep,.nanosleep,.gettimeofday,.getrandom,.prctl,.pipe2,.uname,
   .sched_getaffinity,.sched_yield,.fsync,.fdatasync]

/-- The forwarder is a byte pipe and serves nobody. -/
def nmSyscalls (arch : Arch) : List Sys := List.filter (builtFor arch)
  [.read,.write,.pread64,.pwrite64,.readv,.writev,.close,.dup,.fcntl,.lseek,.openat,.fstat,.newfstatat,
   .access,.mmap,.munmap,.mprotect,.brk,.madvise,.arch_prctl,.prlimit64,.poll,.socket,.connect,
   .getsockname,.setsockopt,.getsockopt,.sendmsg,.recvmsg,.epoll_create1,.epoll_ctl,.epoll_wait,.eventfd2,
   .clone,.clone3,.futex,.set_robust_list,.get_robust_list,.set_tid_address,.rseq,.exit_group,.exit,.getpid,
   .getppid,.gettid,.getuid,.getgid,.geteuid,.getegid,.tgkill,.rt_sigaction,.rt_sigprocmask,.rt_sigreturn,
   .sigaltstack,.clock_gettime,.clock_nanosleep,.nanosleep,.getrandom,.prctl,.pipe2,.uname,
   .sched_getaffinity,.sched_yield]

def seccompRetKillProcess : UInt32 := 0x80000000
def seccompRetAllow : UInt32 := 0x7FFF0000
def seccompDataNrOffset : UInt32 := 0
def seccompDataArchOffset : UInt32 := 4

/-- `nr as u32` of a signed call number. -/
def asU32 (nr : Int) : UInt32 := UInt32.ofInt nr

def buildFilter (arch : Arch) (syscalls : List Int) : List SockFilter :=
  [bpfStmt (bpfLd ||| bpfW ||| bpfAbs) seccompDataArchOffset,
   bpfJump (bpfJmp ||| bpfJeq) (auditArch arch) 1 0,
   bpfStmt (bpfRet ||| bpfK) seccompRetKillProcess,
   bpfStmt (bpfLd ||| bpfW ||| bpfAbs) seccompDataNrOffset] ++
  syscalls.flatMap (fun nr => [bpfJump (bpfJmp ||| bpfJeq) (asU32 nr) 0 1,bpfStmt (bpfRet ||| bpfK) seccompRetAllow]) ++
  [bpfStmt (bpfRet ||| bpfK) seccompRetKillProcess]

/-- The record the kernel hands a filter: sixteen words, the call number and the architecture first. -/
structure SeccompData where
  words : Fin 16 → UInt32

def SeccompData.nr (data : SeccompData) : UInt32 := data.words 0
def SeccompData.arch (data : SeccompData) : UInt32 := data.words 1

/-- Loads are aligned and stay inside the record. -/
def readable (offset : UInt32) : Bool := decide (offset.toNat % 4 = 0 ∧ offset.toNat < 64)

def SeccompData.load (data : SeccompData) (offset : UInt32) : Option UInt32 :=
  if readable offset then some (data.words (Fin.ofNat 16 (offset.toNat / 4))) else none

/-- What the process runs under afterwards. The length field has sixteen bits, so the kernel sees a prefix of a longer
    filter; a filter it does not accept ends the process. -/
def applySeccompFilter (arch : Arch) (syscalls : List Int) : Option (List SockFilter) :=
  let filter := buildFilter arch syscalls
  let prog := filter.take (filter.length % 2 ^ 16)
  if check readable prog then some prog else none

section Build

variable (arch : Arch) (syscalls : List Int)

theorem build_table : buildFilter arch syscalls =
    bpfStmt (bpfLd ||| bpfW ||| bpfAbs) seccompDataArchOffset ::
    bpfJump (bpfJmp ||| bpfJeq) (auditArch arch) 1 0 ::
    bpfStmt (bpfRet ||| bpfK) seccompRetKillProcess ::
    bpfStmt (bpfLd ||| bpfW ||| bpfAbs) seccompDataNrOffset ::
    ((syscalls.map asU32).flatMap (entry seccompRetAllow) ++ [bpfStmt (bpfRet ||| bpfK) seccompRetKillProcess]) := by
  simp [buildFilter,entry,List.flatMap_map]

theorem build_length : (buildFilter arch syscalls).length = 2 * syscalls.length + 5 := by
  rw [build_table]
  simp only [List.length_cons,List.length_append,length_table,List.length_map,List.length_nil]

/-- The filter's meaning: kill on a foreign architecture, then look the number up. -/
theorem build_verdict (data : SeccompData) : verdict data.load (buildFilter arch syscalls) =
    some (if data.arch = auditArch arch ∧ data.nr ∈ syscalls.map asU32 then seccompRetAllow
      else seccompRetKillProcess) := by
  have readsArch : data.load seccompDataArchOffset = some data.arch := rfl
  have readsNr : data.load seccompDataNrOffset = some data.nr := rfl
  rw [verdict,build_table,exec_load _ (decode_load _),readsArch,Option.bind_some,exec_jeq _ (decode_jeq _ _ _)]
  by_cases native : data.arch = auditArch arch
  · have past : (1 : UInt8).toNat = 0 + 1 := rfl
    rw [if_pos native,past,exec_skip,exec_load _ (decode_load _),readsNr,Option.bind_some,exec_table]
    by_cases listed : data.nr ∈ syscalls.map asU32
    · simp [native,listed]
    · rw [if_neg listed,exec_ret _ (decode_ret _)]
      simp [listed]
  · have here : (0 : UInt8).toNat = 0 := rfl
    rw [if_neg native,here,exec_ret _ (decode_ret _)]
    simp [native]

theorem build_fits : fits readable (buildFilter arch syscalls) := by
  have body : fits readable ((syscalls.map asU32).flatMap (entry seccompRetAllow) ++
      [bpfStmt (bpfRet ||| bpfK) seccompRetKillProcess]) := by
    rw [fits_table _ _ _ _ (by simp)]
    simp [fits]
  have readsArch : readable seccompDataArchOffset = true := by decide
  have readsNr : readable seccompDataNrOffset = true := by decide
  rw [build_table]
  simp only [fits,decode_load,decode_jeq,decode_ret,body,readsArch,readsNr]
  simp

theorem build_ends : (buildFilter arch syscalls).getLast?.any SockFilter.isVerdict := by
  rw [buildFilter,List.getLast?_concat]
  rfl

/-- A filter cut short of its whole length ends in a test or jumps past its end, and the kernel refuses it. -/
theorem cut_refused (length : Nat) (odd : length % 2 = 1) (short : length < (buildFilter arch syscalls).length) :
    check readable ((buildFilter arch syscalls).take length) = false := by
  have bound := build_length arch syscalls
  match length,odd,short with
  | 1,_,_ => simp [build_table,check,SockFilter.isVerdict]
  | 3,_,_ => simp [build_table,check,fits]
  | n + 5,odd,short =>
    have even : n = 2 * (n / 2) := by omega
    obtain ⟨key,found⟩ := table_even seccompRetAllow (syscalls.map asU32)
      [bpfStmt (bpfRet ||| bpfK) seccompRetKillProcess] (n / 2) (by rw [List.length_map]; omega)
    have last : ((buildFilter arch syscalls).take (n + 5)).getLast? =
        some (bpfJump (bpfJmp ||| bpfJeq) key 0 1) := by
      rw [List.getLast?_eq_getElem?,List.length_take,Nat.min_eq_left (by omega),
        List.getElem?_take_of_lt (by omega),build_table]
      have index : n + 5 - 1 = 2 * (n / 2) + 1 + 1 + 1 + 1 := by omega
      rw [index]
      simpa using found
    simp [check,last,SockFilter.isVerdict]

/-- The kernel gets the whole filter and takes it. -/
theorem apply_few (few : syscalls.length ≤ 2045) :
    applySeccompFilter arch syscalls = some (buildFilter arch syscalls) := by
  have bound := build_length arch syscalls
  have whole : (buildFilter arch syscalls).take ((buildFilter arch syscalls).length % 2 ^ 16) =
      buildFilter arch syscalls := by
    rw [Nat.mod_eq_of_lt (by omega),List.take_length]
  have accepted : check readable (buildFilter arch syscalls) = true := by
    rw [check,build_fits,build_ends,bound]
    simp [maxInsns]
    omega
  simp only [applySeccompFilter,whole,accepted,if_true]

/-- Too long a filter is refused whole, and one too long for the length field is refused for what is left of it. -/
theorem apply_many (many : 2045 < syscalls.length) : applySeccompFilter arch syscalls = none := by
  have bound := build_length arch syscalls
  have refused : check readable ((buildFilter arch syscalls).take ((buildFilter arch syscalls).length % 2 ^ 16)) =
      false := by
    by_cases fitsField : (buildFilter arch syscalls).length < 2 ^ 16
    · rw [Nat.mod_eq_of_lt fitsField,List.take_length]
      have long : ¬(buildFilter arch syscalls).length ≤ maxInsns := by
        rw [bound,maxInsns]
        omega
      simp [check,long]
    · apply cut_refused
      · omega
      · omega
  simp only [applySeccompFilter,refused]
  rfl

end Build

/-! ### What the process may do -/

/-- Either the process is ended before it serves anything, which happens exactly for lists of more than 2045 calls, or
    from then on a system call passes if it is made on the built architecture and its number is in the list, and every
    other one kills the process. -/
theorem filter_confines (arch : Arch) (syscalls : List Int) :
    match applySeccompFilter arch syscalls with
    | none => 2045 < syscalls.length
    | some prog => syscalls.length ≤ 2045 ∧ ∀ data : SeccompData, verdict data.load prog =
        some (if data.arch = auditArch arch ∧ data.nr ∈ syscalls.map asU32 then seccompRetAllow
          else seccompRetKillProcess) := by
  by_cases few : syscalls.length ≤ 2045
  · rw [apply_few arch syscalls few]
    exact ⟨few,build_verdict arch syscalls⟩
  · rw [apply_many arch syscalls (by omega)]
    simpa using few

/-- Numbers as the headers give them: no two calls share one in the word that the filter compares. -/
structure Numbering where
  number : Sys → Int
  distinct : ∀ a b, asU32 (number a) = asU32 (number b) → a = b

/-- A list of named calls lets exactly these pass. -/
theorem calls_pass_iff (arch : Arch) (numbering : Numbering) (calls : List Sys) (few : calls.length ≤ 2045)
    (data : SeccompData) (native : data.arch = auditArch arch) (call : Sys)
    (made : data.nr = asU32 (numbering.number call)) :
    (applySeccompFilter arch (calls.map numbering.number)).bind (verdict data.load) = some seccompRetAllow ↔
      call ∈ calls := by
  have listed : data.nr ∈ (calls.map numbering.number).map asU32 ↔ call ∈ calls := by
    rw [made]
    constructor
    · intro found
      obtain ⟨nr,inNumbers,same⟩ := List.mem_map.mp found
      obtain ⟨other,inList,rfl⟩ := List.mem_map.mp inNumbers
      rwa [← numbering.distinct other call same]
    · intro inList
      exact List.mem_map.mpr ⟨_,List.mem_map.mpr ⟨call,inList,rfl⟩,rfl⟩
  have differ : seccompRetKillProcess ≠ seccompRetAllow := by decide
  rw [apply_few _ _ (by simpa using few),Option.bind_some,build_verdict]
  by_cases inList : call ∈ calls
  · rw [if_pos ⟨native,listed.mpr inList⟩]
    simp [inList]
  · rw [if_neg (fun passes => inList (listed.mp passes.2))]
    simp [inList,differ]

/-- The forwarder's process gets nothing the daemon's does not, and not what it takes to serve or to drive a device. -/
theorem forwarder_within_daemon (arch : Arch) :
    nmSyscalls arch ⊆ daemonSyscalls arch ∧
    ∀ call ∈ [Sys.bind,.listen,.accept4,.ioctl,.unlink,.mkdir,.chmod], call ∈ daemonSyscalls arch ∧
      call ∉ nmSyscalls arch := by
  cases arch <;> decide

end FFWebHid.SeccompFilter
