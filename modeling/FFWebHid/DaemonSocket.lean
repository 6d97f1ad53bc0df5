import Mathlib
import FFWebHid.Retries

/-! How the forwarder finds the daemon and each checks the other on Linux: the paths of the socket, the attempts to
connect, and the credentials that either side accepts. -/

namespace FFWebHid.DaemonSocket
open FFWebHid.Retries

abbrev Text := List Char

/-- A process: its user and the variables of its environment that decide the path. -/
structure Process where
  uid : Nat
  euid : Nat
  webhidSocket : Option Text := none
  xdgRuntimeDir : Option Text := none
  deriving DecidableEq,Repr

def overridePath (p : Process) : Option Text := p.webhidSocket.filter (· ≠ [])

def rootAbstractSocket : Text := "@webhid".toList
def rootFsSocket : Text := "/run/webhid/webhid.sock".toList

def isAbsolute (dir : Text) : Bool := dir.head? == some '/'

/-- The variable is taken only if it is an absolute path without `..`. -/
def userSocket (p : Process) : Text :=
  match p.xdgRuntimeDir.filter (fun dir => isAbsolute dir && !decide (['.','.'] <:+: dir)) with
  | some dir => dir ++ "/webhid/webhid.sock".toList
  | none => "/run/user/".toList ++ Nat.toDigits 10 p.uid ++ "/webhid/webhid.sock".toList

def daemonSocketPath (p : Process) : Text :=
  match overridePath p with
  | some path => path
  | none => if p.euid = 0 then rootAbstractSocket else userSocket p

def forwarderSocketCandidates (p : Process) : List Text :=
  match overridePath p with
  | some path => [path]
  | none => [rootAbstractSocket,userSocket p,rootFsSocket]

/-- The credentials of the other end of a socket. -/
structure Cred where
  uid : Nat
  gid : Nat
  pid : Option Nat
  deriving DecidableEq,Repr

/-- A connected socket, whose credentials may be out of reach. -/
structure UnixStream where
  peerCred : Option Cred
  deriving DecidableEq,Repr

/-- Why no candidate was taken; without candidates there is nothing to report and the source would panic. -/
inductive ConnectError where
  | io (message : String)
  | permissionDenied
  | noCandidate
  deriving DecidableEq,Repr

def verifyDaemonPeer (me : Process) (stream : UnixStream) : Bool :=
  match stream.peerCred with
  | some cred => cred.uid == 0 || cred.uid == me.euid
  | none => false

/-- `lastErr` is what the candidates before came to. -/
def tryConnect (me : Process) (connectToPath : Text → Except String UnixStream) :
    List Text → ConnectError → Except ConnectError (UnixStream × Text)
  | [],lastErr => .error lastErr
  | path :: rest,_ =>
    match connectToPath path with
    | .ok stream =>
      if verifyDaemonPeer me stream then .ok (stream,path) else tryConnect me connectToPath rest .permissionDenied
    | .error message => tryConnect me connectToPath rest (.io message)

def tryConnectCandidates (me : Process) (connectToPath : Text → Except String UnixStream) (candidates : List Text) :
    Except ConnectError (UnixStream × Text) := tryConnect me connectToPath candidates .noCandidate

def connectTimeoutMs : Nat := 5000

/-- `connect_to_daemon`; what is behind the paths may change from one attempt to the next. -/
def connectToDaemon (me : Process) (connectToPath : Nat → Text → Except String UnixStream) :
    Outcome (UnixStream × Text) ConnectError :=
  retry connectTimeoutMs 2000 (by decide)
    (fun n => tryConnectCandidates me (connectToPath n) (forwarderSocketCandidates me)) 0 100 0 (by decide)

@[simp] theorem overridePath_congr {p q : Process} (same : p.webhidSocket = q.webhidSocket) :
    overridePath p = overridePath q := by
  rw [overridePath,overridePath,same]

theorem userSocket_congr {p q : Process} (user : p.uid = q.uid) (dir : p.xdgRuntimeDir = q.xdgRuntimeDir) :
    userSocket p = userSocket q := by
  rw [userSocket,userSocket,user,dir]

/-- The daemon that `me` looks for: that of the system or that of the same user. -/
structure Serves (daemon me : Process) : Prop where
  override : daemon.webhidSocket = me.webhidSocket
  user : daemon.euid = 0 ∨
    (daemon.euid = me.euid ∧ daemon.uid = me.uid ∧ daemon.xdgRuntimeDir = me.xdgRuntimeDir)

/-- Where the daemon listens is one of the places where the forwarder looks. -/
theorem Serves.candidate {daemon me : Process} (serves : Serves daemon me) :
    daemonSocketPath daemon ∈ forwarderSocketCandidates me := by
  have same := overridePath_congr serves.override
  unfold daemonSocketPath forwarderSocketCandidates
  rw [same]
  cases overridePath me with
  | some path => simp
  | none =>
    by_cases root : daemon.euid = 0
    · simp [root]
    · obtain ⟨-,user,dir⟩ := serves.user.resolve_left root
      simp [root,userSocket_congr user dir]

theorem candidates_ne_nil (me : Process) : forwarderSocketCandidates me ≠ [] := by
  unfold forwarderSocketCandidates
  cases overridePath me <;> simp

@[simp] theorem verifyDaemonPeer_iff {me : Process} {stream : UnixStream} :
    verifyDaemonPeer me stream = true ↔ ∃ cred, stream.peerCred = some cred ∧ (cred.uid = 0 ∨ cred.uid = me.euid) := by
  cases known : stream.peerCred <;> simp [verifyDaemonPeer,known]

theorem Serves.verified {daemon me : Process} (serves : Serves daemon me) {gid : Nat} {pid : Option Nat} :
    verifyDaemonPeer me ⟨some ⟨daemon.euid,gid,pid⟩⟩ = true := by
  rcases serves.user with root | ⟨same,-⟩
  · simp [root]
  · simp [same]

/-- What one pass over the candidates may come to. -/
inductive Finds (me : Process) (connectToPath : Text → Except String UnixStream) (candidates : List Text) :
    Except ConnectError (UnixStream × Text) → Prop where
  | taken (stream : UnixStream) (path : Text) : path ∈ candidates → connectToPath path = .ok stream →
    verifyDaemonPeer me stream = true → Finds me connectToPath candidates (.ok (stream,path))
  | refused (e : ConnectError) :
    (∀ path ∈ candidates, ∀ stream, connectToPath path = .ok stream → verifyDaemonPeer me stream = false) →
    Finds me connectToPath candidates (.error e)

/-- A candidate that cannot be taken leaves the others. -/
theorem Finds.cons {me : Process} {connectToPath : Text → Except String UnixStream} {path : Text} {rest : List Text}
    {result : Except ConnectError (UnixStream × Text)} (found : Finds me connectToPath rest result)
    (refused : ∀ stream, connectToPath path = .ok stream → verifyDaemonPeer me stream = false) :
    Finds me connectToPath (path :: rest) result := by
  cases found with
  | taken stream other among came verified => exact .taken stream other (List.mem_cons_of_mem _ among) came verified
  | refused e others =>
    apply Finds.refused e
    intro other among
    rcases List.mem_cons.mp among with rfl | among
    · exact refused
    · exact others other among

theorem tryConnect_finds (me : Process) (connectToPath : Text → Except String UnixStream) (candidates : List Text)
    (lastErr : ConnectError) : Finds me connectToPath candidates (tryConnect me connectToPath candidates lastErr) := by
  induction candidates generalizing lastErr with
  | nil => exact .refused lastErr (by simp)
  | cons path rest ih =>
    cases came : connectToPath path with
    | error message =>
      rw [tryConnect,came]
      apply (ih (.io message)).cons
      intro stream reached
      rw [came] at reached
      cases reached
    | ok stream =>
      rw [tryConnect,came]
      by_cases verified : verifyDaemonPeer me stream = true
      · simp only [if_pos verified]
        exact .taken stream path List.mem_cons_self came verified
      · simp only [if_neg verified]
        apply (ih .permissionDenied).cons
        intro other reached
        rw [came] at reached
        cases reached
        exact Bool.eq_false_iff.mpr verified

/-- With a candidate there is an error to report. -/
theorem tryConnect_reports {me : Process} {connectToPath : Text → Except String UnixStream} {candidates : List Text}
    {lastErr e : ConnectError} (some : candidates ≠ [] ∨ lastErr ≠ .noCandidate)
    (failed : tryConnect me connectToPath candidates lastErr = .error e) : e ≠ .noCandidate := by
  induction candidates generalizing lastErr with
  | nil =>
    cases failed
    exact some.resolve_left (by simp)
  | cons path rest ih =>
    rw [tryConnect] at failed
    split at failed
    · split at failed
      · cases failed
      · exact ih (.inr (by simp)) failed
    · exact ih (.inr (by simp)) failed

/-- The waits when no attempt succeeds. -/
theorem schedule_connect :
    schedule connectTimeoutMs 2000 (by decide) 100 0 (by decide) = [100,200,400,800,1600,2000] := by
  simp [connectTimeoutMs,schedule]

/-- The attempts before the last one fail, and the last is the one that succeeds or the seventh. -/
theorem connect_spec (me : Process) (connectToPath : Nat → Text → Except String UnixStream) :
    ∃ k, k ≤ 6 ∧ (connectToDaemon me connectToPath).waits = List.take k [100,200,400,800,1600,2000] ∧
      (connectToDaemon me connectToPath).result =
        tryConnectCandidates me (connectToPath k) (forwarderSocketCandidates me) ∧
      (∀ j < k, ∃ e, tryConnectCandidates me (connectToPath j) (forwarderSocketCandidates me) = .error e) ∧
      (k = 6 ∨ ∃ found, tryConnectCandidates me (connectToPath k) (forwarderSocketCandidates me) = .ok found) := by
  have spec := @retry_spec _ _ connectTimeoutMs 2000 (by decide)
    (fun n => tryConnectCandidates me (connectToPath n) (forwarderSocketCandidates me)) 0 100 0 (by decide)
  rw [schedule_connect] at spec
  simp only [Nat.zero_add] at spec
  exact spec

/-- What the forwarder relies on when it looks for the daemon. -/
structure MeetsDaemon (me : Process) (connectToPath : Nat → Text → Except String UnixStream)
    (outcome : Outcome (UnixStream × Text) ConnectError) : Prop where
  trusted : ∀ stream path, outcome.result = .ok (stream,path) → path ∈ forwarderSocketCandidates me ∧
    (∃ n, n ≤ 6 ∧ connectToPath n path = .ok stream) ∧
    ∃ cred, stream.peerCred = some cred ∧ (cred.uid = 0 ∨ cred.uid = me.euid)
  inTime : outcome.waits <+: [100,200,400,800,1600,2000]
  patient : ∀ e, outcome.result = .error e → e ≠ .noCandidate ∧ connectTimeoutMs ≤ outcome.waits.sum
  met : ∀ daemon gid pid n, Serves daemon me → n ≤ 6 →
    connectToPath n (daemonSocketPath daemon) = .ok ⟨some ⟨daemon.euid,gid,pid⟩⟩ → ∃ found, outcome.result = .ok found

/-- The forwarder ends up with a daemon of the system or of its own user, or gives up after all waits. A daemon that
    answers at one of the attempts is enough: sockets that others put in its place are passed over. -/
theorem forwarder_meets_daemon (me : Process) (connectToPath : Nat → Text → Except String UnixStream) :
    MeetsDaemon me connectToPath (connectToDaemon me connectToPath) := by
  obtain ⟨k,within,waits,result,failed,last⟩ := connect_spec me connectToPath
  have finds := tryConnect_finds me (connectToPath k) (forwarderSocketCandidates me) .noCandidate
  refine ⟨?_,?_,?_,?_⟩
  · intro stream path ok
    rw [result,tryConnectCandidates] at ok
    rw [ok] at finds
    cases finds with
    | taken _ _ among came verified => exact ⟨among,⟨k,within,came⟩,verifyDaemonPeer_iff.mp verified⟩
  · rw [waits]
    apply List.take_prefix
  · intro e gaveUp
    rw [result] at gaveUp
    refine ⟨tryConnect_reports (.inl (candidates_ne_nil me)) gaveUp,?_⟩
    rcases last with rfl | ⟨found,ok⟩
    · have reached := @limit_le_schedule connectTimeoutMs 2000 (by decide) 100 0 (by decide)
      rw [schedule_connect,Nat.zero_add] at reached
      rw [waits]
      exact reached
    · rw [ok] at gaveUp
      cases gaveUp
  · intro daemon gid pid n serves early answers
    -- the attempt at which the daemon answers takes it or a candidate before it
    have met : ∃ found, tryConnectCandidates me (connectToPath n) (forwarderSocketCandidates me) = .ok found := by
      have attempt := tryConnect_finds me (connectToPath n) (forwarderSocketCandidates me) .noCandidate
      rw [tryConnectCandidates]
      cases came : tryConnect me (connectToPath n) (forwarderSocketCandidates me) .noCandidate with
      | ok found => exact ⟨found,rfl⟩
      | error e =>
        rw [came] at attempt
        cases attempt with
        | refused _ refused =>
          have no := refused _ serves.candidate _ answers
          rw [serves.verified] at no
          cases no
    rw [result]
    by_cases before : n < k
    · obtain ⟨found,ok⟩ := met
      obtain ⟨e,gaveUp⟩ := failed n before
      rw [ok] at gaveUp
      cases gaveUp
    · rcases last with rfl | ok
      · obtain rfl : n = 6 := by omega
        exact met
      · exact ok

/-! ### The daemon -/

/-- The blanks of `split_whitespace`. -/
def isWhitespace (c : Char) : Bool :=
  (0x9 ≤ c.toNat && c.toNat ≤ 0xd) || c.toNat == 0x20 || c.toNat == 0x85 || c.toNat == 0xa0 || c.toNat == 0x1680 ||
    (0x2000 ≤ c.toNat && c.toNat ≤ 0x200a) || c.toNat == 0x2028 || c.toNat == 0x2029 || c.toNat == 0x202f ||
    c.toNat == 0x205f || c.toNat == 0x3000

/-- `split_whitespace`, after the characters `word` of a word, the last first. -/
def splitWhitespaceFrom : Text → Text → List Text
  | word,[] => if word = [] then [] else [word.reverse]
  | word,c :: rest =>
    if isWhitespace c then
      if word = [] then splitWhitespaceFrom [] rest else word.reverse :: splitWhitespaceFrom [] rest
    else splitWhitespaceFrom (c :: word) rest

def splitWhitespace (text : Text) : List Text := splitWhitespaceFrom [] text

def unsigned : Text → Text
  | '+' :: digits => digits
  | digits => digits

/-- `parse` of a group: digits, with a plus in front or not. -/
def parseGid (text : Text) : Option Nat :=
  let digits := unsigned text
  if digits ≠ [] ∧ digits.all Char.isDigit = true ∧ Nat.ofDigitChars 10 digits 0 < 2 ^ 32 then
    some (Nat.ofDigitChars 10 digits 0)
  else none

def stripPrefix (start text : Text) : Option Text := if start.isPrefixOf text then some (text.drop start.length) else none

def groupsPrefix : Text := "Groups:\t".toList

/-- The lines of the status of a process; one that cannot be read is passed over. -/
def checkSupplementaryGroups (targetGid : Nat) : List (Option Text) → Bool
  | [] => false
  | none :: rest => checkSupplementaryGroups targetGid rest
  | some line :: rest =>
    match stripPrefix groupsPrefix line with
    | some groups => (splitWhitespace groups).any (fun gid => parseGid gid == some targetGid)
    | none => checkSupplementaryGroups targetGid rest

/-- `verify_peer`, with the group of the daemon if there is one and the status of each process if it can be opened. -/
def verifyPeer (webhidGid : Option Nat) (status : Nat → Option (List (Option Text))) (stream : UnixStream) : Bool :=
  match stream.peerCred,webhidGid with
  | some cred,some targetGid =>
    if cred.gid = targetGid then true
    else
      match cred.pid with
      | some pid =>
        match status pid with
        | some lines => checkSupplementaryGroups targetGid lines
        | none => false
      | none => false
  | _,_ => false

theorem splitWhitespaceFrom_word (before word rest : Text) (some : before ≠ [] ∨ word ≠ [])
    (plain : ∀ c ∈ word, isWhitespace c = false) :
    splitWhitespaceFrom before (word ++ ' ' :: rest) = (before.reverse ++ word) :: splitWhitespaceFrom [] rest := by
  induction word generalizing before with
  | nil =>
    have blank : isWhitespace ' ' = true := by decide
    have begun := some.resolve_right (by simp)
    simp [splitWhitespaceFrom,blank,begun]
  | cons c word ih =>
    obtain ⟨first,others⟩ := List.forall_mem_cons.mp plain
    have step := ih (c :: before) (.inl (by simp)) others
    simp [splitWhitespaceFrom,first,step]

theorem digit_range {c : Char} (digit : c.isDigit = true) : 48 ≤ c.toNat ∧ c.toNat ≤ 57 := by
  simpa [Char.isDigit,UInt32.le_iff_toNat_le] using digit

theorem isWhitespace_digit {c : Char} (digit : c.isDigit = true) : isWhitespace c = false := by
  have range := digit_range digit
  simp only [isWhitespace,Bool.or_eq_false_iff,Bool.and_eq_false_iff,decide_eq_false_iff_not,beq_eq_false_iff_ne]
  omega

theorem unsigned_eq {text : Text} (plain : '+' ∉ text) : unsigned text = text := by
  unfold unsigned
  split
  · exact absurd List.mem_cons_self plain
  · rfl

/-- A group comes back from its digits. -/
theorem parseGid_toDigits {gid : Nat} (bounded : gid < 2 ^ 32) : parseGid (Nat.toDigits 10 gid) = some gid := by
  have digits : ∀ c ∈ Nat.toDigits 10 gid, c.isDigit = true := by
    intro c among
    exact Nat.isDigit_of_mem_toDigits (by omega) (by omega) among
  have back : Nat.ofDigitChars 10 (Nat.toDigits 10 gid) 0 = gid := Nat.ofDigitChars_ten_toDigits
  have same : unsigned (Nat.toDigits 10 gid) = Nat.toDigits 10 gid := by
    apply unsigned_eq
    intro plus
    have digit := digits '+' plus
    revert digit
    decide
  simp only [parseGid,same]
  rw [back,if_pos]
  exact ⟨Nat.toDigits_ne_nil,List.all_eq_true.mpr digits,bounded⟩

/-- The line of the groups in the status of a process, as the kernel writes it. -/
def groupsLine (groups : List Nat) : Text := groupsPrefix ++ groups.flatMap (fun gid => Nat.toDigits 10 gid ++ [' '])

theorem splitWhitespace_groups (groups : List Nat) :
    splitWhitespace (groups.flatMap (fun gid => Nat.toDigits 10 gid ++ [' '])) = groups.map (Nat.toDigits 10) := by
  induction groups with
  | nil => rfl
  | cons gid groups ih =>
    have word := splitWhitespaceFrom_word [] (Nat.toDigits 10 gid)
      (groups.flatMap (fun gid => Nat.toDigits 10 gid ++ [' '])) (.inr Nat.toDigits_ne_nil)
      (fun c among => isWhitespace_digit (Nat.isDigit_of_mem_toDigits (by omega) (by omega) among))
    rw [splitWhitespace] at ih ⊢
    simp only [List.flatMap_cons,List.append_assoc,List.singleton_append,List.map_cons]
    rw [word,ih,List.reverse_nil,List.nil_append]

@[simp] theorem stripPrefix_append (start text : Text) : stripPrefix start (start ++ text) = some text := by
  simp [stripPrefix]

/-- The first line of the groups decides, whatever comes after it. -/
theorem checkSupplementaryGroups_iff {targetGid : Nat} {before after : List (Option Text)} {groups : List Nat}
    (plain : ∀ line, some line ∈ before → stripPrefix groupsPrefix line = none) (bounded : ∀ gid ∈ groups, gid < 2 ^ 32) :
    checkSupplementaryGroups targetGid (before ++ some (groupsLine groups) :: after) = true ↔ targetGid ∈ groups := by
  induction before with
  | nil =>
    have read : ∀ gid ∈ groups, parseGid (Nat.toDigits 10 gid) = some gid := by
      intro gid among
      exact parseGid_toDigits (bounded gid among)
    simp only [List.nil_append,checkSupplementaryGroups,groupsLine,stripPrefix_append,splitWhitespace_groups,List.any_map,
      List.any_eq_true,Function.comp_apply,beq_iff_eq]
    constructor
    · rintro ⟨gid,among,same⟩
      rw [read gid among] at same
      cases same
      exact among
    · intro among
      exact ⟨targetGid,among,read targetGid among⟩
  | cons line before ih =>
    have rest := ih (fun other among => plain other (List.mem_cons_of_mem _ among))
    cases line with
    | none => simpa [checkSupplementaryGroups] using rest
    | some line =>
      have passed := plain line List.mem_cons_self
      simpa [checkSupplementaryGroups,passed] using rest

/-- A process that is running, and its status as the kernel shows it. -/
structure Member where
  cred : Cred
  groups : List Nat
  before : List (Option Text)
  after : List (Option Text)
  bounded : ∀ gid ∈ groups, gid < 2 ^ 32
  plain : ∀ line, some line ∈ before → stripPrefix groupsPrefix line = none

def Member.lines (m : Member) : List (Option Text) := m.before ++ some (groupsLine m.groups) :: m.after

/-- The daemon takes exactly the members of its group; without a group, or without the credentials, it takes nobody. -/
theorem members_get_in (webhidGid : Option Nat) (status : Nat → Option (List (Option Text))) (m : Member) (pid : Nat)
    (known : m.cred.pid = some pid) (shown : status pid = some m.lines) :
    (verifyPeer webhidGid status ⟨some m.cred⟩ = true ↔
      ∃ gid, webhidGid = some gid ∧ (m.cred.gid = gid ∨ gid ∈ m.groups)) ∧
    verifyPeer webhidGid status ⟨none⟩ = false := by
  refine ⟨?_,rfl⟩
  cases webhidGid with
  | none => simp [verifyPeer]
  | some targetGid =>
    have groups := @checkSupplementaryGroups_iff targetGid m.before m.after m.groups m.plain m.bounded
    by_cases primary : m.cred.gid = targetGid
    · simp [verifyPeer,primary]
    · simp [verifyPeer,primary,known,shown,Member.lines,groups]

theorem some_bounded : ∀ gid ∈ [24,1000,987], gid < 2 ^ 32 := by simp

theorem name_plain (line : Text) (among : some line ∈ [some "Name:\twebhid-native-m".toList,none]) :
    stripPrefix groupsPrefix line = none := by
  simp only [List.mem_cons,List.not_mem_nil,or_false,Option.some.injEq,reduceCtorEq] at among
  subst among
  decide

/-- The status of a process whose groups come after one line that cannot be read. -/
def someMember : Member where
  cred := ⟨1000,1000,some 77⟩
  groups := [24,1000,987]
  before := [some "Name:\twebhid-native-m".toList,none]
  after := [some "NStgid:\t77".toList]
  bounded := some_bounded
  plain := name_plain

theorem supplementary_member_gets_in :
    (verifyPeer (some 987) (fun _ => some someMember.lines) ⟨some someMember.cred⟩ = true ↔
      ∃ gid, some 987 = some gid ∧ (someMember.cred.gid = gid ∨ gid ∈ someMember.groups)) ∧
    verifyPeer (some 987) (fun _ => some someMember.lines) ⟨none⟩ = false :=
  members_get_in (some 987) (fun _ => some someMember.lines) someMember 77 rfl rfl

end FFWebHid.DaemonSocket
