import FFWebHid.NativeMessages
import FFWebHid.Writers

/-!
The forwarder between the browser's native messaging pipes and the daemon's
socket: frames are read whole, and each is written with its length in one
vectored write. What the destination does not take of that write is not
written again.
-/
namespace FFWebHid.Forwarders
open FFWebHid.LittleEndian FFWebHid.Writers
open FFWebHid.NativeMessages (maxNmFrame)

/-- What `read_frame` makes of the input that is left. -/
inductive Read where
  | eof
  | frame (body rest : List UInt8)
  | tooLarge (len : Nat)
  | cut

def readFrame (input : List UInt8) : Read :=
  match readLe 4 input with
  | none => .eof
  | some (len,rest) =>
    if maxNmFrame < len then .tooLarge len
    else
      match readExact len rest with
      | none => .cut
      | some (body,rest) => .frame body rest

/-- Why a direction ends. -/
inductive Exit where
  | eof
  | readError
  | writeError
  | flushError
deriving DecidableEq

/-- The length in front of a body. -/
def lenBytes (body : List UInt8) : List UInt8 := toLe 4 (if body.length < 2 ^ 32 then body.length else 0)

theorem readFrame_rest {input body rest : List UInt8} (read : readFrame input = .frame body rest) :
    rest.length < input.length := by
  unfold readFrame at read
  split at read
  · cases read
  · rename_i len left prefixRead
    have shorter := readLe_shorter prefixRead
    split at read
    · cases read
    · split at read
      · cases read
      · rename_i bodyRead
        cases read
        have left := readExact_shorter bodyRead
        omega

variable {σ : Type}

/-- One direction: frames go from the input to the destination until one of them fails. -/
def forward (w : Writer σ) (input : List UInt8) (s : σ) : Exit × σ :=
  match _read : readFrame input with
  | .eof => (.eof,s)
  | .tooLarge _ => (.readError,s)
  | .cut => (.readError,s)
  | .frame body rest =>
    match w.writeVectored s [lenBytes body,body] with
    | (none,s) => (.writeError,s)
    | (some _,s) =>
      match w.flush s with
      | (none,s) => (.flushError,s)
      | (some (),s) => forward w rest s
termination_by input.length
decreasing_by exact readFrame_rest _read

def forwardStdinToDaemon (daemon_w : Writer σ) (stdin : List UInt8) (s : σ) : Exit × σ := forward daemon_w stdin s

def forwardDaemonToStdout (stdout : Writer σ) (daemon_r : List UInt8) (s : σ) : Exit × σ := forward stdout daemon_r s

/-- What one write takes of a frame. -/
def taken (w : Writer σ) (s : σ) (body : List UInt8) : Option Nat × σ := w.writeVectored s [lenBytes body,body]

/-- The state in which the next frame is written. -/
def after (w : Writer σ) (s : σ) (body : List UInt8) : σ := (w.flush (taken w s body).2).2

/-- The bytes that are sent of some frames: of each, the front that its write takes. -/
def sent (w : Writer σ) : σ → List (List UInt8) → List UInt8
  | _, [] => []
  | s, body :: rest => (prefixed 4 body).take ((taken w s body).1.getD 0) ++ sent w (after w s body) rest

/-- Every write takes its frame whole, with the length in front of it. -/
def TakesWhole (w : Writer σ) : σ → List (List UInt8) → Prop
  | _, [] => True
  | s, body :: rest => (taken w s body).1 = some (prefixed 4 body).length ∧ TakesWhole w (after w s body) rest

theorem maxNmFrame_lt : maxNmFrame < 256 ^ 4 := by decide

theorem readFrame_prefixed {body : List UInt8} (small : body.length ≤ maxNmFrame) (rest : List UInt8) :
    readFrame (prefixed 4 body ++ rest) = .frame body rest := by
  have fits := Nat.lt_of_le_of_lt small maxNmFrame_lt
  rw [readFrame,prefixed,List.append_assoc,readLe_append fits]
  dsimp only
  rw [if_neg (Nat.not_lt.mpr small),readExact_append]

theorem slices_flatten {body : List UInt8} (small : body.length ≤ maxNmFrame) :
    [lenBytes body,body].flatten = prefixed 4 body := by
  have fits : body.length < 2 ^ 32 := Nat.lt_of_le_of_lt small maxNmFrame_lt
  show lenBytes body ++ (body ++ []) = prefixed 4 body
  rw [lenBytes,if_pos fits,List.append_nil,prefixed]

theorem forward_nil (w : Writer σ) (s : σ) : forward w [] s = (.eof,s) := by
  rw [forward]
  rfl

/-- A frame is read, written once and flushed, however much of it is taken. -/
theorem forward_frame {w : Writer σ} (steady : w.Steady) {body : List UInt8} (small : body.length ≤ maxNmFrame)
    (rest : List UInt8) (s : σ) : forward w (prefixed 4 body ++ rest) s = forward w rest (after w s body) := by
  obtain ⟨count,written⟩ := Option.isSome_iff_exists.mp (steady.writes s [lenBytes body,body])
  have flushed := steady.flushes (w.writeVectored s [lenBytes body,body]).2
  rw [forward]
  split
  · rename_i read
    cases (readFrame_prefixed small rest).symm.trans read
  · rename_i read
    cases (readFrame_prefixed small rest).symm.trans read
  · rename_i read
    cases (readFrame_prefixed small rest).symm.trans read
  · rename_i read
    cases (readFrame_prefixed small rest).symm.trans read
    split
    · rename_i failed
      rw [failed] at written
      cases written
    · rename_i ended
      rw [ended] at flushed
      split
      · rename_i failed
        rw [failed] at flushed
        cases flushed
      · rename_i done
        rw [after,taken,ended,done]

theorem after_delivered {w : Writer σ} (steady : w.Steady) {body : List UInt8} (small : body.length ≤ maxNmFrame)
    (s : σ) :
    w.accepted (after w s body) = w.accepted s ++ (prefixed 4 body).take ((taken w s body).1.getD 0) ∧
      w.delivered (after w s body) = w.accepted (after w s body) := by
  obtain ⟨count,written⟩ := Option.isSome_iff_exists.mp (steady.writes s [lenBytes body,body])
  obtain ⟨kept,delivered⟩ := w.flushes (steady.flushes (taken w s body).2)
  have front := (w.takes written).2
  rw [slices_flatten small] at front
  refine ⟨?_,delivered.trans kept.symm⟩
  rw [after,kept,taken,front,written,Option.getD_some]

/-- The frames are read to the end, and of each the front is delivered that its write took. -/
theorem forward_delivered {w : Writer σ} (steady : w.Steady) {frames : List (List UInt8)}
    (small : ∀ body ∈ frames, body.length ≤ maxNmFrame) {s : σ} (fresh : w.delivered s = w.accepted s) :
    (forward w (stream 4 frames) s).1 = .eof ∧
      w.delivered (forward w (stream 4 frames) s).2 = w.delivered s ++ sent w s frames := by
  induction frames generalizing s with
  | nil => simp [stream,forward_nil,sent]
  | cons body rest ih =>
    have front := small body (by simp)
    obtain ⟨accepted,delivered⟩ := after_delivered steady front s
    have next : stream 4 (body :: rest) = prefixed 4 body ++ stream 4 rest := rfl
    rw [next,forward_frame steady front]
    obtain ⟨ended,written⟩ := ih (fun body found => small body (List.mem_cons_of_mem _ found)) delivered
    refine ⟨ended,?_⟩
    rw [written,delivered,accepted,fresh,sent,List.append_assoc]

theorem taken_le {w : Writer σ} {body : List UInt8} (small : body.length ≤ maxNmFrame) (s : σ) :
    (taken w s body).1.getD 0 ≤ (prefixed 4 body).length := by
  cases written : (taken w s body).1 with
  | none => exact Nat.zero_le _
  | some count =>
    have front := (w.takes written).1
    rwa [slices_flatten small] at front

theorem sent_length_le {w : Writer σ} {frames : List (List UInt8)} (small : ∀ body ∈ frames, body.length ≤ maxNmFrame)
    (s : σ) : (sent w s frames).length ≤ (stream 4 frames).length := by
  induction frames generalizing s with
  | nil => simp [sent]
  | cons body rest ih =>
    have tail := ih (fun body found => small body (List.mem_cons_of_mem _ found)) (after w s body)
    have next : stream 4 (body :: rest) = prefixed 4 body ++ stream 4 rest := rfl
    rw [next,sent,List.length_append,List.length_append,List.length_take]
    omega

/-- All is sent just when every write takes its frame whole. -/
theorem sent_eq_iff {w : Writer σ} (steady : w.Steady) {frames : List (List UInt8)}
    (small : ∀ body ∈ frames, body.length ≤ maxNmFrame) (s : σ) :
    sent w s frames = stream 4 frames ↔ TakesWhole w s frames := by
  induction frames generalizing s with
  | nil => simp [sent,stream,TakesWhole]
  | cons body rest ih =>
    have later : ∀ body ∈ rest, body.length ≤ maxNmFrame := fun body found => small body (List.mem_cons_of_mem _ found)
    have short := taken_le (w := w) (small body (by simp)) s
    have tail := sent_length_le (w := w) later (after w s body)
    obtain ⟨count,written⟩ := Option.isSome_iff_exists.mp (steady.writes s [lenBytes body,body])
    change (taken w s body).1 = some count at written
    have next : stream 4 (body :: rest) = prefixed 4 body ++ stream 4 rest := rfl
    rw [written,Option.getD_some] at short
    rw [next,sent,TakesWhole,written,Option.getD_some,Option.some_inj]
    constructor
    · intro whole
      have lengths := congrArg List.length whole
      simp only [List.length_append,List.length_take] at lengths
      have full : count = (prefixed 4 body).length := by omega
      rw [full,List.take_length] at whole
      exact ⟨full,(ih later _).mp (List.append_cancel_left whole)⟩
    · rintro ⟨rfl,whole⟩
      rw [List.take_length,(ih later _).mpr whole]

/-- Either direction delivers exactly the frames it reads just when every write takes
    its frame whole: the rest of a short write is not written again. -/
theorem forwarded_iff {w : Writer σ} (steady : w.Steady) {frames : List (List UInt8)}
    (small : ∀ body ∈ frames, body.length ≤ maxNmFrame) {s : σ} (fresh : w.delivered s = w.accepted s) :
    (w.delivered (forwardStdinToDaemon w (stream 4 frames) s).2 = w.delivered s ++ stream 4 frames
        ↔ TakesWhole w s frames) ∧
      (w.delivered (forwardDaemonToStdout w (stream 4 frames) s).2 = w.delivered s ++ stream 4 frames
        ↔ TakesWhole w s frames) := by
  have faithful : w.delivered (forward w (stream 4 frames) s).2 = w.delivered s ++ stream 4 frames
      ↔ TakesWhole w s frames := by
    rw [(forward_delivered steady small fresh).2,List.append_right_inj,sent_eq_iff steady small]
  exact ⟨faithful,faithful⟩

/-- Of a frame whose write takes four bytes, the length alone is delivered. -/
theorem forward_cut {w : Writer σ} (steady : w.Steady) {body : List UInt8} (small : body.length ≤ maxNmFrame) {s : σ}
    (fresh : w.delivered s = w.accepted s) (cut : (taken w s body).1 = some 4) :
    w.delivered (forward w (stream 4 [body]) s).2 = w.delivered s ++ toLe 4 body.length := by
  have each : ∀ frame ∈ [body], frame.length ≤ maxNmFrame := by simpa using small
  have delivered := (forward_delivered steady each fresh).2
  have front : (prefixed 4 body).take 4 = toLe 4 body.length := List.take_left' (length_toLe 4 _)
  rw [delivered,sent,sent,cut,Option.getD_some,front,List.append_nil]

/-! ### The two buffers -/

/-- The buffer in front of the daemon's socket. -/
def daemonW (pattern : Nat → Nat) : Buffer := {capacity := 8 * 1024,vectored := true,pattern}

/-- The buffer in front of the standard output, which takes no vectored writes. -/
def stdoutW (pattern : Nat → Nat) : Buffer := {capacity := 256 * 1024,vectored := false,pattern}

/-- Nothing has been written yet. -/
def unwritten : Buffered := {buf := [],inner := {calls := 0,bytes := []}}

theorem takesWhole_iff {w : Writer σ} (I : σ → Prop) (kept : ∀ s body, I (after w s body)) {P : List UInt8 → Prop}
    {frames : List (List UInt8)}
    (whole : ∀ s, I s → ∀ body ∈ frames, (taken w s body).1 = some (prefixed 4 body).length ↔ P body)
    {s : σ} (holds : I s) : TakesWhole w s frames ↔ ∀ body ∈ frames, P body := by
  induction frames generalizing s with
  | nil => simp [TakesWhole]
  | cons body rest ih =>
    rw [TakesWhole,whole s holds body (by simp),List.forall_mem_cons,
      ih (fun s holds body found => whole s holds body (List.mem_cons_of_mem _ found)) (kept s body)]

theorem length_prefixed (body : List UInt8) : (prefixed 4 body).length = 4 + body.length := by
  rw [prefixed,List.length_append,length_toLe]

theorem daemonW_taken (pattern : Nat → Nat) {s : Buffered} (empty : s.buf = []) {body : List UInt8}
    (small : body.length ≤ maxNmFrame) :
    (taken (daemonW pattern).writer s body).1 = some (if 8 * 1024 ≤ 4 + body.length
      then min (4 + body.length) (max 1 (pattern s.inner.calls)) else 4 + body.length) := by
  have value := Buffer.vectored_taken (b := daemonW pattern) rfl empty [lenBytes body,body]
  rw [slices_flatten small,length_prefixed] at value
  exact value

theorem stdoutW_taken (pattern : Nat → Nat) {s : Buffered} (empty : s.buf = []) (body : List UInt8) :
    (taken (stdoutW pattern).writer s body).1
      = some (4 + if body.length ≤ 256 * 1024 - 4 then body.length else 0) := by
  have len : (lenBytes body).length = 4 := length_toLe 4 _
  have value := Buffer.plain_taken (b := stdoutW pattern) rfl empty (lenBytes body) body
  rw [len] at value
  exact value (List.ne_nil_of_length_pos (len ▸ by decide)) (show 4 < 256 * 1024 by decide)

theorem after_buf (b : Buffer) (s : Buffered) (body : List UInt8) : (after b.writer s body).buf = [] := rfl

/-- Towards the daemon, frames survive every pattern of short writes just when each is
    shorter than the buffer. -/
theorem daemon_faithful_iff {frames : List (List UInt8)} (small : ∀ body ∈ frames, body.length ≤ maxNmFrame) :
    (∀ pattern, (forwardStdinToDaemon (daemonW pattern).writer (stream 4 frames) unwritten).2.inner.bytes
        = stream 4 frames) ↔
      ∀ body ∈ frames, 4 + body.length < 8 * 1024 := by
  have faithful (pattern : Nat → Nat) :=
    (forwarded_iff (daemonW pattern).writer_steady small (s := unwritten) rfl).1
  constructor
  · -- an output that takes one byte at a time loses the rest of what is not buffered
    intro survive
    refine (takesWhole_iff (·.buf = []) (after_buf _) ?_ rfl).mp ((faithful fun _ => 1).mp (survive _))
    intro s empty body found
    rw [daemonW_taken _ empty (small body found),length_prefixed,Option.some_inj]
    split <;> omega
  · intro short pattern
    refine (faithful pattern).mpr ((takesWhole_iff (P := fun _ => True) (·.buf = []) (after_buf _) ?_ rfl).mpr ?_)
    · intro s empty body found
      have fits := Nat.not_le.mpr (short body found)
      rw [daemonW_taken pattern empty (small body found),if_neg fits,length_prefixed]
      simp
    · simp

/-- Towards the browser, frames survive just when each fits in the buffer, whatever the
    output takes of each write. -/
theorem stdout_faithful_iff {frames : List (List UInt8)} (small : ∀ body ∈ frames, body.length ≤ maxNmFrame)
    (pattern : Nat → Nat) :
    (forwardDaemonToStdout (stdoutW pattern).writer (stream 4 frames) unwritten).2.inner.bytes = stream 4 frames ↔
      ∀ body ∈ frames, 4 + body.length ≤ 256 * 1024 := by
  have faithful := (forwarded_iff (stdoutW pattern).writer_steady small (s := unwritten) rfl).2
  refine faithful.trans (takesWhole_iff (·.buf = []) (after_buf _) ?_ rfl)
  intro s empty body _
  rw [stdoutW_taken pattern empty,length_prefixed,Option.some_inj]
  split <;> omega

/-- Of a frame that does not fit in the buffer, the socket may take only the length. -/
theorem daemon_cut {body : List UInt8} (small : body.length ≤ maxNmFrame) (long : 8 * 1024 ≤ 4 + body.length) :
    (forwardStdinToDaemon (daemonW fun _ => 4).writer (stream 4 [body]) unwritten).2.inner.bytes
      = toLe 4 body.length := by
  refine (forward_cut (daemonW fun _ => 4).writer_steady small (s := unwritten) rfl ?_).trans (List.nil_append _)
  rw [daemonW_taken _ rfl small,if_pos long,Option.some_inj]
  show min (4 + body.length) (max 1 4) = 4
  omega

/-- Of a body that does not fit in the buffer behind its length, the output gets nothing. -/
theorem stdout_cut (pattern : Nat → Nat) {body : List UInt8} (small : body.length ≤ maxNmFrame)
    (long : 256 * 1024 < 4 + body.length) :
    (forwardDaemonToStdout (stdoutW pattern).writer (stream 4 [body]) unwritten).2.inner.bytes
      = toLe 4 body.length := by
  refine (forward_cut (stdoutW pattern).writer_steady small (s := unwritten) rfl ?_).trans (List.nil_append _)
  rw [stdoutW_taken pattern rfl,if_neg (by omega)]

theorem stream_ne_length {body : List UInt8} (some : 0 < body.length) : stream 4 [body] ≠ toLe 4 body.length := by
  intro same
  have lengths := congrArg List.length same
  simp only [stream,List.flatMap_cons,List.flatMap_nil,List.append_nil,length_prefixed,length_toLe] at lengths
  omega

/-- Of a body as long as the buffer, the length alone arrives: towards the daemon if the
    socket takes no more at once, towards the browser always. -/
theorem only_length_delivered :
    ((forwardStdinToDaemon (daemonW fun _ => 4).writer (stream 4 [List.replicate 8192 7]) unwritten).2.inner.bytes
        = [0,32,0,0] ∧ stream 4 [List.replicate 8192 7] ≠ [0,32,0,0]) ∧
      ∀ pattern,
        (forwardDaemonToStdout (stdoutW pattern).writer (stream 4 [List.replicate 262144 7]) unwritten).2.inner.bytes
          = [0,0,4,0] ∧ stream 4 [List.replicate 262144 7] ≠ [0,0,4,0] := by
  constructor
  · have len : (List.replicate 8192 (7 : UInt8)).length = 8192 := List.length_replicate
    generalize List.replicate 8192 (7 : UInt8) = body at len ⊢
    have small : body.length ≤ maxNmFrame := len ▸ (by decide)
    have cut := daemon_cut small (by omega)
    have differ : stream 4 [body] ≠ toLe 4 body.length := stream_ne_length (by omega)
    rw [len] at cut differ
    exact ⟨cut,differ⟩
  · intro pattern
    have len : (List.replicate 262144 (7 : UInt8)).length = 262144 := List.length_replicate
    generalize List.replicate 262144 (7 : UInt8) = body at len ⊢
    have small : body.length ≤ maxNmFrame := len ▸ (by decide)
    have cut := stdout_cut pattern small (by omega)
    have differ : stream 4 [body] ≠ toLe 4 body.length := stream_ne_length (by omega)
    rw [len] at cut differ
    exact ⟨cut,differ⟩

/-- A frame of three bytes passes an output that takes one byte at a time. -/
theorem forwarded_buffered :
    (forwardStdinToDaemon (daemonW fun _ => 1).writer (stream 4 [[1,2,3]]) unwritten).2.inner.bytes
      = [3,0,0,0,1,2,3] := by
  have small : ∀ body ∈ [([1,2,3] : List UInt8)], body.length ≤ maxNmFrame := by decide
  have faithful := forwarded_iff (daemonW fun _ => 1).writer_steady small (s := unwritten) rfl
  exact faithful.1.mpr ⟨rfl,trivial⟩

end FFWebHid.Forwarders
