import FFWebHid.LittleEndian
import FFWebHid.Runs
import FFWebHid.Types

/-!
The task that brings input reports to the peer of a transport. `run_sender` collects
the reports of its device from the broadcast channel and flushes them as frames: on a
tick, or when nothing more is there and a window has passed. Each branch of its loops
is a step, and so is each turn of the loop that drains the channel; what `select!`
picks, when a window or an interval ends and whether a flush succeeds are open.

The rate gate only picks between two windows, and is left out with them.
-/
namespace FFWebHid.InputSender
open FFWebHid.LittleEndian FFWebHid.Runs FFWebHid.Types

abbrev Report := UInt8 × Bytes

def msgInputBatch : UInt8 := 0x00

/-- A report behind its length, which counts the identifier and keeps its two lowest bytes. -/
def encodeReport (report : Report) : Bytes := toLe 2 (1 + report.2.length) ++ report.1 :: report.2

/-- `write_batch_frame`. -/
def writeBatchFrame (reports : List Report) : Bytes := msgInputBatch :: reports.flatMap encodeReport

/-- A report as the page reads it, without a buffer when it is empty. -/
def present (report : Report) : UInt8 × Option Bytes := (report.1,if report.2 = [] then none else some report.2)

/-- The loop of `parseInputReports` on what is left of the batch; each turn takes at
    least one byte of the fuel's. -/
def parseLoop : Nat → Bytes → List (UInt8 × Option Bytes)
  | fuel + 1, low :: high :: rest =>
    match (rest.take (low.toNat + 256 * high.toNat)) with
    | [] => []
    | reportId :: payload =>
      if rest.length < low.toNat + 256 * high.toNat then []
      else present (reportId,payload) :: parseLoop fuel (rest.drop (low.toNat + 256 * high.toNat))
  | _, _ => []

def parseInputReports (batch : Bytes) (offset : Nat) : List (UInt8 × Option Bytes) :=
  parseLoop batch.length (batch.drop offset)

theorem parseLoop_written {reports : List Report} (fits : ∀ report ∈ reports, report.2.length < 0xFFFF) {fuel : Nat}
    (enough : reports.length ≤ fuel) : parseLoop fuel (reports.flatMap encodeReport) = reports.map present := by
  induction reports generalizing fuel with
  | nil => cases fuel <;> rfl
  | cons report rest ih =>
    obtain ⟨reportId,data⟩ := report
    obtain ⟨fuel,rfl⟩ : ∃ n, fuel = n + 1 := ⟨fuel - 1,by simp only [List.length_cons] at enough; omega⟩
    have short : data.length < 0xFFFF := fits _ List.mem_cons_self
    have len : (UInt8.ofNat (1 + data.length)).toNat + 256 * (UInt8.ofNat ((1 + data.length) / 256)).toNat =
        1 + data.length := by simp; omega
    have later := ih (fun report member => fits report (List.mem_cons_of_mem _ member)) (Nat.le_of_succ_le_succ enough)
    have frame : (reportId,data) :: rest = [(reportId,data)] ++ rest := rfl
    show parseLoop (fuel + 1) (UInt8.ofNat (1 + data.length) :: UInt8.ofNat ((1 + data.length) / 256) ::
      (reportId :: (data ++ rest.flatMap encodeReport))) = present (reportId,data) :: rest.map present
    have body : (reportId :: (data ++ rest.flatMap encodeReport)).take (1 + data.length) = reportId :: data := by
      simp [Nat.add_comm 1]
    have after : (reportId :: (data ++ rest.flatMap encodeReport)).drop (1 + data.length) =
        rest.flatMap encodeReport := by simp [Nat.add_comm 1]
    have whole : ¬ (reportId :: (data ++ rest.flatMap encodeReport)).length < 1 + data.length := by
      simp only [List.length_cons,List.length_append]
      omega
    rw [parseLoop,len,body]
    dsimp only
    rw [if_neg whole,after,later]

theorem length_reports (reports : List Report) : reports.length ≤ (reports.flatMap encodeReport).length := by
  induction reports with
  | nil => exact Nat.le_refl 0
  | cons report rest ih =>
    rw [List.flatMap_cons,List.length_append,List.length_cons,encodeReport,List.length_append,length_toLe]
    omega

/-- The page reads from a frame the reports that the daemon put in. -/
theorem parseInputReports_written {reports : List Report} (fits : ∀ report ∈ reports, report.2.length < 0xFFFF) :
    parseInputReports (writeBatchFrame reports) 1 = reports.map present :=
  parseLoop_written fits (Nat.le_succ_of_le (length_reports reports))

/-- `hid::MAX_READ_BUFFER`: no reader takes a longer report from a device. -/
def maxReadBuffer : Nat := 4096

/-- Where the sender stands: before its first check, in the loop of the batch interval,
    or in the loop without one, at its head, draining the channel (in a coalesce window
    or not), in a window, or before the flush of a turn. -/
inductive Pc where
  | starting
  | interval
  | idle
  | draining (inWindow : Bool)
  | window
  | flushing
  | stopped
  deriving DecidableEq, Repr

/-- An event that the receiver has passed, and whether the channel reported it as lagged. -/
structure Taken where
  event : IpcResponse
  lagged : Bool

/-- `waiting` is what the receiver has still to take of the `published` events. `valid`
    is the capability, and `observed` whether the sender has seen it cleared. -/
structure Sender where
  pc : Pc := .starting
  batch : List Report := []
  waiting : List IpcResponse := []
  valid : Bool := true
  published : List IpcResponse := []
  taken : List Taken := []
  flushed : List Bytes := []
  observed : Bool := false

inductive Event where
  | publish (event : IpcResponse)
  | revoke
  | start (stop : Bool)
  | stopSignal
  | tick (ok : Bool)
  | receive
  | lag (n : Nat) (ok : Bool)
  | closed
  | nothing
  | elapsed
  | flush (ok : Bool)

namespace Sender
variable (deviceId : DeviceId) (s : Sender)

/-- `flush_batch`, with the outcome of the callback. -/
def flushBatch (ok : Bool) : Bool × Sender :=
  if s.batch = [] then (true,s)
  else if !s.valid then (false,{ s with observed := true })
  else if ok then (true,{ s with flushed := s.flushed ++ [writeBatchFrame s.batch], batch := [] })
  else (false,s)

/-- `flush_batch` where a failure leads to `failed`. -/
def flushTo (ok : Bool) (next failed : Pc) : Sender :=
  let (done,s) := s.flushBatch ok
  { s with pc := if done then next else failed }

/-- `handle_event` on an event, which goes into the batch when it is a report of the device. -/
def handleEvent (event : IpcResponse) : Sender :=
  match event with
  | .inputReport d reportId data => if d = deviceId then { s with batch := s.batch ++ [(reportId,data)] } else s
  | _ => s

/-- The next event. -/
def receive (pc : Pc) : Option Sender :=
  match s.waiting with
  | [] => none
  | event :: rest =>
    some (Sender.handleEvent deviceId { s with pc, waiting := rest, taken := s.taken ++ [⟨event,false⟩] } event)

/-- The channel has dropped the next `n` events, and the batch is flushed. -/
def lag (n : Nat) (ok : Bool) (next failed : Pc) : Option Sender :=
  if 0 < n ∧ n ≤ s.waiting.length then
    let s := { s with
      waiting := s.waiting.drop n
      taken := s.taken ++ (s.waiting.take n).map fun event => Taken.mk event true }
    some (s.flushTo ok next failed)
  else none

/-- After `drain_available`, in a window or in the loop. -/
def drained (inWindow : Bool) : Pc :=
  if inWindow then .window else if 1 < s.batch.length then .window else .flushing

end Sender

/-- A report on the channel was read into the buffer of a device. -/
def readable : IpcResponse → Bool
  | .inputReport _ _ data => data.length ≤ maxReadBuffer
  | _ => true

/-- `batchMs` is `WEBHID_WS_BATCH_MS`. `stopSignal` is the cancellation of the session or
    the revocation of the transport. -/
def step (deviceId : DeviceId) (batchMs : Nat) (s : Sender) : Event → Option Sender
  | .publish event =>
    if readable event then
      some { s with published := s.published ++ [event], waiting := s.waiting ++ [event] }
    else none
  | .revoke => some { s with valid := false }
  | .start stop =>
    match s.pc with
    | .starting =>
      if !s.valid then some { s with pc := .stopped, observed := true }
      else some { s with pc := if stop then .stopped else if 0 < batchMs then .interval else .idle }
    | _ => none
  | .stopSignal =>
    match s.pc with
    | .interval => some { s with pc := .stopped }
    | .idle => some { s with pc := .stopped }
    | .window => some { s with pc := .stopped }
    | _ => none
  | .tick ok =>
    match s.pc with
    | .interval => some (s.flushTo ok .interval .stopped)
    | _ => none
  | .receive =>
    match s.pc with
    | .interval => s.receive deviceId .interval
    | .idle => s.receive deviceId (.draining false)
    | .draining inWindow => s.receive deviceId (.draining inWindow)
    | .window => s.receive deviceId (.draining true)
    | _ => none
  | .lag n ok =>
    match s.pc with
    | .interval => s.lag n ok .interval .stopped
    | .idle => s.lag n ok (.draining false) .stopped
    -- A flush that fails while draining only ends the draining.
    | .draining inWindow => s.lag n ok (.draining inWindow) (s.drained inWindow)
    | .window => s.lag n ok (.draining true) .stopped
    | _ => none
  | .closed =>
    match s.pc with
    | .interval => some { s with pc := .stopped }
    | .idle => some { s with pc := .stopped }
    | .window => some { s with pc := .stopped }
    | _ => none
  | .nothing =>
    match s.pc with
    | .draining inWindow => some { s with pc := s.drained inWindow }
    | _ => none
  | .elapsed =>
    match s.pc with
    | .window => some { s with pc := .flushing }
    | _ => none
  | .flush ok =>
    match s.pc with
    | .flushing => some (s.flushTo ok .idle .stopped)
    | _ => none

def init : Sender := {}

/-! ### Delivery -/

/-- The reports of a device among what the receiver passed, but for the lagged. -/
def reportsOf (deviceId : DeviceId) (taken : List Taken) : List Report := taken.filterMap fun t =>
  match t.lagged,t.event with
  | false,.inputReport d reportId data => if d = deviceId then some (reportId,data) else none
  | _,_ => none

/-- What the page reads from the flushed frames. -/
def received (s : Sender) : List (UInt8 × Option Bytes) := s.flushed.flatMap (parseInputReports · 1)

/-- The page receives, in order and once each, the reports of the device among the first
    published events, but for those that the channel reported as lagged. -/
def Delivered (deviceId : DeviceId) (s : Sender) : Prop :=
  s.taken.map Taken.event <+: s.published ∧
    ∃ first, first <+: s.taken ∧ received s = (reportsOf deviceId first).map present

/-- A sender that has seen the capability cleared flushes no frame. -/
def Silent (s : Sender) (_ : Event) (s' : Sender) : Prop := s.observed = true → s'.flushed = s.flushed

section
variable {deviceId : DeviceId} {batchMs : Nat} {s s' : Sender}

/-- Every report of the device that was passed and not lagged is in a flushed frame or in
    the batch. -/
structure Kept (deviceId : DeviceId) (s : Sender) : Prop where
  channel : s.published = s.taken.map Taken.event ++ s.waiting
  readable : ∀ event ∈ s.published, readable event = true
  reports : ∃ groups : List (List Report), s.flushed = groups.map writeBatchFrame ∧
    groups.flatten ++ s.batch = reportsOf deviceId s.taken
  observed : s.observed = true → s.valid = false

theorem Kept.init : Kept deviceId init :=
  ⟨rfl,fun _ member => absurd member List.not_mem_nil,⟨[],rfl,rfl⟩,fun seen => by cases seen⟩

theorem Kept.withPc (kept : Kept deviceId s) (pc : Pc) : Kept deviceId { s with pc } :=
  ⟨kept.channel,kept.readable,kept.reports,kept.observed⟩

theorem reportsOf_append (first second : List Taken) :
    reportsOf deviceId (first ++ second) = reportsOf deviceId first ++ reportsOf deviceId second :=
  List.filterMap_append

theorem reportsOf_lagged (events : List IpcResponse) :
    reportsOf deviceId (events.map fun event => Taken.mk event true) = [] := by
  induction events with
  | nil => rfl
  | cons event rest ih => exact ih

theorem Kept.flushBatch (kept : Kept deviceId s) (ok : Bool) : Kept deviceId (s.flushBatch ok).2 := by
  unfold Sender.flushBatch
  split_ifs with empty invalid
  · exact kept
  · exact ⟨kept.channel,kept.readable,kept.reports,fun _ => by simpa using invalid⟩
  · obtain ⟨groups,frames,all⟩ := kept.reports
    refine ⟨kept.channel,kept.readable,⟨groups ++ [s.batch],?_,?_⟩,kept.observed⟩
    · simp [frames]
    · simpa using all
  · exact kept

theorem Kept.flushTo (kept : Kept deviceId s) (ok : Bool) (next failed : Pc) :
    Kept deviceId (s.flushTo ok next failed) :=
  (kept.flushBatch ok).withPc _

theorem handleEvent_eq (event : IpcResponse) :
    s.handleEvent deviceId event = { s with batch := s.batch ++ reportsOf deviceId [⟨event,false⟩] } := by
  cases event with
  | inputReport d reportId data =>
    by_cases same : d = deviceId
    · simp [Sender.handleEvent,reportsOf,same]
    · simp [Sender.handleEvent,reportsOf,same]
  | deviceConnected info => simp [Sender.handleEvent,reportsOf]
  | deviceDisconnected info => simp [Sender.handleEvent,reportsOf]

theorem Kept.receive (kept : Kept deviceId s) {pc : Pc} (received : s.receive deviceId pc = some s') :
    Kept deviceId s' := by
  unfold Sender.receive at received
  split at received
  · cases received
  · next event rest waiting =>
    cases received
    rw [handleEvent_eq]
    obtain ⟨groups,frames,all⟩ := kept.reports
    refine ⟨?_,kept.readable,⟨groups,frames,?_⟩,kept.observed⟩
    · show s.published = (s.taken ++ [_]).map Taken.event ++ rest
      rw [kept.channel,waiting]
      simp
    · show groups.flatten ++ (s.batch ++ _) = reportsOf deviceId (s.taken ++ [_])
      rw [reportsOf_append,← all,List.append_assoc]

theorem Kept.lag (kept : Kept deviceId s) {n : Nat} {ok : Bool} {next failed : Pc}
    (lagged : s.lag n ok next failed = some s') : Kept deviceId s' := by
  unfold Sender.lag at lagged
  split_ifs at lagged
  cases lagged
  have passed : Kept deviceId { s with
      waiting := s.waiting.drop n
      taken := s.taken ++ (s.waiting.take n).map fun event => Taken.mk event true } := by
    obtain ⟨groups,frames,all⟩ := kept.reports
    refine ⟨?_,kept.readable,⟨groups,frames,?_⟩,kept.observed⟩
    · rw [kept.channel]
      simp [Function.comp_def]
    · rw [reportsOf_append,reportsOf_lagged,List.append_nil]
      exact all
  exact passed.flushTo ok next failed

theorem step_kept {e : Event} (kept : Kept deviceId s) (taken : step deviceId batchMs s e = some s') :
    Kept deviceId s' := by
  cases e with
  | publish event =>
    simp only [step] at taken
    split_ifs at taken with fits
    cases taken
    refine ⟨by rw [kept.channel,List.append_assoc],fun event' member => ?_,kept.reports,kept.observed⟩
    rcases List.mem_append.mp member with before | new
    · exact kept.readable event' before
    · exact List.mem_singleton.mp new ▸ fits
  | revoke => cases taken; exact ⟨kept.channel,kept.readable,kept.reports,fun _ => rfl⟩
  | start stop =>
    simp only [step] at taken
    split at taken
    · split_ifs at taken with invalid
      · cases taken
        exact ⟨kept.channel,kept.readable,kept.reports,fun _ => by simpa using invalid⟩
      all_goals cases taken; exact kept.withPc _
    · cases taken
  | stopSignal =>
    simp only [step] at taken
    split at taken <;> cases taken <;> exact kept.withPc _
  | tick ok =>
    simp only [step] at taken
    split at taken <;> cases taken
    exact kept.flushTo ok _ _
  | receive =>
    simp only [step] at taken
    split at taken
    · exact kept.receive taken
    · exact kept.receive taken
    · exact kept.receive taken
    · exact kept.receive taken
    · cases taken
  | lag n ok =>
    simp only [step] at taken
    split at taken
    · exact kept.lag taken
    · exact kept.lag taken
    · exact kept.lag taken
    · exact kept.lag taken
    · cases taken
  | closed =>
    simp only [step] at taken
    split at taken <;> cases taken <;> exact kept.withPc _
  | nothing =>
    simp only [step] at taken
    split at taken <;> cases taken
    exact kept.withPc _
  | elapsed =>
    simp only [step] at taken
    split at taken <;> cases taken
    exact kept.withPc _
  | flush ok =>
    simp only [step] at taken
    split at taken <;> cases taken
    exact kept.flushTo ok _ _

/-- What was put into frames is a prefix of what was passed. -/
theorem Kept.delivered (kept : Kept deviceId s) : Delivered deviceId s := by
  obtain ⟨groups,frames,all⟩ := kept.reports
  refine ⟨kept.channel ▸ List.prefix_append _ _,?_⟩
  obtain ⟨first,early,same⟩ := List.prefix_filterMap_iff.mp (show groups.flatten <+: reportsOf deviceId s.taken from
    all ▸ List.prefix_append _ _)
  refine ⟨first,early,?_⟩
  have fits (report : Report) (member : report ∈ reportsOf deviceId s.taken) : report.2.length < 0xFFFF := by
    obtain ⟨t,passed,reported⟩ := List.mem_filterMap.mp member
    have published : t.event ∈ s.published := by
      rw [kept.channel]
      exact List.mem_append_left _ (List.mem_map_of_mem passed)
    have short := kept.readable t.event published
    split at reported
    · next d reportId data _ event =>
      split_ifs at reported
      cases reported
      rw [event] at short
      exact Nat.lt_of_le_of_lt (of_decide_eq_true short) (by decide)
    · cases reported
  have decoded (group : List Report) (member : group ∈ groups) :
      parseInputReports (writeBatchFrame group) 1 = group.map present :=
    parseInputReports_written fun report among => fits report
      (all ▸ List.mem_append_left _ (List.mem_flatten.mpr ⟨group,member,among⟩))
  calc received s = groups.flatMap (fun group => parseInputReports (writeBatchFrame group) 1) := by
        rw [received,frames,List.flatMap_map]
    _ = groups.flatMap (fun group => group.map present) := List.flatMap_congr decoded
    _ = groups.flatten.map present := by rw [List.map_flatten,List.flatMap]
    _ = (reportsOf deviceId first).map present := by rw [same]; rfl

theorem flushTo_silent (invalid : s.valid = false) (ok : Bool) (next failed : Pc) :
    (s.flushTo ok next failed).flushed = s.flushed := by
  show (s.flushBatch ok).2.flushed = s.flushed
  unfold Sender.flushBatch
  split_ifs with empty valid
  · rfl
  · rfl
  · rw [invalid] at valid; simp at valid
  · rfl

theorem receive_silent {pc : Pc} (received : s.receive deviceId pc = some s') : s'.flushed = s.flushed := by
  unfold Sender.receive at received
  split at received
  · cases received
  · cases received; rw [handleEvent_eq]

theorem lag_silent (invalid : s.valid = false) {n : Nat} {ok : Bool} {next failed : Pc}
    (lagged : s.lag n ok next failed = some s') : s'.flushed = s.flushed := by
  unfold Sender.lag at lagged
  split_ifs at lagged
  cases lagged
  refine flushTo_silent ?_ ok next failed
  exact invalid

theorem step_silent {e : Event} (kept : Kept deviceId s) (taken : step deviceId batchMs s e = some s') :
    Silent s e s' := by
  intro seen
  have invalid := kept.observed seen
  cases e with
  | publish event =>
    simp only [step] at taken
    split_ifs at taken
    cases taken
    rfl
  | revoke => cases taken; rfl
  | start stop =>
    simp only [step] at taken
    split at taken
    · split_ifs at taken <;> cases taken <;> rfl
    · cases taken
  | stopSignal =>
    simp only [step] at taken
    split at taken <;> cases taken <;> rfl
  | tick ok =>
    simp only [step] at taken
    split at taken <;> cases taken
    exact flushTo_silent invalid ok _ _
  | receive =>
    simp only [step] at taken
    split at taken
    · exact receive_silent taken
    · exact receive_silent taken
    · exact receive_silent taken
    · exact receive_silent taken
    · cases taken
  | lag n ok =>
    simp only [step] at taken
    split at taken
    · exact lag_silent invalid taken
    · exact lag_silent invalid taken
    · exact lag_silent invalid taken
    · exact lag_silent invalid taken
    · cases taken
  | closed =>
    simp only [step] at taken
    split at taken <;> cases taken <;> rfl
  | nothing =>
    simp only [step] at taken
    split at taken <;> cases taken
    rfl
  | elapsed =>
    simp only [step] at taken
    split at taken <;> cases taken
    rfl
  | flush ok =>
    simp only [step] at taken
    split at taken <;> cases taken
    exact flushTo_silent invalid ok _ _

/-- In every run the flushed frames hold the reports of the device in order, without
    those that lagged, and none is flushed after the capability was seen cleared. -/
theorem input_delivered {trace : List Event} (run : exec (step deviceId batchMs) init trace = some s) :
    Delivered deviceId s ∧ AllSteps (step deviceId batchMs) Silent init trace :=
  have start : Kept deviceId init := Kept.init
  ⟨(exec_invariant (fun _ _ _ kept taken => step_kept kept taken) start run).delivered,
    allSteps_mono (P := fun _ _ _ => True) (fun _ _ _ kept taken => step_kept kept taken)
      (fun _ _ _ kept taken _ => step_silent kept taken) start (allSteps_of_mem fun _ _ _ _ => trivial)⟩

end

/-- Two reports of device 7 around one of device 8, a lag whose flush fails while
    draining, and the capability cleared under a last report. -/
def laggedWhileDraining : List Event :=
  [.start false,.publish (.inputReport 7 1 [10]),.publish (.inputReport 8 1 [11]),.publish (.inputReport 7 2 []),
    .publish (.inputReport 7 3 [12]),.receive,.receive,.lag 1 false,.flush true,.receive,.nothing,.flush true,
    .publish (.inputReport 7 4 [13]),.receive,.nothing,.revoke,.flush true]

theorem input_delivered_lagged : ∃ s : Sender, exec (step 7 0) init laggedWhileDraining = some s ∧
    received s = [(1,some [10]),(3,some [12])] ∧ Delivered 7 s ∧
    AllSteps (step 7 0) Silent init laggedWhileDraining := by
  obtain ⟨s,run⟩ := Option.isSome_iff_exists.mp (by decide : (exec (step 7 0) init laggedWhileDraining).isSome = true)
  have facts : (exec (step 7 0) init laggedWhileDraining).map received = some [(1,some [10]),(3,some [12])] := by decide
  rw [run] at facts
  exact ⟨s,run,Option.some.inj facts,input_delivered run⟩

end FFWebHid.InputSender
