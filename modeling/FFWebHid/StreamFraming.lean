import FFWebHid.Framing
import FFWebHid.NativeMessages
import FFWebHid.TransportFrames
import FFWebHid.Utf8

/-!
Frames on the stream of a WebTransport session: how `webtransport.js` writes and
reads them, and how the daemon does. A reader gets the stream in pieces that
have nothing to do with the frames, and it stops for good after a frame whose
handling ends the session.
-/
namespace FFWebHid.StreamFraming
open FFWebHid.Types FFWebHid.LittleEndian FFWebHid.Framing FFWebHid.Registry FFWebHid.TransportFrames

/-- What is given to `send`. -/
inductive FrameData where
  | bytes (bytes : Bytes)
  | text (text : Utf8.Text)

def FrameData.data : FrameData → Bytes
  | .bytes content => content
  | .text content => Utf8.encode content

/-- `send`: its answer and its writes, in order. `usable` says that there are a
    connection, that it is open, and a writer. -/
def send (usable : Bool) (frame : FrameData) : Bool × List Bytes :=
  if usable then (true,[toLe 4 frame.data.length,frame.data]) else (false,[])

/-- What `reader.read()` settles with: bytes, neither bytes nor the end, the end,
    a failure. -/
inductive ReadResult where
  | value (bytes : Bytes)
  | absent
  | done
  | failed

section Page
variable {σ : Type} (onBinary : σ → Bytes → Option σ)

/-- The inner loop of `readFrames` over the bytes that are there: the frames given
    to `onBinary`, and, unless one made it throw, the bytes kept for later. -/
def takeFrames (buf : Bytes) (state : σ) : List Bytes × Option (Bytes × σ) :=
  if 4 ≤ buf.length then
    let len := fieldAt buf 0 4
    if buf.length < 4 + len then ([],some (buf,state))
    else
      let frame := (buf.drop 4).take len
      match onBinary state frame with
      | none => ([frame],none)
      | some next =>
        let (frames,left) := takeFrames (buf.drop (4 + len)) next
        (frame :: frames,left)
  else ([],some (buf,state))
termination_by buf.length
decreasing_by
  rw [List.length_drop]
  omega

/-- `readFrames` from the bytes kept so far on: the frames given to `onBinary`.
    A throw of `onBinary` ends the loop as a failed read does. -/
def readFrames : Bytes → σ → List ReadResult → List Bytes
  | _, _, [] => []
  | buf, state, .value bytes :: reads =>
    match takeFrames onBinary (buf ++ bytes) state with
    | (frames,none) => frames
    | (frames,some (left,next)) => frames ++ readFrames left next reads
  | buf, state, .absent :: reads => readFrames buf state reads
  | _, _, .done :: _ => []
  | _, _, .failed :: _ => []

end Page

/-- The bytes that arrive before the reader ends. -/
def received : List ReadResult → Bytes
  | [] => []
  | .value bytes :: reads => bytes ++ received reads
  | .absent :: reads => received reads
  | .done :: _ => []
  | .failed :: _ => []

def maxFrameLen : Nat := NativeMessages.maxNmFrame

/-- `spawn_writer_task` over the frames of its channel. -/
def spawnWriterTask {ω : Type} (writeAll : ω → Bytes → Bool × ω) : ω → List Bytes → ω
  | out, [] => out
  | out, frame :: rest =>
    match writeAll out (toLe 4 frame.length) with
    | (false,out) => out
    | (true,out) =>
      match writeAll out frame with
      | (false,out) => out
      | (true,out) => spawnWriterTask writeAll out rest

/-- What `read_inbound_frames` calls: the handlers, the queue of responses and the
    stream. While it awaits a frame other tasks change the state. -/
structure SessionCalls (σ ρ : Type) extends TransportCalls σ where
  trySend : σ → Bytes → Bool × σ
  readExact : ρ → Nat → Option (Bytes × ρ)
  meanwhile : σ → σ

section Daemon
variable {σ ρ : Type} (calls : SessionCalls σ ρ) (deviceId : DeviceId) (capability : Flag)

/-- The handling of one frame. The session goes on unless the transport has been
    revoked or the queue of responses is full. -/
def handleFrame (state : σ) (frame : Bytes) : Option σ :=
  match handleClientMessage calls.toTransportCalls deviceId capability (calls.meanwhile state) frame with
  | (false,_,_) => none
  | (true,none,next) => some next
  | (true,some response,next) =>
    match calls.trySend next response with
    | (false,_) => none
    | (true,next) => some next

/-- `read_inbound_frames`: the frames that are handled. The first number bounds the
    rounds of the loop. -/
def readInboundFrames : Nat → ρ → σ → Option (List Bytes)
  | 0, _, _ => none
  | rounds + 1, recv, state =>
    match calls.readExact recv 4 with
    | none => some []
    | some (lenBuf,recv) =>
      let len := ofLe lenBuf
      if len > maxFrameLen then some []
      else
        match calls.readExact recv len with
        | none => some []
        | some (frame,recv) =>
          match handleFrame calls deviceId capability state frame with
          | none => some [frame]
          | some next => (readInboundFrames rounds recv next).map (frame :: ·)

end Daemon

/-- `read_exact` takes as many bytes as it is asked for off those that still
    arrive, or fails. -/
def Exact {ρ : Type} (readExact : ρ → Nat → Option (Bytes × ρ)) (coming : ρ → Bytes) : Prop :=
  ∀ recv n, (readExact recv n).map (Prod.map id coming) = LittleEndian.readExact n (coming recv)

/-- `write_all` writes what it is given, or fails with a part of it written. -/
def WritesAll {ω : Type} (writeAll : ω → Bytes → Bool × ω) (written : ω → Bytes) : Prop :=
  ∀ out bytes, written out <+: written (writeAll out bytes).2 ∧
    written (writeAll out bytes).2 <+: written out ++ bytes ∧
    ((writeAll out bytes).1 = true → written (writeAll out bytes).2 = written out ++ bytes)

theorem fits_of_small {frame : Bytes} (small : frame.length ≤ maxFrameLen) : frame.length < 256 ^ 4 := by
  unfold maxFrameLen NativeMessages.maxNmFrame at small
  omega

/-- The writes of the page are the stream of its frames. -/
theorem send_stream (frames : List FrameData) :
    (frames.flatMap fun frame => (send true frame).2).flatten = stream 4 (frames.map FrameData.data) := by
  induction frames with
  | nil => rfl
  | cons frame rest ih =>
    rw [List.flatMap_cons,List.flatten_append,ih,List.map_cons,stream_cons]
    simp [send]

/-- What the daemon's writer has put on the wire is the start of the stream of its
    frames, wherever it failed. -/
theorem writer_stream {ω : Type} {writeAll : ω → Bytes → Bool × ω} {written : ω → Bytes}
    (writes : WritesAll writeAll written) (out : ω) (frames : List Bytes) :
    written (spawnWriterTask writeAll out frames) <+: written out ++ stream 4 frames := by
  induction frames generalizing out with
  | nil => simp [spawnWriterTask,stream]
  | cons frame rest ih =>
    obtain ⟨-,headPart,headWhole⟩ := writes out (toLe 4 frame.length)
    rw [stream_cons]
    unfold spawnWriterTask
    split
    · rename_i after failed
      rw [failed] at headPart
      exact headPart.trans (by rw [← List.append_assoc]; exact List.prefix_append _ _)
    · rename_i header sent
      rw [sent] at headWhole
      obtain ⟨-,bodyPart,bodyWhole⟩ := writes header frame
      rw [headWhole rfl] at bodyPart bodyWhole
      split
      · rename_i after failed
        rw [failed] at bodyPart
        refine bodyPart.trans ?_
        rw [← List.append_assoc,← List.append_assoc]
        exact List.prefix_append _ _
      · rename_i after done
        rw [done] at bodyWhole
        have tail := ih after
        rw [bodyWhole rfl] at tail
        simpa only [List.append_assoc] using tail

section PageReader
variable {σ : Type} {onBinary : σ → Bytes → Option σ} {frames : List Bytes}

/-- The inner loop hands over what its bytes complete and keeps the rest, which is
    the start of the frames to come. -/
theorem takeFrames_eq (small : ∀ frame ∈ frames, frame.length < 256 ^ 4) {buf : Bytes} (begun : buf <+: stream 4 frames)
    (state : σ) :
    takeFrames onBinary buf state = ((consume onBinary state (completed 4 frames buf.length)).1,
      (consume onBinary state (completed 4 frames buf.length)).2.map
        (buf.drop (stream 4 (completed 4 frames buf.length)).length,·)) := by
  induction frames generalizing buf state with
  | nil =>
    obtain rfl : buf = [] := List.prefix_nil.mp begun
    rw [takeFrames]
    rfl
  | cons frame rest ih =>
    rw [takeFrames]
    by_cases header : 4 ≤ buf.length
    · have len : fieldAt buf 0 4 = frame.length := length_of_next (small frame List.mem_cons_self) begun header
      simp only [if_pos header,len]
      by_cases whole : 4 + frame.length ≤ buf.length
      · obtain ⟨body,behind⟩ := body_of_next begun whole
        have left : (buf.drop (4 + frame.length)).length = buf.length - (4 + frame.length) := List.length_drop
        have first : completed 4 (frame :: rest) buf.length = frame :: completed 4 rest (buf.length - (4 + frame.length)) :=
          if_pos whole
        rw [if_neg (Nat.not_lt.mpr whole),body,first]
        cases step : onBinary state frame with
        | none => rw [consume_cons_none step]; rfl
        | some next =>
          have tail := ih (fun other among => small other (List.mem_cons_of_mem _ among)) behind next
          rw [left] at tail
          simp only [tail,consume_cons_some step,length_stream_cons,List.drop_drop]
      · have none_ : completed 4 (frame :: rest) buf.length = [] := if_neg whole
        rw [if_pos (by omega),none_]
        rfl
    · have none_ : completed 4 (frame :: rest) buf.length = [] := if_neg (by omega)
      rw [if_neg header,none_]
      rfl

/-- `readFrames` hands over what the kept bytes and those it reads complete. -/
theorem readFrames_kept (small : ∀ frame ∈ frames, frame.length < 256 ^ 4) (reads : List ReadResult) {buf : Bytes}
    (begun : buf ++ received reads <+: stream 4 frames) (nothing : completed 4 frames buf.length = []) (state : σ) :
    readFrames onBinary buf state reads =
      (consume onBinary state (completed 4 frames (buf ++ received reads).length)).1 := by
  induction reads generalizing frames buf state with
  | nil => rw [readFrames,received,List.append_nil,nothing]; rfl
  | cons read reads ih =>
    cases read with
    | absent => exact ih small begun nothing state
    | done => rw [readFrames,received,List.append_nil,nothing]; rfl
    | failed => rw [readFrames,received,List.append_nil,nothing]; rfl
    | value bytes =>
      rw [received,← List.append_assoc] at begun ⊢
      have sofar : buf ++ bytes <+: stream 4 frames := (List.prefix_append _ _).trans begun
      have taken : takeFrames onBinary (buf ++ bytes) state = _ := takeFrames_eq small sofar state
      have more := completed_add 4 frames (buf ++ bytes).length (received reads).length
      have sum : (buf ++ bytes ++ received reads).length = (buf ++ bytes).length + (received reads).length := List.length_append
      rw [readFrames,taken,sum,more]
      cases heard : consume onBinary state (completed 4 frames (buf ++ bytes).length) with
      | mk given left =>
        cases left with
        | none => rw [consume_append_left heard]; rfl
        | some next =>
          have inside := length_completed_le 4 frames (buf ++ bytes).length
          have behind := behind_completed begun (List.prefix_append (buf ++ bytes) (received reads)).length_le
          rw [List.drop_append_of_le_length inside] at behind
          have rest := ih (fun frame among => small frame (List.mem_of_mem_drop among)) behind
            (by rw [List.length_drop]; exact nothing_behind 4 frames _) next
          have length : ((buf ++ bytes).drop (stream 4 (completed 4 frames (buf ++ bytes).length)).length ++ received reads).length =
              (buf ++ bytes).length + (received reads).length - (stream 4 (completed 4 frames (buf ++ bytes).length)).length := by
            rw [List.length_append,List.length_drop]
            omega
          rw [length] at rest
          rw [consume_append_right heard]
          exact congrArg (given ++ ·) rest

end PageReader

section DaemonReader
variable {σ ρ : Type} {calls : SessionCalls σ ρ} {deviceId : DeviceId} {capability : Flag} {coming : ρ → Bytes}

theorem read_some (exactly : Exact calls.readExact coming) {recv : ρ} {n : Nat} (there : n ≤ (coming recv).length) :
    ∃ next, calls.readExact recv n = some ((coming recv).take n,next) ∧ coming next = (coming recv).drop n := by
  have given := exactly recv n
  rw [LittleEndian.readExact,if_pos there] at given
  obtain ⟨⟨bytes,next⟩,read,same⟩ := Option.map_eq_some_iff.mp given
  obtain ⟨rfl,behind⟩ := Prod.mk.inj same
  exact ⟨next,read,behind⟩

theorem read_none (exactly : Exact calls.readExact coming) {recv : ρ} {n : Nat} (short : (coming recv).length < n) :
    calls.readExact recv n = none := by
  have given := exactly recv n
  rw [LittleEndian.readExact,if_neg (Nat.not_le.mpr short)] at given
  exact Option.map_eq_none_iff.mp given

/-- `read_inbound_frames` handles what the stream completes, in rounds as many as
    there are bytes, and one more. -/
theorem readInboundFrames_eq (exactly : Exact calls.readExact coming) {frames : List Bytes}
    (small : ∀ frame ∈ frames, frame.length ≤ maxFrameLen) {recv : ρ} (begun : coming recv <+: stream 4 frames)
    {rounds : Nat} (enough : (coming recv).length < rounds) (state : σ) :
    readInboundFrames calls deviceId capability rounds recv state =
      some (consume (handleFrame calls deviceId capability) state (completed 4 frames (coming recv).length)).1 := by
  induction frames generalizing recv rounds state with
  | nil =>
    obtain ⟨rounds,rfl⟩ : ∃ k, rounds = k + 1 := ⟨rounds - 1,by omega⟩
    have empty : coming recv = [] := List.prefix_nil.mp begun
    have ended : calls.readExact recv 4 = none := read_none exactly (by rw [empty]; decide)
    rw [readInboundFrames,ended]
    rfl
  | cons frame rest ih =>
    obtain ⟨rounds,rfl⟩ : ∃ k, rounds = k + 1 := ⟨rounds - 1,by omega⟩
    have bounded := small frame List.mem_cons_self
    rw [readInboundFrames]
    by_cases header : 4 ≤ (coming recv).length
    · obtain ⟨afterHeader,readHeader,behindHeader⟩ := read_some exactly header
      have len : ofLe ((coming recv).take 4) = frame.length := length_of_next (fits_of_small bounded) begun header
      simp only [readHeader,len,if_neg (Nat.not_lt.mpr bounded)]
      by_cases whole : 4 + frame.length ≤ (coming recv).length
      · obtain ⟨body,behind⟩ := body_of_next begun whole
        have there : frame.length ≤ (coming afterHeader).length := by
          rw [behindHeader,List.length_drop]
          omega
        obtain ⟨afterBody,readBody,behindBody⟩ := read_some exactly there
        rw [behindHeader,body] at readBody
        rw [behindHeader,List.drop_drop] at behindBody
        have first : completed 4 (frame :: rest) (coming recv).length =
            frame :: completed 4 rest ((coming recv).length - (4 + frame.length)) := if_pos whole
        have left : (coming afterBody).length = (coming recv).length - (4 + frame.length) := by
          rw [behindBody,List.length_drop]
        rw [first]
        simp only [readBody]
        cases step : handleFrame calls deviceId capability state frame with
        | none => rw [consume_cons_none step]
        | some next =>
          have begunBody : coming afterBody <+: stream 4 rest := by rw [behindBody]; exact behind
          have enoughBody : (coming afterBody).length < rounds := by omega
          have tail := ih (fun other among => small other (List.mem_cons_of_mem _ among)) begunBody enoughBody next
          rw [left] at tail
          rw [consume_cons_some step]
          simp only [tail,Option.map_some]
      · have nothing : completed 4 (frame :: rest) (coming recv).length = [] := if_neg whole
        have short : (coming afterHeader).length < frame.length := by
          rw [behindHeader,List.length_drop]
          omega
        rw [nothing]
        simp only [read_none exactly short]
        rfl
    · have nothing : completed 4 (frame :: rest) (coming recv).length = [] := if_neg (by omega)
      have ended := read_none exactly (Nat.not_le.mp header)
      rw [nothing,ended]
      rfl

end DaemonReader

/-- Take bytes off the pieces in which they arrive. -/
def takeChunks : List Bytes → Nat → Option (Bytes × List Bytes)
  | chunks, 0 => some ([],chunks)
  | [], _ + 1 => none
  | chunk :: rest, n + 1 =>
    if chunk.length ≤ n + 1 then
      (takeChunks rest (n + 1 - chunk.length)).map fun (bytes,left) => (chunk ++ bytes,left)
    else some (chunk.take (n + 1),chunk.drop (n + 1) :: rest)

theorem takeChunks_exact : Exact takeChunks List.flatten := by
  intro chunks
  induction chunks with
  | nil =>
    intro n
    cases n <;> rfl
  | cons chunk rest ih =>
    intro n
    cases n with
    | zero => simp [takeChunks,LittleEndian.readExact]
    | succ n =>
      rw [takeChunks,List.flatten_cons]
      have sum : (chunk ++ rest.flatten).length = chunk.length + rest.flatten.length := List.length_append
      by_cases short : chunk.length ≤ n + 1
      · have inner := ih (n + 1 - chunk.length)
        unfold LittleEndian.readExact at inner ⊢
        rw [if_pos short,Option.map_map,List.take_append,List.drop_append,List.take_of_length_le short,
          List.drop_of_length_le short]
        by_cases there : n + 1 - chunk.length ≤ rest.flatten.length
        · rw [if_pos there] at inner
          obtain ⟨⟨bytes,left⟩,taken,same⟩ := Option.map_eq_some_iff.mp inner
          obtain ⟨rfl,behind⟩ := Prod.mk.inj same
          rw [if_pos (by omega),taken,← behind]
          rfl
        · rw [if_neg there] at inner
          have absent := Option.map_eq_none_iff.mp inner
          rw [if_neg (by omega),absent]
          rfl
      · have long : n + 1 ≤ chunk.length := by omega
        rw [if_neg short,LittleEndian.readExact,if_pos (by omega),List.take_append_of_le_length long,
          List.drop_append_of_le_length long]
        rfl

/-! ### Both directions -/

/-- However the stream is cut, and wherever it ends, each side's reader is given
    exactly the frames that what has arrived completes, in order, up to and
    including the first whose handling ends the session. What the daemon writes is
    such a stream, or the start of one where a write fails. -/
theorem frames_delivered {frames : List Bytes} (small : ∀ frame ∈ frames, frame.length ≤ maxFrameLen) :
    (∀ (σ : Type) (onBinary : σ → Bytes → Option σ) (state : σ) (reads : List ReadResult),
      received reads <+: stream 4 frames →
      readFrames onBinary [] state reads =
        (consume onBinary state (completed 4 frames (received reads).length)).1) ∧
    (∀ (ω : Type) (writeAll : ω → Bytes → Bool × ω) (written : ω → Bytes) (out : ω), WritesAll writeAll written →
      written (spawnWriterTask writeAll out frames) <+: written out ++ stream 4 frames) ∧
    (∀ (σ ρ : Type) (calls : SessionCalls σ ρ) (coming : ρ → Bytes) (deviceId : DeviceId) (capability : Flag)
        (sent : List FrameData) (recv : ρ) (state : σ) (rounds : Nat),
      Exact calls.readExact coming → sent.map FrameData.data = frames →
      coming recv <+: (sent.flatMap fun frame => (send true frame).2).flatten → (coming recv).length < rounds →
      readInboundFrames calls deviceId capability rounds recv state =
        some (consume (handleFrame calls deviceId capability) state (completed 4 frames (coming recv).length)).1) := by
  refine ⟨?_,?_,?_⟩
  · intro σ onBinary state reads begun
    have fits : ∀ frame ∈ frames, frame.length < 256 ^ 4 := fun frame among => fits_of_small (small frame among)
    have nothing : completed 4 frames ([] : Bytes).length = [] := by
      cases frames with
      | nil => rfl
      | cons frame rest => exact if_neg (Nat.not_le.mpr (by rw [List.length_nil]; omega))
    exact readFrames_kept fits reads begun nothing state
  · intro ω writeAll written out writes
    exact writer_stream writes out frames
  · intro σ ρ calls coming deviceId capability sent recv state rounds exactly same begun enough
    rw [send_stream,same] at begun
    exact readInboundFrames_eq exactly small begun enough state

/-- A session over a stream in pieces, with a queue that is never full. -/
def sessionOf (manager : DeviceManager) : SessionCalls Unit (List Bytes) where
  manager := fun _ => manager
  enqueueTransportOutput := fun _ _ _ _ _ => (.error "no device",())
  enqueueTransportFeatureWrite := fun _ _ _ _ _ => (.error "no device",())
  enqueueTransportFeatureRead := fun _ _ _ _ => (.error "no device",())
  trySend := fun _ _ => (true,())
  readExact := takeChunks
  meanwhile := id

/-- An empty frame and one of a byte, cut inside both lengths. -/
theorem two_frames_delivered :
    readFrames (fun (_ : Unit) _ => some ()) [] () [.value [0,0],.value [0,0,1],.absent,.value [0,0,0,7]] = [[],[7]] ∧
    readInboundFrames (sessionOf { valid := fun _ => true }) 0 0 10 [[0,0],[0,0,1],[0,0,0,7]] () = some [[],[7]] ∧
    spawnWriterTask (fun out bytes => (true,out ++ bytes)) [] [[],[7]] <+: stream 4 [[],[7]] := by
  have small : ∀ frame ∈ [([] : Bytes),[7]], frame.length ≤ maxFrameLen := by simp [maxFrameLen,NativeMessages.maxNmFrame]
  obtain ⟨page,writer,daemon⟩ := frames_delivered small
  refine ⟨?_,?_,?_⟩
  · exact page Unit (fun _ _ => some ()) () [.value [0,0],.value [0,0,1],.absent,.value [0,0,0,7]] ⟨[],rfl⟩
  · exact daemon Unit (List Bytes) (sessionOf { valid := fun _ => true }) List.flatten 0 0 [.bytes [],.bytes [7]]
      [[0,0],[0,0,1],[0,0,0,7]] () 10 takeChunks_exact rfl ⟨[],rfl⟩ (by decide)
  · refine writer Bytes (fun out bytes => (true,out ++ bytes)) id [] ?_
    intro out bytes
    exact ⟨List.prefix_append out bytes,List.prefix_refl _,fun _ => rfl⟩

/-- Of two frames that both arrive the second is not handled when the transport is
    revoked, and not given to a page's handler that throws on the first. -/
theorem second_frame_unheard :
    [[0,0,0],[0,0,0,0,0]].flatten = stream 4 [[],[]] ∧ completed 4 [[],[]] (stream 4 [[],[]]).length = [[],[]] ∧
    readFrames (fun (_ : Unit) _ => none) [] () [.value [0,0,0],.value [0,0,0,0,0]] = [[]] ∧
    readInboundFrames (sessionOf {}) 0 0 9 [[0,0,0],[0,0,0,0,0]] () = some [[]] := by
  have small : ∀ frame ∈ [([] : Bytes),[]], frame.length < 256 ^ 4 := by simp
  have whole : [] ++ received [.value [0,0,0],.value [0,0,0,0,0]] <+: stream 4 [[],[]] := ⟨[],rfl⟩
  exact ⟨rfl,rfl,readFrames_kept small _ whole rfl (),rfl⟩

end FFWebHid.StreamFraming
