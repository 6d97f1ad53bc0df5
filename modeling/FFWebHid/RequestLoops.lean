import FFWebHid.Correlation
import FFWebHid.ReadAhead

/-! The two request loops of the daemon. As a native-messaging host it has a thread of its own read its input, one frame
ahead of the loop in the channel and one more that the thread holds; behind the socket the loop reads for itself. -/

namespace FFWebHid.RequestLoops
open FFWebHid.Types FFWebHid.NativeMessages FFWebHid.Registry FFWebHid.Runs FFWebHid.Correlation FFWebHid.ReadAhead
open FFWebHid.RequestFormats FFWebHid.LittleEndian

abbrev ReadResult := Except FrameReadError NmRequest

/-- After which results the thread stops. -/
def fatal : ReadResult → Bool
  | .ok _ => false
  | .error (.malformed _) => false
  | .error _ => true

structure Host (σ : Type) where
  buffer : Buffer Bytes ReadResult
  state : σ
  sent : List NmMessage := []
  isOpen : Bool := true

inductive HostAction (σ : Type) where
  /-- The thread reads a frame. -/
  | fetch
  /-- The thread gets its result into the channel. -/
  | push
  /-- The loop receives a result and answers it. -/
  | request
  | relay (event : IpcResponse)
  | deliver (deviceId : DeviceId) (reports : List (UInt8 × Bytes))
  | others (next : σ)

section Steps
variable {σ : Type} (lib : Decoders) (daemon : Daemon σ) (clientId : ClientId)

/-- One turn of `run_sync_request_loop`. -/
def handleReceived (host : Host σ) : ReadResult → Host σ
  | .ok request =>
    let (response,next) := dispatch daemon clientId host.state request
    { host with state := next, sent := host.sent ++ [.control response] }
  | .error (.malformed _) => { host with sent := host.sent ++ [.control (.err 400)] }
  | .error _ => { host with isOpen := false }

def relayHostEvent (host : Host σ) : IpcResponse → Host σ
  | .deviceConnected device => { host with sent := host.sent ++ [.control (.eventConnect device)] }
  | .deviceDisconnected device =>
    { host with state := daemon.forceClose host.state device.deviceId,
                sent := host.sent ++ [.control (.eventDisconnect device)] }
  | .inputReport _ _ _ => host

def hostStep (host : Host σ) (action : HostAction σ) : Option (Host σ) :=
  if host.isOpen then
    match action with
    | .fetch => (fetch (readNmRequest lib) host.buffer).map (fun b => { host with buffer := b })
    | .push => (push fatal host.buffer).map (fun b => { host with buffer := b })
    | .request =>
      (take host.buffer).map (fun (result,b) => handleReceived daemon clientId { host with buffer := b } result)
    | .relay event => some (relayHostEvent daemon host event)
    | .deliver deviceId reports => some { host with sent := host.sent ++ [packedInputReport deviceId reports] }
    | .others next => some { host with state := next }
  else none

end Steps

section Agreement
variable {σ : Type} {lib : Decoders} {daemon : Daemon σ} {clientId : ClientId}

/-- The two connections have the same daemon and the same output, and while they are open the thread is ahead of the
    input that the other loop still has. -/
structure Agrees (lib : Decoders) (host : Host σ) (conn : Connection σ) : Prop where
  state : host.state = conn.state
  sent : host.sent = conn.sent
  isOpen : host.isOpen = conn.isOpen
  view : host.isOpen = true → View (readNmRequest lib) fatal host.buffer conn.input
  more : host.isOpen = true → host.buffer.ended = false ∨ host.buffer.queue.isSome

/-- The answer to a received result is that of the loop which reads it itself. -/
theorem handleNext_agrees {host : Host σ} {conn : Connection σ} (agrees : Agrees lib host conn)
    (isOpen : host.isOpen = true) {result : ReadResult} {b : Buffer Bytes ReadResult}
    (taken : take host.buffer = some (result,b)) :
    Agrees lib (handleReceived daemon clientId { host with buffer := b } result)
      (handleNext lib daemon clientId conn) := by
  obtain ⟨state,sent,both,view,_⟩ := agrees
  have same : conn.isOpen = true := by rw [← both,isOpen]
  obtain ⟨read,after⟩ := view_take (view isOpen) taken
  have running : fatal result = false → b.ended = false := by
    intro harmless
    obtain ⟨_,full,received⟩ := Option.map_eq_some_iff.mp taken
    cases received
    by_contra ended
    have fatalResult := ((view isOpen).1 (by simpa using ended)).2 result full
    rw [harmless] at fatalResult
    cases fatalResult
  unfold handleNext
  rw [read]
  cases result with
  | ok request =>
    simp only [handleReceived]
    rw [state]
    exact ⟨rfl,by simp [sent],by simp [isOpen,same],fun _ => after rfl,fun _ => .inl (running rfl)⟩
  | error e =>
    cases e with
    | malformed message =>
      exact ⟨state,by simp [handleReceived,sent],by simp [handleReceived,isOpen,same],fun _ => after rfl,
        fun _ => .inl (running rfl)⟩
    | oversized declared =>
      exact ⟨state,sent,rfl,fun closed => (by cases closed),fun closed => (by cases closed)⟩
    | io =>
      exact ⟨state,sent,rfl,fun closed => (by cases closed),fun closed => (by cases closed)⟩

/-- What is no turn of the loop: the thread alone, or something else that is done to both connections. -/
theorem Agrees.changed {host host' : Host σ} {conn conn' : Connection σ} (agrees : Agrees lib host conn)
    (state : host'.state = conn'.state) (sent : host'.sent = conn'.sent) (buffer : host'.buffer = host.buffer)
    (input : conn'.input = conn.input) (isOpen : host'.isOpen = host.isOpen) (isOpen' : conn'.isOpen = conn.isOpen) :
    Agrees lib host' conn' := by
  refine ⟨state,sent,?_,?_,?_⟩
  · rw [isOpen,isOpen',agrees.isOpen]
  · rw [isOpen,buffer,input]
    exact agrees.view
  · rw [isOpen,buffer]
    exact agrees.more

theorem relay_agrees {host : Host σ} {conn : Connection σ} (agrees : Agrees lib host conn) (event : IpcResponse) :
    Agrees lib (relayHostEvent daemon host event) (relayClientEvent daemon conn event) := by
  cases event with
  | deviceConnected device =>
    refine agrees.changed agrees.state ?_ rfl rfl rfl rfl
    simp [relayHostEvent,relayClientEvent,agrees.sent]
  | deviceDisconnected device =>
    refine agrees.changed ?_ ?_ rfl rfl rfl rfl
    · simp [relayHostEvent,relayClientEvent,agrees.state]
    · simp [relayHostEvent,relayClientEvent,agrees.sent]
  | inputReport => exact agrees

/-- Every step of the host is one of the other loop, or one of its thread that the other loop does not have. -/
theorem host_matched {host host' : Host σ} {conn : Connection σ} {action : HostAction σ} (agrees : Agrees lib host conn)
    (taken : hostStep lib daemon clientId host action = some host') :
    ∃ trace conn', exec (step lib daemon clientId) conn trace = some conn' ∧ Agrees lib host' conn' := by
  by_cases isOpen : host.isOpen = true
  · have same : conn.isOpen = true := by rw [← agrees.isOpen,isOpen]
    unfold hostStep at taken
    rw [if_pos isOpen] at taken
    cases action with
    | fetch =>
      obtain ⟨b,fetched,rfl⟩ := Option.map_eq_some_iff.mp taken
      refine ⟨[],conn,rfl,agrees.state,agrees.sent,agrees.isOpen,fun _ => view_fetch (agrees.view isOpen) fetched,?_⟩
      intro _
      left
      unfold fetch at fetched
      by_cases idle : (host.buffer.ended || host.buffer.held.isSome) = true
      · rw [if_pos idle] at fetched
        cases fetched
      · rw [if_neg idle] at fetched
        cases fetched
        simp only [Bool.or_eq_true,not_or,Bool.not_eq_true] at idle
        exact idle.1
    | push =>
      obtain ⟨b,pushed,rfl⟩ := Option.map_eq_some_iff.mp taken
      refine ⟨[],conn,rfl,agrees.state,agrees.sent,agrees.isOpen,fun _ => view_push (agrees.view isOpen) pushed,?_⟩
      intro _
      right
      unfold push at pushed
      split at pushed
      · cases pushed
        rfl
      · cases pushed
    | request =>
      obtain ⟨⟨result,b⟩,received,rfl⟩ := Option.map_eq_some_iff.mp taken
      exact ⟨[.request],_,exec_cons.mpr ⟨_,step_request same,rfl⟩,handleNext_agrees agrees isOpen received⟩
    | relay event =>
      cases taken
      refine ⟨[.relay event],_,exec_cons.mpr ⟨_,?_,rfl⟩,relay_agrees agrees event⟩
      rw [step,if_pos same]
    | deliver deviceId reports =>
      cases taken
      refine ⟨[.deliver deviceId reports],_,exec_cons.mpr ⟨_,by rw [step,if_pos same],rfl⟩,?_⟩
      exact agrees.changed agrees.state (by simp [agrees.sent]) rfl rfl rfl rfl
    | others next =>
      cases taken
      refine ⟨[.others next],_,exec_cons.mpr ⟨_,by rw [step,if_pos same],rfl⟩,?_⟩
      exact agrees.changed rfl agrees.sent rfl rfl rfl rfl
  · simp [hostStep,isOpen] at taken

/-- The thread gets the next result to the loop. -/
theorem host_ready (daemon : Daemon σ) (clientId : ClientId) {host : Host σ} {conn : Connection σ}
    (agrees : Agrees lib host conn) (isOpen : host.isOpen = true) :
    ∃ trace host', exec (hostStep lib daemon clientId) host trace = some host' ∧ Agrees lib host' conn ∧
      host'.isOpen = true ∧ host'.buffer.queue.isSome := by
  have fetchStep {h : Host σ} {b : Buffer Bytes ReadResult} (open' : h.isOpen = true)
      (fetched : fetch (readNmRequest lib) h.buffer = some b) :
      hostStep lib daemon clientId h .fetch = some { h with buffer := b } := by
    rw [hostStep,if_pos open',fetched]
    rfl
  have pushStep {h : Host σ} {b : Buffer Bytes ReadResult} (open' : h.isOpen = true)
      (pushed : push fatal h.buffer = some b) :
      hostStep lib daemon clientId h .push = some { h with buffer := b } := by
    rw [hostStep,if_pos open',pushed]
    rfl
  have view := agrees.view isOpen
  rcases ready (readNmRequest lib) fatal (agrees.more isOpen) with
    ⟨r,full⟩ | ⟨b,pushed,full⟩ | ⟨b,b',fetched,pushed,full⟩
  · exact ⟨[],host,rfl,agrees,isOpen,by rw [full]; rfl⟩
  · refine ⟨[.push],_,exec_cons.mpr ⟨_,pushStep isOpen pushed,rfl⟩,?_,isOpen,full⟩
    exact ⟨agrees.state,agrees.sent,agrees.isOpen,fun _ => view_push view pushed,fun _ => .inr full⟩
  · refine ⟨[.fetch,.push],_,exec_cons.mpr ⟨_,fetchStep isOpen fetched,exec_cons.mpr ⟨_,pushStep isOpen pushed,rfl⟩⟩,?_,
      isOpen,full⟩
    exact ⟨agrees.state,agrees.sent,agrees.isOpen,fun _ => view_push (view_fetch view fetched) pushed,
      fun _ => .inr full⟩

/-- Every step of the other loop is one of the host, once its thread is ready. -/
theorem conn_matched {host : Host σ} {conn conn' : Connection σ} {action : Action σ} (agrees : Agrees lib host conn)
    (taken : step lib daemon clientId conn action = some conn') :
    ∃ trace host', exec (hostStep lib daemon clientId) host trace = some host' ∧ Agrees lib host' conn' := by
  by_cases same : conn.isOpen = true
  · have isOpen : host.isOpen = true := by rw [agrees.isOpen,same]
    unfold step at taken
    rw [if_pos same,Option.some.injEq] at taken
    subst taken
    cases action with
    | request =>
      obtain ⟨trace,host',run,agrees',isOpen',full⟩ := host_ready daemon clientId agrees isOpen
      obtain ⟨result,queued⟩ := Option.isSome_iff_exists.mp full
      have received : take host'.buffer = some (result,{ host'.buffer with queue := none }) := by
        rw [take,queued]
        rfl
      refine ⟨trace ++ [.request],_,exec_append.mpr ⟨host',run,exec_cons.mpr ⟨_,?_,rfl⟩⟩,
        handleNext_agrees agrees' isOpen' received⟩
      rw [hostStep,if_pos isOpen',received]
      rfl
    | relay event =>
      refine ⟨[.relay event],_,exec_cons.mpr ⟨_,?_,rfl⟩,relay_agrees agrees event⟩
      rw [hostStep,if_pos isOpen]
    | deliver deviceId reports =>
      refine ⟨[.deliver deviceId reports],_,exec_cons.mpr ⟨_,by rw [hostStep,if_pos isOpen],rfl⟩,?_⟩
      exact agrees.changed agrees.state (by simp [agrees.sent]) rfl rfl rfl rfl
    | others next =>
      refine ⟨[.others next],_,exec_cons.mpr ⟨_,by rw [hostStep,if_pos isOpen],rfl⟩,?_⟩
      exact agrees.changed rfl agrees.sent rfl rfl rfl rfl
  · simp [step,same] at taken

theorem agrees_start (input : Bytes) (state : σ) :
    Agrees lib { buffer := { input }, state } { input, state } :=
  ⟨rfl,rfl,rfl,fun _ => view_start _ _ input,fun _ => .inl rfl⟩

end Agreement

/-- The same output of a run of the one loop and of the other: what was sent, the daemon and whether it goes on. -/
def Host.observe {σ : Type} (host : Host σ) : σ × List NmMessage × Bool := (host.state,host.sent,host.isOpen)
def observe {σ : Type} (conn : Connection σ) : σ × List NmMessage × Bool := (conn.state,conn.sent,conn.isOpen)

/-- However its thread and its loop take turns, the native-messaging host shows what the loop behind the socket can show
    on the same input, and it can show all of that. -/
theorem host_loop_agrees {σ : Type} (lib : Decoders) (daemon : Daemon σ) (clientId : ClientId) (input : Bytes)
    (state : σ) (shown : σ × List NmMessage × Bool) :
    (∃ trace host, exec (hostStep lib daemon clientId) { buffer := { input }, state } trace = some host ∧
      host.observe = shown) ↔
    ∃ trace conn, exec (step lib daemon clientId) { input, state } trace = some conn ∧ observe conn = shown := by
  constructor
  · rintro ⟨trace,host,run,rfl⟩
    obtain ⟨trace',conn,run',agrees⟩ := exec_simulation (R := Agrees lib)
      (fun _ _ _ _ agrees taken => host_matched agrees taken) (agrees_start input state) run
    exact ⟨trace',conn,run',by rw [observe,Host.observe,agrees.state,agrees.sent,agrees.isOpen]⟩
  · rintro ⟨trace,conn,run,rfl⟩
    obtain ⟨trace',host,run',agrees⟩ := exec_simulation (R := fun conn host => Agrees lib host conn)
      (fun _ _ _ _ agrees taken => conn_matched agrees taken) (agrees_start input state) run
    exact ⟨trace',host,run',by rw [observe,Host.observe,agrees.state,agrees.sent,agrees.isOpen]⟩

end FFWebHid.RequestLoops
