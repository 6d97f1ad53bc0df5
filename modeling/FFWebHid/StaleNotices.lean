import FFWebHid.Runs
import FFWebHid.StreamFraming

/-!
The two transports of the JavaScript side, `webtransport.js` and `websocket.js`,
over the connections that each starts one after another. A transport has one set of
variables for all of them, and what a connection still has to tell is told when the
next one may have been started.
-/
namespace FFWebHid.StaleNotices
open FFWebHid.Types FFWebHid.LittleEndian FFWebHid.Runs FFWebHid.StreamFraming

/-- What is given to `connect`, but for the level of the log. -/
structure ConnectMsg where
  port : Nat
  certHash : Option String
  token : String
  deriving DecidableEq

/-- A call of one of the callbacks in `opts`. -/
inductive Callback where
  | ready
  | closed (willReconnect : Bool)
  | authFailed (code : Nat)
  | binary (frame : Bytes)
  | text (data : String)
  deriving DecidableEq

/-! ### WebTransport -/

namespace WebTransport

/-- Promises and timers that have not settled, each with its connection: `ready` and
    `closed` of a connection, a stream to be created, a read with the bytes kept
    before it, a write. -/
inductive Due where
  | ready (conn : Nat)
  | closed (conn : Nat)
  | attach (conn : Nat)
  | read (conn : Nat) (buf : Bytes)
  | write (conn : Nat)
  | auth (timer : Nat)
  deriving DecidableEq

/-- The variables of `createWtTransport`. A connection stands for itself, its streams
    and their readers and writers by its number. -/
structure Transport where
  wt : Option Nat := none
  connectMsg : Option ConnectMsg := none
  streamWriter : Option Nat := none
  streamReader : Option Nat := none
  authTimer : Option Nat := none
  reconnectTimer : Bool := false
  reconnectDelay : Nat := 500
  opened : Bool := false
  closedHandled : Bool := true
  failed : Bool := false
  deriving DecidableEq

structure World where
  t : Transport := {}
  due : List Due := []
  calls : List Callback := []
  started : List (String × Option String) := []
  timers : Nat := 0

def World.call (w : World) (callback : Callback) : World := { w with calls := w.calls ++ [callback] }

def Transport.scheduleReconnect (t : Transport) : Transport :=
  if t.connectMsg.isNone || t.reconnectTimer then t
  else { t with reconnectTimer := true, reconnectDelay := min (t.reconnectDelay * 2) 5000 }

def World.failTransport (w : World) : World :=
  if w.t.failed || w.t.connectMsg.isNone then w
  else
    let w := { w with t := { w.t with
      failed := true, wt := none, opened := false, streamWriter := none, streamReader := none, closedHandled := true } }
    let w := w.call (.closed true)
    { w with t := w.t.scheduleReconnect }

/-- `clearTimeout(authTimer); authTimer = null`, if there is one. -/
def World.clearAuthTimer (w : World) : World :=
  match w.t.authTimer with
  | none => w
  | some timer => { w with due := w.due.erase (.auth timer), t := { w.t with authTimer := none } }

def World.handleClosed (w : World) : World :=
  if w.t.closedHandled || w.t.wt.isNone then w
  else
    let authPending := w.t.authTimer.isSome
    let w := { w with t := { w.t with closedHandled := true } }.clearAuthTimer
    let wasReady := w.t.opened
    let w := { w with t := { w.t with opened := false, wt := none, streamWriter := none, streamReader := none } }
    if !wasReady || authPending then w.call (.authFailed 0)
    else
      let w := w.call (.closed true)
      { w with t := w.t.scheduleReconnect }

/-- `doConnect`; the constructor may throw. -/
def World.doConnect (w : World) (throws : Bool) : World :=
  match w.t.connectMsg with
  | none => w
  | some msg =>
    let url := s!"https://127.0.0.1:{msg.port}/{msg.token}"
    if throws then
      { w with t := { w.t with failed := false, wt := none, closedHandled := true } }.call (.closed false)
    else
      let conn := w.started.length
      { w with
        t := { w.t with closedHandled := false, failed := false, wt := some conn }
        started := w.started ++ [(url,msg.certHash)]
        due := w.due ++ [.ready conn,.closed conn] }

/-- The part of `attachStream` before the stream is there. -/
def World.attachStream (w : World) : World :=
  match w.t.wt with
  | none => w
  | some conn => { w with due := w.due ++ [.attach conn] }

def World.onReady (w : World) : World :=
  if w.t.wt.isNone then w
  else
    { w with
      t := { w.t with opened := true, reconnectDelay := 500, authTimer := some w.timers }
      due := w.due ++ [Due.auth w.timers]
      timers := w.timers + 1 }.attachStream

def World.onReadyRejected (w : World) : World :=
  { w with t := { w.t with
    closedHandled := true, opened := false, wt := none, streamWriter := none, streamReader := none } }.call (.authFailed 0)

/-- The part of `attachStream` once there is a stream of a connection. -/
def World.onAttached (w : World) (conn : Nat) : World :=
  if w.t.wt.isNone then w
  else
    let w := w.clearAuthTimer
    { w with
      due := w.due ++ [Due.read conn []]
      t := { w.t with streamWriter := some conn, streamReader := some conn } }.call .ready

/-- The frames in the bytes of a read, and the bytes that are kept. -/
def framesIn (buf : Bytes) : List Bytes × Bytes :=
  match takeFrames (fun (_ : Unit) _ => some ()) buf () with
  | (frames,some (left,_)) => (frames,left)
  | (frames,none) => (frames,[])

def World.onChunk (w : World) (conn : Nat) (buf : Bytes) : World :=
  let (frames,left) := framesIn buf
  { w with due := w.due ++ [.read conn left], calls := w.calls ++ frames.map .binary }

def World.disconnect (w : World) : World :=
  let w := { w with t := { w.t with reconnectTimer := false, streamReader := none, streamWriter := none } }.clearAuthTimer
  { w with t := { w.t with wt := none, opened := false, closedHandled := true, failed := true, connectMsg := none } }

/-- `send`: two writes on the stream, if there is one. -/
def World.send (w : World) : World :=
  match w.t.wt,w.t.streamWriter with
  | some _,some conn => if w.t.opened then { w with due := w.due ++ [.write conn,.write conn] } else w
  | _,_ => w

inductive Event where
  | connect (msg : ConnectMsg) (throws : Bool)
  | disconnect
  | send
  | reconnect (throws : Bool)
  | authExpired (timer : Nat)
  | ready (conn : Nat)
  | readyRejected (conn : Nat)
  | closed (conn : Nat)
  | attached (conn : Nat)
  | attachFailed (conn : Nat)
  | chunk (conn : Nat) (buf bytes : Bytes)
  | readEnded (conn : Nat) (buf : Bytes)
  | written (conn : Nat)
  | writeFailed (conn : Nat)
  deriving DecidableEq

/-- Settle a promise or let a timer expire, once. -/
def World.settle (w : World) (due : Due) (next : World → World) : Option World :=
  if due ∈ w.due then some (next { w with due := w.due.erase due }) else none

def step (w : World) : Event → Option World
  | .connect msg throws => some ({ w with t := { w.t with connectMsg := some msg } }.doConnect throws)
  | .disconnect => some w.disconnect
  | .send => some w.send
  | .reconnect throws =>
    if w.t.reconnectTimer then some ({ w with t := { w.t with reconnectTimer := false } }.doConnect throws) else none
  | .authExpired timer => w.settle (.auth timer) fun w => { w with t := { w.t with authTimer := none } }
  | .ready conn => w.settle (.ready conn) World.onReady
  | .readyRejected conn => w.settle (.ready conn) World.onReadyRejected
  | .closed conn => w.settle (.closed conn) World.handleClosed
  | .attached conn => w.settle (.attach conn) fun w => w.onAttached conn
  | .attachFailed conn => w.settle (.attach conn) World.failTransport
  | .chunk conn buf bytes => w.settle (.read conn buf) fun w => w.onChunk conn (buf ++ bytes)
  | .readEnded conn buf => w.settle (.read conn buf) fun w => { w with t := { w.t with streamReader := none } }
  | .written conn => w.settle (.write conn) id
  | .writeFailed conn => w.settle (.write conn) World.failTransport

/-- The connection that an event is a notice of. -/
def noticeOf : Event → Option Nat
  | .ready conn | .readyRejected conn | .closed conn | .attached conn | .attachFailed conn => some conn
  | .chunk conn _ _ | .readEnded conn _ | .written conn | .writeFailed conn => some conn
  | _ => none

/-- A notice of a connection that is not the current one changes no variable and
    calls nothing. -/
def Inert (w : World) (event : Event) (w' : World) : Prop :=
  ∀ conn, noticeOf event = some conn → w.t.wt ≠ some conn → w'.t = w.t ∧ w'.calls = w.calls

/-- No frame is whole. -/
def Short (buf : Bytes) : Prop := buf.length < 4 ∨ buf.length < 4 + fieldAt buf 0 4

/-- The guard that stops a notice of a connection that is not the current one. -/
def guarded (t : Transport) : Event → Prop
  | .ready _ | .attached _ => t.wt = none
  | .readyRejected _ => False
  | .closed _ => t.closedHandled = true ∨ t.wt = none
  | .attachFailed _ | .writeFailed _ => t.failed = true ∨ t.connectMsg = none
  | .chunk _ buf bytes => Short (buf ++ bytes)
  | .readEnded _ _ => t.streamReader = none
  | _ => True

def Guarded (w : World) (event : Event) : Prop :=
  ∀ conn, noticeOf event = some conn → w.t.wt ≠ some conn → guarded w.t event

/-- No variable has changed, nothing has been called. -/
def Unmoved (w w' : World) : Prop := w'.t = w.t ∧ w'.calls = w.calls

theorem called {w w' : World} (callback : Callback) (told : w'.calls = w.calls ++ [callback]) : ¬ Unmoved w w' := by
  rintro ⟨-,same⟩
  rw [told] at same
  simp at same

/-- The timers that the variables name have been started. -/
def Fresh (w : World) : Prop := ∀ timer, w.t.authTimer = some timer → timer < w.timers

theorem clearAuthTimer_calls (w : World) : w.clearAuthTimer.calls = w.calls := by
  unfold World.clearAuthTimer
  split <;> rfl

theorem clearAuthTimer_timers (w : World) : w.clearAuthTimer.timers = w.timers ∧ w.clearAuthTimer.t.authTimer = none := by
  unfold World.clearAuthTimer
  split
  · rename_i unset
    exact ⟨rfl,unset⟩
  · exact ⟨rfl,rfl⟩

theorem onReady_unmoved {w : World} (fresh : Fresh w) : Unmoved w w.onReady ↔ w.t.wt = none := by
  unfold World.onReady
  cases current : w.t.wt with
  | none => simp [Unmoved]
  | some conn =>
    simp only [Option.isNone_some,Bool.false_eq_true,if_false,World.attachStream,current,reduceCtorEq,iff_false]
    rintro ⟨same,-⟩
    have timer : w.t.authTimer = some w.timers := by rw [← same]
    exact Nat.lt_irrefl _ (fresh _ timer)

theorem onReadyRejected_moves (w : World) : ¬ Unmoved w w.onReadyRejected := called (.authFailed 0) rfl

theorem handleClosed_unmoved (w : World) : Unmoved w w.handleClosed ↔ w.t.closedHandled = true ∨ w.t.wt = none := by
  unfold World.handleClosed
  by_cases stops : (w.t.closedHandled || w.t.wt.isNone) = true
  · rw [if_pos stops]
    have guard : w.t.closedHandled = true ∨ w.t.wt = none := by simpa using stops
    exact ⟨fun _ => guard,fun _ => ⟨rfl,rfl⟩⟩
  · rw [if_neg stops]
    have open_ : ¬ (w.t.closedHandled = true ∨ w.t.wt = none) := by simpa using stops
    refine ⟨fun unmoved => ?_,fun guard => (open_ guard).elim⟩
    have same := clearAuthTimer_calls { w with t := { w.t with closedHandled := true } }
    simp only at unmoved
    split_ifs at unmoved
    · exact (called (.authFailed 0) (by simp [World.call,same]) unmoved).elim
    · exact (called (.closed true) (by simp [World.call,same]) unmoved).elim

theorem onAttached_unmoved (w : World) (conn : Nat) : Unmoved w (w.onAttached conn) ↔ w.t.wt = none := by
  unfold World.onAttached
  cases current : w.t.wt with
  | none => simp [Unmoved]
  | some other =>
    simp only [Option.isNone_some,Bool.false_eq_true,if_false,reduceCtorEq,iff_false]
    exact called .ready (by simp [World.call,clearAuthTimer_calls])

theorem failTransport_unmoved (w : World) : Unmoved w w.failTransport ↔ w.t.failed = true ∨ w.t.connectMsg = none := by
  unfold World.failTransport
  by_cases stops : (w.t.failed || w.t.connectMsg.isNone) = true
  · rw [if_pos stops]
    have guard : w.t.failed = true ∨ w.t.connectMsg = none := by simpa using stops
    exact ⟨fun _ => guard,fun _ => ⟨rfl,rfl⟩⟩
  · rw [if_neg stops]
    have open_ : ¬ (w.t.failed = true ∨ w.t.connectMsg = none) := by simpa using stops
    refine ⟨fun unmoved => ?_,fun guard => (open_ guard).elim⟩
    exact (called (.closed true) rfl unmoved).elim

theorem framesIn_nil (buf : Bytes) : (framesIn buf).1 = [] ↔ Short buf := by
  unfold framesIn Short
  rw [takeFrames]
  by_cases header : 4 ≤ buf.length
  · by_cases whole : buf.length < 4 + fieldAt buf 0 4
    · simp [header,whole]
    · have notShort : ¬ (buf.length < 4 ∨ buf.length < 4 + fieldAt buf 0 4) := by omega
      simp only [if_pos header,if_neg whole]
      refine ⟨fun none_ => ?_,fun short => (notShort short).elim⟩
      split at none_ <;> simp_all
  · have short : buf.length < 4 := by omega
    simp [header,short]

theorem onChunk_unmoved (w : World) (conn : Nat) (buf : Bytes) : Unmoved w (w.onChunk conn buf) ↔ Short buf := by
  rw [← framesIn_nil]
  simp [Unmoved,World.onChunk]

theorem reader_unmoved (w : World) : Unmoved w { w with t := { w.t with streamReader := none } } ↔ w.t.streamReader = none := by
  constructor
  · rintro ⟨same,-⟩
    rw [← same]
  · intro unset
    refine ⟨?_,rfl⟩
    cases w with
    | mk t due calls started timers =>
      cases t
      cases unset
      rfl

/-- A settled promise is gone, and its continuation runs in the same state. -/
theorem settle_some {w w' : World} {due : Due} {next : World → World} (taken : w.settle due next = some w') :
    w' = next { w with due := w.due.erase due } := by
  unfold World.settle at taken
  split_ifs at taken
  exact (Option.some.inj taken).symm

/-- A notice of another connection is inert exactly if its guard holds. -/
theorem inert_iff {w w' : World} (fresh : Fresh w) {event : Event} (taken : step w event = some w') :
    Inert w event w' ↔ Guarded w event := by
  have same {conn : Nat} (told : noticeOf event = some conn) (stops : Unmoved w w' ↔ guarded w.t event) :
      Inert w event w' ↔ Guarded w event := by
    constructor
    · exact fun inert conn notice stale => stops.mp (inert conn notice stale)
    · exact fun guarded conn notice stale => stops.mpr (guarded conn notice stale)
  cases event with
  | connect msg throws | disconnect | send | reconnect throws | authExpired timer =>
    constructor <;> intro _ conn told <;> cases told
  | ready conn =>
    rw [settle_some taken] at same ⊢
    exact same rfl (onReady_unmoved (w := { w with due := w.due.erase (.ready conn) }) fresh)
  | readyRejected conn =>
    rw [settle_some taken] at same ⊢
    exact same rfl (iff_false_intro (onReadyRejected_moves { w with due := w.due.erase (.ready conn) }))
  | closed conn =>
    rw [settle_some taken] at same ⊢
    exact same rfl (handleClosed_unmoved { w with due := w.due.erase (.closed conn) })
  | attached conn =>
    have settled : w.settle (.attach conn) (fun w => w.onAttached conn) = some w' := taken
    rw [settle_some settled] at same ⊢
    exact same rfl (onAttached_unmoved { w with due := w.due.erase (.attach conn) } conn)
  | attachFailed conn =>
    rw [settle_some taken] at same ⊢
    exact same rfl (failTransport_unmoved { w with due := w.due.erase (.attach conn) })
  | chunk conn buf bytes =>
    have settled : w.settle (.read conn buf) (fun w => w.onChunk conn (buf ++ bytes)) = some w' := taken
    rw [settle_some settled] at same ⊢
    exact same rfl (onChunk_unmoved { w with due := w.due.erase (.read conn buf) } conn (buf ++ bytes))
  | readEnded conn buf =>
    have settled : w.settle (.read conn buf) (fun w => { w with t := { w.t with streamReader := none } }) = some w' := taken
    rw [settle_some settled] at same ⊢
    exact same rfl (reader_unmoved { w with due := w.due.erase (.read conn buf) })
  | written conn =>
    rw [settle_some taken] at same ⊢
    exact same rfl ⟨fun _ => trivial,fun _ => ⟨rfl,rfl⟩⟩
  | writeFailed conn =>
    rw [settle_some taken] at same ⊢
    exact same rfl (failTransport_unmoved { w with due := w.due.erase (.write conn) })

/-- No timer is named that was not named before. -/
def Aged (w w' : World) : Prop := w'.timers = w.timers ∧ (w'.t.authTimer = w.t.authTimer ∨ w'.t.authTimer = none)

theorem Aged.fresh {w w' : World} (aged : Aged w w') (fresh : Fresh w) : Fresh w' := by
  obtain ⟨timers,same | cleared⟩ := aged
  · intro timer set
    rw [timers]
    exact fresh timer (same ▸ set)
  · intro timer set
    rw [cleared] at set
    cases set

theorem scheduleReconnect_authTimer (t : Transport) : t.scheduleReconnect.authTimer = t.authTimer := by
  unfold Transport.scheduleReconnect
  split_ifs <;> rfl

theorem failTransport_aged (w : World) : Aged w w.failTransport := by
  unfold World.failTransport
  split_ifs
  · exact ⟨rfl,.inl rfl⟩
  · exact ⟨rfl,.inl (scheduleReconnect_authTimer _)⟩

theorem handleClosed_aged (w : World) : Aged w w.handleClosed := by
  unfold World.handleClosed
  obtain ⟨timers,cleared⟩ := clearAuthTimer_timers { w with t := { w.t with closedHandled := true } }
  split_ifs
  · exact ⟨rfl,.inl rfl⟩
  · simp only
    split_ifs
    · exact ⟨timers,.inr cleared⟩
    · exact ⟨timers,.inr ((scheduleReconnect_authTimer _).trans cleared)⟩

theorem onAttached_aged (w : World) (conn : Nat) : Aged w (w.onAttached conn) := by
  unfold World.onAttached
  obtain ⟨timers,cleared⟩ := clearAuthTimer_timers w
  split_ifs
  · exact ⟨rfl,.inl rfl⟩
  · exact ⟨timers,.inr cleared⟩

theorem doConnect_aged (w : World) (throws : Bool) : Aged w (w.doConnect throws) := by
  unfold World.doConnect
  split
  · exact ⟨rfl,.inl rfl⟩
  · split_ifs
    · exact ⟨rfl,.inl rfl⟩
    · exact ⟨rfl,.inl rfl⟩

theorem disconnect_aged (w : World) : Aged w w.disconnect := by
  obtain ⟨timers,cleared⟩ :=
    clearAuthTimer_timers { w with t := { w.t with reconnectTimer := false, streamReader := none, streamWriter := none } }
  exact ⟨timers,.inr cleared⟩

theorem send_aged (w : World) : Aged w w.send := by
  unfold World.send
  split
  · split_ifs <;> exact ⟨rfl,.inl rfl⟩
  · exact ⟨rfl,.inl rfl⟩

theorem onReady_fresh {w : World} (fresh : Fresh w) : Fresh w.onReady := by
  unfold World.onReady
  cases current : w.t.wt with
  | none => exact fresh
  | some conn =>
    simp only [Option.isNone_some,Bool.false_eq_true,if_false,World.attachStream,current]
    intro timer set
    cases set
    exact Nat.lt_succ_self _

theorem step_fresh {w w' : World} (event : Event) (fresh : Fresh w) (taken : step w event = some w') : Fresh w' := by
  cases event with
  | connect msg throws =>
    cases taken
    exact (doConnect_aged _ throws).fresh fresh
  | disconnect =>
    cases taken
    exact (disconnect_aged w).fresh fresh
  | send =>
    cases taken
    exact (send_aged w).fresh fresh
  | reconnect throws =>
    rw [step] at taken
    split_ifs at taken
    cases taken
    exact (doConnect_aged _ throws).fresh fresh
  | authExpired timer =>
    have settled : w.settle (.auth timer) (fun w => { w with t := { w.t with authTimer := none } }) = some w' := taken
    rw [settle_some settled]
    exact Aged.fresh (w := w) ⟨rfl,.inr rfl⟩ fresh
  | ready conn =>
    rw [settle_some taken]
    exact onReady_fresh fresh
  | readyRejected conn =>
    rw [settle_some taken]
    exact Aged.fresh (w := w) ⟨rfl,.inl rfl⟩ fresh
  | closed conn =>
    rw [settle_some taken]
    exact (handleClosed_aged _).fresh fresh
  | attached conn =>
    have settled : w.settle (.attach conn) (fun w => w.onAttached conn) = some w' := taken
    rw [settle_some settled]
    exact (onAttached_aged _ conn).fresh fresh
  | attachFailed conn =>
    rw [settle_some taken]
    exact (failTransport_aged _).fresh fresh
  | chunk conn buf bytes =>
    have settled : w.settle (.read conn buf) (fun w => w.onChunk conn (buf ++ bytes)) = some w' := taken
    rw [settle_some settled]
    exact Aged.fresh (w := w) ⟨rfl,.inl rfl⟩ fresh
  | readEnded conn buf =>
    have settled : w.settle (.read conn buf) (fun w => { w with t := { w.t with streamReader := none } }) = some w' := taken
    rw [settle_some settled]
    exact Aged.fresh (w := w) ⟨rfl,.inl rfl⟩ fresh
  | written conn =>
    rw [settle_some taken]
    exact fresh
  | writeFailed conn =>
    rw [settle_some taken]
    exact (failTransport_aged _).fresh fresh

theorem inert_run (trace : List Event) : AllSteps step Inert {} trace ↔ AllSteps step (fun w event _ => Guarded w event) {} trace := by
  refine allSteps_congr (fun w event w' fresh taken => step_fresh event fresh taken) ?_ (I := Fresh) ?_
  · exact fun w event w' fresh taken => inert_iff fresh taken
  · intro timer set
    cases set

end WebTransport

/-! ### WebSocket -/

namespace WebSocket

/-- How far a socket is. One that is closing tells no more than that it has closed. -/
inductive Phase where
  | connecting
  | opened
  | closing
  deriving DecidableEq

/-- A socket that has not told that it closed, and whether it has `onclose`. -/
structure Socket where
  conn : Nat
  phase : Phase := .connecting
  onclose : Bool := true
  deriving DecidableEq

/-- The variables of `createWsTransport`. -/
structure Transport where
  ws : Option Nat := none
  connectMsg : Option ConnectMsg := none
  reconnectTimer : Bool := false
  reconnectDelay : Nat := 500
  deriving DecidableEq

structure World where
  t : Transport := {}
  sockets : List Socket := []
  calls : List Callback := []
  started : List (String × String) := []

def World.call (w : World) (callback : Callback) : World := { w with calls := w.calls ++ [callback] }

def Transport.scheduleReconnect (t : Transport) : Transport :=
  if t.connectMsg.isNone || t.reconnectTimer then t
  else { t with reconnectTimer := true, reconnectDelay := min (t.reconnectDelay * 2) 5000 }

/-- `doConnect`; the constructor may throw. -/
def World.doConnect (w : World) (throws : Bool) : World :=
  match w.t.connectMsg with
  | none => w
  | some msg =>
    if throws then { w with t := w.t.scheduleReconnect }
    else
      let conn := w.started.length
      { w with
        t := { w.t with ws := some conn }
        started := w.started ++ [(s!"ws://127.0.0.1:{msg.port}","webhid." ++ msg.token)]
        sockets := w.sockets ++ [{ conn }] }

def wsCloseUnknownToken : Nat := 4401
def wsCloseBadToken : Nat := 4402

/-- The handler `onclose`. -/
def World.onClose (w : World) (code : Nat) : World :=
  let w := { w with t := { w.t with ws := none } }
  if code = wsCloseUnknownToken ∨ code = wsCloseBadToken then
    { w with t := { w.t with connectMsg := none } }.call (.authFailed code)
  else
    let w := w.call (.closed true)
    { w with t := w.t.scheduleReconnect }

def World.disconnect (w : World) : World :=
  { w with
    sockets := w.sockets.map fun (socket : Socket) =>
      if w.t.ws = some socket.conn then { socket with phase := .closing, onclose := false } else socket
    t := { w.t with ws := none, connectMsg := none, reconnectTimer := false } }

/-- What `onmessage` is given. -/
inductive Data where
  | text (data : String)
  | binary (data : Bytes)
  deriving DecidableEq

inductive Event where
  | connect (msg : ConnectMsg) (throws : Bool)
  | disconnect
  | reconnect (throws : Bool)
  | opened (conn : Nat)
  | errored (conn : Nat)
  | message (conn : Nat) (data : Data)
  | closed (conn : Nat) (code : Nat)
  deriving DecidableEq

variable (onText : Bool)

/-- `onmessage`; `onText` says whether there is that callback. -/
def World.onMessage (w : World) : Data → World
  | .text data => if onText then w.call (.text data) else w
  | .binary data => w.call (.binary data)

def step (w : World) : Event → Option World
  | .connect msg throws => some ({ w with t := { w.t with connectMsg := some msg } }.doConnect throws)
  | .disconnect => some w.disconnect
  | .reconnect throws =>
    if w.t.reconnectTimer then some ({ w with t := { w.t with reconnectTimer := false } }.doConnect throws) else none
  | .opened conn =>
    match w.sockets.find? (·.conn = conn) with
    | some ⟨_,.connecting,_⟩ => some ({ w with
        sockets := w.sockets.map fun (socket : Socket) => if socket.conn = conn then { socket with phase := .opened } else socket
        t := { w.t with reconnectDelay := 500 } }.call .ready)
    | _ => none
  | .errored conn => if (w.sockets.find? (·.conn = conn)).isSome then some w else none
  | .message conn data =>
    match w.sockets.find? (·.conn = conn) with
    | some ⟨_,.opened,_⟩ => some (w.onMessage onText data)
    | _ => none
  | .closed conn code =>
    match w.sockets.find? (·.conn = conn) with
    | some socket =>
      let w := { w with sockets := w.sockets.filter (·.conn ≠ conn) }
      some (if socket.onclose then w.onClose code else w)
    | none => none

def noticeOf : Event → Option Nat
  | .opened conn | .errored conn | .message conn _ | .closed conn _ => some conn
  | _ => none

def Inert (w : World) (event : Event) (w' : World) : Prop :=
  ∀ conn, noticeOf event = some conn → w.t.ws ≠ some conn → w'.t = w.t ∧ w'.calls = w.calls

/-- The same guard for the other transport: the missing handler of a close, the
    missing callback of a text. -/
def guarded (w : World) : Event → Prop
  | .opened _ => False
  | .message _ (.text _) => onText = false
  | .message _ (.binary _) => False
  | .closed conn _ => (w.sockets.find? (·.conn = conn)).all (!·.onclose) = true
  | _ => True

def Guarded (w : World) (event : Event) : Prop :=
  ∀ conn, noticeOf event = some conn → w.t.ws ≠ some conn → guarded onText w event

theorem called {w w' : World} (callback : Callback) (told : w'.calls = w.calls ++ [callback]) :
    ¬ (w'.t = w.t ∧ w'.calls = w.calls) := by
  rintro ⟨-,same⟩
  rw [told] at same
  simp at same

theorem onClose_moves (w : World) (code : Nat) : ¬ ((w.onClose code).t = w.t ∧ (w.onClose code).calls = w.calls) := by
  unfold World.onClose
  simp only
  split_ifs
  · exact called (.authFailed code) rfl
  · exact called (.closed true) rfl

theorem inert_iff {w w' : World} {event : Event} (taken : step onText w event = some w') :
    Inert w event w' ↔ Guarded onText w event := by
  have same {conn : Nat} (told : noticeOf event = some conn)
      (stops : (w'.t = w.t ∧ w'.calls = w.calls) ↔ guarded onText w event) : Inert w event w' ↔ Guarded onText w event := by
    constructor
    · exact fun inert conn notice stale => stops.mp (inert conn notice stale)
    · exact fun guarded conn notice stale => stops.mpr (guarded conn notice stale)
  cases event with
  | connect msg throws | disconnect | reconnect throws =>
    constructor <;> intro _ conn told <;> cases told
  | opened conn =>
    rw [step] at taken
    split at taken
    · cases taken
      exact same rfl (iff_false_intro (called .ready rfl))
    · cases taken
  | errored conn =>
    rw [step] at taken
    split_ifs at taken
    cases taken
    exact same rfl ⟨fun _ => trivial,fun _ => ⟨rfl,rfl⟩⟩
  | message conn data =>
    rw [step] at taken
    split at taken
    · cases taken
      cases data with
      | text data =>
        refine same rfl ?_
        cases onText with
        | true => exact ⟨fun unmoved => (called (.text data) rfl unmoved).elim,fun guard => by cases guard⟩
        | false => exact ⟨fun _ => rfl,fun _ => ⟨rfl,rfl⟩⟩
      | binary data => exact same rfl (iff_false_intro (called (.binary data) rfl))
    · cases taken
  | closed conn code =>
    rw [step] at taken
    split at taken
    · rename_i socket found
      cases taken
      refine same rfl ?_
      rw [guarded,found]
      cases handled : socket.onclose with
      | true =>
        refine ⟨fun unmoved => ?_,fun guard => by simp [handled] at guard⟩
        exact (onClose_moves { w with sockets := w.sockets.filter (·.conn ≠ conn) } code unmoved).elim
      | false => exact ⟨fun _ => by simp [handled],fun _ => ⟨rfl,rfl⟩⟩
    · cases taken

theorem inert_run (trace : List Event) :
    AllSteps (step onText) Inert {} trace ↔ AllSteps (step onText) (fun w event _ => Guarded onText w event) {} trace := by
  refine allSteps_congr (I := fun _ => True) (fun _ _ _ _ _ => trivial) ?_ trivial
  exact fun w event w' _ taken => inert_iff onText taken

end WebSocket

/-! ### Both transports -/

/-- In every run of either transport, the notices of connections that are no longer
    the current one are inert exactly if the guard of each holds where it arrives. -/
theorem stale_inert_iff (onText : Bool) (transport : List WebTransport.Event) (socket : List WebSocket.Event) :
    (AllSteps WebTransport.step WebTransport.Inert {} transport ↔
      AllSteps WebTransport.step (fun w event _ => WebTransport.Guarded w event) {} transport) ∧
    (AllSteps (WebSocket.step onText) WebSocket.Inert {} socket ↔
      AllSteps (WebSocket.step onText) (fun w event _ => WebSocket.Guarded onText w event) {} socket) :=
  ⟨WebTransport.inert_run transport,WebSocket.inert_run onText socket⟩

/-- The close of a connection that was given up ends the one that has replaced it. -/
theorem stale_close_ends_current :
    (∃ w w', exec WebTransport.step {} [.connect ⟨9,none,"a"⟩ false,.ready 0,.attached 0,.disconnect,.connect ⟨9,none,"b"⟩ false] =
        some w ∧ w.t.wt = some 1 ∧ WebTransport.step w (.closed 0) = some w' ∧ w'.t.wt = none ∧
      w'.calls = w.calls ++ [.authFailed 0]) ∧
    (∃ w w', exec (WebSocket.step false) {} [.connect ⟨9,none,"a"⟩ false,.opened 0,.connect ⟨9,none,"b"⟩ false,.opened 1] =
        some w ∧ w.t.ws = some 1 ∧ WebSocket.step false w (.closed 0 1006) = some w' ∧ w'.t.ws = none ∧
      w'.calls = w.calls ++ [.closed true]) :=
  ⟨⟨_,_,rfl,rfl,rfl,rfl,rfl⟩,⟨_,_,rfl,rfl,rfl,rfl,rfl⟩⟩

end FFWebHid.StaleNotices
