import Mathlib.Data.List.Infix
import Mathlib.Data.List.Nodup
import Mathlib.Data.List.Perm.Basic
import FFWebHid.Runs

/-! The background's native-messaging connection over all its ports: requests with their promises and deadlines, answers,
disconnects, the reconnect timer and the change of the host. -/

namespace FFWebHid.NmConnection
open FFWebHid.Runs

/-- The `n` of a message: a number it may have been given out as, or any other value. -/
inductive Tag where
  | number (n : Nat)
  | other
  deriving DecidableEq,Repr

inductive Event where
  | connect
  | disconnect
  | other
  deriving DecidableEq,Repr

/-- The fields of a native message that its routing reads; of a device only that it is there. -/
structure Message where
  n : Option Tag := none
  e : Option Event := none
  v : Bool := false
  E : Option String := none
  s : Option Nat := none
  d : Option String := none
  deriving DecidableEq,Repr

/-- `E` and a status without a number: the forwarder reports that it cannot reach the daemon. -/
def Message.isHostError (message : Message) : Bool := message.E.isSome && message.s.isSome && message.n.isNone
def Message.isPackedData (message : Message) : Bool := message.d.isSome && message.n.isNone && message.e.isNone

/-- A connection event without its device, after which the devices are enumerated anew. -/
def Message.isBareEvent (message : Message) : Bool :=
  (message.e == some .connect || message.e == some .disconnect) && !message.v

/-- What a retired port's requests are resolved with. -/
def unavailable : Message := { s := some 503 }

inductive Rejection where
  | disconnected
  | timedOut
  | thrown
  deriving DecidableEq,Repr

inductive Outcome where
  | resolved (message : Message)
  | rejected (reason : Rejection)
  deriving DecidableEq,Repr

/-- An entry of `pending`: the number sent, the promise it settles and the port it went out on. -/
structure Request where
  id : Nat
  promise : Nat
  port : Nat
  deriving DecidableEq,Repr

/-- A promise that is no longer pending, with the number its request was given, if it came to that. -/
structure Settlement where
  promise : Nat
  id : Option Nat
  outcome : Outcome
  deriving DecidableEq,Repr

/-- A port by its place among all that were opened, and the host it was opened to. -/
structure Port where
  number : Nat
  host : String
  deriving DecidableEq,Repr

structure Timer where
  handle : Nat
  delay : Nat
  deriving DecidableEq,Repr

/-- `NativeMessaging`, and beside it the timers the browser runs, the ports opened so far, the lifetimes that were reset
    and the promises settled. -/
structure Connection where
  port : Option Port := none
  nextId : Nat := 1
  pending : List Request := []
  reconnectTimer : Option Nat := none
  reconnectDelay : Nat := 1000
  nmHostName : String
  lastError : Option String := none
  deadlines : List Nat := []
  timers : List Timer := []
  handles : Nat := 0
  opened : Nat := 0
  resets : List Nat := []
  calls : Nat := 0
  settled : List Settlement := []
  started : Bool := false
  deriving Repr

section Functions

variable (c : Connection)

/-- Resolves everything that is pending, which also clears the deadlines. -/
def Connection.resolveAll (message : Message) : Connection :=
  { c with pending := [], deadlines := c.deadlines.filter (fun id => id ∉ c.pending.map Request.id),
           settled := c.settled ++ c.pending.map (fun p => ⟨p.promise,some p.id,.resolved message⟩) }

def Connection.tryHostError (message : Message) : Option Connection :=
  if message.isHostError then some { c.resolveAll message with lastError := message.E } else none

/-- The entry a message's number names. -/
def Connection.matching (message : Message) : Option Request :=
  match message.n with
  | some (.number n) => c.pending.find? (·.id = n)
  | _ => none

/-- Takes an entry out and settles its promise. -/
def Connection.settle (request : Request) (outcome : Outcome) : Connection :=
  { c with pending := c.pending.filter (·.id ≠ request.id), deadlines := c.deadlines.filter (· ≠ request.id),
           settled := c.settled ++ [⟨request.promise,some request.id,outcome⟩] }

def Connection.tryPendingResponse (message : Message) : Option Connection :=
  (c.matching message).map (fun request => c.settle request (.resolved message))

def Connection.scheduleReconnect : Connection :=
  match c.reconnectTimer with
  | some _ => c
  | none =>
    { c with reconnectTimer := some c.handles, timers := c.timers ++ [⟨c.handles,c.reconnectDelay⟩],
             handles := c.handles + 1, reconnectDelay := min (c.reconnectDelay * 2) 10000 }

/-- `connects`: whether `connectNative` returns a port. -/
def Connection.connect (connects : Bool) : Connection :=
  match c.port with
  | some _ => { c with started := true }
  | none =>
    if connects then
      { c with port := some ⟨c.opened,c.nmHostName⟩, opened := c.opened + 1, reconnectDelay := 1000, lastError := none,
               started := true }
    else { c.scheduleReconnect with started := true }

/-- The port goes, its requests are answered with 503, and the authority that came through it is reset. -/
def Connection.retirePort (port : Nat) : Option Connection :=
  match c.port with
  | some live =>
    if live.number = port then
      some { c.resolveAll unavailable with port := none, resets := c.resets ++ [port] }
    else none
  | none => none

def Connection.onDisconnect (port : Nat) : Connection :=
  match c.retirePort port with
  | some retired => retired.scheduleReconnect
  | none => c

def Connection.clearReconnect : Connection :=
  match c.reconnectTimer with
  | some handle => { c with reconnectTimer := none, timers := c.timers.filter (·.handle ≠ handle) }
  | none => c

def Connection.reconnectWithNewHost (connects : Bool) : Connection :=
  let retired := (c.port.bind (fun port => c.retirePort port.number)).getD c
  { retired.clearReconnect with reconnectDelay := 1000 }.connect connects

/-- What can go wrong once the entry is made: building the message or posting it. -/
def Connection.sendFrame (connects throws : Bool) : Connection :=
  let asked := { c with calls := c.calls + 1 }
  match c.port with
  | none =>
    let retried := asked.connect connects
    { retried with settled := retried.settled ++ [⟨c.calls,none,.rejected .disconnected⟩] }
  | some port =>
    let request : Request := ⟨c.nextId,c.calls,port.number⟩
    let waiting := { asked with nextId := c.nextId + 1, pending := c.pending ++ [request],
                                deadlines := c.deadlines ++ [c.nextId] }
    if throws then waiting.settle request (.rejected .thrown) else waiting

/-- Packed data and events go to the tabs, what nothing matches to the log. -/
def Connection.handleNativeMessage (message : Message) (connects throws : Bool) : Connection :=
  match c.tryHostError message with
  | some next => next
  | none =>
    if message.isPackedData then c else
    if message.e.isSome then if message.isBareEvent then c.sendFrame connects throws else c else
    (c.tryPendingResponse message).getD c

/-- The deadline of a request. -/
def Connection.deadline (id : Nat) : Connection :=
  let fired := { c with deadlines := c.deadlines.filter (· ≠ id) }
  match c.pending.find? (·.id = id) with
  | some request => fired.settle request (.rejected .timedOut)
  | none => fired

/-- The reconnect timer's callback. -/
def Connection.reconnect (handle : Nat) (connects : Bool) : Connection :=
  { c with reconnectTimer := none, timers := c.timers.filter (·.handle ≠ handle) }.connect connects

end Functions

inductive Action where
  | connect (connects : Bool)
  | send (connects throws : Bool)
  /-- From any port, also one that is no longer the object's. -/
  | message (message : Message) (connects throws : Bool)
  | disconnected (port : Nat)
  | deadline (id : Nat)
  | reconnect (handle : Nat) (connects : Bool)
  | hostChanged (name : String) (connects : Bool)
  deriving DecidableEq,Repr

def step (c : Connection) : Action → Option Connection
  | .connect connects => some (c.connect connects)
  | .send connects throws => some (c.sendFrame connects throws)
  | .message message connects throws => some (c.handleNativeMessage message connects throws)
  | .disconnected port => some (c.onDisconnect port)
  | .deadline id => if id ∈ c.deadlines then some (c.deadline id) else none
  | .reconnect handle connects => if handle ∈ c.timers.map Timer.handle then some (c.reconnect handle connects) else none
  | .hostChanged name connects => some ({ c with nmHostName := name }.reconnectWithNewHost connects)

def init (host : String) : Connection := { nmHostName := host }

/-! ### What holds of every state -/

/-- The delays the retries run through. -/
def backoff : List Nat := [1000,2000,4000,8000,10000]

/-- The requests: every call's promise either waits or has been settled, each once; every number was given to one
    request; exactly the waiting ones have a deadline running; they went out on the port that is live; and a promise
    was resolved only with a message of its own number, a host error or the 503 of its retired port. -/
structure Settles (c : Connection) : Prop where
  promises : (c.pending.map Request.promise ++ c.settled.map Settlement.promise).Perm (List.range c.calls)
  numbers : (c.pending.map Request.id ++ c.settled.filterMap Settlement.id).Perm (List.range' 1 (c.nextId - 1))
  first : 1 ≤ c.nextId
  armed : c.deadlines = c.pending.map Request.id
  onPort : ∀ r ∈ c.pending, ∃ port, c.port = some port ∧ r.port = port.number
  answers : ∀ s ∈ c.settled, ∀ m, s.outcome = .resolved m →
    ∃ id, s.id = some id ∧ (m.n = some (.number id) ∨ m.isHostError = true ∨ m = unavailable)

/-- The ports: the lifetime of every port that is gone was reset once; the live one was opened to the configured host;
    at most the one reconnect timer that the object knows runs, with a delay of the backoff, which starts again with
    every port. -/
structure Connects (c : Connection) : Prop where
  ports : (c.resets ++ c.port.toList.map Port.number).Perm (List.range c.opened)
  host : ∀ port, c.port = some port → port.host = c.nmHostName
  timer : c.timers.map Timer.handle = c.reconnectTimer.toList
  delay : c.reconnectDelay ∈ backoff
  delays : ∀ t ∈ c.timers, t.delay ∈ backoff
  fresh : c.port.isSome → c.reconnectDelay = 1000

/-- Once the connection was first asked for, either a port is live or a retry is due. -/
def Retrying (c : Connection) : Prop := c.started = true → c.port = none → c.reconnectTimer.isSome = true

section Requests

variable {c c' : Connection}

/-- An entry is its place and the rest. -/
theorem filter_perm {pending : List Request} (distinct : (pending.map Request.id).Nodup) {request : Request}
    (member : request ∈ pending) : pending.Perm (request :: pending.filter (·.id ≠ request.id)) := by
  induction pending with
  | nil => simp at member
  | cons head tail ih =>
    rw [List.map_cons,List.nodup_cons] at distinct
    obtain ⟨fresh,distinctTail⟩ := distinct
    rcases List.mem_cons.mp member with rfl | later
    · have rest : tail.filter (·.id ≠ request.id) = tail := by
        apply List.filter_eq_self.mpr
        intro other inTail
        simp only [decide_eq_true_eq]
        intro same
        exact fresh (List.mem_map.mpr ⟨other,inTail,same⟩)
      rw [List.filter_cons_of_neg (by simp),rest]
    · have other : head.id ≠ request.id := by
        intro same
        exact fresh (List.mem_map.mpr ⟨request,later,same.symm⟩)
      rw [List.filter_cons_of_pos (by simpa using other)]
      exact ((ih distinctTail later).cons head).trans (.swap request head _)

theorem Settles.distinct (ok : Settles c) : (c.pending.map Request.id).Nodup :=
  (List.nodup_append.mp (ok.numbers.nodup_iff.mpr List.nodup_range')).1

/-- What the requests do not read may change. -/
theorem Settles.same (ok : Settles c) (pending : c'.pending = c.pending) (settled : c'.settled = c.settled)
    (calls : c'.calls = c.calls) (nextId : c'.nextId = c.nextId) (deadlines : c'.deadlines = c.deadlines)
    (port : c.pending ≠ [] → c'.port = c.port) : Settles c' := by
  constructor
  · rw [pending,settled,calls]
    exact ok.promises
  · rw [pending,settled,nextId]
    exact ok.numbers
  · rw [nextId]
    exact ok.first
  · rw [pending,deadlines]
    exact ok.armed
  · intro r member
    rw [pending] at member
    rw [port (List.ne_nil_of_mem member)]
    exact ok.onPort r member
  · rw [settled]
    exact ok.answers

theorem Settles.resolveAll (ok : Settles c) (message : Message)
    (allowed : message.isHostError = true ∨ message = unavailable) : Settles (c.resolveAll message) := by
  have ids : (c.pending.map (fun p => (⟨p.promise,some p.id,.resolved message⟩ : Settlement))).filterMap Settlement.id =
      c.pending.map Request.id := by
    rw [List.filterMap_map,← List.filterMap_eq_map]
    rfl
  constructor
  · refine List.Perm.trans ?_ ok.promises
    simp only [Connection.resolveAll,List.map_nil,List.nil_append,List.map_append,List.map_map]
    exact List.perm_append_comm
  · refine List.Perm.trans ?_ ok.numbers
    simp only [Connection.resolveAll,List.map_nil,List.nil_append,List.filterMap_append,ids]
    exact List.perm_append_comm
  · exact ok.first
  · simp [Connection.resolveAll,ok.armed]
  · intro r member
    simp [Connection.resolveAll] at member
  · intro s member m resolved
    rcases List.mem_append.mp member with before | now
    · exact ok.answers s before m resolved
    · obtain ⟨p,_,rfl⟩ := List.mem_map.mp now
      cases resolved
      exact ⟨p.id,rfl,.inr allowed⟩

theorem Settles.settle (ok : Settles c) {request : Request} (member : request ∈ c.pending) (outcome : Outcome)
    (allowed : ∀ m, outcome = .resolved m → m.n = some (.number request.id)) : Settles (c.settle request outcome) := by
  have split := filter_perm ok.distinct member
  constructor
  · refine List.Perm.trans ?_ ok.promises
    refine List.Perm.trans ?_ ((split.symm.map Request.promise).append_right _)
    simp only [Connection.settle,List.map_append,List.map_cons,List.map_nil]
    rw [← List.append_assoc]
    exact List.perm_append_singleton _ _
  · refine List.Perm.trans ?_ ok.numbers
    refine List.Perm.trans ?_ ((split.symm.map Request.id).append_right _)
    simp only [Connection.settle,List.filterMap_append,List.map_cons]
    rw [← List.append_assoc]
    exact List.perm_append_singleton _ _
  · exact ok.first
  · simp only [Connection.settle,ok.armed,List.filter_map]
    rfl
  · intro r kept
    exact ok.onPort r (List.mem_filter.mp kept).1
  · intro s found m resolved
    rcases List.mem_append.mp found with before | now
    · exact ok.answers s before m resolved
    · rw [List.mem_singleton] at now
      subst now
      exact ⟨request.id,rfl,.inl (allowed m resolved)⟩

end Requests

section Ports

variable {c : Connection}

theorem backoff_next {delay : Nat} (member : delay ∈ backoff) : min (delay * 2) 10000 ∈ backoff := by
  simp only [backoff,List.mem_cons,List.not_mem_nil,or_false] at member
  rcases member with rfl | rfl | rfl | rfl | rfl <;> decide

theorem Settles.scheduleReconnect (ok : Settles c) : Settles c.scheduleReconnect := by
  unfold Connection.scheduleReconnect
  cases c.reconnectTimer with
  | some handle => exact ok
  | none => exact ok.same rfl rfl rfl rfl rfl (fun _ => rfl)

/-- A retry is scheduled only without a port. -/
theorem Connects.scheduleReconnect (ok : Connects c) (none : c.port = none) : Connects c.scheduleReconnect := by
  unfold Connection.scheduleReconnect
  cases due : c.reconnectTimer with
  | some handle => exact ok
  | none =>
    have idle : c.timers = [] := by simpa [due] using ok.timer
    constructor
    · exact ok.ports
    · exact ok.host
    · simp [idle]
    · exact backoff_next ok.delay
    · intro t member
      rw [idle,List.nil_append,List.mem_singleton] at member
      subst member
      exact ok.delay
    · intro live
      simp [none] at live

theorem scheduleReconnect_due : c.scheduleReconnect.reconnectTimer.isSome = true := by
  unfold Connection.scheduleReconnect
  cases due : c.reconnectTimer <;> simp [due]

@[simp] theorem scheduleReconnect_port : c.scheduleReconnect.port = c.port := by
  unfold Connection.scheduleReconnect
  cases c.reconnectTimer <;> rfl

theorem connect_live {port : Port} (live : c.port = some port) (connects : Bool) :
    c.connect connects = { c with started := true } := by
  simp only [Connection.connect,live]

theorem connect_opens (free : c.port = none) : c.connect true =
    { c with port := some ⟨c.opened,c.nmHostName⟩, opened := c.opened + 1, reconnectDelay := 1000, lastError := none,
             started := true } := by
  simp only [Connection.connect,free,if_true]

theorem connect_fails (free : c.port = none) : c.connect false = { c.scheduleReconnect with started := true } := by
  simp [Connection.connect,free]

theorem Settles.connect (ok : Settles c) (connects : Bool) : Settles (c.connect connects) := by
  cases live : c.port with
  | some port =>
    rw [connect_live live]
    exact ok.same rfl rfl rfl rfl rfl (fun _ => rfl)
  | none =>
    have idle : c.pending = [] := by
      apply List.eq_nil_iff_forall_not_mem.mpr
      intro r member
      obtain ⟨port,some,_⟩ := ok.onPort r member
      rw [live] at some
      cases some
    cases connects with
    | true =>
      rw [connect_opens live]
      exact ok.same rfl rfl rfl rfl rfl (fun waiting => absurd idle waiting)
    | false =>
      rw [connect_fails live]
      exact ok.scheduleReconnect.same rfl rfl rfl rfl rfl (fun _ => rfl)

theorem Connects.connect (ok : Connects c) (connects : Bool) : Connects (c.connect connects) := by
  cases live : c.port with
  | some port =>
    rw [connect_live live]
    exact ⟨ok.ports,ok.host,ok.timer,ok.delay,ok.delays,ok.fresh⟩
  | none =>
    cases connects with
    | true =>
      have before : c.resets.Perm (List.range c.opened) := by simpa [live] using ok.ports
      rw [connect_opens live]
      refine ⟨?_,?_,ok.timer,by simp [backoff],ok.delays,fun _ => rfl⟩
      · simp only [Option.toList_some,List.map_cons,List.map_nil]
        rw [List.range_succ]
        exact before.append_right _
      · intro port opened
        cases opened
        rfl
    | false =>
      have scheduled := ok.scheduleReconnect live
      rw [connect_fails live]
      exact ⟨scheduled.ports,scheduled.host,scheduled.timer,scheduled.delay,scheduled.delays,scheduled.fresh⟩

theorem connect_retrying (connects : Bool) : Retrying (c.connect connects) := by
  intro _ gone
  cases live : c.port with
  | some port =>
    rw [connect_live live] at gone
    simp [live] at gone
  | none =>
    cases connects with
    | true =>
      rw [connect_opens live] at gone
      simp at gone
    | false =>
      rw [connect_fails live]
      exact scheduleReconnect_due

/-- A port that is retired was the live one. -/
theorem retirePort_cases (c : Connection) (port : Nat) :
    c.retirePort port = none ∧ (∀ live, c.port = some live → live.number ≠ port) ∨
    ∃ live, c.port = some live ∧ live.number = port ∧ c.retirePort port =
      some { c.resolveAll unavailable with port := none, resets := c.resets ++ [port] } := by
  unfold Connection.retirePort
  cases found : c.port with
  | none =>
    left
    exact ⟨rfl,by simp⟩
  | some live =>
    by_cases same : live.number = port
    · right
      exact ⟨live,rfl,same,by simp [same]⟩
    · left
      refine ⟨by simp [same],?_⟩
      rintro other some
      cases some
      exact same

theorem Settles.retired (ok : Settles c) (port : Nat) :
    Settles { c.resolveAll unavailable with port := none, resets := c.resets ++ [port] } :=
  (ok.resolveAll unavailable (.inr rfl)).same rfl rfl rfl rfl rfl (fun waiting => absurd rfl waiting)

/-- The host may have been changed before. -/
theorem Connects.retired (ok : Connects c) {live : Port} (found : c.port = some live) (host : String) :
    Connects { c.resolveAll unavailable with port := none, resets := c.resets ++ [live.number], nmHostName := host } := by
  constructor
  · have before := ok.ports
    rw [found] at before
    simpa [Connection.resolveAll] using before
  · intro port some
    cases some
  · exact ok.timer
  · exact ok.delay
  · exact ok.delays
  · intro some
    simp at some

theorem Settles.clearReconnect (ok : Settles c) : Settles c.clearReconnect := by
  unfold Connection.clearReconnect
  cases c.reconnectTimer with
  | some handle => exact ok.same rfl rfl rfl rfl rfl (fun _ => rfl)
  | none => exact ok

theorem Connects.clearReconnect (ok : Connects c) : Connects c.clearReconnect := by
  unfold Connection.clearReconnect
  cases due : c.reconnectTimer with
  | none => exact ok
  | some handle =>
    have one : c.timers.map Timer.handle = [handle] := by simpa [due] using ok.timer
    have cleared : c.timers.filter (·.handle ≠ handle) = [] := by
      apply List.filter_eq_nil_iff.mpr
      intro t member
      have same : t.handle ∈ c.timers.map Timer.handle := List.mem_map.mpr ⟨t,member,rfl⟩
      rw [one,List.mem_singleton] at same
      simp [same]
    have gone : ({ c with reconnectTimer := none, timers := c.timers.filter (·.handle ≠ handle) } : Connection) =
        { c with reconnectTimer := none, timers := [] } := by rw [cleared]
    simp only [gone]
    exact ⟨ok.ports,ok.host,rfl,ok.delay,by simp,ok.fresh⟩

/-- A host may be configured while no port is open. -/
theorem Connects.renamed (ok : Connects c) (free : c.port = none) (host : String) :
    Connects { c with nmHostName := host } := by
  refine ⟨ok.ports,?_,ok.timer,ok.delay,ok.delays,ok.fresh⟩
  intro port some
  simp [free] at some

end Ports

structure Sound (c : Connection) : Prop where
  requests : Settles c
  ports : Connects c
  retrying : Retrying c

section Steps

variable {c c' : Connection}

theorem Sound.connect (requests : Settles c) (ports : Connects c) (connects : Bool) : Sound (c.connect connects) :=
  ⟨requests.connect connects,ports.connect connects,connect_retrying connects⟩

theorem Sound.onDisconnect (ok : Sound c) (port : Nat) : Sound (c.onDisconnect port) := by
  unfold Connection.onDisconnect
  rcases retirePort_cases c port with ⟨stale,_⟩ | ⟨live,found,rfl,retired⟩
  · rw [stale]
    exact ok
  · rw [retired]
    have requests := ok.requests.retired live.number
    have ports := ok.ports.retired found c.nmHostName
    refine ⟨requests.scheduleReconnect,ports.scheduleReconnect rfl,?_⟩
    intro _ _
    exact scheduleReconnect_due

/-- What the object is connected with again: nothing of the old port is left. -/
theorem Sound.reconnectWithNewHost (requests : Settles c) (free : c.port = none → Connects c)
    (live : ∀ port, c.port = some port →
      Connects { c.resolveAll unavailable with port := none, resets := c.resets ++ [port.number] }) (connects : Bool) :
    Sound (c.reconnectWithNewHost connects) := by
  have restart {r : Connection} (requests : Settles r) (ports : Connects r) :
      Sound ({ r.clearReconnect with reconnectDelay := 1000 }.connect connects) := by
    have cleared := ports.clearReconnect
    apply Sound.connect
    · exact requests.clearReconnect.same rfl rfl rfl rfl rfl (fun _ => rfl)
    · exact ⟨cleared.ports,cleared.host,cleared.timer,by simp [backoff],cleared.delays,fun _ => rfl⟩
  unfold Connection.reconnectWithNewHost
  cases found : c.port with
  | none =>
    rw [Option.bind_none,Option.getD_none]
    exact restart requests (free found)
  | some port =>
    rw [Option.bind_some]
    rcases retirePort_cases c port.number with ⟨_,other⟩ | ⟨same,found',_,retired⟩
    · exact absurd rfl (other port found)
    · rw [retired,Option.getD_some]
      exact restart (requests.retired port.number) (live port found)

/-- The count of a call that is rejected at once. -/
def Connection.refused (c : Connection) : Connection :=
  { c with calls := c.calls + 1, settled := c.settled ++ [⟨c.calls,none,.rejected .disconnected⟩] }

/-- A call without a port is counted and rejected; that it also connects is another matter. -/
theorem sendFrame_free (free : c.port = none) (connects throws : Bool) : c.sendFrame connects throws =
    c.refused.connect connects := by
  cases connects with
  | true => simp [Connection.sendFrame,free,Connection.connect,Connection.refused]
  | false =>
    cases due : c.reconnectTimer <;>
      simp [Connection.sendFrame,free,Connection.connect,Connection.refused,Connection.scheduleReconnect,due]

theorem Settles.refused (ok : Settles c) : Settles c.refused := by
  refine ⟨?_,?_,ok.first,ok.armed,ok.onPort,?_⟩
  · simp only [Connection.refused,List.map_append,List.map_cons,List.map_nil]
    rw [← List.append_assoc,List.range_succ]
    exact ok.promises.append_right _
  · simpa [Connection.refused,List.filterMap_append] using ok.numbers
  · intro s member m resolved
    rcases List.mem_append.mp member with before | now
    · exact ok.answers s before m resolved
    · rw [List.mem_singleton] at now
      subst now
      cases resolved

/-- The entry that a call on a live port makes. -/
def Connection.waiting (c : Connection) (port : Port) : Connection :=
  { c with calls := c.calls + 1, nextId := c.nextId + 1, pending := c.pending ++ [⟨c.nextId,c.calls,port.number⟩],
           deadlines := c.deadlines ++ [c.nextId] }

theorem sendFrame_live {port : Port} (live : c.port = some port) (connects throws : Bool) :
    c.sendFrame connects throws = if throws then (c.waiting port).settle ⟨c.nextId,c.calls,port.number⟩
        (.rejected .thrown)
      else c.waiting port := by
  simp only [Connection.sendFrame,live,Connection.waiting]

theorem Settles.waiting (ok : Settles c) {port : Port} (live : c.port = some port) : Settles (c.waiting port) := by
  have counted : List.range' 1 (c.nextId + 1 - 1) = List.range' 1 (c.nextId - 1) ++ [c.nextId] := by
    have first := ok.first
    obtain ⟨k,same⟩ : ∃ k, c.nextId = k + 1 := ⟨c.nextId - 1,by omega⟩
    rw [same,Nat.add_sub_cancel,Nat.add_sub_cancel,List.range'_1_concat,Nat.add_comm 1 k]
  constructor
  · simp only [Connection.waiting,List.map_append,List.map_cons,List.map_nil]
    rw [List.range_succ,List.append_assoc]
    refine List.Perm.trans (List.Perm.append_left _ List.perm_append_comm) ?_
    rw [← List.append_assoc]
    exact ok.promises.append_right _
  · simp only [Connection.waiting,List.map_append,List.map_cons,List.map_nil]
    rw [counted,List.append_assoc]
    refine List.Perm.trans (List.Perm.append_left _ List.perm_append_comm) ?_
    rw [← List.append_assoc]
    exact ok.numbers.append_right _
  · simp [Connection.waiting]
  · simp [Connection.waiting,ok.armed]
  · intro r member
    rcases List.mem_append.mp member with before | now
    · exact ok.onPort r before
    · rw [List.mem_singleton] at now
      exact ⟨port,live,by rw [now]⟩
  · exact ok.answers

theorem Sound.sendFrame (ok : Sound c) (connects throws : Bool) : Sound (c.sendFrame connects throws) := by
  obtain ⟨requests,ports,retrying⟩ := ok
  cases live : c.port with
  | none =>
    rw [sendFrame_free live]
    apply Sound.connect
    · exact requests.refused
    · exact ⟨ports.ports,ports.host,ports.timer,ports.delay,ports.delays,ports.fresh⟩
  | some port =>
    have waits := requests.waiting live
    have kept : Connects (c.waiting port) :=
      ⟨ports.ports,ports.host,ports.timer,ports.delay,ports.delays,ports.fresh⟩
    rw [sendFrame_live live]
    cases throws with
    | false =>
      exact ⟨waits,kept,retrying⟩
    | true =>
      have last : (⟨c.nextId,c.calls,port.number⟩ : Request) ∈ (c.waiting port).pending := by
        simp [Connection.waiting]
      refine ⟨waits.settle last _ (by simp),?_,retrying⟩
      exact ⟨kept.ports,kept.host,kept.timer,kept.delay,kept.delays,kept.fresh⟩

/-- What a message does: nothing, a request for the devices, everything pending resolved by a host error, or the one
    request of its number. -/
theorem handleNativeMessage_cases (c : Connection) (message : Message) (connects throws : Bool) :
    c.handleNativeMessage message connects throws = c ∨
    c.handleNativeMessage message connects throws = c.sendFrame connects throws ∨
    message.isHostError = true ∧
      c.handleNativeMessage message connects throws = { c.resolveAll message with lastError := message.E } ∨
    ∃ request ∈ c.pending, message.n = some (.number request.id) ∧
      c.handleNativeMessage message connects throws = c.settle request (.resolved message) := by
  unfold Connection.handleNativeMessage Connection.tryHostError
  by_cases hostError : message.isHostError = true
  · right; right; left
    exact ⟨hostError,by rw [if_pos hostError]⟩
  · rw [if_neg hostError]
    by_cases packed : message.isPackedData = true
    · left
      simp [packed]
    · by_cases event : message.e.isSome = true
      · by_cases bare : message.isBareEvent = true
        · right; left
          simp [packed,event,bare]
        · left
          simp [packed,event,bare]
      · simp only [packed,event]
        cases found : c.matching message with
        | none =>
          left
          simp [Connection.tryPendingResponse,found]
        | some request =>
          right; right; right
          unfold Connection.matching at found
          cases tagged : message.n with
          | none => simp [tagged] at found
          | some tag =>
            cases tag with
            | other => simp [tagged] at found
            | number n =>
              simp only [tagged] at found
              have same : request.id = n := by simpa using List.find?_some found
              refine ⟨request,List.mem_of_find?_eq_some found,by rw [same],?_⟩
              simp [Connection.tryPendingResponse,Connection.matching,tagged,found]

theorem Sound.handleNativeMessage (ok : Sound c) (message : Message) (connects throws : Bool) :
    Sound (c.handleNativeMessage message connects throws) := by
  have ⟨requests,ports,retrying⟩ := ok
  rcases handleNativeMessage_cases c message connects throws with
    same | same | ⟨hostError,same⟩ | ⟨request,member,named,same⟩
  · rw [same]
    exact ok
  · rw [same]
    exact ok.sendFrame connects throws
  · rw [same]
    refine ⟨(requests.resolveAll message (.inl hostError)).same rfl rfl rfl rfl rfl (fun _ => rfl),?_,retrying⟩
    exact ⟨ports.ports,ports.host,ports.timer,ports.delay,ports.delays,ports.fresh⟩
  · rw [same]
    refine ⟨requests.settle member _ ?_,?_,retrying⟩
    · intro m resolved
      cases resolved
      exact named
    · exact ⟨ports.ports,ports.host,ports.timer,ports.delay,ports.delays,ports.fresh⟩

/-- A deadline that is running belongs to a request that waits. -/
theorem Settles.deadline_found (ok : Settles c) {id : Nat} (armed : id ∈ c.deadlines) :
    ∃ request ∈ c.pending, request.id = id ∧ c.deadline id = c.settle request (.rejected .timedOut) := by
  rw [ok.armed] at armed
  obtain ⟨r,member,rfl⟩ := List.mem_map.mp armed
  cases found : c.pending.find? (·.id = r.id) with
  | none =>
    have never := List.find?_eq_none.mp found r member
    simp at never
  | some request =>
    have same : request.id = r.id := by simpa using List.find?_some found
    refine ⟨request,List.mem_of_find?_eq_some found,same,?_⟩
    unfold Connection.deadline
    rw [found]
    simp [Connection.settle,same]

theorem Sound.step (ok : Sound c) {action : Action} (taken : step c action = some c') : Sound c' := by
  obtain ⟨requests,ports,retrying⟩ := ok
  cases action with
  | connect connects =>
    cases taken
    exact Sound.connect requests ports connects
  | send connects throws =>
    cases taken
    exact Sound.sendFrame ⟨requests,ports,retrying⟩ connects throws
  | message message connects throws =>
    cases taken
    exact Sound.handleNativeMessage ⟨requests,ports,retrying⟩ message connects throws
  | disconnected port =>
    cases taken
    exact Sound.onDisconnect ⟨requests,ports,retrying⟩ port
  | deadline id =>
    simp only [NmConnection.step] at taken
    by_cases armed : id ∈ c.deadlines
    · rw [if_pos armed] at taken
      cases taken
      obtain ⟨request,member,_,same⟩ := requests.deadline_found armed
      rw [same]
      refine ⟨requests.settle member _ (by simp),?_,retrying⟩
      exact ⟨ports.ports,ports.host,ports.timer,ports.delay,ports.delays,ports.fresh⟩
    · rw [if_neg armed] at taken
      cases taken
  | reconnect handle connects =>
    simp only [NmConnection.step] at taken
    by_cases due : handle ∈ c.timers.map Timer.handle
    · rw [if_pos due] at taken
      cases taken
      have known : c.reconnectTimer = some handle := by
        rw [ports.timer,Option.mem_toList] at due
        exact due
      have cleared : c.reconnect handle connects = c.clearReconnect.connect connects := by
        simp only [Connection.reconnect,Connection.clearReconnect,known]
      rw [cleared]
      exact Sound.connect requests.clearReconnect ports.clearReconnect connects
    · rw [if_neg due] at taken
      cases taken
  | hostChanged name connects =>
    cases taken
    apply Sound.reconnectWithNewHost
    · exact requests.same rfl rfl rfl rfl rfl (fun _ => rfl)
    · exact fun free => ports.renamed free name
    · exact fun port live => ports.retired live name

theorem Sound.start (host : String) : Sound (init host) := by
  refine ⟨?_,?_,fun started => by cases started⟩
  · exact ⟨.refl _,.refl _,Nat.le_refl 1,rfl,by simp [init],by simp [init]⟩
  · exact ⟨.refl _,by simp [init],rfl,by simp [init,backoff],by simp [init],by simp [init]⟩

theorem Sound.run {host : String} {trace : List Action} (run : exec NmConnection.step (init host) trace = some c) :
    Sound c :=
  exec_invariant (fun _ _ _ ok taken => ok.step taken) (.start host) run

/-! ### Outcomes are final -/

theorem connect_settled (connects : Bool) : (c.connect connects).settled = c.settled := by
  cases live : c.port with
  | some port => rw [connect_live live]
  | none =>
    cases connects with
    | true => rw [connect_opens live]
    | false =>
      rw [connect_fails live]
      unfold Connection.scheduleReconnect
      cases c.reconnectTimer <;> rfl

theorem scheduleReconnect_settled : c.scheduleReconnect.settled = c.settled := by
  unfold Connection.scheduleReconnect
  cases c.reconnectTimer <;> rfl

theorem clearReconnect_settled : c.clearReconnect.settled = c.settled := by
  unfold Connection.clearReconnect
  cases c.reconnectTimer <;> rfl

theorem reconnectWithNewHost_settled (c : Connection) (connects : Bool) :
    c.settled <+: (c.reconnectWithNewHost connects).settled := by
  rw [Connection.reconnectWithNewHost,connect_settled]
  simp only [clearReconnect_settled]
  cases found : c.port with
  | none => exact List.prefix_refl _
  | some port =>
    rw [Option.bind_some]
    rcases retirePort_cases c port.number with ⟨stale,_⟩ | ⟨_,_,_,retired⟩
    · rw [stale]
      exact List.prefix_refl _
    · rw [retired]
      exact List.prefix_append _ _

theorem sendFrame_settled (c : Connection) (connects throws : Bool) :
    c.settled <+: (c.sendFrame connects throws).settled := by
  cases live : c.port with
  | none =>
    rw [sendFrame_free live,connect_settled]
    exact List.prefix_append _ _
  | some port =>
    rw [sendFrame_live live]
    cases throws with
    | false => exact List.prefix_refl _
    | true => exact List.prefix_append _ _

/-- A step only adds outcomes. -/
theorem settled_grows {action : Action} (taken : step c action = some c') : c.settled <+: c'.settled := by
  cases action with
  | connect connects =>
    cases taken
    rw [connect_settled]
  | send connects throws =>
    cases taken
    exact sendFrame_settled c connects throws
  | message message connects throws =>
    cases taken
    rcases handleNativeMessage_cases c message connects throws with same | same | ⟨_,same⟩ | ⟨request,_,_,same⟩
    · rw [same]
    · rw [same]
      exact sendFrame_settled c connects throws
    · rw [same]
      exact List.prefix_append _ _
    · rw [same]
      exact List.prefix_append _ _
  | disconnected port =>
    cases taken
    unfold Connection.onDisconnect
    rcases retirePort_cases c port with ⟨stale,_⟩ | ⟨_,_,_,retired⟩
    · rw [stale]
    · rw [retired]
      simp only [scheduleReconnect_settled]
      exact List.prefix_append _ _
  | deadline id =>
    simp only [NmConnection.step] at taken
    by_cases armed : id ∈ c.deadlines
    · rw [if_pos armed] at taken
      cases taken
      unfold Connection.deadline
      cases c.pending.find? (·.id = id) with
      | none => exact List.prefix_refl _
      | some request => exact List.prefix_append _ _
    · rw [if_neg armed] at taken
      cases taken
  | reconnect handle connects =>
    simp only [NmConnection.step] at taken
    by_cases due : handle ∈ c.timers.map Timer.handle
    · rw [if_pos due] at taken
      cases taken
      rw [Connection.reconnect,connect_settled]
    · rw [if_neg due] at taken
      cases taken
  | hostChanged name connects =>
    cases taken
    exact reconnectWithNewHost_settled { c with nmHostName := name } connects

end Steps

/-- In every state of every run each promise of a request waits or was settled, once and finally, by a message of its
    own number, a host error, the end of its port, its deadline or a failure to send; and what waits waits on the live
    port with its deadline running, which settles it. -/
theorem requests_settle_once (host : String) (trace : List Action) (c : Connection)
    (run : exec step (init host) trace = some c) :
    Settles c ∧ (∀ more later, exec step c more = some later → c.settled <+: later.settled) ∧
    ∀ r ∈ c.pending, ∃ c', step c (.deadline r.id) = some c' ∧
      ⟨r.promise,some r.id,.rejected .timedOut⟩ ∈ c'.settled := by
  have ok := Sound.run run
  refine ⟨ok.requests,?_,?_⟩
  · intro more later onward
    exact exec_invariant (I := fun d => c.settled <+: d.settled)
      (fun _ _ _ grown taken => grown.trans (settled_grows taken)) (List.prefix_refl _) onward
  · intro r member
    have armed : r.id ∈ c.deadlines := by
      rw [ok.requests.armed]
      exact List.mem_map.mpr ⟨r,member,rfl⟩
    obtain ⟨request,found,same,settled⟩ := ok.requests.deadline_found armed
    have unique : request = r := List.inj_on_of_nodup_map ok.requests.distinct found member same
    refine ⟨_,if_pos armed,?_⟩
    rw [settled,unique]
    simp [Connection.settle]

/-- A request answered, one that its port takes with it and one without a port. -/
def answeredRetiredRefused : List Action :=
  [.connect true,.send true false,.send true false,
      .message { n := some (.number 1), s := some 200 } true false,.disconnected 0,
    .send false false]

theorem three_settle_once : ∃ c, exec step (init "webhid.forwarder_nm_host") answeredRetiredRefused = some c ∧
    Settles c ∧ c.settled.map Settlement.promise = [0,1,2] := by
  obtain ⟨c,run⟩ : ∃ c, exec step (init "webhid.forwarder_nm_host") answeredRetiredRefused = some c := ⟨_,rfl⟩
  have order : (exec step (init "webhid.forwarder_nm_host") answeredRetiredRefused).map
      (fun c => c.settled.map Settlement.promise) = some [0,1,2] := by decide
  rw [run,Option.map_some,Option.some.injEq] at order
  exact ⟨c,run,(requests_settle_once _ _ c run).1,order⟩

/-- In every state of every run there is either a live port, opened to the configured host, or, once a connection was
    asked for, the one retry that is due within ten seconds, and its timer can connect again; the authority that came
    through a port that is gone has been reset exactly once. -/
theorem never_gives_up (host : String) (trace : List Action) (c : Connection)
    (run : exec step (init host) trace = some c) :
    Connects c ∧ (c.started = true → c.port = none → ∃ timer ∈ c.timers, c.timers = [timer] ∧ timer.delay ∈ backoff ∧
      ∃ c', step c (.reconnect timer.handle true) = some c' ∧ c'.port = some ⟨c.opened,c.nmHostName⟩) := by
  have ok := Sound.run run
  refine ⟨ok.ports,?_⟩
  intro started gone
  obtain ⟨handle,due⟩ := Option.isSome_iff_exists.mp (ok.retrying started gone)
  have one : c.timers.map Timer.handle = [handle] := by simpa [due] using ok.ports.timer
  obtain ⟨timer,alone,_⟩ := List.map_eq_singleton_iff.mp one
  have member : timer ∈ c.timers := by simp [alone]
  refine ⟨timer,member,alone,ok.ports.delays timer member,_,if_pos (List.mem_map.mpr ⟨timer,member,rfl⟩),?_⟩
  have opens := connect_opens
    (c := { c with reconnectTimer := none, timers := c.timers.filter (·.handle ≠ timer.handle) }) gone
  rw [Connection.reconnect,opens]

/-- Two failures to connect and another host. -/
def failsThenMoves : List Action :=
  [.connect false,.reconnect 0 false,.hostChanged "webhid.daemon_nm_host" true,.disconnected 0]

theorem retries_after_failures : ∃ c, exec step (init "webhid.forwarder_nm_host") failsThenMoves = some c ∧
    Connects c ∧ c.timers = [⟨2,1000⟩] := by
  obtain ⟨c,run⟩ : ∃ c, exec step (init "webhid.forwarder_nm_host") failsThenMoves = some c := ⟨_,rfl⟩
  have due : (exec step (init "webhid.forwarder_nm_host") failsThenMoves).map Connection.timers = some [⟨2,1000⟩] := by
    decide
  rw [run,Option.map_some,Option.some.injEq] at due
  exact ⟨c,run,(never_gives_up _ _ c run).1,due⟩

end FFWebHid.NmConnection
