import FFWebHid.Maps
import FFWebHid.Runs
import FFWebHid.PageDevices
import FFWebHid.PagePlanes

/-!
One HIDDevice of a page and the session that the bridge holds for its client and device.
The page sends requests to the bridge and gives each up after 30 seconds; the bridge sends
the answers, and tells the page of the sessions that an event has deleted. What the
background answers and how the data planes fare is left open, and messages may overtake
each other. Another HIDDevice that was made for the same device sends requests of its own.

The page changes `opened` when an answer or an event comes, the bridge its session when the
background has answered. Between the two a timer may run out, and neither side looks at
what the other has done since.
-/
namespace FFWebHid.PageSessions
open FFWebHid.Maps FFWebHid.Runs FFWebHid.PageDevices
open FFWebHid.PagePlanes (Call)

inductive Kind where
  | openRequest
  | closeRequest
  | waitDataPlaneReady
  | unpairDevice
  deriving DecidableEq, Repr

inductive Reply where
  | opened (clientPlaneGeneration : Nat)
  | ok
  | failed
  deriving DecidableEq, Repr

/-- How the background answers the bridge; the control port may also be lost. -/
inductive Answer where
  | ok
  | failed
  | thrown
  deriving DecidableEq, Repr

/-- Where a request stands: on its way to the bridge; there, while it checks the grants,
    waits for the background, sets up or ends a plane, cleans up, or waits for the plane;
    or answered. A close remembers whether there was a token when it came. -/
inductive Stage where
  | posted
  | checking
  | queued (reservedToken : Bool)
  | plane
  | discard
  | cleanup
  | despawn
  | waiting
  | replied (reply : Reply)
  deriving DecidableEq, Repr

inductive Event where
  | disconnect
  | revoked
  deriving DecidableEq, Repr

/-- `pending` are the requests that the page waits for, and for whom. `events` are on their
    way from the background; `notices` follow a deleted session to the page. -/
structure World where
  device : Device := {}
  registered : Bool := true
  pending : HashMap Nat Call := ∅
  nextReqId : Nat := 0
  nextPort : Nat := 0
  requests : HashMap Nat (Kind × Stage) := ∅
  session : Bool := false
  events : List Event := []
  notices : List Event := []

namespace World
variable (w : World)

def withDevice (device : Device) : World := { w with device }

/-- `sendRequest`, and who waits for the answer. -/
def sendRequest (kind : Kind) (call : Option Call) : World :=
  { w with
    nextReqId := w.nextReqId + 1
    requests := w.requests.insert w.nextReqId (kind,.posted)
    pending := match call with
      | some call => w.pending.insert w.nextReqId call
      | none => w.pending }

def openDevice : World :=
  if w.device.forgotten || w.device.opened || w.device.opening then w
  else (w.withDevice { w.device with opening := true }).sendRequest .openRequest (some .opening)

def closeDevice : World :=
  if !w.device.forgotten && w.device.opened then w.sendRequest .closeRequest (some .closing) else w

def forget : World := if w.device.forgotten then w else w.sendRequest .unpairDevice (some .forgetting)

/-- The open throws. -/
def openFails : World := w.withDevice { w.device with opening := false }

/-- After the answer to `open`. A device that was forgotten meanwhile is closed. -/
def openAnswered (reply : Reply) : World :=
  if w.device.forgotten then w.openFails.sendRequest .closeRequest none
  else
    match reply with
    | .opened generation =>
      { w with
        device := w.device.openAccepted w.nextPort generation
        nextPort := w.nextPort + 1 }.sendRequest .waitDataPlaneReady (some .waitingReady)
    | _ => w.openFails

/-- After the answer to `waitDataPlaneReady`. -/
def readyAnswered (reply : Reply) : World :=
  if reply = .ok then w.withDevice w.device.openDone
  else (w.withDevice w.device.openGivesUp).sendRequest .closeRequest (some .givingUp)

def closeAnswered (reply : Reply) : World := if reply = .ok then w.withDevice w.device.closeDone else w

/-- The end of `teardownForgottenDevice`. -/
def tornDown : World := { w with device := w.device.reconcileAuthoritativeLifetime true, registered := false }

def teardownForgottenDevice : World :=
  if w.device.opened then w.sendRequest .closeRequest (some .tearingDown) else w.tornDown

/-- The answer to a request comes, or its timer runs out. -/
def settle (id : Nat) (reply : Reply) : World :=
  match w.pending.lookup id with
  | none => w
  | some call =>
    let w := { w with pending := w.pending.erase id }
    match call with
    | .opening => w.openAnswered reply
    | .waitingReady => w.readyAnswered reply
    | .givingUp => w.openFails
    | .closing => w.closeAnswered reply
    | .forgetting => if reply = .ok then w.teardownForgottenDevice else w
    | .tearingDown => w.tornDown

/-- `dispatchDeviceEvent`; the registry forgets the device if the page has used `navigator.hid`. -/
def dispatchDeviceEvent (e : Event) (hidInstance : Bool) : World :=
  match e with
  | .disconnect =>
    if w.registered then
      { w with device := w.device.reconcileAuthoritativeLifetime false, registered := !hidInstance }
    else w
  | .revoked => if w.registered && !w.device.forgotten then w.teardownForgottenDevice else w

def moveTo (id : Nat) (kind : Kind) (stage : Stage) : World :=
  { w with requests := w.requests.insert id (kind,stage) }

/-- `handleGenericRequest` up to its first wait. -/
def received : Kind → Stage
  | .openRequest => .checking
  | .closeRequest => .queued w.session
  | .waitDataPlaneReady => .waiting
  | .unpairDevice => .queued false

/-- The background has answered. -/
def answered (id : Nat) (answer : Answer) : Kind → Bool → World
  | .openRequest,_ =>
    match answer with
    | .ok => { w with session := true }.moveTo id .openRequest .plane
    | .failed => w.moveTo id .openRequest (.replied .failed)
    | .thrown => { w with session := false }.moveTo id .openRequest (.replied .failed)
  | .closeRequest,reservedToken =>
    match answer with
    | .ok => { w with session := false }.moveTo id .closeRequest .despawn
    | .failed => { w with session := w.session || reservedToken }.moveTo id .closeRequest (.replied .failed)
    | .thrown => w.moveTo id .closeRequest (.replied .failed)
  | kind,_ => w.moveTo id kind (.replied (if answer = .ok then .ok else .failed))

/-- `handleOpenSuccess` has ended, with a plane or without. -/
def planeSet (id : Nat) : Option Nat → World
  | some generation => w.moveTo id .openRequest (.replied (.opened generation))
  | none => { w with session := false }.moveTo id .openRequest .discard

/-- `reconcileFrameDevice` and `resetAuthorityState`. -/
def reconciled (e : Event) : World :=
  if w.session then { w with session := false, notices := w.notices ++ [e] } else w

end World

inductive Action where
  | openCall
  | closeCall
  | forgetCall
  | other (kind : Kind)
  | timeout (id : Nat)
  | receive (id : Nat)
  | checked (id : Nat) (allowed : Bool)
  | answered (id : Nat) (answer : Answer)
  | planeSet (id : Nat) (generation : Option Nat)
  | discarded (id : Nat)
  | cleaned (id : Nat)
  | despawned (id : Nat)
  | ready (id : Nat) (ok : Bool)
  | deliver (id : Nat)
  | tell (e : Event)
  | event (k : Nat)
  | notice (k : Nat) (hidInstance : Bool)
  deriving DecidableEq, Repr

/-- `none` when the action cannot happen in the state. -/
def step (w : World) : Action → Option World
  | .openCall => some w.openDevice
  | .closeCall => some w.closeDevice
  | .forgetCall => some w.forget
  | .other kind => some (w.sendRequest kind none)
  | .timeout id => (w.pending.lookup id).map fun _ => w.settle id .failed
  | .receive id =>
    match w.requests.lookup id with
    | some (kind,.posted) => some (w.moveTo id kind (w.received kind))
    | _ => none
  | .checked id allowed =>
    match w.requests.lookup id with
    | some (kind,.checking) => some (w.moveTo id kind (if allowed then .queued false else .replied .failed))
    | _ => none
  | .answered id answer =>
    match w.requests.lookup id with
    | some (kind,.queued reservedToken) => some (w.answered id answer kind reservedToken)
    | _ => none
  | .planeSet id generation =>
    match w.requests.lookup id with
    | some (.openRequest,.plane) => some (w.planeSet id generation)
    | _ => none
  | .discarded id =>
    match w.requests.lookup id with
    | some (kind,.discard) => some (w.moveTo id kind .cleanup)
    | _ => none
  | .cleaned id =>
    match w.requests.lookup id with
    | some (kind,.cleanup) => some (w.moveTo id kind (.replied .failed))
    | _ => none
  | .despawned id =>
    match w.requests.lookup id with
    | some (kind,.despawn) => some (w.moveTo id kind (.replied .ok))
    | _ => none
  | .ready id ok =>
    match w.requests.lookup id with
    | some (kind,.waiting) => some (w.moveTo id kind (.replied (if ok then .ok else .failed)))
    | _ => none
  | .deliver id =>
    match w.requests.lookup id with
    | some (_,.replied reply) => some ({ w with requests := w.requests.erase id }.settle id reply)
    | _ => none
  | .tell e => some { w with events := w.events ++ [e] }
  | .event k => (w.events[k]?).map fun e => { w with events := w.events.eraseIdx k }.reconciled e
  | .notice k hidInstance =>
    (w.notices[k]?).map fun e => { w with notices := w.notices.eraseIdx k }.dispatchDeviceEvent e hidInstance

def init : World := {}

/-- Nothing is under way. -/
def settled (w : World) : Bool :=
  w.pending.entries.isEmpty && w.requests.entries.isEmpty && w.events.isEmpty && w.notices.isEmpty

/-! ### The condition -/

/-- A session that the page does not report as open is accounted for by the request: the
    page waits for its open, or it is a close that the bridge has still to handle. -/
def attends (pending : HashMap Nat Call) (id : Nat) : Kind × Stage → Bool
  | (.openRequest,.plane) => pending.lookup id == some .opening
  | (.openRequest,.replied (.opened _)) => pending.lookup id == some .opening
  | (.closeRequest,.posted) => true
  | (.closeRequest,.queued _) => true
  | _ => false

/-- A session that the page does not report as open is accounted for: by a request, by an
    open that waits for its plane, or by an event that will delete it. -/
def attended (w : World) : Bool :=
  w.requests.entries.any (fun entry => attends w.pending entry.1 entry.2) ||
    (values w.pending).contains .waitingReady || !w.events.isEmpty

/-- The page waits for the answer of the close, which has succeeded. -/
def closes (pending : HashMap Nat Call) (id : Nat) : Kind × Stage → Bool
  | (.closeRequest,.despawn) => pending.lookup id == some .closing
  | (.closeRequest,.replied .ok) => pending.lookup id == some .closing
  | _ => false

/-- A page that still reports a session that is gone will learn of it. -/
def told (w : World) : Bool :=
  w.requests.entries.any (fun entry => closes w.pending entry.1 entry.2) ||
    (values w.pending).contains .tearingDown || !w.notices.isEmpty

/-- The timer of a request runs out while its success is on its way. -/
def late (w : World) (id : Nat) : Bool :=
  (w.requests.lookup id).any fun r => attends w.pending id r && r.1 == .openRequest || closes w.pending id r

/-- The page gives the device up: there is no session, or it is accounted for. -/
def clear (w : World) : Bool := !w.session || attended w

/-- The bridge deletes its session: the page does not report it, or will learn of it. -/
def expected (w : World) : Bool := !w.device.opened || told w

/-- No timer runs out on a success; an open is granted to a page that waits for it; a close
    is accepted for a page that waits for it, and when it fails it puts nothing back and
    leaves no session that nobody accounts for; an open that has no plane deletes only its
    own session; a plane is ready only for a session; who gives the device up leaves no
    session behind; and an event finds the HIDDevice that it is for. -/
def orderly (w : World) : Action → Bool
  | .timeout id => !late w id && (w.pending.lookup id != some .tearingDown || clear w)
  | .deliver id =>
    match w.pending.lookup id,w.requests.lookup id with
    | some .waitingReady,some (_,.replied .ok) => w.session || told w
    | some .closing,some (_,.replied .ok) => clear w
    | some .tearingDown,_ => clear w
    | _,_ => true
  | .answered id answer =>
    match w.requests.lookup id with
    | some (.openRequest,_) =>
      match answer with
      | .ok => w.pending.lookup id == some .opening
      | .failed => true
      | .thrown => expected w
    | some (.closeRequest,.queued reservedToken) =>
      match answer with
      | .ok => expected w || w.pending.lookup id == some .closing
      | .failed => (!reservedToken || w.session) && (w.device.opened || clear { w with requests := w.requests.erase id })
      | .thrown => w.device.opened || clear { w with requests := w.requests.erase id }
    | _ => true
  | .planeSet _ none => expected w
  | .notice k _ =>
    match w.notices[k]? with
    | some .disconnect =>
      if w.registered then clear w
      else !w.device.opened || w.session || told { w with notices := w.notices.eraseIdx k }
    | some .revoked =>
      w.registered && !w.device.forgotten || !w.device.opened || w.session ||
        told { w with notices := w.notices.eraseIdx k }
    | none => true
  | _ => true

/-- The parts of `attended`, as functions of what they read. -/
def Attending (pending : HashMap Nat Call) (requests : HashMap Nat (Kind × Stage)) (events : List Event) : Prop :=
  (∃ id r, requests.lookup id = some r ∧ attends pending id r = true) ∨
    (∃ id, pending.lookup id = some .waitingReady) ∨ events ≠ []

def Telling (pending : HashMap Nat Call) (requests : HashMap Nat (Kind × Stage)) (notices : List Event) : Prop :=
  (∃ id r, requests.lookup id = some r ∧ closes pending id r = true) ∨
    (∃ id, pending.lookup id = some .tearingDown) ∨ notices ≠ []

variable {pending pending' : HashMap Nat Call} {requests requests' : HashMap Nat (Kind × Stage)}
  {events notices : List Event} {w w' : World} {a : Action} {id : Nat} {call : Call} {r r' : Kind × Stage}

theorem any_entries (p : Nat → Kind × Stage → Bool) :
    requests.entries.any (fun entry => p entry.1 entry.2) = true ↔
      ∃ id r, requests.lookup id = some r ∧ p id r = true := by
  simp only [List.any_eq_true,lookup_eq_some]
  exact ⟨fun ⟨⟨id,r⟩,member,holds⟩ => ⟨id,r,member,holds⟩,fun ⟨id,r,member,holds⟩ => ⟨⟨id,r⟩,member,holds⟩⟩

theorem values_contains : (values pending).contains call = true ↔ ∃ id, pending.lookup id = some call := by
  rw [List.contains_iff_mem,mem_values]

theorem attended_iff : attended w = true ↔ Attending w.pending w.requests w.events := by
  unfold attended Attending
  rw [Bool.or_eq_true,Bool.or_eq_true,any_entries (attends w.pending),values_contains,or_assoc]
  simp

theorem told_iff : told w = true ↔ Telling w.pending w.requests w.notices := by
  unfold told Telling
  rw [Bool.or_eq_true,Bool.or_eq_true,any_entries (closes w.pending),values_contains,or_assoc]
  simp

theorem Attending.mono (holds : Attending pending requests events)
    (asked : ∀ id r, requests.lookup id = some r → attends pending id r = true →
      requests'.lookup id = some r ∧ attends pending' id r = true)
    (waits : ∀ id, pending.lookup id = some .waitingReady → pending'.lookup id = some .waitingReady) :
    Attending pending' requests' events := by
  rcases holds with ⟨id,r,found,attending⟩ | ⟨id,found⟩ | some
  · exact .inl ⟨id,r,asked id r found attending⟩
  · exact .inr (.inl ⟨id,waits id found⟩)
  · exact .inr (.inr some)

theorem Telling.mono (holds : Telling pending requests notices)
    (asked : ∀ id r, requests.lookup id = some r → closes pending id r = true →
      requests'.lookup id = some r ∧ closes pending' id r = true)
    (waits : ∀ id, pending.lookup id = some .tearingDown → pending'.lookup id = some .tearingDown) :
    Telling pending' requests' notices := by
  rcases holds with ⟨id,r,found,closing⟩ | ⟨id,found⟩ | some
  · exact .inl ⟨id,r,asked id r found closing⟩
  · exact .inr (.inl ⟨id,waits id found⟩)
  · exact .inr (.inr some)

/-- Only who waits for the answer of the request itself counts. -/
theorem attends_congr (same : pending'.lookup id = pending.lookup id) :
    attends pending' id r = attends pending id r := by
  unfold attends
  rw [same]

theorem closes_congr (same : pending'.lookup id = pending.lookup id) : closes pending' id r = closes pending id r := by
  unfold closes
  rw [same]

/-- A request moves on. -/
theorem Attending.moved (holds : Attending pending requests events) (found : requests.lookup id = some r)
    (still : attends pending id r = true → attends pending id r' = true) :
    Attending pending (requests.insert id r') events := by
  rcases holds with ⟨other,x,there,attending⟩ | waits | some
  · by_cases same : other = id
    · subst same
      obtain rfl : x = r := Option.some.inj (there.symm.trans found)
      exact .inl ⟨other,r',AList.lookup_insert requests,still attending⟩
    · exact .inl ⟨other,x,(AList.lookup_insert_ne same).trans there,attending⟩
  · exact .inr (.inl waits)
  · exact .inr (.inr some)

theorem Telling.moved (holds : Telling pending requests notices) (found : requests.lookup id = some r)
    (still : closes pending id r = true → closes pending id r' = true) :
    Telling pending (requests.insert id r') notices := by
  rcases holds with ⟨other,x,there,closing⟩ | waits | some
  · by_cases same : other = id
    · subst same
      obtain rfl : x = r := Option.some.inj (there.symm.trans found)
      exact .inl ⟨other,r',AList.lookup_insert requests,still closing⟩
    · exact .inl ⟨other,x,(AList.lookup_insert_ne same).trans there,closing⟩
  · exact .inr (.inl waits)
  · exact .inr (.inr some)

/-- A request is sent under a number that is not in use. -/
theorem Attending.sent (holds : Attending pending requests events) (free : requests.lookup id = none)
    (unknown : pending.lookup id = none) (asked : ∀ other, other ≠ id → pending'.lookup other = pending.lookup other) :
    Attending pending' (requests.insert id r) events := by
  refine holds.mono (fun other x found attending => ?_) (fun other found => ?_)
  · have ne : other ≠ id := fun same => by rw [same,free] at found; cases found
    exact ⟨(AList.lookup_insert_ne ne).trans found,(attends_congr (asked other ne)).trans attending⟩
  · have ne : other ≠ id := fun same => by rw [same,unknown] at found; cases found
    exact (asked other ne).trans found

theorem Telling.sent (holds : Telling pending requests notices) (free : requests.lookup id = none)
    (unknown : pending.lookup id = none) (asked : ∀ other, other ≠ id → pending'.lookup other = pending.lookup other) :
    Telling pending' (requests.insert id r) notices := by
  refine holds.mono (fun other x found closing => ?_) (fun other found => ?_)
  · have ne : other ≠ id := fun same => by rw [same,free] at found; cases found
    exact ⟨(AList.lookup_insert_ne ne).trans found,(closes_congr (asked other ne)).trans closing⟩
  · have ne : other ≠ id := fun same => by rw [same,unknown] at found; cases found
    exact (asked other ne).trans found

/-- The page stops waiting for a request, whose answer may be taken off. -/
theorem Attending.ended (holds : Attending pending requests events)
    (asked : ∀ x, requests.lookup id = some x → attends pending id x = true →
      requests'.lookup id = some x ∧ attends (pending.erase id) id x = true)
    (waits : pending.lookup id ≠ some .waitingReady)
    (kept : ∀ other, other ≠ id → requests'.lookup other = requests.lookup other) :
    Attending (pending.erase id) requests' events := by
  refine holds.mono (fun other x found attending => ?_) (fun other found => ?_)
  · by_cases same : other = id
    · subst same
      exact asked x found attending
    · exact ⟨(kept other same).trans found,(attends_congr (AList.lookup_erase_ne same)).trans attending⟩
  · have ne : other ≠ id := fun same => waits (same ▸ found)
    exact (AList.lookup_erase_ne ne).trans found

theorem Telling.ended (holds : Telling pending requests notices)
    (asked : ∀ x, requests.lookup id = some x → closes pending id x = false)
    (waits : pending.lookup id ≠ some .tearingDown)
    (kept : ∀ other, other ≠ id → requests'.lookup other = requests.lookup other) :
    Telling (pending.erase id) requests' notices := by
  refine holds.mono (fun other x found closing => ?_) (fun other found => ?_)
  · have ne : other ≠ id := fun same => by
      subst same
      rw [asked x found] at closing
      cases closing
    exact ⟨(kept other ne).trans found,(closes_congr (AList.lookup_erase_ne ne)).trans closing⟩
  · have ne : other ≠ id := fun same => waits (same ▸ found)
    exact (AList.lookup_erase_ne ne).trans found

/-! ### The invariant -/

/-- The numbers of requests to come are not in use. -/
structure Numbered (w : World) : Prop where
  free : ∀ id, w.nextReqId ≤ id → w.requests.lookup id = none
  unknown : ∀ id, w.nextReqId ≤ id → w.pending.lookup id = none

/-- Where page and bridge differ, it is accounted for. -/
structure Matched (w : World) : Prop where
  numbered : Numbered w
  attended : w.session = true → w.device.opened = true ∨ Attending w.pending w.requests w.events
  told : w.device.opened = true → w.session = true ∨ Telling w.pending w.requests w.notices

theorem Matched.initial : Matched init := ⟨⟨fun _ _ => rfl,fun _ _ => rfl⟩,nofun,nofun⟩

theorem Numbered.below (numbered : Numbered w) (found : w.requests.lookup id = some r) : id < w.nextReqId := by
  by_contra above
  rw [numbered.free id (by omega)] at found
  cases found

theorem Numbered.sendRequest (numbered : Numbered w) (kind : Kind) (call : Option Call) :
    Numbered (w.sendRequest kind call) := by
  refine ⟨fun id above => ?_,fun id above => ?_⟩
  · have ne : id ≠ w.nextReqId := by
      have : w.nextReqId + 1 ≤ id := above
      omega
    exact (AList.lookup_insert_ne ne).trans (numbered.free id (Nat.le_of_succ_le above))
  · have ne : id ≠ w.nextReqId := by
      have : w.nextReqId + 1 ≤ id := above
      omega
    have unknown := numbered.unknown id (Nat.le_of_succ_le above)
    cases call with
    | none => exact unknown
    | some call => exact (AList.lookup_insert_ne ne).trans unknown

theorem Numbered.withDevice (numbered : Numbered w) (device : Device) : Numbered (w.withDevice device) :=
  ⟨numbered.free,numbered.unknown⟩

/-- Sending a request changes nobody else's wait. -/
theorem sendRequest_pending {kind : Kind} {call : Option Call} {other : Nat} (ne : other ≠ w.nextReqId) :
    (w.sendRequest kind call).pending.lookup other = w.pending.lookup other := by
  cases call with
  | none => rfl
  | some call => exact AList.lookup_insert_ne ne

theorem Numbered.attending (numbered : Numbered w) (kind : Kind) (call : Option Call)
    (holds : Attending w.pending w.requests w.events) :
    Attending (w.sendRequest kind call).pending (w.sendRequest kind call).requests w.events :=
  holds.sent (numbered.free _ le_rfl) (numbered.unknown _ le_rfl) fun _ ne => sendRequest_pending ne

theorem Numbered.telling (numbered : Numbered w) (kind : Kind) (call : Option Call)
    (holds : Telling w.pending w.requests w.notices) :
    Telling (w.sendRequest kind call).pending (w.sendRequest kind call).requests w.notices :=
  holds.sent (numbered.free _ le_rfl) (numbered.unknown _ le_rfl) fun _ ne => sendRequest_pending ne

theorem Matched.sendRequest (ok : Matched w) (kind : Kind) (call : Option Call) :
    Matched (w.sendRequest kind call) where
  numbered := ok.numbered.sendRequest kind call
  attended there := (ok.attended there).imp_right (ok.numbered.attending kind call)
  told reported := (ok.told reported).imp_right (ok.numbered.telling kind call)

/-- A close has been sent, which the bridge will handle. -/
theorem Matched.closeSent (numbered : Numbered w) (call : Option Call)
    (told : w.device.opened = true → w.session = true ∨
      Telling (w.sendRequest .closeRequest call).pending (w.sendRequest .closeRequest call).requests w.notices) :
    Matched (w.sendRequest .closeRequest call) where
  numbered := numbered.sendRequest .closeRequest call
  attended _ := .inr (.inl ⟨w.nextReqId,_,AList.lookup_insert w.requests,rfl⟩)
  told := told

theorem Matched.device (ok : Matched w) {device : Device} (same : device.opened = w.device.opened) :
    Matched (w.withDevice device) where
  numbered := ok.numbered.withDevice device
  attended there := (ok.attended there).imp_left same.trans
  told reported := ok.told (same.symm.trans reported)

theorem Matched.openDevice (ok : Matched w) : Matched w.openDevice := by
  unfold World.openDevice
  split_ifs
  · exact ok
  · apply Matched.sendRequest
    exact ok.device rfl

theorem Matched.closeDevice (ok : Matched w) : Matched w.closeDevice := by
  unfold World.closeDevice
  split_ifs
  · exact ok.sendRequest _ _
  · exact ok

theorem Matched.forget (ok : Matched w) : Matched w.forget := by
  unfold World.forget
  split_ifs
  · exact ok
  · exact ok.sendRequest _ _

@[simp] theorem reconciled_opened (device : Device) (forgotten : Bool) :
    (device.reconcileAuthoritativeLifetime forgotten).opened = false := by
  rw [Device.reconcileAuthoritativeLifetime,Device.closeDataPort_opened]
  rfl

@[simp] theorem closeDone_opened (device : Device) : device.closeDone.opened = false := by
  rw [Device.closeDone,Device.closeDataPort_opened]
  rfl

/-- The page gives the device up. -/
theorem Matched.givenUp (numbered : Numbered w) {device : Device} {registered : Bool} (closed : device.opened = false)
    (cleared : w.session = true → Attending w.pending w.requests w.events) :
    Matched { w with device, registered } where
  numbered := ⟨numbered.free,numbered.unknown⟩
  attended there := .inr (cleared there)
  told reported := by
    rw [show device.opened = true from reported] at closed
    cases closed

theorem Matched.teardownForgottenDevice (numbered : Numbered w)
    (attended : w.session = true → w.device.opened = true ∨ Attending w.pending w.requests w.events) :
    Matched w.teardownForgottenDevice := by
  unfold World.teardownForgottenDevice
  split_ifs with reported
  · refine Matched.closeSent numbered _ fun _ => .inr (.inr (.inl ⟨w.nextReqId,?_⟩))
    exact AList.lookup_insert w.pending
  · refine Matched.givenUp numbered (reconciled_opened _ _) fun there => ?_
    exact (attended there).resolve_left reported

/-- What the end of a wait leaves: what was accounted for by the request itself is now up
    to the page. -/
structure Settling (w : World) (id : Nat) (call : Call) (reply : Reply) (requests : HashMap Nat (Kind × Stage)) : Prop where
  kept : ∀ other, other ≠ id → requests.lookup other = w.requests.lookup other
  free : ∀ other, w.nextReqId ≤ other → requests.lookup other = none
  found : w.pending.lookup id = some call
  asked : (∃ generation, call = .opening ∧ reply = .opened generation) ∨
    ∀ x, w.requests.lookup id = some x → attends w.pending id x = true →
      requests.lookup id = some x ∧ attends (w.pending.erase id) id x = true
  heard : call = .closing ∧ reply = .ok ∨ ∀ x, w.requests.lookup id = some x → closes w.pending id x = false
  ready : call = .waitingReady → reply = .ok → w.session = true ∨ Telling w.pending w.requests w.notices
  cleared : call = .closing ∧ reply = .ok ∨ call = .tearingDown → w.session = true →
    Attending w.pending w.requests w.events

/-- The world in which the page goes on. -/
theorem Settling.numbered {reply : Reply} (settling : Settling w id call reply requests) (numbered : Numbered w) :
    Numbered { w with requests, pending := w.pending.erase id } := by
  refine ⟨settling.free,fun other above => ?_⟩
  have := lookup_erase_eq w.pending id other
  rw [numbered.unknown other above] at this
  show (w.pending.erase id).lookup other = none
  rw [this]
  split_ifs <;> rfl

theorem Settling.attending {reply : Reply} (settling : Settling w id call reply requests)
    (silent : ∀ generation, call = .opening → reply ≠ .opened generation) (waits : call ≠ .waitingReady)
    (holds : Attending w.pending w.requests w.events) : Attending (w.pending.erase id) requests w.events := by
  refine holds.ended (settling.asked.resolve_left ?_) ?_ settling.kept
  · rintro ⟨generation,opening,opened⟩
    exact silent generation opening opened
  · rw [settling.found]
    exact fun same => waits (Option.some.inj same)

theorem Settling.telling {reply : Reply} (settling : Settling w id call reply requests)
    (silent : call = .closing → reply ≠ .ok) (waits : call ≠ .tearingDown)
    (holds : Telling w.pending w.requests w.notices) : Telling (w.pending.erase id) requests w.notices := by
  refine holds.ended (settling.heard.resolve_left fun ⟨closing,ok⟩ => silent closing ok) ?_ settling.kept
  rw [settling.found]
  exact fun same => waits (Option.some.inj same)

/-- A wait that neither gives the device up nor holds a grant leaves both sides as they are. -/
theorem Matched.waited (ok : Matched w) {reply : Reply} (settling : Settling w id call reply requests)
    (unopened : ∀ generation, call = .opening → reply ≠ .opened generation) (unclosed : call = .closing → reply ≠ .ok)
    (ready : call ≠ .waitingReady) (torn : call ≠ .tearingDown) :
    Matched { w with requests, pending := w.pending.erase id } where
  numbered := settling.numbered ok.numbered
  attended there := (ok.attended there).imp_right (settling.attending unopened ready)
  told reported := (ok.told reported).imp_right (settling.telling unclosed torn)

theorem Matched.openAnswered (ok : Matched w) {reply : Reply} (settling : Settling w id .opening reply requests) :
    Matched ({ w with requests, pending := w.pending.erase id }.openAnswered reply) := by
  have numbered := settling.numbered ok.numbered
  have told (reported : w.device.opened = true) :=
    (ok.told reported).imp_right (settling.telling nofun nofun)
  unfold World.openAnswered
  split_ifs
  · refine Matched.closeSent (numbered.withDevice { w.device with opening := false }) none fun reported => ?_
    exact (told reported).imp_right (numbered.telling .closeRequest none)
  · cases reply with
    | opened generation =>
      let accepted := w.device.openAccepted w.nextPort generation
      have held : Numbered { w with
          device := accepted, nextPort := w.nextPort + 1, requests, pending := w.pending.erase id } :=
        ⟨numbered.free,numbered.unknown⟩
      refine ⟨held.sendRequest _ _,fun _ => .inr (.inr (.inl ?_)),fun reported => ?_⟩
      · exact ⟨w.nextReqId,AList.lookup_insert (w.pending.erase id)⟩
      · exact (told ((Device.openAccepted_opened (d := w.device)).symm.trans reported)).imp_right
          (numbered.telling .waitDataPlaneReady (some .waitingReady))
    | ok => exact (ok.waited settling nofun nofun nofun nofun).device rfl
    | failed => exact (ok.waited settling nofun nofun nofun nofun).device rfl

theorem Matched.readyAnswered (ok : Matched w) {reply : Reply} (settling : Settling w id .waitingReady reply requests) :
    Matched ({ w with requests, pending := w.pending.erase id }.readyAnswered reply) := by
  have numbered := settling.numbered ok.numbered
  unfold World.readyAnswered
  split_ifs with done
  · refine ⟨⟨numbered.free,numbered.unknown⟩,fun _ => .inl rfl,fun _ => ?_⟩
    exact (settling.ready rfl done).imp_right (settling.telling nofun nofun)
  · refine Matched.closeSent (numbered.withDevice w.device.openGivesUp) _ fun reported => ?_
    exact (ok.told reported).imp_right fun holds =>
      numbered.telling .closeRequest (some .givingUp) (settling.telling nofun nofun holds)

theorem Matched.closeAnswered (ok : Matched w) {reply : Reply} (settling : Settling w id .closing reply requests) :
    Matched ({ w with requests, pending := w.pending.erase id }.closeAnswered reply) := by
  unfold World.closeAnswered
  split_ifs with done
  · refine Matched.givenUp (settling.numbered ok.numbered) (closeDone_opened _) fun there => ?_
    exact settling.attending nofun nofun (settling.cleared (.inl ⟨rfl,done⟩) there)
  · exact ok.waited settling nofun (fun _ => done) nofun nofun

theorem Matched.settle (ok : Matched w) {reply : Reply} (settling : Settling w id call reply requests) :
    Matched ({ w with requests }.settle id reply) := by
  unfold World.settle
  rw [show ({ w with requests } : World).pending.lookup id = some call from settling.found]
  cases call with
  | opening => exact ok.openAnswered settling
  | waitingReady => exact ok.readyAnswered settling
  | givingUp => exact (ok.waited settling nofun nofun nofun nofun).device rfl
  | closing => exact ok.closeAnswered settling
  | forgetting =>
    have waited := ok.waited settling nofun nofun nofun nofun
    dsimp only
    split_ifs
    · exact Matched.teardownForgottenDevice waited.numbered waited.attended
    · exact waited
  | tearingDown =>
    refine Matched.givenUp (settling.numbered ok.numbered) (reconciled_opened _ _) fun there => ?_
    exact settling.attending nofun nofun (settling.cleared (.inr rfl) there)

theorem Numbered.moveTo (numbered : Numbered w) (found : w.requests.lookup id = some r) (kind : Kind) (stage : Stage) :
    Numbered (w.moveTo id kind stage) := by
  refine ⟨fun other above => ?_,numbered.unknown⟩
  have ne : other ≠ id := fun same => absurd (numbered.below found) (by rw [← same]; exact Nat.not_lt.mpr above)
  exact (AList.lookup_insert_ne ne).trans (numbered.free other above)

variable {kind : Kind} {stage stage' : Stage}

/-- A request moves on, while the session and the page stay as they are. -/
theorem Matched.moved (ok : Matched w) (found : w.requests.lookup id = some (kind,stage))
    (attending : attends w.pending id (kind,stage) = true → attends w.pending id (kind,stage') = true)
    (closing : closes w.pending id (kind,stage) = true → closes w.pending id (kind,stage') = true) :
    Matched (w.moveTo id kind stage') where
  numbered := ok.numbered.moveTo found kind stage'
  attended there := (ok.attended there).imp_right fun holds => holds.moved found attending
  told reported := (ok.told reported).imp_right fun holds => holds.moved found closing

/-- The bridge deletes its session. -/
theorem Matched.deleted (ok : Matched w) (found : w.requests.lookup id = some (kind,stage))
    (told : w.device.opened = true → Telling w.pending (w.requests.insert id (kind,stage')) w.notices) :
    Matched ({ w with session := false }.moveTo id kind stage') where
  numbered := ⟨(ok.numbered.moveTo found kind stage').free,ok.numbered.unknown⟩
  attended := nofun
  told reported := .inr (told reported)

theorem expected_iff : expected w = true ↔ (w.device.opened = true → Telling w.pending w.requests w.notices) := by
  unfold expected
  rw [Bool.or_eq_true,told_iff]
  cases w.device.opened <;> simp

theorem clear_iff : clear w = true ↔ (w.session = true → Attending w.pending w.requests w.events) := by
  unfold clear
  rw [Bool.or_eq_true,attended_iff]
  cases w.session <;> simp

/-- A close has failed: the request accounts for nothing any more. -/
theorem Matched.refused (ok : Matched w) {reservedToken : Bool}
    (found : w.requests.lookup id = some (.closeRequest,.queued reservedToken))
    (fine : w.device.opened = true ∨ clear { w with requests := w.requests.erase id } = true) :
    Matched (w.moveTo id .closeRequest (.replied .failed)) where
  numbered := ok.numbered.moveTo found .closeRequest (.replied .failed)
  attended there := fine.imp_right fun cleared => by
    refine (clear_iff.mp cleared there).mono (fun other x present attending => ?_) fun other present => present
    have ne : other ≠ id := fun same => by
      subst same
      exact absurd ((AList.lookup_erase _ w.requests).symm.trans present) (by simp)
    exact ⟨(AList.lookup_insert_ne ne).trans ((AList.lookup_erase_ne ne).symm.trans present),attending⟩
  told reported := (ok.told reported).imp_right fun holds => holds.moved found (nomatch ·)

theorem Matched.answered (ok : Matched w) {answer : Answer} {reservedToken : Bool}
    (found : w.requests.lookup id = some (kind,.queued reservedToken))
    (fine : orderly w (.answered id answer) = true) : Matched (w.answered id answer kind reservedToken) := by
  simp only [orderly,found] at fine
  cases kind with
  | openRequest =>
    cases answer with
    | ok =>
      have numbered := ok.numbered.moveTo found .openRequest .plane
      refine ⟨⟨numbered.free,numbered.unknown⟩,fun _ => ?_,fun _ => .inl rfl⟩
      exact .inr (.inl ⟨id,_,AList.lookup_insert w.requests,fine⟩)
    | failed => exact ok.moved found nofun nofun
    | thrown =>
      exact ok.deleted found fun reported => (expected_iff.mp fine reported).moved found nofun
  | closeRequest =>
    cases answer with
    | ok =>
      refine ok.deleted found fun reported => ?_
      rcases Bool.or_eq_true_iff.mp fine with learns | waits
      · exact (expected_iff.mp learns reported).moved found nofun
      · exact .inl ⟨id,_,AList.lookup_insert w.requests,waits⟩
    | failed =>
      obtain ⟨nothing,accounted⟩ := Bool.and_eq_true_iff.mp fine
      have same : (w.session || reservedToken) = w.session := by
        cases there : w.session <;> simp_all
      show Matched ({ w with session := w.session || reservedToken }.moveTo id .closeRequest (.replied .failed))
      rw [same]
      exact ok.refused found (Bool.or_eq_true_iff.mp accounted)
    | thrown => exact ok.refused found (Bool.or_eq_true_iff.mp fine)
  | waitDataPlaneReady => exact ok.moved found nofun nofun
  | unpairDevice => exact ok.moved found nofun nofun

theorem Matched.planeSet (ok : Matched w) {generation : Option Nat}
    (found : w.requests.lookup id = some (.openRequest,.plane))
    (fine : orderly w (.planeSet id generation) = true) : Matched (w.planeSet id generation) := by
  cases generation with
  | some generation => exact ok.moved found (fun waits => waits) nofun
  | none => exact ok.deleted found fun reported => (expected_iff.mp fine reported).moved found nofun

theorem Matched.reconciled (ok : Matched w) {events : List Event} (e : Event) :
    Matched ({ w with events }.reconciled e) := by
  unfold World.reconciled
  split_ifs with there
  · exact ⟨⟨ok.numbered.free,ok.numbered.unknown⟩,nofun,fun _ => .inr (.inr (.inr (by simp)))⟩
  · exact ⟨⟨ok.numbered.free,ok.numbered.unknown⟩,fun held => absurd held there,ok.told⟩

/-- The notice has reached the page, which reports no session that nobody will tell it of. -/
theorem Matched.noticed (ok : Matched w) {notices : List Event}
    (fine : w.device.opened = true → w.session = true ∨ Telling w.pending w.requests notices) :
    Matched { w with notices := notices } := ⟨⟨ok.numbered.free,ok.numbered.unknown⟩,ok.attended,fine⟩

/-- An event that finds its HIDDevice, or has nothing to tell. -/
theorem Matched.dispatched (ok : Matched w) {k : Nat} {e : Event} {hidInstance : Bool} (sent : w.notices[k]? = some e)
    (fine : orderly w (.notice k hidInstance) = true) :
    Matched ({ w with notices := w.notices.eraseIdx k }.dispatchDeviceEvent e hidInstance) := by
  have unheard : (!w.device.opened || w.session ||
      PageSessions.told { w with notices := w.notices.eraseIdx k }) = true →
      Matched { w with notices := w.notices.eraseIdx k } := fun silent => by
    refine ok.noticed fun reported => ?_
    rw [reported,Bool.not_true,Bool.false_or,Bool.or_eq_true,told_iff] at silent
    exact silent
  have numbered : Numbered { w with notices := w.notices.eraseIdx k } := ⟨ok.numbered.free,ok.numbered.unknown⟩
  simp only [orderly,sent] at fine
  unfold World.dispatchDeviceEvent
  cases e with
  | disconnect =>
    by_cases registered : w.registered = true
    · rw [if_pos registered] at fine
      simp only [registered,if_true]
      exact Matched.givenUp numbered (reconciled_opened _ _) (clear_iff.mp fine)
    · rw [if_neg registered] at fine
      exact (if_neg registered).symm ▸ unheard fine
  | revoked =>
    by_cases known : (w.registered && !w.device.forgotten) = true
    · simp only [known,if_true]
      exact Matched.teardownForgottenDevice numbered ok.attended
    · simp only [known,Bool.false_eq_true,if_false]
      exact unheard (by simpa [known] using fine)

theorem attends_replied {kind : Kind} {reply : Reply} (attending : attends pending id (kind,.replied reply) = true) :
    pending.lookup id = some .opening ∧ ∃ generation, reply = .opened generation := by
  cases kind with
  | openRequest =>
    cases reply with
    | opened generation => exact ⟨beq_iff_eq.mp attending,generation,rfl⟩
    | ok => cases attending
    | failed => cases attending
  | closeRequest => cases attending
  | waitDataPlaneReady => cases attending
  | unpairDevice => cases attending

theorem closes_replied {kind : Kind} {reply : Reply} (closing : closes pending id (kind,.replied reply) = true) :
    pending.lookup id = some .closing ∧ reply = .ok := by
  cases kind with
  | closeRequest =>
    cases reply with
    | ok => exact ⟨beq_iff_eq.mp closing,rfl⟩
    | opened generation => cases closing
    | failed => cases closing
  | openRequest => cases closing
  | waitDataPlaneReady => cases closing
  | unpairDevice => cases closing

/-- A close that the bridge has still to handle counts whoever waits for it. -/
theorem attends_close (attending : attends pending id r = true) (close : r.1 ≠ .openRequest) :
    attends pending' id r = true := by
  obtain ⟨kind,stage⟩ := r
  cases kind with
  | openRequest => exact absurd rfl close
  | closeRequest => cases stage <;> first | rfl | cases attending
  | waitDataPlaneReady => cases attending
  | unpairDevice => cases attending

theorem Matched.delivered (ok : Matched w) {kind : Kind} {reply : Reply}
    (found : w.requests.lookup id = some (kind,.replied reply)) (fine : orderly w (.deliver id) = true) :
    Matched ({ w with requests := w.requests.erase id }.settle id reply) := by
  have kept (other : Nat) (ne : other ≠ id) : (w.requests.erase id).lookup other = w.requests.lookup other :=
    AList.lookup_erase_ne ne
  have free (other : Nat) (above : w.nextReqId ≤ other) : (w.requests.erase id).lookup other = none := by
    have below := ok.numbered.below found
    exact (kept other (by omega)).trans (ok.numbered.free other above)
  cases waits : w.pending.lookup id with
  | none =>
    unfold World.settle
    rw [show ({ w with requests := w.requests.erase id } : World).pending.lookup id = none from waits]
    refine ⟨⟨free,ok.numbered.unknown⟩,fun there => ?_,fun reported => ?_⟩
    · refine (ok.attended there).imp_right fun holds => holds.mono (fun other x present attending => ?_) fun _ same => same
      have ne : other ≠ id := fun same => by
        subst same
        obtain rfl := Option.some.inj (present.symm.trans found)
        cases waits.symm.trans (attends_replied attending).1
      exact ⟨(kept other ne).trans present,attending⟩
    · refine (ok.told reported).imp_right fun holds => holds.mono (fun other x present closing => ?_) fun _ same => same
      have ne : other ≠ id := fun same => by
        subst same
        obtain rfl := Option.some.inj (present.symm.trans found)
        cases waits.symm.trans (closes_replied closing).1
      exact ⟨(kept other ne).trans present,closing⟩
  | some call =>
    simp only [orderly,waits,found] at fine
    refine ok.settle ⟨kept,free,waits,?_,?_,?_,?_⟩
    · by_cases granted : ∃ generation, call = .opening ∧ reply = .opened generation
      · exact .inl granted
      · refine .inr fun x present attending => absurd ?_ granted
        obtain rfl := Option.some.inj (present.symm.trans found)
        obtain ⟨opening,generation,opened⟩ := attends_replied attending
        exact ⟨generation,Option.some.inj (waits.symm.trans opening),opened⟩
    · by_cases accepted : call = .closing ∧ reply = .ok
      · exact .inl accepted
      · refine .inr fun x present => Bool.eq_false_iff.mpr fun closing => accepted ?_
        obtain rfl := Option.some.inj (present.symm.trans found)
        obtain ⟨waiting,rfl⟩ := closes_replied closing
        exact ⟨Option.some.inj (waits.symm.trans waiting),rfl⟩
    · rintro rfl rfl
      rwa [Bool.or_eq_true,told_iff] at fine
    · rintro (⟨rfl,rfl⟩ | rfl)
      · exact clear_iff.mp fine
      · exact clear_iff.mp fine

theorem Matched.timedOut (ok : Matched w) (waits : w.pending.lookup id = some call)
    (fine : orderly w (.timeout id) = true) : Matched (w.settle id .failed) := by
  obtain ⟨early,gone⟩ := Bool.and_eq_true_iff.mp fine
  have early (x) (present : w.requests.lookup id = some x) :
      (attends w.pending id x = true → x.1 ≠ .openRequest) ∧ closes w.pending id x = false := by
    simpa [late,present,imp_iff_not_or] using early
  show Matched ({ w with requests := w.requests }.settle id .failed)
  refine ok.settle ⟨fun _ _ => rfl,ok.numbered.free,waits,.inr ?_,.inr ?_,nofun,?_⟩
  · exact fun x present attending => ⟨present,attends_close attending ((early x present).1 attending)⟩
  · exact fun x present => (early x present).2
  · rintro (⟨_,never⟩ | rfl)
    · cases never
    · rw [waits] at gone
      exact clear_iff.mp gone

theorem step_matched (ok : Matched w) (taken : step w a = some w') (fine : orderly w a = true) : Matched w' := by
  cases a with
  | openCall => obtain rfl := Option.some.inj taken; exact ok.openDevice
  | closeCall => obtain rfl := Option.some.inj taken; exact ok.closeDevice
  | forgetCall => obtain rfl := Option.some.inj taken; exact ok.forget
  | other kind => obtain rfl := Option.some.inj taken; exact ok.sendRequest kind none
  | timeout id =>
    obtain ⟨call,waits,rfl⟩ := Option.map_eq_some_iff.mp taken
    exact ok.timedOut waits fine
  | receive id =>
    simp only [step] at taken
    split at taken
    next kind found =>
      obtain rfl := Option.some.inj taken
      refine ok.moved found (fun attending => ?_) (by cases kind <;> nofun)
      cases kind <;> first | rfl | cases attending
    next => cases taken
  | checked id allowed =>
    simp only [step] at taken
    split at taken
    next kind found =>
      obtain rfl := Option.some.inj taken
      exact ok.moved found (by cases kind <;> nofun) (by cases kind <;> nofun)
    next => cases taken
  | answered id answer =>
    simp only [step] at taken
    split at taken
    next kind reservedToken found =>
      obtain rfl := Option.some.inj taken
      exact ok.answered found fine
    next => cases taken
  | planeSet id generation =>
    simp only [step] at taken
    split at taken
    next found =>
      obtain rfl := Option.some.inj taken
      exact ok.planeSet found fine
    next => cases taken
  | discarded id =>
    simp only [step] at taken
    split at taken
    next kind found =>
      obtain rfl := Option.some.inj taken
      exact ok.moved found (by cases kind <;> nofun) (by cases kind <;> nofun)
    next => cases taken
  | cleaned id =>
    simp only [step] at taken
    split at taken
    next kind found =>
      obtain rfl := Option.some.inj taken
      exact ok.moved found (by cases kind <;> nofun) (by cases kind <;> nofun)
    next => cases taken
  | despawned id =>
    simp only [step] at taken
    split at taken
    next kind found =>
      obtain rfl := Option.some.inj taken
      exact ok.moved found (by cases kind <;> nofun) (by cases kind <;> exact fun closing => closing)
    next => cases taken
  | ready id allowed =>
    simp only [step] at taken
    split at taken
    next kind found =>
      obtain rfl := Option.some.inj taken
      exact ok.moved found (by cases kind <;> nofun) (by cases kind <;> nofun)
    next => cases taken
  | deliver id =>
    simp only [step] at taken
    split at taken
    next kind reply found =>
      obtain rfl := Option.some.inj taken
      exact ok.delivered found fine
    next => cases taken
  | tell e =>
    obtain rfl := Option.some.inj taken
    exact ⟨⟨ok.numbered.free,ok.numbered.unknown⟩,fun _ => .inr (.inr (.inr (by simp))),ok.told⟩
  | event k =>
    obtain ⟨e,sent,rfl⟩ := Option.map_eq_some_iff.mp taken
    exact ok.reconciled e
  | notice k hidInstance =>
    obtain ⟨e,sent,rfl⟩ := Option.map_eq_some_iff.mp taken
    exact ok.dispatched sent fine

theorem settled_idle (idle : settled w = true) : attended w = false ∧ told w = false := by
  unfold settled at idle
  simp only [Bool.and_eq_true,List.isEmpty_iff] at idle
  obtain ⟨⟨⟨nobody,unasked⟩,noEvent⟩,noNotice⟩ := idle
  constructor
  · simp [attended,values,nobody,unasked,noEvent]
  · simp [told,values,nobody,unasked,noNotice]

/-- Once nothing is under way, the page reports an open device if and only if the bridge
    holds a session, in every run whose steps are all orderly. -/
theorem opened_iff_session {w : World} {trace : List Action} (run : exec step init trace = some w)
    (fine : AllSteps step (fun w a _ => orderly w a = true) init trace) (idle : settled w = true) :
    w.device.opened = true ↔ w.session = true := by
  have ok := exec_invariant_under (fun _ _ _ ok taken fine => step_matched ok taken fine) Matched.initial run fine
  obtain ⟨unattended,untold⟩ := settled_idle idle
  constructor
  · intro reported
    refine (ok.told reported).resolve_right fun holds => ?_
    rw [told_iff.mpr holds] at untold
    cases untold
  · intro there
    refine (ok.attended there).resolve_right fun holds => ?_
    rw [attended_iff.mpr holds] at unattended
    cases unattended

/-- An open, and a disconnect of the device that the bridge tells the page of. -/
theorem opened_iff_session_disconnected : ∃ w,
    exec step init [.openCall,.receive 0,.checked 0 true,.answered 0 .ok,.planeSet 0 (some 1),.deliver 0,.receive 1,
      .ready 1 true,.deliver 1,.tell .disconnect,.event 0,.notice 0 true] = some w ∧
    (w.device.opened = true ↔ w.session = true) := by
  obtain ⟨w,run⟩ := Option.isSome_iff_exists.mp (by decide : (exec step init
    [.openCall,.receive 0,.checked 0 true,.answered 0 .ok,.planeSet 0 (some 1),.deliver 0,.receive 1,.ready 1 true,
      .deliver 1,.tell .disconnect,.event 0,.notice 0 true]).isSome = true)
  refine ⟨w,run,opened_iff_session run (allSteps_of_checkAll (by decide)) ?_⟩
  have idle : (exec step init [.openCall,.receive 0,.checked 0 true,.answered 0 .ok,.planeSet 0 (some 1),.deliver 0,
    .receive 1,.ready 1 true,.deliver 1,.tell .disconnect,.event 0,.notice 0 true]).map settled = some true := by decide
  rw [run] at idle
  exact Option.some.inj idle

/-- The page's timer for the open runs out while the background opens the device: nobody
    closes the session that the bridge makes. -/
theorem late_open_stays : ¬ ∀ w (trace : List Action), exec step init trace = some w → settled w = true →
    (w.device.opened = true ↔ w.session = true) := by
  intro agrees
  have facts : (exec step init [.openCall,.receive 0,.checked 0 true,.timeout 0,.answered 0 .ok,.planeSet 0 (some 1),
    .deliver 0]).map (fun w => (settled w,w.device.opened,w.session)) = some (true,false,true) := by decide
  obtain ⟨w,run,facts⟩ := Option.map_eq_some_iff.mp facts
  simp only [Prod.mk.injEq] at facts
  obtain ⟨idle,closed,there⟩ := facts
  have opened := (agrees w _ run idle).mpr there
  rw [closed] at opened
  cases opened

end FFWebHid.PageSessions
