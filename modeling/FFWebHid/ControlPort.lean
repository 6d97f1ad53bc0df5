import Mathlib.Data.List.Perm.Basic
import FFWebHid.Runs
import FFWebHid.PageMessages

/-!
The control port between a bridge and the background. The bridge has one request at a
time on the port and takes the next message that is no answer to a handshake for the
answer to it; the others wait in its queue. The handshakes of the bridge share the port
and are matched by their `reqId`, which the background copies from a request to its
answer. The events that the bridge also takes from this port are never posted there.
A handler that runs answers when it does: that each one does answer is not shown here,
and what is settled in time rests on it.
-/
namespace FFWebHid.ControlPort
open FFWebHid.Runs FFWebHid.PageMessages

/-- A `reqId`: the text `handshake:` and a number, which the bridge uses for its
    handshakes, or another value. -/
inductive ReqId where
  | handshake (n : Nat)
  | other (value : Nat)
  deriving DecidableEq, Repr

/-- An action as it is posted: a string, or another value, such as an array, with its
    text. A comparison or a look-up in a set tells them apart, a look-up by property
    name does not. -/
inductive PostedAction where
  | string (name : String)
  | other (name : String)
  deriving DecidableEq, Repr

instance : Coe String PostedAction := ⟨.string⟩

def PostedAction.name : PostedAction → String
  | .string name => name
  | .other name => name

/-- What the two ends read of a request, and whether `postMessage` can take it. -/
structure Request where
  action : PostedAction
  reqId : Option ReqId := none
  cloneable : Bool := true
  deriving DecidableEq, Repr

/-- The names that an object literal has from `Object.prototype`. -/
def inherited : List String :=
  ["constructor","__defineGetter__","__defineSetter__","hasOwnProperty","__lookupGetter__","__lookupSetter__",
    "isPrototypeOf","propertyIsEnumerable","toString","valueOf","__proto__","toLocaleString"]

/-- `table[action]` is not `undefined`. -/
def has (table : List String) (action : String) : Bool := table.contains action || inherited.contains action

/-- The keys of `HANDLERS`. -/
def handlerNames : List String :=
  ["enumerate","enumeratePaired","handshake","getBackendStatus","recordGrantGroup","getGrantGroups",
    "getAllPairedDevices","open","close","frameDestroyed","revokeDevice","cleanupSession","setDataPlane","sendReport",
    "receiveFeatureReport","sendFeatureReport","getPairedDevices","pairDevice","unpairDevice","getAllowedDevices",
    "deviceCountChanged","showPageAction","getDeviceCache","getDeviceInfo","fetchResource","getCspInfo",
    "getFrameOrigins","getWorkerBundle","showPicker","cancelPicker","getPendingPicker","setFrameDelegation",
    "getPolicy","armShadowSpawn","unarmShadowSpawn","pickerResult"]

/-- The actions of the requests that the bridge makes up itself. -/
def bridgeActions : List String :=
  ["showPageAction","getAllowedDevices","getCspInfo","getWorkerBundle","setDataPlane","setFrameDelegation","getPolicy",
    "showPicker","cancelPicker","deviceCountChanged","pairDevice","recordGrantGroup","cleanupSession","close",
    "frameDestroyed"]

/-- What the bridge sends for a request of a page, from `handleRequest` to the end of
    `handleGenericRequest`. The payload is copied, so its `reqId` is sent along. -/
def pageRequest (post : Request) : Option Request :=
  if has requestHandlers post.action.name || pageBlockedActions.any (fun name => post.action = .string name) then none
  else
    match post.action with
    | .string name => some { post with action := effectiveAction name }
    | .other _ => some post

/-- A blocked action within an array is forwarded, and the background has a handler for it. -/
theorem blocked_array_forwarded {name : String} (blocked : name ∈ pageBlockedActions) (reqId : Option ReqId) :
    pageRequest ⟨.other name,reqId,true⟩ = some ⟨.other name,reqId,true⟩ ∧ has handlerNames name = true := by
  have apart : ∀ name ∈ pageBlockedActions, has requestHandlers name = false ∧ has handlerNames name = true := by decide
  obtain ⟨unhandled,handled⟩ := apart name blocked
  refine ⟨?_,handled⟩
  simp [pageRequest,PostedAction.name,unhandled]

/-- An entry of `controlQueue`. The number, which says how many requests were made
    before, is a ghost. -/
structure Entry where
  number : Nat
  request : Request
  deriving DecidableEq, Repr

/-- What a message was sent for or answers. -/
inductive Purpose where
  | request (number : Nat)
  | handshake (n : Nat)
  deriving DecidableEq, Repr

/-- A message to the background. -/
structure Asked where
  purpose : Purpose
  action : PostedAction
  reqId : Option ReqId
  deriving DecidableEq, Repr

/-- An answer, with the purpose of the message that it was produced for. -/
structure Answer (ρ : Type) where
  purpose : Purpose
  reqId : Option ReqId
  body : ρ
  deriving DecidableEq, Repr

/-- How a promise of the bridge was settled. -/
inductive Outcome (ρ : Type) where
  | answered (answer : Answer ρ)
  | disconnected
  | notSent
  deriving DecidableEq, Repr

/-- The two ends of the port and the messages between them. `running` are the handlers
    that have still to answer. `made`, `settled` and `handshakes` are ghosts: how many
    requests were made, and how the promises were settled. -/
structure World (ρ : Type) where
  connected : Bool := true
  controlQueue : List Entry := []
  controlPending : Option Entry := none
  nextHandshakeReqId : Nat := 0
  handshakePending : List Nat := []
  toBackground : List Asked := []
  running : List Asked := []
  toBridge : List (Answer ρ) := []
  made : Nat := 0
  settled : List (Nat × Outcome ρ) := []
  handshakes : List (Nat × Outcome ρ) := []
  deriving DecidableEq, Repr

namespace World
variable {ρ : Type} (w : World ρ)

/-- `pumpControlQueue` once nothing is pending: a request that cannot be posted is
    rejected, and the next one is tried. -/
def pump (w : World ρ) : List Entry → World ρ
  | [] => { w with controlQueue := [] }
  | e :: rest =>
    if w.connected && e.request.cloneable then
      { w with
        controlQueue := rest
        controlPending := some e
        toBackground := w.toBackground ++ [⟨.request e.number,e.request.action,e.request.reqId⟩] }
    else pump { w with settled := w.settled ++ [(e.number,.notSent)] } rest

def pumpControlQueue : World ρ := if w.controlPending.isSome then w else w.pump w.controlQueue

def sendBackgroundRequest (request : Request) : World ρ :=
  pumpControlQueue { w with controlQueue := w.controlQueue ++ [⟨w.made,request⟩], made := w.made + 1 }

def sendHandshakeRequest : World ρ :=
  let n := w.nextHandshakeReqId + 1
  if w.connected then
    { w with
      nextHandshakeReqId := n
      handshakePending := w.handshakePending ++ [n]
      toBackground := w.toBackground ++ [⟨.handshake n,"handshake",some (.handshake n)⟩] }
  else { w with nextHandshakeReqId := n, handshakes := w.handshakes ++ [(n,.notSent)] }

/-- The handshake that a message with this `reqId` settles. -/
def handshakeFor (reqId : Option ReqId) : Option Nat :=
  match reqId with
  | some (.handshake n) => if n ∈ w.handshakePending then some n else none
  | _ => none

/-- The listener of the control port. -/
def onMessage (answer : Answer ρ) : World ρ :=
  match w.handshakeFor answer.reqId with
  | some n =>
    { w with
      handshakePending := w.handshakePending.erase n
      handshakes := w.handshakes ++ [(n,.answered answer)] }
  | none =>
    match w.controlPending with
    | none => w
    | some e =>
      pumpControlQueue { w with controlPending := none, settled := w.settled ++ [(e.number,.answered answer)] }

/-- Everything that waits is rejected, and nothing more comes through the port. -/
def onDisconnect : World ρ :=
  { w with
    connected := false
    toBackground := []
    toBridge := []
    handshakePending := []
    handshakes := w.handshakes ++ w.handshakePending.map fun n => (n,.disconnected)
    controlPending := none
    controlQueue := []
    settled := w.settled ++ (w.controlPending.toList ++ w.controlQueue).map fun e => (e.number,.disconnected) }

/-- The listener of `registerMessageHandlers`. -/
def receive (asked : Asked) : World ρ :=
  if has handlerNames asked.action.name then { w with running := w.running ++ [asked] } else w

/-- `sendPortResponse`. -/
def sendPortResponse (asked : Asked) (body : ρ) : World ρ :=
  if w.connected then { w with toBridge := w.toBridge ++ [⟨asked.purpose,asked.reqId,body⟩] } else w

end World

inductive Action (ρ : Type) where
  | page (post : Request)
  | bridge (action : String)
  | handshake
  | receive
  | respond (k : Nat) (body : ρ)
  | deliver
  | disconnect
  deriving DecidableEq, Repr

variable {ρ : Type}

/-- `none` when the action cannot happen in the state. -/
def step (w : World ρ) : Action ρ → Option (World ρ)
  | .page post => (pageRequest post).map w.sendBackgroundRequest
  | .bridge action => if bridgeActions.contains action then some (w.sendBackgroundRequest ⟨action,none,true⟩) else none
  | .handshake => some w.sendHandshakeRequest
  | .receive =>
    match w.toBackground with
    | [] => none
    | asked :: rest => some ({ w with toBackground := rest }.receive asked)
  | .respond k body => w.running[k]?.map fun asked =>
      { w with running := w.running.eraseIdx k }.sendPortResponse asked body
  | .deliver =>
    match w.toBridge with
    | [] => none
    | answer :: rest => some ({ w with toBridge := rest }.onMessage answer)
  | .disconnect => if w.connected then some w.onDisconnect else none

def init : World ρ := {}

/-! ### What the port promises -/

/-- The purposes of the messages on their way and of the handlers under way. -/
def transit (w : World ρ) : List Purpose :=
  w.toBackground.map Asked.purpose ++ w.running.map Asked.purpose ++ w.toBridge.map Answer.purpose

/-- Requests are settled once and in the order in which they were made, each by the
    answer to it or because the port is down; handshakes are settled by their own
    answers. A request that is waited for is on its way, requests queue only behind such
    a one, and when nothing is on its way every request has been settled. -/
structure Matched (w : World ρ) : Prop where
  inOrder : w.settled.map Prod.fst <+: List.range w.made
  own : ∀ number answer, (number,.answered answer) ∈ w.settled → answer.purpose = .request number
  lost : ∀ number, (number,.disconnected) ∈ w.settled → w.connected = false
  ownHandshake : ∀ n answer, (n,.answered answer) ∈ w.handshakes → answer.purpose = .handshake n
  waiting : ∀ e, w.controlPending = some e → .request e.number ∈ transit w
  pumped : w.controlPending = none → w.controlQueue = []
  complete : transit w = [] → w.settled.map Prod.fst = List.range w.made

/-- The background has a handler for the message that it takes, and the bridge does not
    take the answer to a request whose `reqId` is that of a pending handshake. -/
def answerable (w : World ρ) : Action ρ → Bool
  | .receive => w.toBackground.head?.all fun asked => has handlerNames asked.action.name
  | .deliver => w.toBridge.head?.all fun answer =>
    match answer.purpose with
    | .request _ => (w.handshakeFor answer.reqId).isNone
    | .handshake _ => true
  | _ => true

section
variable {w w' : World ρ}

/-- What holds of the state with a given queue, whether or not it was pumped. -/
private structure Held (w : World ρ) (queue : List Entry) : Prop where
  numbers : w.settled.map Prod.fst ++ (w.controlPending.toList ++ queue).map Entry.number = List.range w.made
  travels : w.connected = true → (transit w).Perm
    (w.controlPending.toList.map (fun e => .request e.number) ++ w.handshakePending.map .handshake)
  down : w.connected = false →
    w.controlPending = none ∧ w.handshakePending = [] ∧ w.toBackground = [] ∧ w.toBridge = []
  known : w.handshakePending.Nodup ∧ ∀ n ∈ w.handshakePending, n ≤ w.nextHandshakeReqId
  asked : ∀ asked ∈ w.toBackground ++ w.running, ∀ n, asked.purpose = .handshake n → asked.reqId = some (.handshake n)
  answers : ∀ answer ∈ w.toBridge, ∀ n, answer.purpose = .handshake n → answer.reqId = some (.handshake n)
  own : ∀ number answer, (number,.answered answer) ∈ w.settled → answer.purpose = .request number
  lost : ∀ number, (number,.disconnected) ∈ w.settled → w.connected = false
  ownHandshake : ∀ n answer, (n,.answered answer) ∈ w.handshakes → answer.purpose = .handshake n

/-- In addition, nothing queues unless a request is pending. -/
private structure Inv (w : World ρ) : Prop where
  held : Held w w.controlQueue
  pumped : w.controlPending = none → w.controlQueue = []

/-- The next request of the queue is posted. -/
private theorem Held.post {e : Entry} {rest : List Entry} (held : Held w (e :: rest)) (idle : w.controlPending = none)
    (up : w.connected = true) : Held { w with
      controlQueue := rest
      controlPending := some e
      toBackground := w.toBackground ++ [⟨.request e.number,e.request.action,e.request.reqId⟩] } rest := by
  refine { held with numbers := ?_, travels := ?_, down := ?_, asked := ?_ }
  · have numbers := held.numbers
    rw [idle] at numbers
    exact numbers
  · intro _
    have travels := held.travels up
    rw [idle] at travels
    simp only [transit,List.map_append,List.map_cons,List.map_nil,Option.toList_some,List.append_assoc,
      List.singleton_append]
    refine List.perm_middle.trans (List.Perm.cons _ ?_)
    simpa [transit] using travels
  · intro gone
    rw [up] at gone; cases gone
  · intro asked member n handshake
    simp only [List.mem_append,List.mem_singleton] at member
    rcases member with (before | rfl) | before
    · exact held.asked asked (List.mem_append_left _ before) n handshake
    · cases handshake
    · exact held.asked asked (List.mem_append_right _ before) n handshake

/-- A request is settled without an answer. -/
private theorem Held.refuse {e : Entry} {rest : List Entry} (held : Held w (e :: rest))
    (idle : w.controlPending = none) : Held { w with settled := w.settled ++ [(e.number,.notSent)] } rest := by
  refine { held with numbers := ?_, own := ?_, lost := ?_ }
  · have numbers := held.numbers
    rw [idle] at numbers
    simpa [idle] using numbers
  · intro number answer member
    rcases List.mem_append.mp member with before | new
    · exact held.own number answer before
    · simp at new
  · intro number member
    rcases List.mem_append.mp member with before | new
    · exact held.lost number before
    · simp at new

private theorem Held.pump {queue : List Entry} (held : Held w queue) (idle : w.controlPending = none) :
    Inv (w.pump queue) := by
  induction queue generalizing w with
  | nil => exact ⟨{ held with },fun _ => rfl⟩
  | cons e rest ih =>
    rw [World.pump]
    split_ifs with sent
    · exact ⟨held.post idle (Bool.and_eq_true_iff.mp sent).1,fun none => by cases none⟩
    · exact ih (held.refuse idle) idle

private theorem Held.pumpControlQueue (held : Held w w.controlQueue) : Inv w.pumpControlQueue := by
  rw [World.pumpControlQueue]
  split_ifs with pending
  · exact ⟨held,fun none => by rw [none] at pending; cases pending⟩
  · exact held.pump (Option.not_isSome_iff_eq_none.mp pending)

private theorem Inv.sendBackgroundRequest (inv : Inv w) (request : Request) :
    Inv (w.sendBackgroundRequest request) := by
  refine Held.pumpControlQueue { inv.held with numbers := ?_ }
  have numbers := inv.held.numbers
  rw [List.range_succ,← numbers]
  simp

private theorem Inv.sendHandshakeRequest (inv : Inv w) : Inv w.sendHandshakeRequest := by
  have held := inv.held
  rw [World.sendHandshakeRequest]
  split_ifs with up
  · refine ⟨{ held with travels := ?_, down := ?_, known := ?_, asked := ?_ },inv.pumped⟩
    · intro _
      have travels := held.travels up
      simp only [transit,List.map_append,List.map_cons,List.map_nil,List.append_assoc,List.singleton_append]
      refine List.perm_middle.trans ?_
      rw [← List.append_assoc]
      refine List.Perm.trans ?_ (List.perm_append_singleton _ _).symm
      exact List.Perm.cons _ (by simpa [transit] using travels)
    · intro gone
      exact absurd up (by rw [gone]; decide)
    · obtain ⟨nodup,bound⟩ := held.known
      refine ⟨List.nodup_append.mpr ⟨nodup,List.nodup_singleton _,?_⟩,?_⟩
      · rintro n member m new rfl
        have le := bound n member
        rw [List.mem_singleton] at new
        omega
      · intro n member
        rcases List.mem_append.mp member with before | new
        · exact Nat.le_succ_of_le (bound n before)
        · exact (List.mem_singleton.mp new).le
    · intro asked member n handshake
      simp only [List.mem_append,List.mem_singleton] at member
      rcases member with (before | rfl) | before
      · exact held.asked asked (List.mem_append_left _ before) n handshake
      · cases handshake; rfl
      · exact held.asked asked (List.mem_append_right _ before) n handshake
  · refine ⟨{ held with known := ⟨held.known.1,?_⟩, ownHandshake := ?_ },inv.pumped⟩
    · exact fun n member => Nat.le_succ_of_le (held.known.2 n member)
    intro n answer member
    rcases List.mem_append.mp member with before | new
    · exact held.ownHandshake n answer before
    · simp at new

/-- The background takes a message that it has a handler for. -/
private theorem Inv.receive (inv : Inv w) {asked : Asked} {rest : List Asked} (head : w.toBackground = asked :: rest)
    (handled : has handlerNames asked.action.name = true) : Inv ({ w with toBackground := rest }.receive asked) := by
  have held := inv.held
  rw [World.receive,if_pos handled]
  refine ⟨{ held with travels := ?_, down := ?_, asked := ?_ },inv.pumped⟩
  · intro up
    refine List.Perm.trans ?_ (held.travels up)
    simp only [transit,head,List.map_append,List.map_cons,List.map_nil,List.append_assoc,List.cons_append,
      List.nil_append]
    rw [← List.append_assoc,← List.append_assoc]
    exact List.perm_middle
  · intro gone
    rw [(held.down gone).2.2.1] at head
    cases head
  · intro other member n handshake
    refine held.asked other ?_ n handshake
    simp only [head,List.mem_append,List.mem_cons,List.not_mem_nil,or_false] at member ⊢
    tauto

private theorem Inv.sendPortResponse (inv : Inv w) {k : Nat} {asked : Asked} (running : w.running[k]? = some asked)
    (body : ρ) : Inv ({ w with running := w.running.eraseIdx k }.sendPortResponse asked body) := by
  have held := inv.held
  obtain ⟨bound,here⟩ := List.getElem?_eq_some_iff.mp running
  have fewer {other : Asked} (member : other ∈ w.running.eraseIdx k) : other ∈ w.running :=
    List.mem_of_mem_eraseIdx member
  rw [World.sendPortResponse]
  split_ifs with up
  · refine ⟨{ held with travels := ?_, down := ?_, asked := ?_, answers := ?_ },inv.pumped⟩
    · intro _
      refine List.Perm.trans ?_ (held.travels up)
      have took : (asked :: w.running.eraseIdx k).Perm w.running := by
        rw [← here]
        exact List.getElem_cons_eraseIdx_perm bound
      have moved := took.map Asked.purpose
      simp only [transit,List.map_append,List.map_cons,List.map_nil,List.append_assoc] at moved ⊢
      refine List.Perm.append_left _ ?_
      rw [← List.append_assoc]
      exact (List.perm_append_singleton _ _).trans (moved.append_right _)
    · intro gone
      exact absurd up (by rw [gone]; decide)
    · intro other member n handshake
      refine held.asked other ?_ n handshake
      exact (List.mem_append.mp member).elim (List.mem_append_left _) fun later => List.mem_append_right _ (fewer later)
    · intro answer member n handshake
      rcases List.mem_append.mp member with before | new
      · exact held.answers answer before n handshake
      · rw [List.mem_singleton] at new
        subst new
        exact held.asked asked (List.mem_append_right _ (List.mem_of_getElem? running)) n handshake
  · refine ⟨{ held with travels := fun here => absurd here up, asked := ?_ },inv.pumped⟩
    intro other member n handshake
    refine held.asked other ?_ n handshake
    exact (List.mem_append.mp member).elim (List.mem_append_left _) fun later => List.mem_append_right _ (fewer later)

/-- The bridge takes an answer: a handshake by its `reqId`, or the pending request. -/
private theorem Inv.onMessage (inv : Inv w) {answer : Answer ρ} {rest : List (Answer ρ)}
    (head : w.toBridge = answer :: rest)
    (fine : ∀ number, answer.purpose = .request number → w.handshakeFor answer.reqId = none) :
    Inv ({ w with toBridge := rest }.onMessage answer) := by
  have held := inv.held
  have up : w.connected = true := by
    by_contra gone
    rw [(held.down (Bool.eq_false_of_not_eq_true gone)).2.2.2] at head
    cases head
  have first : (answer.purpose :: transit { w with toBridge := rest }).Perm (transit w) := by
    simp only [transit,head,List.map_cons]
    exact List.perm_middle.symm
  have whole := first.trans (held.travels up)
  have fewer {other : Answer ρ} (member : other ∈ rest) : other ∈ w.toBridge := by
    rw [head]; exact List.mem_cons_of_mem _ member
  have expected : answer.purpose ∈
      w.controlPending.toList.map (fun e => Purpose.request e.number) ++ w.handshakePending.map .handshake :=
    whole.subset List.mem_cons_self
  rw [World.onMessage]
  cases purpose : answer.purpose with
  | handshake n =>
    have reqId := held.answers answer (by rw [head]; exact List.mem_cons_self) n purpose
    have member : n ∈ w.handshakePending := by
      rw [purpose] at expected
      simpa using expected
    have found : World.handshakeFor { w with toBridge := rest } answer.reqId = some n := by
      rw [reqId]
      exact if_pos member
    rw [found]
    refine ⟨{ held with travels := ?_, down := ?_, known := ?_, answers := ?_, ownHandshake := ?_ },inv.pumped⟩
    · intro _
      rw [purpose] at whole
      have split := ((List.perm_cons_erase member).map Purpose.handshake).append_left
        (w.controlPending.toList.map fun e => Purpose.request e.number)
      exact ((whole.trans split).trans List.perm_middle).cons_inv
    · intro gone
      exact absurd up (by rw [gone]; decide)
    · exact ⟨held.known.1.erase n,fun m later => held.known.2 m (List.mem_of_mem_erase later)⟩
    · exact fun other later => held.answers other (fewer later)
    · intro m other later
      rcases List.mem_append.mp later with before | new
      · exact held.ownHandshake m other before
      · simp only [List.mem_singleton,Prod.mk.injEq,Outcome.answered.injEq] at new
        obtain ⟨rfl,rfl⟩ := new
        exact purpose
  | request number =>
    have none : World.handshakeFor { w with toBridge := rest } answer.reqId = none := fine number purpose
    rw [none]
    rw [purpose] at expected
    cases pending : w.controlPending with
    | none => simp [pending] at expected
    | some e =>
      have same : e.number = number := by simpa [pending,eq_comm] using expected
      refine Held.pumpControlQueue
        { held with numbers := ?_, travels := ?_, down := ?_, answers := ?_, own := ?_, lost := ?_ }
      · have numbers := held.numbers
        rw [pending] at numbers
        simpa using numbers
      · intro _
        rw [purpose,pending,← same] at whole
        exact whole.cons_inv
      · intro gone
        exact absurd up (by rw [gone]; decide)
      · exact fun other later => held.answers other (fewer later)
      · intro m other later
        rcases List.mem_append.mp later with before | new
        · exact held.own m other before
        · simp only [List.mem_singleton,Prod.mk.injEq,Outcome.answered.injEq] at new
          obtain ⟨rfl,rfl⟩ := new
          rw [same]; exact purpose
      · intro m later
        rcases List.mem_append.mp later with before | new
        · exact held.lost m before
        · simp at new

private theorem Inv.onDisconnect (inv : Inv w) : Inv w.onDisconnect := by
  have held := inv.held
  refine ⟨⟨?_,?_,?_,?_,?_,?_,?_,?_,?_⟩,fun _ => rfl⟩
  · refine Eq.trans ?_ held.numbers
    simp [World.onDisconnect,Function.comp_def]
  · exact fun up => by cases up
  · exact fun _ => ⟨rfl,rfl,rfl,rfl⟩
  · exact ⟨List.nodup_nil,fun n member => by cases member⟩
  · exact fun asked member => held.asked asked (List.mem_append_right _ member)
  · exact fun answer member => by cases member
  · intro number answer member
    rcases List.mem_append.mp member with before | new
    · exact held.own number answer before
    · simp at new
  · exact fun _ _ => rfl
  · intro n answer member
    rcases List.mem_append.mp member with before | new
    · exact held.ownHandshake n answer before
    · simp at new

private theorem step_inv (inv : Inv w) {a : Action ρ} (taken : step w a = some w') (fine : answerable w a = true) :
    Inv w' := by
  cases a with
  | page post =>
    obtain ⟨request,_,rfl⟩ := Option.map_eq_some_iff.mp taken
    exact inv.sendBackgroundRequest request
  | bridge action =>
    simp only [step] at taken
    split_ifs at taken
    cases taken
    exact inv.sendBackgroundRequest _
  | handshake => cases taken; exact inv.sendHandshakeRequest
  | receive =>
    simp only [step] at taken
    cases head : w.toBackground with
    | nil => rw [head] at taken; cases taken
    | cons asked rest =>
      rw [head] at taken
      rw [answerable,head] at fine
      cases taken
      exact inv.receive head fine
  | respond k body =>
    obtain ⟨asked,running,rfl⟩ := Option.map_eq_some_iff.mp taken
    exact inv.sendPortResponse running body
  | deliver =>
    simp only [step] at taken
    cases head : w.toBridge with
    | nil => rw [head] at taken; cases taken
    | cons answer rest =>
      rw [head] at taken
      rw [answerable,head] at fine
      cases taken
      refine inv.onMessage head fun number purpose => ?_
      simpa [purpose] using fine
  | disconnect =>
    simp only [step] at taken
    split_ifs at taken
    cases taken
    exact inv.onDisconnect

private theorem Inv.init : Inv (init : World ρ) :=
  ⟨⟨rfl,fun _ => List.Perm.nil,nofun,⟨List.nodup_nil,nofun⟩,nofun,nofun,nofun,nofun,nofun⟩,fun _ => rfl⟩

private theorem Inv.matched (inv : Inv w) : Matched w := by
  have held := inv.held
  refine ⟨?_,held.own,held.lost,held.ownHandshake,?_,inv.pumped,?_⟩
  · rw [← held.numbers]
    exact List.prefix_append _ _
  · intro e pending
    have up : w.connected = true := by
      by_contra gone
      rw [(held.down (Bool.eq_false_of_not_eq_true gone)).1] at pending
      cases pending
    refine (held.travels up).symm.subset (List.mem_append_left _ ?_)
    simp [pending]
  · intro nothing
    have idle : w.controlPending = none := by
      by_contra pending
      obtain ⟨e,pending⟩ := Option.ne_none_iff_exists'.mp pending
      have up : w.connected = true := by
        by_contra gone
        rw [(held.down (Bool.eq_false_of_not_eq_true gone)).1] at pending
        cases pending
      have travels := held.travels up
      rw [nothing,pending] at travels
      cases travels.nil_eq
    rw [← held.numbers,idle,inv.pumped idle]
    simp

end

/-- In every run in which the background has a handler for each message and no answer to
    a request carries the `reqId` of a pending handshake, requests and handshakes are
    settled by their own answers, in order, and the port does not block. -/
theorem requests_matched {w : World ρ} {trace : List (Action ρ)} (run : exec step init trace = some w)
    (keeps : AllSteps step (fun s a _ => answerable s a = true) init trace) : Matched w :=
  (exec_invariant_under (I := Inv) (fun _ _ _ inv taken fine => step_inv inv taken fine) Inv.init run keeps).matched

/-- The handshake is answered, and then a request with its `reqId`. -/
def answeredInTurn : List (Action Nat) :=
  [.handshake,.page ⟨"getPairedDevices",some (.handshake 1),true⟩,.receive,.receive,.respond 0 200,.deliver,
    .respond 0 201,.deliver]

theorem requests_matched_in_turn : ∃ w, exec step init answeredInTurn = some w ∧
    w.settled = [(0,.answered ⟨.request 0,some (.handshake 1),201⟩)] ∧ Matched w := by
  obtain ⟨w,run⟩ := Option.isSome_iff_exists.mp (by decide : (exec step init answeredInTurn).isSome = true)
  have facts : (exec step init answeredInTurn).map World.settled =
      some [(0,.answered ⟨.request 0,some (.handshake 1),201⟩)] := by decide
  rw [run] at facts
  exact ⟨w,run,Option.some.inj facts,requests_matched run (allSteps_of_checkAll (by decide))⟩

/-- An action that the background does not know, and another request behind it. -/
def unknownAction : List (Action Nat) :=
  [.page ⟨"unknown",none,true⟩,.receive,.page ⟨"getPairedDevices",none,true⟩]

/-- The `reqId` of the handshake on a request that is answered first. -/
def borrowedReqId : List (Action Nat) :=
  [.handshake,.page ⟨"getPairedDevices",some (.handshake 1),true⟩,.receive,.receive,.respond 1 200,.deliver,
    .respond 0 201,.deliver]

/-- The request with the unknown action is never answered, and the next one waits behind
    it. With the borrowed `reqId` the handshake is settled by the answer to the request,
    and the request by the answer to the handshake. -/
theorem page_breaks_matching :
    (∃ w, exec step init unknownAction = some w ∧ transit w = [] ∧ w.controlQueue.map Entry.number = [1] ∧
      ¬ Matched w) ∧
    ∃ w, exec step init borrowedReqId = some w ∧
      w.handshakes = [(1,.answered ⟨.request 0,some (.handshake 1),200⟩)] ∧
      w.settled = [(0,.answered ⟨.handshake 1,some (.handshake 1),201⟩)] ∧ ¬ Matched w := by
  constructor
  · refine ⟨_,rfl,by decide,by decide,fun matched => ?_⟩
    have onItsWay := matched.waiting ⟨0,"unknown",none,true⟩ (by decide)
    revert onItsWay
    decide
  · refine ⟨_,rfl,by decide,by decide,fun matched => ?_⟩
    have own := matched.own 0 ⟨.handshake 1,some (.handshake 1),201⟩ (by decide)
    cases own

end FFWebHid.ControlPort
