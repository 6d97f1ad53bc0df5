import Mathlib.Data.List.Nodup
import FFWebHid.Maps
import FFWebHid.Runs
import FFWebHid.Types
import FFWebHid.LittleEndian
import FFWebHid.NativeMessages
import FFWebHid.StateOps
import FFWebHid.Background
import FFWebHid.Bookkeeping
import FFWebHid.LiveSessions
import FFWebHid.AuthorityLifetimes
import FFWebHid.TabCounts
import FFWebHid.BridgeSessions
import FFWebHid.SessionAgreement
import FFWebHid.AgreementRuns

/-!
How the input reports of a device come to the clients of one bridge. The background sends
each report of a packed frame to the tabs that have the device open: over the data ports of
the device, or as a message to a tab that has none. The bridge of the tab forwards it to the
clients that hold a session and whose plane is native messaging.

A tab has one bridge, for only the top document runs it. The planes of the clients change as
they like, and so do the data ports, of which a bridge keeps one for each device.
-/
namespace FFWebHid.InputFanout
open FFWebHid.Maps FFWebHid.Runs FFWebHid.LittleEndian FFWebHid.StateOps
open FFWebHid.Types (Bytes)
open FFWebHid.NativeMessages (pkgInputReport packedInputReport NmMessage)
open FFWebHid.Background (Browser Client frameWindow)
open FFWebHid.Bookkeeping (Sound ownerOf)
open FFWebHid.TabCounts FFWebHid.SessionAgreement FFWebHid.AgreementRuns
open FFWebHid.AuthorityLifetimes (clearDeviceOwnership_owner clearDeviceOwnership_opens)

abbrev Report := UInt8 × Bytes

/-- A runtime port with the name `webhid-data:` and the device. -/
structure Port where
  bridge : String
  device : DeviceId
  number : Nat
  deriving DecidableEq, Repr

/-- `ports` are those that the background knows. Of the bridge's own, `connecting` are still
    on their way to it, and of the end of those in `closing` it does not know yet. -/
structure World where
  bridge : BridgeSessions.World := {}
  nmPlanes : List (Client × DeviceId) := []
  workers : List (Client × DeviceId) := []
  inPageDevices : List (Client × DeviceId) := []
  runtimeDataPorts : HashMap DeviceId Port := ∅
  ports : List Port := []
  connecting : List Port := []
  closing : List Port := []
  nextPort : Nat := 0

/-- The tabs that have the device open. -/
def tabsForEvent (s : BgState) (d : DeviceId) : Option (List TabId) :=
  let tabs := (s.deviceTabMap.keys.filter fun key => key.1 == d).map Prod.snd
  if d = 0 ∨ tabs = [] then none else some tabs

/-- The loop of `onPackedData` on what is left of the frame; each turn takes more than one
    byte. -/
def reportsLoop : Nat → Bytes → List Report
  | fuel + 1, reportId :: low :: high :: rest =>
    let payloadLen := low.toNat + 256 * high.toNat
    if rest.length < payloadLen then []
    else (reportId,rest.take payloadLen) :: reportsLoop fuel (rest.drop payloadLen)
  | _, _ => []

/-- Where a message goes. -/
inductive Route where
  | port (p : Port)
  | tab (tab : TabId)
  deriving DecidableEq, Repr

structure Message where
  route : Route
  deviceId : DeviceId
  report : Report
  deriving DecidableEq, Repr

namespace World
variable (b : Browser) (bridge : String) (w : World)

/-- The ports that get the message; their tabs are reached. -/
def postToContentPorts (targets : List TabId) (d : DeviceId) : List Port :=
  w.ports.filter fun p => p.device == d && targets.contains (b.tabOf p.bridge)

def routes (targets : List TabId) (d : DeviceId) : List Route :=
  let posted := w.postToContentPorts b targets d
  let reached := posted.map fun p => b.tabOf p.bridge
  posted.map .port ++ (targets.filter fun tab => !reached.contains tab).map .tab

def onPackedData (bin : Bytes) : List Message :=
  if bin.length < 8 ∨ bin.head? ≠ some pkgInputReport then []
  else
    let deviceId := fieldAt bin 1 4
    match tabsForEvent w.bridge.background.state deviceId with
    | none => []
    | some targets => (reportsLoop bin.length (bin.drop 5)).flatMap fun report =>
      (w.routes b targets deviceId).map fun route => ⟨route,deviceId,report⟩

/-- The message comes to the bridge. -/
def arrives : Route → Bool
  | .port p => p.bridge == bridge && !w.closing.contains p
  | .tab tab => tab == b.tabOf bridge

/-- The client holds a session for the device, and its plane is native messaging. -/
def receives (d : DeviceId) (c : Client) : Bool :=
  w.bridge.has d c && w.nmPlanes.contains (c,d) && !w.workers.contains (c,d) && !w.inPageDevices.contains (c,d)

end World

/-- A report as a client gets it, with the identity of its buffer. -/
structure Posted where
  client : Client
  deviceId : DeviceId
  report : Report
  buffer : Nat
  deriving DecidableEq, Repr

namespace World
variable (b : Browser) (bridge : String) (w : World)

/-- Each client gets a copy in a new buffer; `fresh` is the next. -/
def forwardInputReportToPage (fresh : Nat) (message : Message) : List Posted :=
  ((w.bridge.clients.filter (w.receives message.deviceId)).zipIdx fresh).map fun (c,buffer) =>
    ⟨c,message.deviceId,message.report,buffer⟩

def forwardAll : Nat → List Message → List Posted
  | _, [] => []
  | fresh, message :: rest =>
    let posted := w.forwardInputReportToPage fresh message
    posted ++ forwardAll (fresh + posted.length) rest

/-- What the clients of the bridge get of a frame. -/
def fanOut (bin : Bytes) : List Posted :=
  w.forwardAll 0 ((w.onPackedData b bin).filter fun message => w.arrives b bridge message.route)

end World

inductive Action where
  | act (a : BridgeSessions.Action)
  | planes (nmPlanes workers inPageDevices : List (Client × DeviceId))
  | connectPort (d : DeviceId)
  | disconnectPort (d : DeviceId)
  | portConnected (k : Nat)
  | portDisconnected (k : Nat)
  | otherConnected (p : Port)
  | otherDisconnected (p : Port)
  deriving DecidableEq, Repr

/-- `none` when the action cannot happen in the state. -/
def step (b : Browser) (bridge : String) (w : World) : Action → Option World
  | .act a => (BridgeSessions.step b bridge w.bridge a).map fun after => { w with bridge := after }
  | .planes nmPlanes workers inPageDevices => some { w with nmPlanes, workers, inPageDevices }
  | .connectPort d =>
    match w.runtimeDataPorts.lookup d with
    | some _ => none
    | none => some { w with
        runtimeDataPorts := w.runtimeDataPorts.insert d ⟨bridge,d,w.nextPort⟩
        connecting := w.connecting ++ [⟨bridge,d,w.nextPort⟩]
        nextPort := w.nextPort + 1 }
  | .disconnectPort d =>
    (w.runtimeDataPorts.lookup d).map fun p =>
      { w with runtimeDataPorts := w.runtimeDataPorts.erase d, closing := w.closing ++ [p] }
  | .portConnected k =>
    (w.connecting[k]?).map fun p => { w with connecting := w.connecting.eraseIdx k, ports := w.ports ++ [p] }
  | .portDisconnected k =>
    match w.closing[k]? with
    | some p =>
      if p ∈ w.connecting then none
      else some { w with closing := w.closing.eraseIdx k, ports := w.ports.filter fun other => other != p }
    | none => none
  | .otherConnected p => if p.bridge = bridge then none else some { w with ports := w.ports ++ [p] }
  | .otherDisconnected p =>
    if p.bridge = bridge then none else some { w with ports := w.ports.filter fun other => other != p }

def init : World := {}

/-- Nothing is under way, and the ports of earlier bridges of the tab are gone. -/
def settled (b : Browser) (bridge : String) (w : World) : Bool :=
  BridgeSessions.settled w.bridge && w.connecting.isEmpty && w.closing.isEmpty &&
    w.ports.all fun p => b.tabOf p.bridge != b.tabOf bridge || p.bridge == bridge

/-- Of every frame of a device each client of the bridge that holds a session on the native
    messaging plane gets the reports, each once, in order and in its own buffer, and no
    other client gets any. -/
def FansOut (b : Browser) (bridge : String) (w : World) : Prop :=
  ∀ d reports bin, (∀ report ∈ reports, report.2.length < 256 ^ 2) → packedInputReport d reports = .packedData bin →
    ((w.fanOut b bridge bin).map Posted.buffer).Nodup ∧ ∀ c,
      ((w.fanOut b bridge bin).filter fun posted => posted.client == c).map (fun posted => (posted.deviceId,posted.report)) =
        if c ∈ w.bridge.clients ∧ w.receives d.toNat c then reports.map fun report => (d.toNat,report) else []

/-! ### Frames -/

section
variable {b : Browser} {bridge : String} {w w' : World} {c : Client} {d : DeviceId}

def encodeReport (report : Report) : Bytes := [report.1] ++ toLe 2 report.2.length ++ report.2

theorem reportsLoop_written {reports : List Report} (fits : ∀ report ∈ reports, report.2.length < 256 ^ 2) {fuel : Nat}
    (enough : reports.length ≤ fuel) : reportsLoop fuel (reports.flatMap encodeReport) = reports := by
  induction reports generalizing fuel with
  | nil => cases fuel <;> rfl
  | cons report rest ih =>
    obtain ⟨reportId,data⟩ := report
    obtain ⟨fuel,rfl⟩ : ∃ n, fuel = n + 1 := ⟨fuel - 1,by simp only [List.length_cons] at enough; omega⟩
    have short : data.length < 256 ^ 2 := fits _ List.mem_cons_self
    have len : (UInt8.ofNat data.length).toNat + 256 * (UInt8.ofNat (data.length / 256)).toNat = data.length := by
      simp; omega
    have later := ih (fun report member => fits report (List.mem_cons_of_mem _ member)) (Nat.le_of_succ_le_succ enough)
    show reportsLoop (fuel + 1) (reportId :: UInt8.ofNat data.length :: UInt8.ofNat (data.length / 256) ::
      (data ++ rest.flatMap encodeReport)) = (reportId,data) :: rest
    rw [reportsLoop,len,if_neg (by simp),List.take_left,List.drop_left,later]

theorem length_reports (reports : List Report) : 3 * reports.length ≤ (reports.flatMap encodeReport).length := by
  induction reports with
  | nil => exact Nat.le_refl 0
  | cons report rest ih =>
    simp only [List.flatMap_cons,List.length_append,List.length_cons,encodeReport,length_toLe,List.length_nil]
    omega

/-- What the background reads of a frame. -/
theorem onPackedData_written {id : FFWebHid.Types.DeviceId} {reports : List Report} {bin : Bytes}
    (fits : ∀ report ∈ reports, report.2.length < 256 ^ 2) (frame : packedInputReport id reports = .packedData bin) :
    w.onPackedData b bin = match tabsForEvent w.bridge.background.state id.toNat with
      | none => []
      | some targets => reports.flatMap fun report =>
        (w.routes b targets id.toNat).map fun route => ⟨route,id.toNat,report⟩ := by
  have bytes : bin = [pkgInputReport] ++ (toLe 4 id.toNat ++ reports.flatMap encodeReport) := by
    injection frame with same
    rw [← same,List.append_assoc]
    rfl
  have field : fieldAt bin 1 4 = id.toNat := by
    have read := fieldAt_append [pkgInputReport] (toLe 4 id.toNat) (reports.flatMap encodeReport)
    rw [length_toLe,ofLe_toLe_of_lt id.toNat_lt] at read
    exact bytes ▸ read
  have body : bin.drop 5 = reports.flatMap encodeReport := by
    have split : bin = ([pkgInputReport] ++ toLe 4 id.toNat) ++ reports.flatMap encodeReport := by
      rw [bytes,List.append_assoc]
    rw [split]
    exact List.drop_left' (by simp)
  have long : bin.length = 5 + (reports.flatMap encodeReport).length := by simp [bytes]; omega
  have enough := length_reports reports
  cases empty : reports with
  | nil =>
    rw [empty] at long
    rw [World.onPackedData,if_pos (.inl (by simp [long]))]
    cases tabsForEvent w.bridge.background.state id.toNat <;> rfl
  | cons report rest =>
    rw [← empty]
    have whole : ¬ (bin.length < 8 ∨ bin.head? ≠ some pkgInputReport) := by
      have some : 1 ≤ reports.length := by rw [empty]; exact Nat.succ_le_succ (Nat.zero_le _)
      rintro (short | other)
      · omega
      · exact other (by rw [bytes]; rfl)
    rw [World.onPackedData,if_neg whole]
    dsimp only
    rw [field,body,reportsLoop_written fits (by omega)]

theorem buffers_forward (fresh : Nat) (message : Message) :
    (w.forwardInputReportToPage fresh message).map Posted.buffer =
      List.range' fresh (w.forwardInputReportToPage fresh message).length := by
  simp only [World.forwardInputReportToPage,List.map_map,List.length_map,List.length_zipIdx]
  exact List.zipIdx_map_snd _ _

theorem buffers_forwardAll (fresh : Nat) (messages : List Message) :
    (w.forwardAll fresh messages).map Posted.buffer = List.range' fresh (w.forwardAll fresh messages).length := by
  induction messages generalizing fresh with
  | nil => rfl
  | cons message rest ih =>
    simp only [World.forwardAll,List.map_append,List.length_append,ih,buffers_forward]
    rw [List.range'_append_1]

/-- What one client gets of what is posted. -/
def content (c : Client) (posted : List Posted) : List (DeviceId × Report) :=
  (posted.filter fun posted => posted.client == c).map fun posted => (posted.deviceId,posted.report)

theorem content_append (first second : List Posted) : content c (first ++ second) = content c first ++ content c second := by
  simp [content]

theorem content_cons (first : Posted) (rest : List Posted) : content c (first :: rest) =
    if first.client = c then (first.deviceId,first.report) :: content c rest else content c rest := by
  simp only [content,List.filter_cons,beq_iff_eq]
  split_ifs <;> rfl

/-- A client that is listed once gets one copy. -/
theorem content_clients {clients : List Client} (single : clients.Nodup) (fresh : Nat) (message : Message) :
    content c ((clients.zipIdx fresh).map fun (c,buffer) => ⟨c,message.deviceId,message.report,buffer⟩) =
      if c ∈ clients then [(message.deviceId,message.report)] else [] := by
  induction clients generalizing fresh with
  | nil => rfl
  | cons first rest ih =>
    have later := ih single.of_cons (fresh + 1)
    have absent : first ∉ rest := (List.nodup_cons.mp single).1
    rw [List.zipIdx_cons,List.map_cons,content_cons,later]
    by_cases same : first = c
    · subst same
      rw [if_pos rfl,if_neg absent,if_pos List.mem_cons_self]
    · rw [if_neg same]
      simp only [List.mem_cons,Ne.symm same,false_or]

theorem content_forwardAll (single : w.bridge.clients.Nodup) {messages : List Message}
    (device : ∀ message ∈ messages, message.deviceId = d) (fresh : Nat) :
    content c (w.forwardAll fresh messages) = if c ∈ w.bridge.clients ∧ w.receives d c then
      messages.map fun message => (d,message.report) else [] := by
  induction messages generalizing fresh with
  | nil => simp [World.forwardAll,content]
  | cons message rest ih =>
    have here : message.deviceId = d := device message List.mem_cons_self
    rw [World.forwardAll,content_append,ih fun later member => device later (List.mem_cons_of_mem _ member),
      World.forwardInputReportToPage,content_clients (single.filter _),here]
    simp only [List.mem_filter]
    split_ifs <;> rfl

/-- The bridge's ports that the background knows are those of its devices, or closing. -/
structure Wired (bridge : String) (w : World) : Prop where
  clients : w.bridge.clients.Nodup
  known : ∀ p ∈ w.ports, p.bridge = bridge → w.runtimeDataPorts.lookup p.device = some p ∨ p ∈ w.closing
  coming : ∀ p ∈ w.connecting, p.bridge = bridge ∧ (w.runtimeDataPorts.lookup p.device = some p ∨ p ∈ w.closing)
  single : (w.connecting ++ w.ports.filter fun p => p.bridge == bridge).Nodup
  fresh : ∀ p ∈ w.connecting ++ w.ports, p.bridge = bridge → p.number < w.nextPort
  own : ∀ d p, w.runtimeDataPorts.lookup d = some p → p.bridge = bridge ∧ p.device = d

theorem delivered_clients (v : BridgeSessions.World) (job : BridgeSessions.Job) (reply : BridgeSessions.Reply) :
    (v.delivered job reply).clients = v.clients ∧ (v.delivered job reply).background = v.background := by
  unfold BridgeSessions.World.delivered
  split
  · unfold BridgeSessions.World.handleOpenSuccess
    split_ifs <;> exact ⟨rfl,rfl⟩
  · exact ⟨rfl,rfl⟩
  · split_ifs <;> exact ⟨rfl,rfl⟩
  · exact ⟨rfl,rfl⟩

theorem resumed_clients (v : BridgeSessions.World) (task : BridgeSessions.Task) (accepted : Bool) :
    (v.resumed task accepted).clients = v.clients ∧ (v.resumed task accepted).background = v.background := by
  unfold BridgeSessions.World.resumed
  split <;> exact ⟨rfl,rfl⟩

theorem handle_clients {v v' : BridgeSessions.World} {job : BridgeSessions.Job} (taken : v.handle b job = some v') :
    v'.clients = v.clients := by
  cases job <;> simp only [BridgeSessions.World.handle,Option.map_eq_some_iff] at taken <;>
    obtain ⟨_,_,rfl⟩ := taken <;> rfl

theorem step_clients {v v' : BridgeSessions.World} {a : BridgeSessions.Action}
    (taken : BridgeSessions.step b bridge v a = some v') (single : v.clients.Nodup) : v'.clients.Nodup := by
  cases a with
  | join c =>
    simp only [BridgeSessions.step] at taken
    split_ifs at taken with fits
    cases taken
    exact List.nodup_append.mpr ⟨single,List.nodup_singleton c,fun x here y there same => by
      cases List.mem_singleton.mp there
      exact fits.2.1 (same ▸ here)⟩
  | leave frame =>
    simp only [BridgeSessions.step] at taken
    split_ifs at taken
    cases taken
    exact single.filter _
  | openRequest c d =>
    simp only [BridgeSessions.step] at taken
    split_ifs at taken
    cases taken
    exact single
  | closeRequest c d =>
    simp only [BridgeSessions.step] at taken
    split_ifs at taken
    cases taken
    exact single
  | send =>
    simp only [BridgeSessions.step] at taken
    split at taken <;> cases taken
    exact single
  | handle =>
    simp only [BridgeSessions.step] at taken
    split at taken
    · exact handle_clients taken ▸ single
    · cases taken
  | deliver =>
    simp only [BridgeSessions.step] at taken
    split at taken <;> cases taken
    rw [(delivered_clients _ _ _).1]
    exact single
  | resume k accepted =>
    obtain ⟨task,_,rfl⟩ := Option.map_eq_some_iff.mp taken
    rw [(resumed_clients _ task accepted).1]
    exact single
  | event k =>
    obtain ⟨e,_,rfl⟩ := Option.map_eq_some_iff.mp taken
    exact single
  | background a =>
    simp only [BridgeSessions.step] at taken
    split_ifs at taken
    obtain ⟨_,_,rfl⟩ := Option.map_eq_some_iff.mp taken
    exact single
  | deviceLost d => cases taken; exact single
  | daemonLost => cases taken; exact single

theorem Wired.connectPort (ok : Wired bridge w) (free : w.runtimeDataPorts.lookup d = none) : Wired bridge { w with
    runtimeDataPorts := w.runtimeDataPorts.insert d ⟨bridge,d,w.nextPort⟩
    connecting := w.connecting ++ [⟨bridge,d,w.nextPort⟩]
    nextPort := w.nextPort + 1 } := by
  have kept {p : Port} (held : w.runtimeDataPorts.lookup p.device = some p) :
      (w.runtimeDataPorts.insert d ⟨bridge,d,w.nextPort⟩).lookup p.device = some p := by
    rw [lookup_insert_eq,if_neg fun same => ?_,held]
    rw [same,free] at held
    cases held
  constructor
  · exact ok.clients
  · exact fun p member own => (ok.known p member own).imp_left kept
  · intro p member
    rcases List.mem_append.mp member with before | new
    · exact (ok.coming p before).imp_right fun held => held.imp_left kept
    · cases List.mem_singleton.mp new
      exact ⟨rfl,.inl ((lookup_insert_eq _ _ _ _).trans (if_pos rfl))⟩
  · have fresh : (⟨bridge,d,w.nextPort⟩ : Port) ∉ w.connecting ++ w.ports.filter fun p => p.bridge == bridge := by
      intro member
      have listed : (⟨bridge,d,w.nextPort⟩ : Port) ∈ w.connecting ++ w.ports :=
        (List.mem_append.mp member).elim (fun here => List.mem_append_left _ here)
          fun here => List.mem_append_right _ (List.mem_filter.mp here).1
      exact absurd (ok.fresh _ listed rfl) (Nat.lt_irrefl _)
    show (w.connecting ++ [(⟨bridge,d,w.nextPort⟩ : Port)] ++ _).Nodup
    rw [List.append_assoc]
    exact List.nodup_middle.mpr (List.nodup_cons.mpr ⟨fresh,ok.single⟩)
  · intro p member own
    rcases List.mem_append.mp member with coming | known
    · rcases List.mem_append.mp coming with before | new
      · exact Nat.lt_succ_of_lt (ok.fresh p (List.mem_append_left _ before) own)
      · cases List.mem_singleton.mp new
        exact Nat.lt_succ_self _
    · exact Nat.lt_succ_of_lt (ok.fresh p (List.mem_append_right _ known) own)
  · intro d' p found
    rw [lookup_insert_eq] at found
    split_ifs at found with same
    · cases found
      exact ⟨rfl,same.symm⟩
    · exact ok.own d' p found

theorem Wired.disconnectPort (ok : Wired bridge w) {p : Port} (held : w.runtimeDataPorts.lookup d = some p) :
    Wired bridge { w with runtimeDataPorts := w.runtimeDataPorts.erase d, closing := w.closing ++ [p] } := by
  have kept {p' : Port} (known : w.runtimeDataPorts.lookup p'.device = some p' ∨ p' ∈ w.closing) :
      (w.runtimeDataPorts.erase d).lookup p'.device = some p' ∨ p' ∈ w.closing ++ [p] := by
    rcases known with found | closing
    · by_cases same : p'.device = d
      · rw [same,held] at found
        cases found
        exact .inr (List.mem_append_right _ (List.mem_singleton.mpr rfl))
      · exact .inl ((lookup_erase_eq _ _ _).trans ((if_neg same).trans found))
    · exact .inr (List.mem_append_left _ closing)
  exact { ok with
    known := fun p' member own => kept (ok.known p' member own)
    coming := fun p' member => (ok.coming p' member).imp_right kept
    own := fun d' p' found => ok.own d' p' (lookup_of_erase found) }

theorem Wired.portConnected (ok : Wired bridge w) {k : Nat} {p : Port} (found : w.connecting[k]? = some p) :
    Wired bridge { w with connecting := w.connecting.eraseIdx k, ports := w.ports ++ [p] } := by
  have there : p ∈ w.connecting := List.mem_of_getElem? found
  have moved {p' : Port} (member : p' ∈ w.connecting.eraseIdx k ++ (w.ports ++ [p])) : p' ∈ w.connecting ++ w.ports := by
    rcases List.mem_append.mp member with left | known
    · exact List.mem_append_left _ (List.mem_of_mem_eraseIdx left)
    · rcases List.mem_append.mp known with before | new
      · exact List.mem_append_right _ before
      · cases List.mem_singleton.mp new
        exact List.mem_append_left _ there
  exact { ok with
    known := fun p' member own => by
      rcases List.mem_append.mp member with before | new
      · exact ok.known p' before own
      · cases List.mem_singleton.mp new
        exact (ok.coming p there).2
    coming := fun p' member => ok.coming p' (List.mem_of_mem_eraseIdx member)
    single := by
      obtain ⟨bound,same⟩ := List.getElem?_eq_some_iff.mp found
      have own : (p.bridge == bridge) = true := beq_iff_eq.mpr (ok.coming p there).1
      have last : [p].filter (fun p => p.bridge == bridge) = [p] := List.filter_cons_of_pos own
      have perm := (List.getElem_cons_eraseIdx_perm bound).append_right (w.ports.filter fun p => p.bridge == bridge)
      refine (List.Perm.nodup_iff (perm.symm.trans ?_)).mp ok.single
      rw [same,List.filter_append,last,← List.append_assoc]
      exact (List.perm_append_singleton _ _).symm
    fresh := fun p' member own => ok.fresh p' (moved member) own }

theorem Wired.portDisconnected (ok : Wired bridge w) {k : Nat} {p : Port} (found : w.closing[k]? = some p)
    (past : p ∉ w.connecting) : Wired bridge { w with
      closing := w.closing.eraseIdx k, ports := w.ports.filter fun other => other != p } := by
  have kept {p' : Port} (other : p' ≠ p) (known : w.runtimeDataPorts.lookup p'.device = some p' ∨ p' ∈ w.closing) :
      w.runtimeDataPorts.lookup p'.device = some p' ∨ p' ∈ w.closing.eraseIdx k :=
    known.imp_right fun closing => (mem_eraseIdx_or found closing).resolve_left other
  exact { ok with
    known := fun p' member own => by
      obtain ⟨before,other⟩ := List.mem_filter.mp member
      exact kept (bne_iff_ne.mp other) (ok.known p' before own)
    coming := fun p' member => (ok.coming p' member).imp_right (kept fun same => past (same ▸ member))
    single := ok.single.sublist (List.Sublist.append_left (List.filter_sublist.filter _) _)
    fresh := fun p' member own => ok.fresh p'
      ((List.mem_append.mp member).elim (List.mem_append_left _) fun here =>
        List.mem_append_right _ (List.mem_filter.mp here).1) own }

/-- The ports of the other bridges do not matter. -/
theorem Wired.others (ok : Wired bridge w) {ports : List Port}
    (same : ports.filter (fun p => p.bridge == bridge) = w.ports.filter fun p => p.bridge == bridge) :
    Wired bridge { w with ports := ports } := by
  have before {p : Port} (member : p ∈ ports) (own : p.bridge = bridge) : p ∈ w.ports := by
    have here : p ∈ ports.filter fun p => p.bridge == bridge := List.mem_filter.mpr ⟨member,beq_iff_eq.mpr own⟩
    rw [same] at here
    exact (List.mem_filter.mp here).1
  exact { ok with
    known := fun p member own => ok.known p (before member own) own
    single := same ▸ ok.single
    fresh := fun p member own => ok.fresh p
      ((List.mem_append.mp member).elim (List.mem_append_left _) fun here => List.mem_append_right _ (before here own)) own }

theorem step_wired (ok : Wired bridge w) {a : Action} (taken : step b bridge w a = some w') : Wired bridge w' := by
  cases a with
  | act a =>
    obtain ⟨v,ran,rfl⟩ := Option.map_eq_some_iff.mp taken
    exact { ok with clients := step_clients ran ok.clients }
  | planes nmPlanes workers inPageDevices => cases taken; exact { ok with }
  | connectPort d =>
    simp only [step] at taken
    split at taken
    · cases taken
    · next free => cases taken; exact ok.connectPort free
  | disconnectPort d =>
    obtain ⟨p,held,rfl⟩ := Option.map_eq_some_iff.mp taken
    exact ok.disconnectPort held
  | portConnected k =>
    obtain ⟨p,found,rfl⟩ := Option.map_eq_some_iff.mp taken
    exact ok.portConnected found
  | portDisconnected k =>
    simp only [step] at taken
    split at taken
    · next p found =>
      split_ifs at taken with past
      cases taken
      exact ok.portDisconnected found past
    · cases taken
  | otherConnected p =>
    simp only [step] at taken
    split_ifs at taken with other
    cases taken
    refine ok.others ?_
    rw [List.filter_append,List.filter_cons_of_neg (by simpa using other),List.filter_nil,List.append_nil]
  | otherDisconnected p =>
    simp only [step] at taken
    split_ifs at taken with other
    cases taken
    refine ok.others ?_
    rw [List.filter_filter]
    refine List.filter_congr fun p' _ => ?_
    by_cases own : p'.bridge = bridge
    · have apart : p' ≠ p := fun same => other (same ▸ own)
      simp [own,apart]
    · simp [own]

theorem tabsForEvent_nodup {s : BgState} {targets : List TabId} (found : tabsForEvent s d = some targets) :
    targets.Nodup := by
  simp only [tabsForEvent] at found
  split_ifs at found
  cases found
  refine List.Nodup.map_on (fun x here y there same => ?_) (s.deviceTabMap.nodupKeys.filter _)
  have first := beq_iff_eq.mp (List.mem_filter.mp here).2
  have second := beq_iff_eq.mp (List.mem_filter.mp there).2
  exact Prod.ext (first.trans second.symm) same

theorem tabsForEvent_of_opens {s : BgState} {tab : TabId} (nonzero : d ≠ 0) (opened : 0 < s.opens d tab) :
    ∃ targets, tabsForEvent s d = some targets ∧ tab ∈ targets := by
  have listed : tab ∈ (s.deviceTabMap.keys.filter fun key => key.1 == d).map Prod.snd := by
    refine List.mem_map.mpr ⟨(d,tab),List.mem_filter.mpr ⟨?_,beq_self_eq_true d⟩,rfl⟩
    rw [mem_keys_iff_lookup]
    cases found : s.deviceTabMap.lookup (d,tab) with
    | none => simp [BgState.opens,found] at opened
    | some n => exact ⟨n,rfl⟩
  refine ⟨_,if_neg ?_,listed⟩
  rintro (zero | empty)
  · exact nonzero zero
  · rw [empty] at listed
    cases listed

theorem singleton_of_nodup {α : Type} {l : List α} (single : l.Nodup) (same : ∀ x ∈ l, ∀ y ∈ l, x = y) :
    l = [] ∨ ∃ x, l = [x] := by
  cases l with
  | nil => exact .inl rfl
  | cons x rest =>
    cases rest with
    | nil => exact .inr ⟨x,rfl⟩
    | cons y rest =>
      have equal := same x List.mem_cons_self y (List.mem_cons_of_mem x List.mem_cons_self)
      exact absurd (equal ▸ List.mem_cons_self) (List.nodup_cons.mp single).1

/-- A message of the background comes to the bridge by one route, if to its tab. -/
theorem routes_arrive (ok : Wired bridge w) (rest : settled b bridge w = true) {targets : List TabId}
    (distinct : targets.Nodup) :
    if b.tabOf bridge ∈ targets then ∃ route, (w.routes b targets d).filter (w.arrives b bridge) = [route]
    else (w.routes b targets d).filter (w.arrives b bridge) = [] := by
  simp only [settled,Bool.and_eq_true,List.isEmpty_iff,List.all_eq_true,Bool.or_eq_true,bne_iff_ne,beq_iff_eq] at rest
  obtain ⟨⟨_,closing⟩,others⟩ := rest
  let posted := w.postToContentPorts b targets d
  let own := posted.filter fun p => p.bridge == bridge
  let reached := posted.map fun p => b.tabOf p.bridge
  have ofPosted {p : Port} (member : p ∈ posted) : p ∈ w.ports ∧ p.device = d ∧ b.tabOf p.bridge ∈ targets := by
    obtain ⟨known,fits⟩ := List.mem_filter.mp member
    rw [Bool.and_eq_true,beq_iff_eq,List.contains_eq_mem,decide_eq_true_eq] at fits
    exact ⟨known,fits⟩
  have ofOwn {p : Port} (member : p ∈ own) : p ∈ posted ∧ p.bridge = bridge :=
    (List.mem_filter.mp member).imp_right beq_iff_eq.mp
  have ports : (posted.map Route.port).filter (w.arrives b bridge) = own.map .port := by
    rw [List.filter_map]
    refine congrArg _ (List.filter_congr fun p _ => ?_)
    simp [World.arrives,closing]
  have tabs : ((targets.filter fun tab => !reached.contains tab).map Route.tab).filter (w.arrives b bridge) =
      if b.tabOf bridge ∈ targets ∧ b.tabOf bridge ∉ reached then [.tab (b.tabOf bridge)] else [] := by
    have chosen : (targets.filter fun tab => !reached.contains tab).filter (w.arrives b bridge ∘ Route.tab) =
        List.replicate ((targets.filter fun tab => !reached.contains tab).count (b.tabOf bridge)) (b.tabOf bridge) :=
      List.filter_beq _
    rw [List.filter_map,chosen]
    split_ifs with free
    · rw [List.count_eq_one_of_mem (distinct.filter _)
        (List.mem_filter.mpr ⟨free.1,by simpa using free.2⟩)]
      rfl
    · rw [List.count_eq_zero_of_not_mem fun member => free ?_]
      · rfl
      · obtain ⟨target,unreached⟩ := List.mem_filter.mp member
        exact ⟨target,by simpa using unreached⟩
  have split : (w.routes b targets d).filter (w.arrives b bridge) = own.map .port ++
      if b.tabOf bridge ∈ targets ∧ b.tabOf bridge ∉ reached then [.tab (b.tabOf bridge)] else [] := by
    rw [← ports,← tabs,← List.filter_append]
    rfl
  have single : own.Nodup :=
    ((List.nodup_append.mp ok.single).2.1).sublist ((List.filter_sublist (l := w.ports)).filter _)
  have same : ∀ x ∈ own, ∀ y ∈ own, x = y := by
    have held {p : Port} (member : p ∈ own) : w.runtimeDataPorts.lookup d = some p := by
      obtain ⟨here,mine⟩ := ofOwn member
      obtain ⟨known,device,_⟩ := ofPosted here
      have found := (ok.known p known mine).resolve_right (by rw [closing]; exact List.not_mem_nil)
      exact device ▸ found
    intro x here y there
    exact Option.some.inj ((held here).symm.trans (held there))
  rw [split]
  split_ifs with target both both
  · have none : own = [] := by
      refine List.eq_nil_iff_forall_not_mem.mpr fun p member => both.2 (List.mem_map.mpr ⟨p,(ofOwn member).1,?_⟩)
      rw [(ofOwn member).2]
    exact ⟨_,by rw [none]; rfl⟩
  · have met : b.tabOf bridge ∈ reached := by
      by_contra unreached
      exact both ⟨target,unreached⟩
    obtain ⟨p,here,tab⟩ := List.mem_map.mp met
    have mine : p ∈ own := List.mem_filter.mpr
      ⟨here,beq_iff_eq.mpr ((others p (ofPosted here).1).resolve_left fun other => other tab)⟩
    rcases singleton_of_nodup single same with none | ⟨x,only⟩
    · rw [none] at mine
      cases mine
    · exact ⟨.port x,by rw [only]; rfl⟩
  · exact absurd both.1 target
  · have none : own = [] := by
      refine List.eq_nil_iff_forall_not_mem.mpr fun p member => target ?_
      exact (ofOwn member).2 ▸ (ofPosted (ofOwn member).1).2.2
    rw [none]
    rfl

/-- A step of the background that the bridge or the rest takes counts each session once:
    what a purge or a revocation takes is not being cleaned up, and the session whose close
    is accepted is still registered and not being cleaned up. -/
def countsOnce (b : Browser) (v : BridgeSessions.World) : BridgeSessions.Action → Bool
  | .handle =>
    match v.controlPending with
    | some (.frameDestroyed frame,.posted) => firstClose b v.background (.frameDestroyed frame)
    | _ => true
  | .background a => firstClose b v.background a
  | _ => true

/-- Each tab has at least as many opens of a device as live sessions. -/
abbrev Covered (v : Background.World) : Prop := Counted (fun opens live => live ≤ opens) v

theorem tame_ge : Tame fun opens live => live ≤ opens :=
  ⟨Nat.le_refl 0,fun _ _ le => Nat.succ_le_succ le,fun _ _ le => Nat.sub_le_sub_right le 1⟩

theorem Covered.step {v v' : Background.World} {a : Background.Action} (covered : Covered v) (ok : Sound b v)
    (taken : Background.step b v a = some v') (first : firstClose b v a = true) : Covered v' :=
  Counted.step tame_ge ok covered taken (.inr first) (.inl fun _ y le => Nat.le_trans (Nat.sub_le y 1) le)

theorem Covered.handle {v v' : BridgeSessions.World} (covered : Covered v.background) (ok : Sound b v.background)
    {job : BridgeSessions.Job} (pending : v.controlPending = some (job,.posted))
    (taken : v.handle b job = some v') (fine : countsOnce b v .handle = true) : Covered v'.background := by
  simp only [countsOnce,pending] at fine
  cases job <;> simp only [BridgeSessions.World.handle,Option.map_eq_some_iff] at taken <;> obtain ⟨_,ran,rfl⟩ := taken
  · exact covered.step ok ran rfl
  · exact covered.step ok ran rfl
  · exact covered.step ok ran rfl
  · exact covered.step ok ran fine

/-- Bookkeeping that forgets some devices as a whole. -/
theorem Covered.forget {v : Background.World} {s : BgState} (covered : Covered v) (lost : DeviceId → Bool)
    (owners : ∀ d t, s.deviceSessions.lookup (d,t) = if lost d then none else ownerOf v d t)
    (opens : ∀ d tab, s.opens d tab = if lost d then 0 else v.state.opens d tab) :
    Covered { v with state := s } := by
  intro d tab
  show (liveOf { v with state := s } d tab).card ≤ s.opens d tab
  rw [opens]
  by_cases gone : lost d = true
  · have none : liveOf { v with state := s } d tab = ∅ := by
      refine Finset.eq_empty_of_forall_notMem fun key member => ?_
      obtain ⟨device,o,alive,_⟩ := mem_liveOf.mp member
      have registered : s.deviceSessions.lookup (key.1,key.2) = some o := alive.registered
      rw [owners,device,if_pos gone] at registered
      cases registered
    rw [none]
    exact Nat.zero_le _
  · have same : liveOf { v with state := s } d tab = liveOf v d tab := by
      ext key
      simp only [mem_liveOf]
      refine and_congr_right fun device => exists_congr fun o => and_congr_left fun _ => ?_
      have owner : s.deviceSessions.lookup (key.1,key.2) = ownerOf v key.1 key.2 := by
        rw [owners,device,if_neg gone]
      exact ⟨fun alive => ⟨owner.symm.trans alive.registered,alive.kept⟩,
        fun alive => ⟨owner.trans alive.registered,alive.kept⟩⟩
    rw [if_neg gone,same]
    exact covered d tab

theorem step_covered {v v' : BridgeSessions.World} {a : BridgeSessions.Action} (covered : Covered v.background)
    (ok : Sound b v.background) (taken : BridgeSessions.step b bridge v a = some v') (fine : countsOnce b v a = true) :
    Covered v'.background := by
  cases a with
  | join c =>
    simp only [BridgeSessions.step] at taken
    split_ifs at taken
    cases taken
    exact covered
  | leave frame =>
    simp only [BridgeSessions.step] at taken
    split_ifs at taken
    cases taken
    exact covered
  | openRequest c d =>
    simp only [BridgeSessions.step] at taken
    split_ifs at taken
    cases taken
    exact covered
  | closeRequest c d =>
    simp only [BridgeSessions.step] at taken
    split_ifs at taken
    cases taken
    exact covered
  | send =>
    simp only [BridgeSessions.step] at taken
    split at taken <;> cases taken
    exact covered
  | handle =>
    simp only [BridgeSessions.step] at taken
    split at taken
    · next job pending => exact covered.handle ok pending taken fine
    · cases taken
  | deliver =>
    simp only [BridgeSessions.step] at taken
    split at taken <;> cases taken
    rw [(delivered_clients _ _ _).2]
    exact covered
  | resume k accepted =>
    obtain ⟨task,_,rfl⟩ := Option.map_eq_some_iff.mp taken
    rw [(resumed_clients _ task accepted).2]
    exact covered
  | event k =>
    obtain ⟨e,_,rfl⟩ := Option.map_eq_some_iff.mp taken
    exact covered
  | background a =>
    simp only [BridgeSessions.step] at taken
    split_ifs at taken
    obtain ⟨_,ran,rfl⟩ := Option.map_eq_some_iff.mp taken
    exact covered.step ok ran fine
  | deviceLost d =>
    cases taken
    refine covered.forget (fun d' => d' == d) (fun d' t => ?_) fun d' tab => ?_
    · rw [clearDeviceOwnership_owner]
      simp only [beq_iff_eq]
    · rw [clearDeviceOwnership_opens]
      simp only [beq_iff_eq]
  | daemonLost =>
    cases taken
    exact covered.forget (fun _ => true) (fun _ _ => rfl) fun _ _ => rfl

/-! ### Runs -/

/-- The session and the count of a client are kept as they should be. -/
def careful (b : Browser) (w : World) : Action → Bool
  | .act a => orderly b w.bridge a && countsOnce b w.bridge a
  | _ => true

structure Inv (b : Browser) (bridge : String) (w : World) : Prop where
  accord : Accord b bridge w.bridge
  covered : Covered w.bridge.background
  wired : Wired bridge w

theorem inv_init (b : Browser) (bridge : String) : Inv b bridge init :=
  ⟨accord_init b bridge,counted_init tame_ge,by
    constructor
    · exact List.nodup_nil
    · exact fun p member => nomatch member
    · exact fun p member => nomatch member
    · exact List.nodup_nil
    · exact fun p member => nomatch member
    · exact fun d p found => nomatch found⟩

theorem step_bridge {a : Action} (taken : step b bridge w a = some w') :
    (∃ act, a = .act act ∧ BridgeSessions.step b bridge w.bridge act = some w'.bridge) ∨ w'.bridge = w.bridge := by
  cases a with
  | act act =>
    obtain ⟨v,ran,rfl⟩ := Option.map_eq_some_iff.mp taken
    exact .inl ⟨act,rfl,ran⟩
  | planes nmPlanes workers inPageDevices => cases taken; exact .inr rfl
  | connectPort d => simp only [step] at taken; split at taken <;> cases taken; exact .inr rfl
  | disconnectPort d => obtain ⟨p,_,rfl⟩ := Option.map_eq_some_iff.mp taken; exact .inr rfl
  | portConnected k => obtain ⟨p,_,rfl⟩ := Option.map_eq_some_iff.mp taken; exact .inr rfl
  | portDisconnected k =>
    simp only [step] at taken
    split at taken
    · split_ifs at taken; cases taken; exact .inr rfl
    · cases taken
  | otherConnected p => simp only [step] at taken; split_ifs at taken; cases taken; exact .inr rfl
  | otherDisconnected p => simp only [step] at taken; split_ifs at taken; cases taken; exact .inr rfl

theorem step_inv (inv : Inv b bridge w) {a : Action} (taken : step b bridge w a = some w')
    (fine : careful b w a = true) : Inv b bridge w' := by
  have wired := step_wired inv.wired taken
  rcases step_bridge taken with ⟨act,rfl,ran⟩ | same
  · obtain ⟨orders,counts⟩ := Bool.and_eq_true_iff.mp fine
    exact ⟨step_accord inv.accord ran orders,step_covered inv.covered inv.accord.sound ran counts,wired⟩
  · exact ⟨same ▸ inv.accord,same ▸ inv.covered,wired⟩

/-- Where nothing is under way, the tab of a client with a session has an open of the device. -/
theorem Inv.opens (inv : Inv b bridge w) (rest : settled b bridge w = true) (client : c ∈ w.bridge.clients)
    (has : w.bridge.has d c = true) : d ≠ 0 ∧ 0 < w.bridge.background.state.opens d (b.tabOf bridge) := by
  simp only [settled,Bool.and_eq_true] at rest
  have mine := inv.accord.clients c client
  obtain ⟨t,held⟩ := Option.isSome_iff_exists.mp has
  have registered := (Accord.agrees inv.accord rest.1.1.1 c d t mine).mp held
  simp only [BridgeSessions.registered,Option.any_eq_true,Bool.and_eq_true,beq_iff_eq] at registered
  obtain ⟨o,owner,fits⟩ := registered
  have calm : Bookkeeping.ending w.bridge.background d t = false := by
    have idle := rest.1.1.1
    simp only [BridgeSessions.settled,Bool.and_eq_true,List.isEmpty_iff] at idle
    rw [Bookkeeping.ending,values,idle.1.2]
    rfl
  have alive : Bookkeeping.Live w.bridge.background d t o := ⟨owner,calm⟩
  have tab : o.tabId = b.tabOf bridge := by
    rw [(owner_of_live inv.accord.sound alive fits.1).1,Browser.tab,mine]
  constructor
  · intro zero
    have none := inv.accord.sound.nonzero t
    rw [← zero,alive.registered] at none
    cases none
  · exact Nat.lt_of_lt_of_le (Finset.card_pos.mpr ⟨(d,t),mem_liveOf.mpr ⟨rfl,o,alive,tab⟩⟩)
      (inv.covered d (b.tabOf bridge))

theorem Inv.fansOut (inv : Inv b bridge w) (rest : settled b bridge w = true) : FansOut b bridge w := by
  intro id reports bin fits frame
  refine ⟨?_,fun c => ?_⟩
  · rw [World.fanOut,buffers_forwardAll]
    exact List.nodup_range'
  · show content c (w.fanOut b bridge bin) = _
    have reached (here : c ∈ w.bridge.clients ∧ w.receives id.toNat c = true) :
        ∃ targets, tabsForEvent w.bridge.background.state id.toNat = some targets ∧ b.tabOf bridge ∈ targets := by
      obtain ⟨client,receives⟩ := here
      simp only [World.receives,Bool.and_eq_true] at receives
      obtain ⟨nonzero,opened⟩ := inv.opens rest client receives.1.1.1
      exact tabsForEvent_of_opens nonzero opened
    rw [World.fanOut,onPackedData_written fits frame]
    cases found : tabsForEvent w.bridge.background.state id.toNat with
    | none =>
      rw [if_neg fun here => ?_]
      · rfl
      · obtain ⟨targets,some,_⟩ := reached here
        rw [found] at some
        cases some
    | some targets =>
      dsimp only
      have arrive := routes_arrive (d := id.toNat) inv.wired rest (tabsForEvent_nodup found)
      have each (report : Report) : ((w.routes b targets id.toNat).map fun route =>
          (⟨route,id.toNat,report⟩ : Message)).filter (fun message => w.arrives b bridge message.route) =
          ((w.routes b targets id.toNat).filter (w.arrives b bridge)).map fun route => ⟨route,id.toNat,report⟩ := by
        rw [List.filter_map]
        rfl
      rw [List.filter_flatMap]
      simp only [each]
      split_ifs at arrive with target
      · obtain ⟨route,only⟩ := arrive
        rw [only]
        simp only [List.map_cons,List.map_nil]
        rw [← List.map_eq_flatMap,content_forwardAll inv.wired.clients fun message member => ?_,List.map_map]
        · rfl
        · obtain ⟨report,_,rfl⟩ := List.mem_map.mp member
          rfl
      · rw [arrive]
        have none : (reports.flatMap fun report => ([] : List Route).map fun route =>
            (⟨route,id.toNat,report⟩ : Message)) = [] := List.flatMap_eq_nil_iff.mpr fun _ _ => rfl
        rw [none,if_neg fun here => ?_]
        · rfl
        · obtain ⟨_,same,member⟩ := reached here
          cases Option.some.inj (found.symm.trans same)
          exact target member

/-- In a run in which sessions are kept and counted as they should be, every frame that
    arrives while nothing is under way comes to the clients that it is for. -/
theorem fans_out {trace : List Action} (run : exec (step b bridge) init trace = some w)
    (fine : AllSteps (step b bridge) (fun w a _ => careful b w a = true) init trace)
    (rest : settled b bridge w = true) : FansOut b bridge w := by
  have inv : Inv b bridge w := exec_invariant_under
    (fun w a w' inv taken fine => step_inv inv taken fine) (inv_init b bridge) run fine
  exact inv.fansOut rest

end

/-- One bridge in tab 1; its first frame has another origin than the others. -/
def twoOrigins : Browser :=
  ⟨fun _ => 1,fun frame => if frame.generation = 1 then "https://one.example" else "https://two.example"⟩

/-- Both frames open device 7. -/
def bothOpen : List BridgeSessions.Action :=
  [.background (.pair "https://one.example" 7),.background (.pair "https://two.example" 7),
    .join (frameWindow 1),.join (frameWindow 2),
    .openRequest (frameWindow 1) 7,.send,.handle,.background (.stored 0),.background (.answer 1 ⟨200,7,"first"⟩),
    .background (.stored 1),.deliver,.resume 0 true,
    .openRequest (frameWindow 2) 7,.send,.handle,.background (.stored 2),.background (.answer 2 ⟨200,7,"second"⟩),
    .background (.stored 3),.deliver,.resume 0 true]

/-- Their planes are native messaging, with a data port of the device. -/
def bothOnNm : List Action :=
  bothOpen.map .act ++ [.planes [(frameWindow 1,7),(frameWindow 2,7)] [] [],.connectPort 7,.portConnected 0]

theorem fans_out_both : ∃ w, exec (step twoOrigins "bridge-a") init bothOnNm = some w ∧
    w.receives 7 (frameWindow 1) = true ∧ w.receives 7 (frameWindow 2) = true ∧ FansOut twoOrigins "bridge-a" w := by
  obtain ⟨w,run⟩ := Option.isSome_iff_exists.mp
    (by decide : (exec (step twoOrigins "bridge-a") init bothOnNm).isSome = true)
  have facts : (exec (step twoOrigins "bridge-a") init bothOnNm).map (fun w => (settled twoOrigins "bridge-a" w,
      w.receives 7 (frameWindow 1),w.receives 7 (frameWindow 2))) = some (true,true,true) := by decide
  rw [run] at facts
  simp only [Option.map_some,Option.some.injEq,Prod.mk.injEq] at facts
  exact ⟨w,run,facts.2.1,facts.2.2,fans_out run (allSteps_of_checkAll (by decide)) facts.1⟩

/-- The first frame closes the device while the grant of its origin is revoked. -/
def closesRevoked : List BridgeSessions.Action := bothOpen ++
  [.closeRequest (frameWindow 1) 7,.send,.handle,.background (.revokeRequest "https://one.example" [7]),
    .background (.groupsRead 4 []),.background (.stored 5),.background (.answer 3 ⟨200,0,""⟩),
    .background (.answer 4 ⟨404,0,""⟩),.background (.stored 6),.deliver,.event 0]

def onlySecond : List Action := closesRevoked.map .act ++ [.planes [(frameWindow 2,7)] [] []]

/-- The close and the revocation both take an open off the tab, and the second frame gets
    no more reports. -/
theorem closed_and_revoked_silences : ∃ w, exec (step twoOrigins "bridge-a") init onlySecond = some w ∧
    settled twoOrigins "bridge-a" w = true ∧ frameWindow 2 ∈ w.bridge.clients ∧
    w.receives 7 (frameWindow 2) = true ∧ w.fanOut twoOrigins "bridge-a" [1,7,0,0,0,5,1,0,9] = [] ∧
    ¬ FansOut twoOrigins "bridge-a" w := by
  obtain ⟨w,run⟩ := Option.isSome_iff_exists.mp
    (by decide : (exec (step twoOrigins "bridge-a") init onlySecond).isSome = true)
  have facts : (exec (step twoOrigins "bridge-a") init onlySecond).map (fun w => (settled twoOrigins "bridge-a" w,
      decide (frameWindow 2 ∈ w.bridge.clients),w.receives 7 (frameWindow 2),
      w.fanOut twoOrigins "bridge-a" [1,7,0,0,0,5,1,0,9])) = some (true,true,true,[]) := by decide
  rw [run] at facts
  simp only [Option.map_some,Option.some.injEq,Prod.mk.injEq,decide_eq_true_eq] at facts
  obtain ⟨rest,client,receives,silent⟩ := facts
  refine ⟨w,run,rest,client,receives,silent,fun fans => ?_⟩
  have frame : packedInputReport 7 [(5,[9])] = .packedData [1,7,0,0,0,5,1,0,9] :=
    congrArg NmMessage.packedData (by decide)
  have both : frameWindow 2 ∈ w.bridge.clients ∧ w.receives 7 (frameWindow 2) = true := ⟨client,receives⟩
  have got := (fans 7 [(5,[9])] [1,7,0,0,0,5,1,0,9] (by decide) frame).2 (frameWindow 2)
  rw [silent] at got
  exact absurd (got.trans (if_pos both)) (by decide)

end FFWebHid.InputFanout
