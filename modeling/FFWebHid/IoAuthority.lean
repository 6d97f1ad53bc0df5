import FFWebHid.Maps
import FFWebHid.Runs
import FFWebHid.Capabilities
import FFWebHid.Types
import FFWebHid.Registry
import FFWebHid.Lifecycle
import FFWebHid.Coherence
import FFWebHid.Sections
import FFWebHid.Threads
import FFWebHid.Safety

/-!
Every operation that a worker starts was accepted by the blocking state of the
entry that the worker belongs to. The check and the queue are found separately;
what holds them together is that a client that sends does not open, and that a
transport's capability does not outlive the entry of its session.
-/
namespace FFWebHid.IoAuthority
open FFWebHid.Runs FFWebHid.Types FFWebHid.Maps FFWebHid.Capabilities FFWebHid.Registry FFWebHid.Lifecycle
open FFWebHid.Coherence FFWebHid.Sections FFWebHid.Threads FFWebHid.Safety FFWebHid.Registry.DeviceManager

/-- The entry lets the operation pass: it is not protected, and its identifier and
    size fit. -/
def Accepts (e : Entry) (op : ReportOp) : Prop :=
  sendVerdict e.blocking e.vendorId e.productId op.reportId op.reportType op.payloadLen = .ok ()

/-- The entry that was built for a lifetime lets the operation pass. -/
def Accepted (sh : Shared) (l : Lifetime) (op : ReportOp) : Prop := ∃ e, sh.entryOf l = some e ∧ Accepts e op

/-- The entry that is published for a device lets the operation pass. -/
def Published (m : DeviceManager) (d : DeviceId) (op : ReportOp) : Prop :=
  ∃ e, m.devices.lookup d = some e ∧ Accepts e op

/-- A flag was granted and, while it is set, is that of the binding of a client
    on a device. -/
def Bound (m : DeviceManager) (c : ClientId) (d : DeviceId) (f : Flag) : Prop :=
  f < m.nextFlag ∧ (m.valid f = true → (flags m).held (.nm c d) = some f)

/-- A command is accepted while its capability is set. -/
def CommandOk (sh : Shared) (l : Lifetime) (command : IoCommand) : Prop :=
  command.validity < sh.mgr.nextFlag ∧ (sh.mgr.valid command.validity = true → Accepted sh l command.op) ∧
    ∀ c d, command.sender = .nm c d → Bound sh.mgr c d command.validity

def NmOk (sh : Shared) (c : ClientId) (d : DeviceId) (op : ReportOp) : NmPc → Prop
  | .allowed => Owns sh.mgr c d → Published sh.mgr d op
  | .haveHot hot => Bound sh.mgr c d hot.valid ∧ Accepted sh hot.ioTx op
  | .haveBuf hot _ => Bound sh.mgr c d hot.valid ∧ Accepted sh hot.ioTx op
  | .haveCommand queue command => CommandOk sh queue command
  | .awaiting _ => True

def ClientOk (sh : Shared) (c : ClientId) : ClientPc → Prop
  | .report d op pc => NmOk sh c d op pc
  | _ => True

/-- While the capability of a connection is set, it is that of its session, which
    is on the device of the connection. -/
def LinkOk (m : DeviceManager) (link : Link) : Prop :=
  link.grant.capability < m.nextFlag ∧ (m.valid link.grant.capability = true →
    m.transportValidity.lookup link.token = some link.grant.capability ∧
      ∃ s, m.sessions.lookup link.token = some s ∧ s.deviceId = link.deviceId)

def FrameOk (sh : Shared) (link : Link) : FramePc → Prop
  | .prechecked op => sh.mgr.valid link.grant.capability = true → Published sh.mgr link.deviceId op
  | .context op => sh.mgr.valid link.grant.capability = true → Published sh.mgr link.deviceId op
  | .haveEntry op queue _ _ => sh.mgr.valid link.grant.capability = true → Accepted sh queue op
  | .haveCommand queue command => CommandOk sh queue command
  | _ => True

def TransportOk (sh : Shared) : TransportPc → Prop
  | .connected link frame => LinkOk sh.mgr link ∧ FrameOk sh link frame
  | .closed link frame => LinkOk sh.mgr link ∧ FrameOk sh link frame
  | _ => True

def WorkerOk (sh : Shared) (l : Lifetime) : WorkerPc → Prop
  | .received command => CommandOk sh l command
  | .validated command => Accepted sh l command.op
  | _ => True

/-- The clients that a reader has still to send a report to. -/
def targetsOf : ReaderPc → List Target
  | .routing _ _ targets => targets
  | .sending _ _ target targets => target :: targets
  | _ => []

/-- A reader runs once it has its configuration, and routes to bindings of its device. -/
def ReaderOk (sh : Shared) (l : Lifetime) (pc : ReaderPc) : Prop :=
  (sh.readerConfig l = none → pc = .waiting) ∧
    ∀ config target, sh.readerConfig l = some config → target ∈ targetsOf pc →
      Bound sh.mgr target.clientId config.deviceId target.valid

structure QueuesOk (sh : Shared) : Prop where
  queued : ∀ l command, .command command ∈ sh.queue l → CommandOk sh l command
  started : ∀ l op, (l,op) ∈ sh.starts → Accepted sh l op

structure IoOk (w : World) : Prop where
  queues : QueuesOk w.shared
  client : ∀ c, ClientOk w.shared c (w.client c)
  transport : ∀ t, TransportOk w.shared (w.transport t)
  worker : ∀ l, WorkerOk w.shared l (w.worker l)
  reader : ∀ l, ReaderOk w.shared l (w.reader l)

/-- How the shared state moves on while a thread waits. -/
structure Advances (sh sh' : Shared) : Prop where
  coherent : Coherent sh.mgr
  effect : Effect sh.mgr sh'.mgr
  entryOf : ∀ l e, sh.entryOf l = some e → sh'.entryOf l = some e
  readerConfig : ∀ l config, sh.readerConfig l = some config → sh'.readerConfig l = some config

section
variable {sh sh' : Shared}

theorem Advances.evolves (advances : Advances sh sh') : Evolves (flags sh.mgr) (flags sh'.mgr) :=
  advances.effect.evolves advances.coherent

theorem Accepted.mono {l : Lifetime} {op : ReportOp} (advances : Advances sh sh') (accepted : Accepted sh l op) :
    Accepted sh' l op := by
  obtain ⟨e,built,accepts⟩ := accepted
  exact ⟨e,advances.entryOf l e built,accepts⟩

/-- A flag that was granted and is set now was set before. -/
private theorem set_before {f : Flag} (advances : Advances sh sh') (granted : f < sh.mgr.nextFlag)
    (set : sh'.mgr.valid f = true) : sh.mgr.valid f = true :=
  advances.evolves.cleared f granted set

private theorem granted_after {f : Flag} (advances : Advances sh sh') (granted : f < sh.mgr.nextFlag) :
    f < sh'.mgr.nextFlag :=
  Nat.lt_of_lt_of_le granted advances.evolves.next

private theorem Bound.mono {c : ClientId} {d : DeviceId} {f : Flag} (advances : Advances sh sh')
    (bound : Bound sh.mgr c d f) : Bound sh'.mgr c d f :=
  ⟨granted_after advances bound.1,fun set =>
    advances.evolves.stays (.nm c d) f (bound.2 (set_before advances bound.1 set)) set⟩

private theorem CommandOk.mono {l : Lifetime} {command : IoCommand} (advances : Advances sh sh')
    (ok : CommandOk sh l command) : CommandOk sh' l command :=
  ⟨granted_after advances ok.1,fun set => (ok.2.1 (set_before advances ok.1 set)).mono advances,
    fun c d sent => (ok.2.2 c d sent).mono advances⟩

private theorem ClientOk.mono {c : ClientId} {pc : ClientPc} (advances : Advances sh sh')
    (opener : ∀ t s, sh.mgr.sessions.lookup t = none → sh'.mgr.sessions.lookup t = some s → s.ownerClientId = c →
      ∃ call, pendingCall pc = some call) (ok : ClientOk sh c pc) : ClientOk sh' c pc := by
  cases pc with
  | report d op pc =>
    cases pc with
    | allowed =>
      intro owns
      rcases advances.effect.owner advances.coherent owns with ⟨t,s,absent,found,owner,_⟩ | ⟨before,same⟩
      · -- The client is busy with the report, so it has no open in progress.
        obtain ⟨call,pending⟩ := opener t s absent found owner
        cases pending
      · obtain ⟨e,present,accepts⟩ := ok before
        exact ⟨e,same.trans present,accepts⟩
    | haveHot hot => exact ⟨ok.1.mono advances,ok.2.mono advances⟩
    | haveBuf hot n => exact ⟨ok.1.mono advances,ok.2.mono advances⟩
    | haveCommand queue command => exact CommandOk.mono advances ok
    | awaiting reply => trivial
  | _ => trivial

/-- A capability that is still set is that of the same session, and the device of
    the session is still open under the same entry. -/
private theorem LinkOk.mono {link : Link} (advances : Advances sh sh') (ok : LinkOk sh.mgr link) :
    LinkOk sh'.mgr link ∧ (sh'.mgr.valid link.grant.capability = true → ∀ op,
      Published sh.mgr link.deviceId op → Published sh'.mgr link.deviceId op) := by
  have kept (set : sh'.mgr.valid link.grant.capability = true) :
      (sh'.mgr.transportValidity.lookup link.token = some link.grant.capability ∧
        ∃ s, sh'.mgr.sessions.lookup link.token = some s ∧ s.deviceId = link.deviceId) ∧
      sh'.mgr.devices.lookup link.deviceId = sh.mgr.devices.lookup link.deviceId := by
    obtain ⟨held,s,found,device⟩ := ok.2 (set_before advances ok.1 set)
    obtain ⟨held',⟨s',found',device'⟩,same⟩ := advances.effect.transport advances.coherent held found set
    exact ⟨⟨held',s',found',device'.trans device⟩,device ▸ same⟩
  refine ⟨⟨granted_after advances ok.1,fun set => (kept set).1⟩,?_⟩
  rintro set op ⟨e,present,accepts⟩
  exact ⟨e,(kept set).2.trans present,accepts⟩

private theorem FrameOk.mono {link : Link} {frame : FramePc} (advances : Advances sh sh')
    (linked : LinkOk sh.mgr link) (ok : FrameOk sh link frame) : FrameOk sh' link frame := by
  have published := (linked.mono advances).2
  cases frame with
  | prechecked op => exact fun set => published set op (ok (set_before advances linked.1 set))
  | context op => exact fun set => published set op (ok (set_before advances linked.1 set))
  | haveEntry op queue epochOf n => exact fun set => (ok (set_before advances linked.1 set)).mono advances
  | haveCommand queue command => exact CommandOk.mono advances ok
  | _ => trivial

private theorem TransportOk.mono {pc : TransportPc} (advances : Advances sh sh') (ok : TransportOk sh pc) :
    TransportOk sh' pc := by
  cases pc with
  | connected link frame => exact ⟨(ok.1.mono advances).1,ok.2.mono advances ok.1⟩
  | closed link frame => exact ⟨(ok.1.mono advances).1,ok.2.mono advances ok.1⟩
  | _ => trivial

private theorem WorkerOk.mono {l : Lifetime} {pc : WorkerPc} (advances : Advances sh sh') (ok : WorkerOk sh l pc) :
    WorkerOk sh' l pc := by
  cases pc with
  | received command => exact CommandOk.mono advances ok
  | validated command => exact Accepted.mono advances ok
  | _ => trivial

private theorem ReaderOk.mono {l : Lifetime} {pc : ReaderPc} (advances : Advances sh sh') (ok : ReaderOk sh l pc) :
    ReaderOk sh' l pc := by
  have before (absent : sh.readerConfig l = none) : targetsOf pc = [] := by rw [ok.1 absent]; rfl
  refine ⟨?_,?_⟩
  · intro absent
    cases configured : sh.readerConfig l with
    | none => exact ok.1 configured
    | some config => rw [advances.readerConfig l config configured] at absent; cases absent
  · intro config target configured' member
    cases configured : sh.readerConfig l with
    | none => rw [before configured] at member; cases member
    | some config' =>
      have same : config' = config := Option.some.inj ((advances.readerConfig l config' configured).symm.trans configured')
      exact (ok.2 config target (same ▸ configured) member).mono advances

/-- A step that starts nothing and enqueues no command. -/
structure Keeps (sh sh' : Shared) : Prop where
  queue : ∀ l command, .command command ∈ sh'.queue l → .command command ∈ sh.queue l
  starts : sh'.starts = sh.starts

theorem Keeps.of_eq (queue : sh'.queue = sh.queue) (starts : sh'.starts = sh.starts) : Keeps sh sh' :=
  ⟨fun _ _ member => queue ▸ member,starts⟩

private theorem QueuesOk.keeps (advances : Advances sh sh') (keeps : Keeps sh sh') (ok : QueuesOk sh) :
    QueuesOk sh' := by
  refine ⟨?_,?_⟩
  · intro l command member
    exact (ok.queued l command (keeps.queue l command member)).mono advances
  · intro l op member
    exact (ok.started l op (keeps.starts ▸ member)).mono advances

/-- A thread enqueues a command that is accepted. -/
private theorem QueuesOk.push {l : Lifetime} {command : IoCommand} (ok : QueuesOk sh) (fits : CommandOk sh l command)
    (pushed : sh.push l (.command command) = some sh') : QueuesOk sh' := by
  unfold Shared.push at pushed
  split at pushed
  · cases pushed
  · cases pushed
    refine ⟨?_,ok.started⟩
    intro l' command' member
    by_cases here : l' = l
    · subst here
      simp only [Function.update_self,List.mem_append,List.mem_singleton,Queued.command.injEq] at member
      rcases member with before | rfl
      · exact ok.queued l' command' before
      · exact fits
    · simp only [Function.update_of_ne here] at member
      exact ok.queued l' command' member

end

section
variable {sh sh' : Shared}

private theorem teardown_keeps {instruction : TeardownStep} (ran : sh.teardown instruction = some sh') :
    Keeps sh sh' := by
  cases instruction with
  | requestShutdown l =>
    simp only [Shared.teardown] at ran
    split at ran
    · cases ran; exact .of_eq rfl rfl
    · unfold Shared.push at ran
      split at ran
      · cases ran
      · cases ran
        refine ⟨?_,rfl⟩
        intro l' command member
        by_cases here : l' = l
        · subst here; simpa using member
        · simpa only [Function.update_of_ne here] using member
  | joinReader l =>
    simp only [Shared.teardown] at ran
    split at ran <;> cases ran
    exact .of_eq rfl rfl
  | joinWorker l =>
    simp only [Shared.teardown] at ran
    split at ran <;> cases ran
    exact .of_eq rfl rfl
  | _ => cases ran; exact .of_eq rfl rfl

private theorem openStep_keeps {daemon : Daemon} {c : ClientId} {call : OpenCall} {pc : OpenPc} {pc' : ClientPc}
    (taken : openStep daemon sh c call pc = some (pc',sh')) :
    Keeps sh sh' ∧ ∀ d op pc, pc' ≠ .report d op pc := by
  cases pc with
  | stopLocal g steps =>
    cases steps with
    | nil => cases taken; exact ⟨.of_eq rfl rfl,nofun⟩
    | cons instruction rest =>
      obtain ⟨sh₁,ran,result⟩ := Option.map_eq_some_iff.mp taken
      cases result; exact ⟨teardown_keeps ran,nofun⟩
  | release g =>
    cases taken
    refine ⟨.of_eq rfl rfl,?_⟩
    split <;> exact nofun
  | physical g => cases taken
  | spawn g info numbered => cases taken; exact ⟨.of_eq rfl rfl,nofun⟩
  | start g => cases taken; exact ⟨.of_eq rfl rfl,nofun⟩
  | notify g => cases taken; exact ⟨.of_eq rfl rfl,nofun⟩
  | _ =>
    -- Each outcome of a section leads to another place of the open, or to its end.
    dsimp only [openStep] at taken
    split at taken <;> cases taken <;> exact ⟨.of_eq rfl rfl,nofun⟩

/-- What a client does: it enqueues nothing and sends nothing; or it starts a
    report that its binding lets pass; or it goes on with one. -/
private theorem clientStep_shape {daemon : Daemon} {c : ClientId} {pc pc' : ClientPc} {a : ClientAction}
    (taken : clientStep daemon sh c pc a = some (pc',sh')) :
    (Keeps sh sh' ∧ ∀ d op pc, pc' ≠ .report d op pc) ∨
    (∃ d op, pc' = .report d op .allowed ∧ sh' = sh ∧
      sh.mgr.nmReportSendAllowed c d op.reportId op.reportType op.payloadLen = .ok ()) ∨
    ∃ d op pc₀, pc = .report d op pc₀ ∧ nmStep sh c d op pc₀ = some (pc',sh') := by
  unfold clientStep at taken
  split at taken
  · obtain ⟨_,result⟩ := Option.ite_none_right_eq_some.mp taken
    cases result; exact Or.inl ⟨.of_eq rfl rfl,nofun⟩
  · cases taken; exact Or.inl ⟨.of_eq rfl rfl,nofun⟩
  · split at taken <;> cases taken
    exact Or.inl ⟨.of_eq rfl rfl,nofun⟩
  · cases taken
    refine Or.inl ⟨.of_eq rfl rfl,?_⟩
    split <;> exact nofun
  · cases taken; exact Or.inl ⟨.of_eq rfl rfl,nofun⟩
  · exact Or.inl (openStep_keeps taken)
  · dsimp only at taken
    split at taken <;> cases taken <;> exact Or.inl ⟨.of_eq rfl rfl,nofun⟩
  · cases taken; exact Or.inl ⟨.of_eq rfl rfl,nofun⟩
  · obtain ⟨sh₁,ran,result⟩ := Option.map_eq_some_iff.mp taken
    cases result; exact Or.inl ⟨teardown_keeps ran,nofun⟩
  · split at taken <;> cases taken <;> exact Or.inl ⟨.of_eq rfl rfl,nofun⟩
  · -- a report operation
    split at taken
    next allowed => cases taken; exact Or.inr (Or.inl ⟨_,_,rfl,rfl,allowed⟩)
    · cases taken; exact Or.inl ⟨.of_eq rfl rfl,nofun⟩
  · exact Or.inr (Or.inr ⟨_,_,_,rfl,taken⟩)
  · cases taken; exact Or.inl ⟨.of_eq rfl rfl,nofun⟩
  · cases taken; exact Or.inl ⟨.of_eq rfl rfl,nofun⟩
  · cases taken; exact Or.inl ⟨.of_eq rfl rfl,nofun⟩
  · cases taken; exact Or.inl ⟨.of_eq rfl rfl,nofun⟩
  · obtain ⟨sh₁,ran,result⟩ := Option.map_eq_some_iff.mp taken
    cases result; exact Or.inl ⟨teardown_keeps ran,nofun⟩
  · dsimp only at taken
    split at taken <;> cases taken <;> exact Or.inl ⟨.of_eq rfl rfl,nofun⟩
  · cases taken; exact Or.inl ⟨.of_eq rfl rfl,nofun⟩
  · cases taken

private theorem relayStep_keeps {c : ClientId} {running : Bool} {pc pc' : RelayPc} {a : RelayAction}
    (taken : relayStep sh c running pc a = some (pc',sh')) : Keeps sh sh' := by
  unfold relayStep at taken
  split at taken
  · split at taken
    · split at taken
      · cases taken
      · split at taken <;> cases taken <;> exact .of_eq rfl rfl
    · cases taken
  · split at taken <;> cases taken
    exact .of_eq rfl rfl
  · cases taken; exact .of_eq rfl rfl
  · obtain ⟨sh₁,ran,result⟩ := Option.map_eq_some_iff.mp taken
    cases result; exact teardown_keeps ran
  · cases taken

private theorem readerStep_keeps {l : Lifetime} {config : ReaderConfig} {pc pc' : ReaderPc} {a : ReaderAction}
    (taken : readerStep sh l config pc a = some (pc',sh')) : Keeps sh sh' := by
  unfold readerStep at taken
  split at taken
  case h_10 =>
    cases taken
    split <;> exact .of_eq rfl rfl
  case h_13 =>
    obtain ⟨sh₁,ran,result⟩ := Option.map_eq_some_iff.mp taken
    cases result; exact teardown_keeps ran
  all_goals first
    | cases taken; exact .of_eq rfl rfl
    | cases taken
    | (split at taken <;> cases taken <;> exact .of_eq rfl rfl)

end

section
variable {daemon : Daemon} {w : World} {sh' : Shared}

/-- A binding that is stored is on an entry that was built for its queue. -/
private theorem binding_built (ok : WorldOk daemon w) {c : ClientId} {d : DeviceId} {hot : NmHotSession}
    (stored : w.mgr.nmHot.lookup (c,d) = some hot) : ∃ e, w.mgr.devices.lookup d = some e ∧
      w.shared.entryOf hot.ioTx = some e ∧ hot.blocking = e.blocking ∧ hot.vendorId = e.vendorId ∧
      hot.productId = e.productId := by
  obtain ⟨e,present,queue,_,blocking,vendor,product,_⟩ := binding_entry ok.coherent stored
  have running := ok.coherent.registry.running d e present
  have same : e.lifetime = hot.ioTx := Option.some.inj (running.symm.trans queue)
  exact ⟨e,present,same ▸ ok.published d e present,blocking,vendor,product⟩

private theorem binding_bound (ok : WorldOk daemon w) {c : ClientId} {d : DeviceId} {hot : NmHotSession}
    (stored : w.mgr.nmHot.lookup (c,d) = some hot) : Bound w.mgr c d hot.valid := by
  have held : (flags w.mgr).held (.nm c d) = some hot.valid := Option.map_eq_some_iff.mpr ⟨hot,stored,rfl⟩
  exact ⟨ok.coherent.flagsOk.granted _ _ held,fun _ => held⟩

/-- The check of a report is against the entry of the device. -/
private theorem allowed_ok (ok : WorldOk daemon w) {c : ClientId} {d : DeviceId} {op : ReportOp}
    (allowed : w.mgr.nmReportSendAllowed c d op.reportId op.reportType op.payloadLen = .ok ()) :
    ClientOk w.shared c (.report d op .allowed) := by
  intro _
  unfold nmReportSendAllowed at allowed
  cases stored : w.mgr.nmHot.lookup (c,d) with
  | none => rw [stored] at allowed; cases allowed
  | some hot =>
    rw [stored] at allowed
    obtain ⟨e,present,_,blocking,vendor,product⟩ := binding_built ok stored
    refine ⟨e,present,?_⟩
    unfold Accepts
    rw [← blocking,← vendor,← product]; exact allowed

private theorem nmStep_io (ok : WorldOk daemon w) (io : QueuesOk w.shared) {c : ClientId} {d : DeviceId} {op : ReportOp}
    {pc : NmPc} {pc' : ClientPc} (here : NmOk w.shared c d op pc)
    (taken : nmStep w.shared c d op pc = some (pc',sh')) : ClientOk sh' c pc' ∧ QueuesOk sh' := by
  unfold nmStep at taken
  split at taken
  · -- The binding is looked up again; the client still has its session, so the entry is the one checked.
    split at taken
    · cases taken; exact ⟨trivial,io⟩
    next hot stored =>
      cases taken
      obtain ⟨e,present,built,_⟩ := binding_built ok stored
      obtain ⟨t,s,found,owner,device,_⟩ := ((binding_iff ok.coherent c d).mp ⟨hot,stored⟩).2
      obtain ⟨e',present',accepts⟩ := here ⟨t,s,found,owner,device⟩
      have same : e = e' := Option.some.inj (present.symm.trans present')
      exact ⟨⟨binding_bound ok stored,e,built,same ▸ accepts⟩,io⟩
  · cases taken; exact ⟨here,io⟩
  · cases taken
    refine ⟨⟨here.1.1,fun _ => here.2,?_⟩,⟨io.queued,io.started⟩⟩
    intro c' d' sent
    cases sent; exact here.1
  · split at taken
    · cases taken; exact ⟨trivial,io⟩
    · obtain ⟨sh₁,pushed,result⟩ := Option.map_eq_some_iff.mp taken
      cases result; exact ⟨trivial,io.push here pushed⟩
  · split at taken <;> cases taken
    exact ⟨trivial,io⟩

private theorem frameStep_io (ok : WorldOk daemon w) (io : QueuesOk w.shared) {t : Nat} {link : Link}
    {pc pc' : FramePc} (linked : LinkOk w.mgr link) (here : FrameOk w.shared link pc)
    (taken : frameStep w.shared t link pc = some (pc',sh')) : FrameOk sh' link pc' ∧ QueuesOk sh' := by
  unfold frameStep at taken
  split at taken
  · cases taken
  · cases taken
    refine ⟨?_,io⟩
    split <;> trivial
  next op => -- the check against the entry of the device
    split at taken
    next allowed =>
      cases taken
      refine ⟨fun _ => ?_,io⟩
      unfold reportSendAllowed at allowed
      cases present : w.shared.mgr.devices.lookup link.deviceId with
      | none => rw [present] at allowed; cases allowed
      | some e => rw [present] at allowed; exact ⟨e,present,allowed⟩
    · cases taken; exact ⟨trivial,io⟩
  · cases taken
    refine ⟨?_,io⟩
    split
    · exact here
    · trivial
  · -- The entry is looked up again; while the capability is set it is the one checked.
    split at taken
    · cases taken; exact ⟨trivial,io⟩
    next e present =>
      split at taken
      · cases taken; exact ⟨trivial,io⟩
      next queue running =>
        cases taken
        refine ⟨fun set => ?_,io⟩
        obtain ⟨e',present',accepts⟩ := here set
        have same : e = e' := Option.some.inj (present.symm.trans present')
        have lifetime := ok.coherent.registry.running _ e present
        have queued : e.lifetime = queue := Option.some.inj (lifetime.symm.trans running)
        exact ⟨e,queued ▸ ok.published _ e present,same ▸ accepts⟩
  · cases taken; exact ⟨⟨linked.1,here,nofun⟩,⟨io.queued,io.started⟩⟩
  · split at taken
    · cases taken; exact ⟨trivial,io⟩
    · obtain ⟨sh₁,pushed,result⟩ := Option.map_eq_some_iff.mp taken
      cases result; exact ⟨trivial,io.push here pushed⟩
  · split at taken <;> cases taken
    exact ⟨trivial,io⟩

/-- A connection is granted the capability of its session. -/
private theorem connect_grants {m m' : DeviceManager} {kind : TransportKind} {d : DeviceId} {t : Token}
    {grant : TransportGrant} (done : m.connect kind d t = some (grant,m')) :
    m'.transportValidity.lookup t = some grant.capability ∧
      ∃ s, m'.sessions.lookup t = some s ∧ s.deviceId = d := by
  unfold connect at done
  cases found : m.sessions.lookup t with
  | none => rw [found] at done; cases done
  | some s =>
    simp only [found] at done
    split at done
    · cases done
    next fits =>
      obtain ⟨rfl,rfl⟩ := Prod.mk.inj (Option.some.inj done)
      have device : s.deviceId = d := by simp at fits; exact fits.2
      have counted := same_updateNonNmCount ((m.putSession t (kind.connected s)).replaceTransportValidity t).2
        s.mode.isNonNm true
      rw [refresh_transports,refresh_sessions,counted.transports,counted.sessions]
      refine ⟨AList.lookup_insert _,kind.connected s,AList.lookup_insert _,?_⟩
      cases kind <;> exact device

private theorem transportStep_io (ok : WorldOk daemon w) (io : QueuesOk w.shared) {t : Nat}
    {pc pc' : TransportPc} {a : TransportAction} (here : TransportOk w.shared pc) (advances : Advances w.shared sh')
    (taken : transportStep w.shared t pc a = some (pc',sh')) : TransportOk sh' pc' ∧ QueuesOk sh' := by
  unfold transportStep at taken
  split at taken
  · obtain ⟨found,_,result⟩ := Option.map_eq_some_iff.mp taken
    cases result; exact ⟨trivial,io⟩
  · split at taken
    · cases taken; exact ⟨trivial,io⟩
    next grant mgr connected =>
      cases taken
      obtain ⟨held,live⟩ := connect_grants connected
      have granted := (advances.effect.coherent ok.coherent).flagsOk.granted (.transport _) _ held
      exact ⟨⟨⟨granted,fun _ => ⟨held,live⟩⟩,trivial⟩,io.keeps advances (.of_eq rfl rfl)⟩
  · cases taken
    refine ⟨⟨here.1,?_⟩,io⟩
    split <;> trivial
  · obtain ⟨⟨frame,sh₁⟩,ran,result⟩ := Option.map_eq_some_iff.mp taken
    cases result
    obtain ⟨framed,queues⟩ := frameStep_io ok io here.1 here.2 ran
    exact ⟨⟨(here.1.mono advances).1,framed⟩,queues⟩
  · cases taken
    exact ⟨⟨(here.1.mono advances).1,here.2.mono advances here.1⟩,io.keeps advances (.of_eq rfl rfl)⟩
  · obtain ⟨⟨frame,sh₁⟩,ran,result⟩ := Option.map_eq_some_iff.mp taken
    cases result
    obtain ⟨framed,queues⟩ := frameStep_io ok io here.1 here.2 ran
    exact ⟨⟨(here.1.mono advances).1,framed⟩,queues⟩
  · cases taken

/-- A worker starts an operation only after it saw the capability set, and what
    the entry lets pass stays so. -/
private theorem workerStep_io (io : QueuesOk w.shared) {l : Lifetime} {pc pc' : WorkerPc}
    (here : WorkerOk w.shared l pc) (advances : Advances w.shared sh')
    (taken : workerStep w.shared l pc = some (pc',sh')) : WorkerOk sh' l pc' ∧ QueuesOk sh' := by
  unfold workerStep at taken
  split at taken
  · split at taken
    · cases taken
    next rest queued => -- everything that was queued is dropped
      cases taken
      refine ⟨trivial,io.keeps advances ⟨?_,(answers_frame _ w.shared).2.2.2.2.2.1⟩⟩
      intro l' command member
      by_cases same : l' = l
      · subst same; simp at member
      · simp only [Function.update_of_ne same] at member; exact member
    next command rest queued =>
      cases taken
      have first : CommandOk w.shared l command := io.queued l command (by rw [queued]; exact List.mem_cons_self)
      refine ⟨first,io.keeps advances ⟨?_,rfl⟩⟩
      intro l' command' member
      by_cases same : l' = l
      · subst same
        simp only [Function.update_self] at member
        rw [queued]; exact List.mem_cons_of_mem _ member
      · simp only [Function.update_of_ne same] at member; exact member
  · split at taken
    next set => cases taken; exact ⟨here.2.1 set,io⟩
    · cases taken; exact ⟨trivial,⟨io.queued,io.started⟩⟩
  · split at taken
    · cases taken
      refine ⟨trivial,⟨io.queued,?_⟩⟩
      intro l' op member
      rcases List.mem_cons.mp member with first | before
      · cases first; exact here
      · exact io.started l' op before
    · cases taken; exact ⟨trivial,⟨io.queued,io.started⟩⟩
  · cases taken; exact ⟨trivial,⟨io.queued,io.started⟩⟩
  · cases taken

/-- A reader takes its targets from the bindings of its device. -/
private theorem readerStep_io (ok : WorldOk daemon w) {l : Lifetime} {config : ReaderConfig} {pc pc' : ReaderPc}
    {a : ReaderAction} (configured : w.shared.readerConfig l = some config) (here : ReaderOk w.shared l pc)
    (advances : Advances w.shared sh') (taken : readerStep w.shared l config pc a = some (pc',sh')) :
    ReaderOk sh' l pc' := by
  have routed (target : Target) (member : target ∈ routeTargets w.shared.mgr config.deviceId) :
      Bound w.mgr target.clientId config.deviceId target.valid := by
    obtain ⟨⟨⟨c,d⟩,hot⟩,inside,rfl⟩ := List.mem_map.mp member
    obtain ⟨stored,device⟩ := List.mem_filter.mp inside
    have same : d = config.deviceId := by simpa using device
    exact binding_bound ok (same ▸ lookup_eq_some.mpr stored)
  have old (target : Target) (member : target ∈ targetsOf pc) :
      Bound w.mgr target.clientId config.deviceId target.valid := here.2 config target configured member
  -- The targets afterwards are those from before, or those of the present bindings.
  have known : ∀ target ∈ targetsOf pc', target ∈ targetsOf pc ∨
      target ∈ routeTargets w.shared.mgr config.deviceId := by
    unfold readerStep at taken
    split at taken
    case h_6 => cases taken; exact fun _ member => Or.inr member
    case h_3 =>
      cases taken
      have silent (dropped : Bool) (reportId : UInt8) (data : Bytes) :
          targetsOf (if dropped then .top else .report reportId data) = [] := by cases dropped <;> rfl
      intro target member
      rw [silent] at member; cases member
    case h_8 =>
      cases taken
      split
      · exact fun _ member => Or.inl member
      · exact fun _ member => Or.inl (List.mem_cons_of_mem _ member)
    case h_9 =>
      cases taken
      split
      · exact fun _ member => Or.inl member
      · exact fun _ member => Or.inl (List.mem_cons_of_mem _ member)
    case h_13 =>
      obtain ⟨_,_,result⟩ := Option.map_eq_some_iff.mp taken
      cases result; exact fun _ member => absurd member List.not_mem_nil
    case h_14 => cases taken
    all_goals first
      | cases taken; exact fun _ member => absurd member List.not_mem_nil
      | (split at taken <;> cases taken <;> exact fun _ member => absurd member List.not_mem_nil)
  have still := advances.readerConfig l config configured
  refine ⟨fun absent => ?_,?_⟩
  · rw [still] at absent; cases absent
  · intro config' target configured' member
    rw [still] at configured'; cases configured'
    rcases known target member with before | fresh
    · exact (old target before).mono advances
    · exact (routed target fresh).mono advances

/-! ### Runs -/

/-- A step that starts nothing and enqueues no command. -/
private theorem IoOk.keeps {w' : World} (io : IoOk w) (advances : Advances w.shared w'.shared)
    (keeps : Keeps w.shared w'.shared) (client : ∀ c, ClientOk w'.shared c (w'.client c))
    (transport : w'.transport = w.transport) (worker : w'.worker = w.worker)
    (reader : ∀ l, ReaderOk w'.shared l (w'.reader l)) : IoOk w' :=
  ⟨io.queues.keeps advances keeps,client,fun t => by rw [transport]; exact (io.transport t).mono advances,
    fun l => by rw [worker]; exact (io.worker l).mono advances,reader⟩

/-- Every step of the daemon keeps what is known about the commands in flight. -/
theorem step_io {w' : World} {a : Action} (ok : WorldOk daemon w) (io : IoOk w)
    (taken : step daemon w a = some w') : IoOk w' := by
  have move := step_move ok taken
  have advances : Advances w.shared w'.shared :=
    ⟨ok.coherent,move.effect,fun _ _ => move.entryOf ok,fun _ _ => move.readerConfig ok⟩
  have waiting (c : ClientId) : ClientOk w'.shared c (w.client c) := by
    refine (io.client c).mono advances ?_
    rintro t s absent found rfl
    exact move.opener absent found
  have reading (l : Lifetime) : ReaderOk w'.shared l (w.reader l) := (io.reader l).mono advances
  cases a with
  | client c action =>
    obtain ⟨⟨pc,sh⟩,ran,rfl⟩ := Option.map_eq_some_iff.mp taken
    -- The clients that did not move are as they were.
    have others (queues : QueuesOk sh) (own : ClientOk sh c pc) :
        IoOk { w with shared := sh, client := Function.update w.client c pc } := by
      refine ⟨queues,?_,fun t => (io.transport t).mono advances,fun l => (io.worker l).mono advances,reading⟩
      intro c'
      by_cases same : c' = c
      · subst same; simpa using own
      · simpa [same] using waiting c'
    rcases clientStep_shape ran with ⟨keeps,silent⟩ | ⟨d,op,rfl,rfl,allowed⟩ | ⟨d,op,pc₀,here,sent⟩
    · refine others (io.queues.keeps advances keeps) ?_
      cases pc with
      | report d op pc => exact absurd rfl (silent d op pc)
      | _ => trivial
    · exact others io.queues (allowed_ok ok allowed)
    · have before := io.client c
      rw [here] at before
      obtain ⟨own,queues⟩ := nmStep_io ok io.queues before sent
      exact others queues own
  | relay c action =>
    obtain ⟨⟨pc,sh⟩,ran,rfl⟩ := Option.map_eq_some_iff.mp taken
    exact io.keeps advances (relayStep_keeps ran) waiting rfl rfl reading
  | transport t action =>
    obtain ⟨⟨pc,sh⟩,ran,rfl⟩ := Option.map_eq_some_iff.mp taken
    obtain ⟨own,queues⟩ := transportStep_io ok io.queues (io.transport t) advances ran
    refine ⟨queues,waiting,?_,fun l => (io.worker l).mono advances,reading⟩
    intro t'
    by_cases same : t' = t
    · subst same; simpa using own
    · simpa [same] using (io.transport t').mono advances
  | reader l action =>
    obtain ⟨config,configured,stepped⟩ := Option.bind_eq_some_iff.mp taken
    obtain ⟨⟨pc,sh⟩,ran,rfl⟩ := Option.map_eq_some_iff.mp stepped
    refine io.keeps advances (readerStep_keeps ran) waiting rfl rfl ?_
    intro l'
    by_cases same : l' = l
    · subst same; simpa using readerStep_io ok configured (io.reader l') advances ran
    · simpa [same] using reading l'
  | worker l =>
    simp only [step] at taken
    split at taken
    · obtain ⟨⟨pc,sh⟩,ran,rfl⟩ := Option.map_eq_some_iff.mp taken
      obtain ⟨own,queues⟩ := workerStep_io io.queues (io.worker l) advances ran
      refine ⟨queues,waiting,fun t => (io.transport t).mono advances,?_,reading⟩
      intro l'
      by_cases same : l' = l
      · subst same; simpa using own
      · simpa [same] using (io.worker l').mono advances
    · cases taken
  | hotplug connected info =>
    cases taken
    exact io.keeps advances (.of_eq rfl rfl) waiting rfl rfl reading

end

theorem init_io : IoOk {} := by
  refine ⟨⟨?_,?_⟩,fun _ => trivial,fun _ => trivial,fun _ => trivial,fun _ => ⟨fun _ => rfl,nofun⟩⟩
  · intro l command member; cases member
  · intro l op member; cases member

/-- Both invariants of the daemon. -/
def Sound (daemon : Daemon) (w : World) : Prop := WorldOk daemon w ∧ IoOk w

/-- In every run, every operation that a worker has started was accepted by the
    blocking state of the entry that was built for the worker. -/
theorem started_accepted {daemon : Daemon} {w : World} (reachable : Reachable daemon w) (l : Lifetime) (op : ReportOp)
    (started : (l,op) ∈ w.shared.starts) : ∃ e, w.shared.entryOf l = some e ∧
      e.lifetime = l ∧ e.blocking.isReportProtected e.vendorId e.productId op.reportId op.reportType = false ∧
      e.blocking.validateReportSend op.reportId op.reportType op.payloadLen = true := by
  obtain ⟨trace,run⟩ := reachable
  have sound : Sound daemon w := exec_invariant (fun _ _ _ sound taken => ⟨step_ok sound.1 taken,step_io sound.1 sound.2 taken⟩)
    (show Sound daemon {} from ⟨init_ok daemon,init_io⟩) run
  obtain ⟨e,built,accepts⟩ := sound.2.queues.started l op started
  refine ⟨e,built,(sound.1.built l e built).2.1,?_⟩
  unfold Accepts sendVerdict at accepts
  split at accepts
  · cases accepts
  next visible =>
    split at accepts
    next valid => exact ⟨Bool.eq_false_iff.mpr visible,valid⟩
    · cases accepts

/-- A client opens the device and sends two bytes, and the worker takes them up. -/
def oneSend : List Action :=
  connecting 1 ++ openingFirst 1 tokenA ++ [.client 1 (.report 7 (.output 0 [1,2]))] ++
    List.replicate 4 (.client 1 .advance) ++ List.replicate 3 (.worker 1)

/-- The send that the worker has started was accepted by the entry. -/
theorem started_accepted_send : ∃ w e, exec (step vendorDaemon) {} oneSend = some w ∧
    w.shared.starts = [(1,.output 0 [1,2])] ∧ w.shared.entryOf 1 = some e ∧
    e.blocking.isReportProtected e.vendorId e.productId 0 .output = false ∧
    e.blocking.validateReportSend 0 .output (some 2) = true := by
  obtain ⟨w,run⟩ := Option.isSome_iff_exists.mp (by decide : (exec (step vendorDaemon) {} oneSend).isSome = true)
  have starts : (exec (step vendorDaemon) {} oneSend).map (·.shared.starts) = some [(1,.output 0 [1,2])] := by decide
  rw [run] at starts
  have started : w.shared.starts = [(1,.output 0 [1,2])] := Option.some.inj starts
  obtain ⟨e,built,_,visible,valid⟩ := started_accepted ⟨oneSend,run⟩ 1 (.output 0 [1,2]) (by rw [started]; simp)
  exact ⟨w,e,run,started,built,visible,valid⟩

end FFWebHid.IoAuthority
