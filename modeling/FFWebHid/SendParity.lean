import FFWebHid.RequestFormats
import FFWebHid.TransportFrames
import FFWebHid.Safety

/-!
The two ways of a send to the daemon: packed over native messaging, checked
against the binding of the client, and framed over a transport, checked against
the entry of the device. While a session lasts its device keeps one entry, from
which the bindings take their checks.
-/
namespace FFWebHid.SendParity
open FFWebHid.Runs FFWebHid.Types FFWebHid.LittleEndian FFWebHid.WireFormats FFWebHid.TransportFrames
open FFWebHid.NativeMessages FFWebHid.RequestFormats FFWebHid.Registry FFWebHid.Coherence FFWebHid.Sections
open FFWebHid.Threads FFWebHid.Safety

/-- The two kinds of a send, with their type byte on either plane. -/
inductive SendKind where
  | output
  | feature
  deriving DecidableEq

def SendKind.reportType : SendKind → ReportType
  | .output => .output
  | .feature => .feature

def SendKind.packed : SendKind → UInt8
  | .output => pkgSendReport
  | .feature => pkgSendFeatureReport

def SendKind.framed : SendKind → UInt8
  | .output => msgSendReport
  | .feature => msgSendFeatureReport

/-- What the daemon is asked to send. -/
structure Send where
  deviceId : DeviceId
  reportType : ReportType
  reportId : UInt8
  payload : Bytes
  deriving DecidableEq

/-- The send in a packed message; an output report is parsed by its handler. -/
def packedSend (packed : Bytes) : Option Send :=
  match requestOfPacked packed with
  | .ok (.sendReport _ packed) =>
    (parsePackedSend packed).toOption.map fun (_,deviceId,reportId,data) => ⟨deviceId,.output,reportId,data⟩
  | .ok (.sendFeatureReport _ deviceId reportId data) => some ⟨deviceId,.feature,reportId,data⟩
  | _ => none

/-- The send in a frame from the transport of a device. -/
def framedSend (deviceId : DeviceId) (frame : Bytes) : Option Send :=
  match frame.head?,frame.drop 5 with
  | some msgType,reportId :: data =>
    if msgType = msgSendReport ∨ msgType = msgSendFeatureReport
    then some ⟨deviceId,(sendKind msgType).2,reportId,data⟩ else none
  | _,_ => none

def nmVerdict (m : DeviceManager) (clientId : ClientId) (send : Send) : Except SendReject Unit :=
  m.nmReportSendAllowed clientId send.deviceId send.reportId send.reportType (some send.payload.length)

def transportVerdict (m : DeviceManager) (send : Send) : Except SendReject Unit :=
  m.reportSendAllowed send.deviceId send.reportId send.reportType (some send.payload.length)

section Handlers
variable {σ : Type}

/-- What native messaging makes of a send: refused, or put before the worker. -/
def nmAnswer (daemon : NativeMessages.Daemon σ) (clientId : ClientId) (state : σ) (send : Send) : NmResponse × σ :=
  match nmVerdict (daemon.manager state) clientId send with
  | .error .blocked => (.err 403,state)
  | .error .invalid => (.err 500,state)
  | .ok () =>
    match (if send.reportType = .output
      then daemon.enqueueNmOutput state clientId send.deviceId send.reportId send.payload
      else daemon.enqueueNmFeatureWrite state clientId send.deviceId send.reportId send.payload) with
    | (.ok (),next) => (.ok,next)
    | (.error _,next) => (.err 500,next)

/-- What a transport makes of a send. -/
def transportStatus (calls : TransportCalls σ) (capability : Flag) (state : σ) (send : Send) : UInt8 × σ :=
  match transportVerdict (calls.manager state) send with
  | .error .blocked => (2,state)
  | .error .invalid => (1,state)
  | .ok () =>
    match (if send.reportType = .output
      then calls.enqueueTransportOutput state send.deviceId capability send.reportId send.payload
      else calls.enqueueTransportFeatureWrite state send.deviceId capability send.reportId send.payload) with
    | (.ok (),next) => (0,next)
    | (.error _,next) => (1,next)

/-- The handlers of native messaging act on a packed message by its send alone. -/
theorem handleRequest_packed (daemon : NativeMessages.Daemon σ) (clientId : ClientId) (state : σ) {packed : Bytes}
    {request : NmRequest} {send : Send} (decoded : requestOfPacked packed = .ok request)
    (asked : packedSend packed = some send) :
    ({ (handleRequest daemon clientId state request).1 with id := none },(handleRequest daemon clientId state request).2) =
      nmAnswer daemon clientId state send := by
  unfold packedSend at asked
  rw [decoded] at asked
  cases request with
  | sendReport id packed =>
    simp only [Option.map_eq_some_iff] at asked
    obtain ⟨⟨reqId,deviceId,reportId,data⟩,parsed,rfl⟩ := asked
    cases found : parsePackedSend packed with
    | error e => simp [found,Except.toOption] at parsed
    | ok request =>
      simp only [found,Except.toOption,Option.some.injEq] at parsed
      subst parsed
      simp only [handleRequest,handleSendReport,found,nmAnswer,nmVerdict,if_true]
      cases (daemon.manager state).nmReportSendAllowed clientId deviceId reportId .output (some data.length) with
      | error reason => cases reason <;> rfl
      | ok _ =>
        simp only
        rcases daemon.enqueueNmOutput state clientId deviceId reportId data with ⟨_ | _,next⟩ <;> rfl
  | sendFeatureReport id deviceId reportId data =>
    cases asked
    simp only [handleRequest,handleSendFeatureReport,reportPrecheck,nmAnswer,nmVerdict,reduceCtorEq,if_false]
    cases (daemon.manager state).nmReportSendAllowed clientId deviceId reportId .feature (some data.length) with
    | error reason => cases reason <;> rfl
    | ok _ =>
      simp only
      rcases daemon.enqueueNmFeatureWrite state clientId deviceId reportId data with ⟨_ | _,next⟩ <;> rfl
  | _ => cases asked

/-- The type byte of the response to a send. -/
def respOf (send : Send) : UInt8 := if send.reportType = .output then respSendReport else respSendFeatureReport

/-- The handler of a transport answers a frame by the status of its send. -/
theorem handleClientMessage_framed (calls : TransportCalls σ) (capability : Flag) (state : σ) {deviceId : DeviceId}
    {frame : Bytes} {send : Send} (valid : (calls.manager state).valid capability = true)
    (asked : framedSend deviceId frame = some send) :
    handleClientMessage calls deviceId capability state frame =
      (true,some (makeStatusResp (respOf send) (UInt32.ofNat (fieldAt frame 1 4))
        (transportStatus calls capability state send).1),(transportStatus calls capability state send).2) := by
  unfold framedSend at asked
  split at asked
  · case h_1 msgType reportId data first body =>
    split_ifs at asked with isSend
    cases asked
    have long : ¬ frame.length < 5 := by
      intro short
      rw [List.drop_eq_nil_of_le (by omega)] at body
      cases body
    cases frame with
    | nil => cases first
    | cons byte rest =>
      cases first
      have shortened : (reportId :: data).length - 1 = data.length := by simp
      simp only [handleClientMessage,valid,if_true,long,if_false,isSend,body,handleSendReportMsg,precheckReport,
        shortened,transportStatus,transportVerdict]
      have kind : (sendKind msgType).1 = respOf ⟨deviceId,(sendKind msgType).2,reportId,data⟩ ∧
          ((sendKind msgType).2 = .output ↔ msgType = msgSendReport) := by
        unfold sendKind respOf
        split_ifs <;> simp_all
      obtain ⟨response,output⟩ := kind
      rw [← response]
      simp only [output]
      cases (calls.manager state).reportSendAllowed deviceId reportId (sendKind msgType).2 (some data.length) with
      | error reason => cases reason <;> rfl
      | ok _ =>
        simp only [List.drop_succ_cons,List.drop_zero]
        split_ifs
        · rcases calls.enqueueTransportOutput state deviceId capability reportId data with ⟨_ | _,next⟩ <;> rfl
        · rcases calls.enqueueTransportFeatureWrite state deviceId capability reportId data with ⟨_ | _,next⟩ <;> rfl
  · cases asked

end Handlers

section Sessions
variable {daemon : Threads.Daemon} {w w' : World}

/-- A session that is registered once: no open is left that could register it, and
    as long as it is there it is on the device, which has the entry. -/
structure Anchored (t : Token) (d : DeviceId) (e : Entry) (w : World) : Prop where
  issued : t ∈ w.shared.issued
  unopened : ∀ c call, pendingCall (w.client c) = some call → call.token ≠ t
  entry : ∀ s, w.mgr.sessions.lookup t = some s → s.deviceId = d ∧ w.mgr.devices.lookup d = some e

/-- A session that a step keeps is still on its device, which keeps its entry. -/
theorem entry_kept (ok' : WorldOk daemon w') (effect : Effect w.mgr w'.mgr) {t : Token}
    {d : DeviceId} {e : Entry} {s' : Session} (anchored : Anchored t d e w) (known : w.mgr.sessions.lookup t ≠ none)
    (found : w'.mgr.sessions.lookup t = some s') : s'.deviceId = d ∧ w'.mgr.devices.lookup d = some e := by
  rcases effect.session found with absent | ⟨s,before,_,device,_⟩
  · exact absurd absent known
  · obtain ⟨here,old⟩ := anchored.entry s before
    obtain ⟨e',after⟩ := (ok'.coherent.registry.published d).mpr ⟨t,s',found,device.symm.trans here⟩
    exact ⟨device.symm.trans here,by rw [after,effect.device old after]⟩

theorem pending_withClient {c c' : ClientId} {pc : ClientPc} {sh : Shared} {call : OpenCall}
    (kept : ∀ call, pendingCall pc = some call → pendingCall (w.client c) = some call)
    (pending : pendingCall ((withClient w c pc sh).client c') = some call) : pendingCall (w.client c') = some call := by
  by_cases here : c' = c
  · subst here
    exact kept call (by simpa [withClient] using pending)
  · simpa [withClient,here] using pending

theorem Anchored.step (ok' : WorldOk daemon w') (move : Move daemon w w') {t : Token}
    {d₀ : DeviceId} {e : Entry} (anchored : Anchored t d₀ e w) : Anchored t d₀ e w' := by
  have effect := move.effect
  have gone : w.mgr.sessions.lookup t = none → w'.mgr.sessions.lookup t = none := by
    intro absent
    cases move with
    | quiet shared _ => exact shared.mgr.noNew t absent
    | issues _ _ _ _ _ result => exact result ▸ absent
    | reserves _ _ m _ same _ result =>
      subst result
      exact (congrArg (AList.lookup t) same.sessions).trans absent
    | builds _ _ _ _ _ _ result => exact result ▸ absent
    | registers c call d pc m pending _ registered _ _ _ result =>
      subst result
      exact (registered.others t (anchored.unopened c call pending).symm).trans absent
  have entry : ∀ s', w'.mgr.sessions.lookup t = some s' →
      s'.deviceId = d₀ ∧ w'.mgr.devices.lookup d₀ = some e := by
    intro s' found
    refine entry_kept ok' effect anchored (fun absent => ?_) found
    rw [gone absent] at found
    cases found
  cases move with
  | quiet shared inherits =>
    exact ⟨shared.issued ▸ anchored.issued,
      fun c call pending => anchored.unopened c call ((inherits c).pending call pending),entry⟩
  | issues c d t' idle fresh result =>
    subst result
    refine ⟨List.mem_cons_of_mem _ anchored.issued,fun c' call pending => ?_,entry⟩
    by_cases here : c' = c
    · subst here
      have opened : call = ⟨d,t'⟩ := by simpa [withClient,pendingCall,eq_comm] using pending
      exact opened ▸ (fresh t anchored.issued).1.symm
    · exact anchored.unopened c' call (by simpa [withClient,here] using pending)
  | reserves c call m pending same generation result =>
    subst result
    exact ⟨anchored.issued,fun c' call' pending' => anchored.unopened c' call'
      (pending_withClient (fun _ same => same ▸ pending) pending'),entry⟩
  | builds c call g info numbered here result =>
    subst result
    exact ⟨anchored.issued,fun c' call' pending' => anchored.unopened c' call'
      (pending_withClient (fun _ same => here ▸ same) pending'),entry⟩
  | registers c call d pc m pending effect registered devices inherits finished result =>
    subst result
    exact ⟨anchored.issued,fun c' call' pending' => anchored.unopened c' call'
      (pending_withClient (fun _ held => by cases finished.1.symm.trans held) pending'),entry⟩

/-- A session that is there is anchored. -/
theorem anchored_of_session (ok : WorldOk daemon w) {t : Token} {s : Session}
    (found : w.mgr.sessions.lookup t = some s) :
    ∃ e, Anchored t s.deviceId e w ∧ w.mgr.devices.lookup s.deviceId = some e := by
  obtain ⟨e,present⟩ := (ok.coherent.registry.published s.deviceId).mpr ⟨t,s,found,rfl⟩
  refine ⟨e,⟨(ok.sessions t s found).1,?_,?_⟩,present⟩
  · rintro c call pending rfl
    rw [(ok.pending c call pending).2] at found
    cases found
  · intro s' found'
    rw [found] at found'
    cases found'
    exact ⟨rfl,present⟩

/-- As long as a session lasts, it is on one device, which keeps one entry. -/
theorem entry_of_session (reached : Reachable daemon w) {later : List Threads.Action}
    (run : exec (Threads.step daemon) w later = some w') {t : Token} {s s' : Session}
    (found : w.mgr.sessions.lookup t = some s) (found' : w'.mgr.sessions.lookup t = some s') :
    s'.deviceId = s.deviceId ∧ w'.mgr.devices.lookup s.deviceId = w.mgr.devices.lookup s.deviceId := by
  obtain ⟨e,anchored,present⟩ := anchored_of_session (reachable_ok reached) found
  have kept := exec_invariant (I := fun w => WorldOk daemon w ∧ Anchored t s.deviceId e w)
    (fun w a w' ⟨ok,anchored⟩ taken => ⟨step_ok ok taken,anchored.step (step_ok ok taken) (step_move ok taken)⟩)
    ⟨reachable_ok reached,anchored⟩ run
  rw [present]
  exact kept.2.entry s' found'

/-- Two states of one run of the daemon, in either order. -/
def SameRun (daemon : Threads.Daemon) (w w' : World) : Prop :=
  (Reachable daemon w ∧ ∃ later, exec (Threads.step daemon) w later = some w') ∨
    Reachable daemon w' ∧ ∃ later, exec (Threads.step daemon) w' later = some w

theorem SameRun.reachable (same : SameRun daemon w w') : Reachable daemon w ∧ Reachable daemon w' := by
  rcases same with ⟨⟨trace,run⟩,later,rest⟩ | ⟨⟨trace,run⟩,later,rest⟩
  · exact ⟨⟨trace,run⟩,trace ++ later,exec_append.mpr ⟨w,run,rest⟩⟩
  · exact ⟨⟨trace ++ later,exec_append.mpr ⟨w',run,rest⟩⟩,trace,run⟩

theorem SameRun.entry (same : SameRun daemon w w') {t : Token} {s s' : Session}
    (found : w.mgr.sessions.lookup t = some s) (found' : w'.mgr.sessions.lookup t = some s') :
    s'.deviceId = s.deviceId ∧ w'.mgr.devices.lookup s.deviceId = w.mgr.devices.lookup s.deviceId := by
  rcases same with ⟨reached,later,run⟩ | ⟨reached,later,run⟩
  · exact entry_of_session reached run found found'
  · obtain ⟨device,entries⟩ := entry_of_session reached run found' found
    exact ⟨device.symm,device.symm ▸ entries.symm⟩

/-! ### The two planes of a session -/

/-- A session in NM mode, of a client that is connected. -/
structure OnNm (w : World) (t : Token) (s : Session) : Prop where
  session : w.mgr.sessions.lookup t = some s
  mode : s.mode = .nm
  connected : ∃ sink, w.mgr.nmSinks.lookup s.ownerClientId = some sink

/-- A session that a transport with this capability serves. -/
structure OnTransport (w : World) (t : Token) (s : Session) (capability : Flag) : Prop where
  session : w.mgr.sessions.lookup t = some s
  capability : w.mgr.transportValidity.lookup t = some capability

/-- The check over native messaging is the one of the device's entry. -/
theorem nmVerdict_eq (ok : WorldOk daemon w) {t : Token} {s : Session} (onNm : OnNm w t s) {send : Send}
    (device : send.deviceId = s.deviceId) : nmVerdict w.mgr s.ownerClientId send = transportVerdict w.mgr send := by
  obtain ⟨hot,stored⟩ := (binding_iff ok.coherent s.ownerClientId s.deviceId).mpr
    ⟨onNm.connected,t,s,onNm.session,rfl,rfl,onNm.mode⟩
  obtain ⟨e,present,_,_,blocking,vendor,product,_⟩ := binding_entry ok.coherent stored
  unfold nmVerdict transportVerdict DeviceManager.nmReportSendAllowed DeviceManager.reportSendAllowed
  rw [device,stored,present]
  simp only [blocking,vendor,product]

/-- Both planes hand over what the page asked to send, and come to one verdict. -/
structure SameSend (m m' : DeviceManager) (clientId : ClientId) (deviceId : DeviceId) (kind : SendKind)
    (reqId reqId' : Nat) (reportId : UInt8) (data : Bytes) : Prop where
  packed : packedSend (buildPackedSend kind.packed reqId deviceId.toNat reportId.toNat data) =
    some ⟨deviceId,kind.reportType,reportId,data⟩
  framed : framedSend deviceId (buildSendFrame kind.framed reqId' reportId.toNat (some data)) =
    some ⟨deviceId,kind.reportType,reportId,data⟩
  verdict : nmVerdict m clientId ⟨deviceId,kind.reportType,reportId,data⟩ =
    transportVerdict m' ⟨deviceId,kind.reportType,reportId,data⟩

theorem packedSend_of_parsed {kind : SendKind} {packed : Bytes} {reqId : UInt32} {deviceId : DeviceId}
    {reportId : UInt8} {data : Bytes} (type : packed.head? = some kind.packed)
    (parsed : parsePackedSend packed = .ok (reqId,deviceId,reportId,data)) :
    packedSend packed = some ⟨deviceId,kind.reportType,reportId,data⟩ := by
  cases packed with
  | nil => cases type
  | cons msgType rest =>
    cases type
    unfold packedSend requestOfPacked
    cases kind with
    | output =>
      simp only [SendKind.packed] at parsed
      simp [SendKind.packed,SendKind.reportType,parsed,Except.toOption]
    | feature =>
      simp only [SendKind.packed] at parsed
      have apart : pkgSendFeatureReport ≠ pkgSendReport := by decide
      simp [SendKind.packed,SendKind.reportType,parsed,apart]

/-- A packed message is a send of the payload as far as its length, cut to 16 bits,
    reaches. -/
theorem packedSend_build (kind : SendKind) (reqId : Nat) (deviceId : DeviceId) (reportId : UInt8) (data : Bytes) :
    packedSend (buildPackedSend kind.packed reqId deviceId.toNat reportId.toNat data) =
      some ⟨deviceId,kind.reportType,reportId,data.take (data.length % 0x10000)⟩ := by
  have parsed := parsePackedSend_build kind.packed reqId deviceId.toNat reportId.toNat data
  rw [UInt32.ofNat_toNat,UInt8.ofNat_toNat] at parsed
  exact packedSend_of_parsed rfl parsed

/-- A frame is a send of the whole payload. -/
theorem framedSend_build (kind : SendKind) (reqId : Nat) (deviceId : DeviceId) (reportId : UInt8) (data : Bytes) :
    framedSend deviceId (buildSendFrame kind.framed reqId reportId.toNat (some data)) =
      some ⟨deviceId,kind.reportType,reportId,data⟩ := by
  cases kind <;> simp [framedSend,buildSendFrame,toLe,SendKind.framed,SendKind.reportType,sendKind,msgSendReport,msgSendFeatureReport]

theorem take_mod_iff {A : Type} (data : List A) (n : Nat) (positive : 0 < n) :
    data.take (data.length % n) = data ↔ data.length < n := by
  constructor
  · intro whole
    have long : data.length ≤ data.length % n := by
      have lengths := congrArg List.length whole
      rw [List.length_take] at lengths
      omega
    exact Nat.lt_of_le_of_lt long (Nat.mod_lt _ positive)
  · intro short
    rw [Nat.mod_eq_of_lt short,List.take_length]

/-- A session's sends are the same on both planes, at any time at which the one or
    the other serves it, exactly when the payload is shorter than 65536 bytes. -/
theorem send_parity_iff (same : SameRun daemon w w') {t : Token} {s s' : Session} {capability : Flag}
    (onNm : OnNm w t s) (onTransport : OnTransport w' t s' capability) (kind : SendKind) (reqId reqId' : Nat)
    (reportId : UInt8) (data : Bytes) :
    SameSend w.mgr w'.mgr s.ownerClientId s.deviceId kind reqId reqId' reportId data ↔ data.length < 0x10000 := by
  have cut := take_mod_iff data 0x10000 (by decide)
  constructor
  · rintro ⟨packed,_,_⟩
    rw [packedSend_build] at packed
    have payload := congrArg (Option.map Send.payload) packed
    exact cut.mp (Option.some.inj payload)
  · intro short
    refine ⟨?_,framedSend_build kind reqId' s.deviceId reportId data,?_⟩
    · rw [packedSend_build,cut.mpr short]
    · rw [nmVerdict_eq (reachable_ok same.reachable.1) onNm rfl]
      unfold transportVerdict DeviceManager.reportSendAllowed
      rw [(same.entry onNm.session onTransport.session).2]

end Sessions

/-- What a client does until it has the vendor device open over native messaging. -/
def openedOverNm : List Threads.Action := connecting 1 ++ openingFirst 1 tokenA

/-- A WebSocket connects with the session's hash. -/
def movesToWs : List Threads.Action :=
  [.transport 1 (.authenticate .ws (vendorDaemon.computeWsAuthHash tokenA)),.transport 1 .connect]

/-- The session is served over native messaging first and by the WebSocket then. -/
theorem served_on_both : ∃ w w' s s' capability, SameRun vendorDaemon w w' ∧ OnNm w tokenA s ∧
    OnTransport w' tokenA s' capability := by
  obtain ⟨w',run⟩ := Option.isSome_iff_exists.mp
    (by decide : (exec (Threads.step vendorDaemon) {} (openedOverNm ++ movesToWs)).isSome = true)
  obtain ⟨w,first,second⟩ := exec_append.mp run
  have before : (exec (Threads.step vendorDaemon) {} openedOverNm).map (fun w =>
      (w.mgr.sessions.lookup tokenA).map fun s => (s.mode,(w.mgr.nmSinks.lookup s.ownerClientId).isSome)) =
      some (some (.nm,true)) := by decide
  have after : (exec (Threads.step vendorDaemon) {} (openedOverNm ++ movesToWs)).map (fun w =>
      ((w.mgr.sessions.lookup tokenA).isSome,(w.mgr.transportValidity.lookup tokenA).isSome)) =
      some (true,true) := by decide
  rw [first,Option.map_some,Option.some.injEq] at before
  rw [run,Option.map_some,Option.some.injEq,Prod.mk.injEq] at after
  obtain ⟨s,found,facts⟩ := Option.map_eq_some_iff.mp before
  obtain ⟨mode,connected⟩ := Prod.mk.inj facts
  obtain ⟨s',found'⟩ := Option.isSome_iff_exists.mp after.1
  obtain ⟨capability,granted⟩ := Option.isSome_iff_exists.mp after.2
  exact ⟨w,w',s,s',capability,.inl ⟨⟨_,first⟩,_,second⟩,⟨found,mode,Option.isSome_iff_exists.mp connected⟩,found',granted⟩

theorem send_parity_two_bytes : ∃ (w w' : World) (s : Session), SameRun vendorDaemon w w' ∧
    SameSend w.mgr w'.mgr s.ownerClientId s.deviceId .output 1 1 0 [0xA5,0x5A] := by
  obtain ⟨w,w',s,s',capability,same,onNm,onTransport⟩ := served_on_both
  exact ⟨w,w',s,same,(send_parity_iff same onNm onTransport .output 1 1 0 [0xA5,0x5A]).mpr (by decide)⟩

/-- A payload of 65536 bytes is empty over native messaging. -/
theorem long_payload_is_cut : ∃ w w' s s' capability, SameRun vendorDaemon w w' ∧ OnNm w tokenA s ∧
    OnTransport w' tokenA s' capability ∧
    ¬ SameSend w.mgr w'.mgr s.ownerClientId s.deviceId .output 1 1 0 (List.replicate 0x10000 0) := by
  obtain ⟨w,w',s,s',capability,same,onNm,onTransport⟩ := served_on_both
  refine ⟨w,w',s,s',capability,same,onNm,onTransport,?_⟩
  rintro ⟨packed,_,_⟩
  rw [packedSend_build,List.length_replicate] at packed
  have payload := congrArg (Option.map fun send => send.payload.length) packed
  simp only [Option.map_some,Nat.mod_self,List.take_zero,List.length_nil,List.length_replicate,Option.some.injEq] at payload
  omega

end FFWebHid.SendParity
