import FFWebHid.Maps
import FFWebHid.Runs
import FFWebHid.Types
import FFWebHid.Registry
import FFWebHid.Lifecycle
import FFWebHid.Coherence
import FFWebHid.Sections
import FFWebHid.Threads
import FFWebHid.Safety

/-!
Which physical lifetime a teardown ends. A reader that lost its device and an
event task that is told of a disconnect both find the entry by the identifier of
the device, so both can end a lifetime that is not the one they know of.
-/
namespace FFWebHid.Lifetimes
open FFWebHid.Runs FFWebHid.Types FFWebHid.Maps FFWebHid.Registry FFWebHid.Lifecycle FFWebHid.Coherence
open FFWebHid.Sections FFWebHid.Threads FFWebHid.Safety

/-- The entry of a device and its sessions are left alone, with their hashes,
    their transport capabilities and the bindings on the device. -/
structure Survives (d : DeviceId) (m m' : DeviceManager) : Prop where
  entry : m'.devices.lookup d = m.devices.lookup d
  sessions : ∀ t s, m.sessions.lookup t = some s → s.deviceId = d → m'.sessions.lookup t = some s
  hashes : ∀ h t s, m.wsAuthHashes.lookup h = some t → m.sessions.lookup t = some s → s.deviceId = d →
    m'.wsAuthHashes.lookup h = some t
  capabilities : ∀ t f s, m.transportValidity.lookup t = some f → m.sessions.lookup t = some s → s.deviceId = d →
    m'.transportValidity.lookup t = some f ∧ m'.valid f = true
  bindings : ∀ c hot, m.nmHot.lookup (c,d) = some hot → m'.nmHot.lookup (c,d) = some hot ∧ m'.valid hot.valid = true

theorem Survives.refl {m : DeviceManager} (coherent : Coherent m) (d : DeviceId) : Survives d m m := by
  have flagsOk := coherent.flagsOk
  refine ⟨rfl,fun _ _ found _ => found,fun _ _ _ hashed _ _ => hashed,?_,?_⟩
  · intro t f s held _ _
    exact ⟨held,flagsOk.set (.transport t) f held⟩
  · intro c hot stored
    exact ⟨stored,flagsOk.set (.nm c d) hot.valid (Option.map_eq_some_iff.mpr ⟨hot,stored,rfl⟩)⟩

/-- Detaching a device leaves every other one alone. -/
theorem Survives.of_detached {m m' : DeviceManager} {d gone : DeviceId} (detached : Detached gone m m')
    (other : d ≠ gone) : Survives d m m' := by
  have kept (t : Token) (s : Session) (found : m.sessions.lookup t = some s) (device : s.deviceId = d) :
      m'.sessions.lookup t = some s :=
    (detached.session_iff t s).mpr ⟨found,fun same => other (device.symm.trans same)⟩
  refine ⟨?_,kept,?_,?_,?_⟩
  · rw [detached.devices,if_neg other]
  · intro h t s hashed found device
    exact (detached.hashes h t).mpr ⟨hashed,s,kept t s found device⟩
  · intro t f s held found device
    have still := (detached.transports t f).mpr ⟨held,s,kept t s found device⟩
    exact ⟨still,detached.flagsOk.set (.transport t) f still⟩
  · intro c hot stored
    have still : m'.nmHot.lookup (c,d) = some hot := by rw [detached.hot,if_neg other]; exact stored
    exact ⟨still,detached.flagsOk.set (.nm c d) hot.valid (Option.map_eq_some_iff.mpr ⟨hot,still,rfl⟩)⟩

/-- Detaching a device that is open does not leave it alone. -/
theorem not_survives {m m' : DeviceManager} {d : DeviceId} {e : Entry} (detached : Detached d m m')
    (present : m.devices.lookup d = some e) : ¬ Survives d m m' := by
  intro survives
  have same := survives.entry
  rw [detached.devices,if_pos rfl,present] at same
  cases same

/-! ### A reader that lost its device -/

section
variable {daemon : Daemon} {w w' : World}

/-- When the reader of a lifetime cleans up after a read error, every device that
    another lifetime has open survives, and the reader ends without telling of
    a disconnect when that device is its own. -/
def ReaderSpares (w : World) (a : Action) (w' : World) : Prop :=
  ∀ l, a = .reader l .advance → w.reader l = .failed → ∀ d e, w.mgr.devices.lookup d = some e → e.lifetime ≠ l →
    Survives d w.mgr w'.mgr ∧
      ∀ config, w.shared.readerConfig l = some config → config.deviceId = d → w'.reader l = .stopped

/-- When the reader of a lifetime cleans up, its device is closed or still open
    under that lifetime. -/
def ReaderOwns (w : World) (a : Action) (_ : World) : Prop :=
  ∀ l config, a = .reader l .advance → w.reader l = .failed → w.shared.readerConfig l = some config →
    ∀ e, w.mgr.devices.lookup config.deviceId = some e → e.lifetime = l

/-- What a reader does that cleans up. -/
private theorem cleanup_cases {l : Lifetime} (coherent : Coherent w.mgr) (failed : w.reader l = .failed)
    (taken : step daemon w (.reader l .advance) = some w') :
    ∃ config, w.shared.readerConfig l = some config ∧
      ((w.mgr.devices.lookup config.deviceId = none ∧ w'.mgr = w.mgr ∧ w'.reader l = .stopped) ∨
        ∃ e, w.mgr.devices.lookup config.deviceId = some e ∧ Detached config.deviceId w.mgr w'.mgr) := by
  obtain ⟨config,configured,stepped⟩ := Option.bind_eq_some_iff.mp taken
  obtain ⟨⟨pc,sh⟩,ran,rfl⟩ := Option.map_eq_some_iff.mp stepped
  refine ⟨config,configured,?_⟩
  rw [failed] at ran
  simp only [readerStep] at ran
  cases removed : w.shared.mgr.detachDeadReaderLifetime config.deviceId with
  | none =>
    rw [removed] at ran; cases ran
    exact Or.inl ⟨Option.map_eq_none_iff.mp removed,rfl,Function.update_self _ _ _⟩
  | some result =>
    obtain ⟨removed',mgr⟩ := result
    rw [removed] at ran; cases ran
    obtain ⟨detached,present⟩ := detachDeadReaderLifetime_detached coherent removed
    exact Or.inr ⟨removed'.1,present,detached⟩

private theorem readerSpares_step {a : Action} (ok : WorldOk daemon w) (taken : step daemon w a = some w') :
    ReaderSpares w a w' ↔ ReaderOwns w a w' := by
  constructor
  · intro spares l config rfl failed configured e present
    obtain ⟨config',configured',cases⟩ := cleanup_cases ok.coherent failed taken
    rw [configured] at configured'; cases configured'
    by_contra other
    obtain ⟨survives,_⟩ := spares l rfl failed config.deviceId e present other
    rcases cases with ⟨absent,_⟩ | ⟨e',present',detached⟩
    · rw [absent] at present; cases present
    · exact not_survives detached present survives
  · intro owns l rfl failed d e present other
    obtain ⟨config,configured,cases⟩ := cleanup_cases ok.coherent failed taken
    rcases cases with ⟨_,same,stopped⟩ | ⟨e',present',detached⟩
    · rw [same]
      exact ⟨Survives.refl ok.coherent d,fun _ _ _ => stopped⟩
    · -- The reader detaches a device of its own, which is not the one at hand.
      have apart : d ≠ config.deviceId := by
        rintro rfl
        exact other (owns l config rfl failed configured e present)
      refine ⟨Survives.of_detached detached apart,?_⟩
      intro config' configured' device
      rw [configured] at configured'; cases configured'
      exact absurd device.symm apart

/-- In every run: no reader that lost its device ends another lifetime, exactly
    when each finds its device closed or still open under its own. -/
theorem reader_spares_iff (daemon : Daemon) (trace : List Action) :
    AllSteps (step daemon) ReaderSpares {} trace ↔ AllSteps (step daemon) ReaderOwns {} trace :=
  allSteps_congr (fun _ _ _ => step_ok) (fun _ _ _ => readerSpares_step) (init_ok daemon)

end

/-- The reader of the first lifetime is reading when its session is closed; before
    the stop flag is set, another client opens the device and the read fails. -/
def crossedClose : List Action :=
  connecting 1 ++ connecting 2 ++ openingFirst 1 tokenA ++
    [.reader 1 .advance,.reader 1 .advance,.client 1 (.closeSession 7 tokenA)] ++ openingFirst 2 tokenB ++
    [.reader 1 (.read .error)]

/-- The rest of the cleanup, for which the worker of the second lifetime stops. -/
def crossedCleanup : List Action :=
  List.replicate 4 (.reader 1 .advance) ++ [.worker 2] ++ List.replicate 3 (.reader 1 .advance)

/-- The reader of the first lifetime tears down the second: its entry, session,
    hash and binding are gone, and its client is told of a disconnect. -/
theorem crossed_close_ends_other : ∃ w w' w'',
    exec (step vendorDaemon) {} crossedClose = some w ∧ w.reader 1 = .failed ∧
    step vendorDaemon w (.reader 1 .advance) = some w' ∧ exec (step vendorDaemon) w' crossedCleanup = some w'' ∧
    (w.mgr.devices.lookup 7).map (·.lifetime) = some 2 ∧ (w.mgr.sessions.lookup tokenB).isSome ∧
    (w.mgr.nmHot.lookup (2,7)).isSome ∧ w'.mgr.devices.lookup 7 = none ∧ w'.mgr.sessions.lookup tokenB = none ∧
    w'.mgr.wsAuthHashes.lookup (vendorDaemon.computeWsAuthHash tokenB) = none ∧ w'.mgr.nmHot.lookup (2,7) = none ∧
    (w''.shared.events 2).map (·.event) = [.deviceDisconnected vendorInfo] ∧
    ¬ AllSteps (step vendorDaemon) ReaderSpares {} (crossedClose ++ [.reader 1 .advance]) := by
  obtain ⟨w'',ran⟩ := Option.isSome_iff_exists.mp (by decide :
    (exec (step vendorDaemon) {} (crossedClose ++ [.reader 1 .advance] ++ crossedCleanup)).isSome = true)
  obtain ⟨w',before,after⟩ := exec_append.mp ran
  obtain ⟨w,run,last⟩ := exec_append.mp before
  obtain ⟨w₁,taken,done⟩ := exec_cons.mp last
  obtain rfl : w₁ = w' := Option.some.inj done
  have first : (exec (step vendorDaemon) {} crossedClose).map (fun w =>
      ((w.mgr.devices.lookup 7).map (·.lifetime),(w.mgr.sessions.lookup tokenB).isSome,
        (w.mgr.nmHot.lookup (2,7)).isSome)) = some (some 2,true,true) := by decide
  have second : (exec (step vendorDaemon) {} (crossedClose ++ [.reader 1 .advance])).map (fun w =>
      ((w.mgr.devices.lookup 7).map (·.lifetime),w.mgr.sessions.lookup tokenB,
        w.mgr.wsAuthHashes.lookup (vendorDaemon.computeWsAuthHash tokenB),
        (w.mgr.nmHot.lookup (2,7)).isSome)) = some (none,none,none,false) := by decide
  have third : (exec (step vendorDaemon) {} (crossedClose ++ [.reader 1 .advance] ++ crossedCleanup)).map (fun w =>
      (w.shared.events 2).map (·.event)) = some [.deviceDisconnected vendorInfo] := rfl
  have failed : (exec (step vendorDaemon) {} crossedClose).map (fun w => w.reader 1) = some .failed := rfl
  rw [run] at first failed
  rw [before] at second
  rw [ran] at third
  simp only [Option.map_some,Option.some.injEq,Prod.mk.injEq] at first second third failed
  obtain ⟨published,session,bound⟩ := first
  obtain ⟨absent,noSession,noHash,unbound⟩ := second
  have gone : w₁.mgr.devices.lookup 7 = none := Option.map_eq_none_iff.mp absent
  refine ⟨w,w₁,w'',run,failed,taken,after,published,session,bound,gone,noSession,noHash,
    Option.isNone_iff_eq_none.mp (Option.isSome_eq_false_iff.mp unbound),third,?_⟩
  intro spared
  obtain ⟨e,present,lifetime⟩ := Option.map_eq_some_iff.mp published
  have other : e.lifetime ≠ 1 := by rw [lifetime]; decide
  have survives := (spared.at run taken 1 rfl failed 7 e present other).1.entry
  rw [gone,present] at survives; cases survives

section
variable {daemon : Daemon} {w w' : World}

/-- When an event task takes a disconnect, every device survives that is open
    under a reservation taken after the event was emitted. -/
def DeliverySpares (w : World) (a : Action) (w' : World) : Prop :=
  ∀ c first rest info, a = .relay c .take → w.shared.events c = first :: rest →
    first.event = .deviceDisconnected info →
    ∀ d e, w.mgr.devices.lookup d = some e → first.stamp < e.lifetime → Survives d w.mgr w'.mgr

/-- When an event task takes a disconnect, the device is closed or open under a
    reservation taken before the event was emitted. -/
def DeliveredInTime (w : World) (a : Action) (_ : World) : Prop :=
  ∀ c first rest info, a = .relay c .take → w.shared.events c = first :: rest →
    first.event = .deviceDisconnected info →
    ∀ e, w.mgr.devices.lookup info.deviceId = some e → e.lifetime ≤ first.stamp

/-- An event task that takes a disconnect detaches the device of the event. -/
private theorem take_detached {c : ClientId} {first : Emitted} {rest : List Emitted} {info : DeviceInfo}
    (coherent : Coherent w.mgr) (queued : w.shared.events c = first :: rest)
    (lost : first.event = .deviceDisconnected info) (taken : step daemon w (.relay c .take) = some w') :
    Detached info.deviceId w.mgr w'.mgr := by
  obtain ⟨⟨pc,sh⟩,ran,rfl⟩ := Option.map_eq_some_iff.mp taken
  cases before : w.relay c with
  | idle =>
    simp only [before,relayStep,queued,lost] at ran
    split at ran
    · cases ran
      exact (forceClose_detached coherent info.deviceId).1
    · cases ran
  | teardown steps =>
    rw [before] at ran
    cases steps <;> cases ran

private theorem deliverySpares_step {a : Action} (ok : WorldOk daemon w) (taken : step daemon w a = some w') :
    DeliverySpares w a w' ↔ DeliveredInTime w a w' := by
  constructor
  · intro spares c first rest info rfl queued lost e present
    by_contra late
    exact not_survives (take_detached ok.coherent queued lost taken) present
      (spares c first rest info rfl queued lost info.deviceId e present (Nat.lt_of_not_le late))
  · intro inTime c first rest info rfl queued lost d e present later
    refine Survives.of_detached (take_detached ok.coherent queued lost taken) ?_
    rintro rfl
    exact absurd (inTime c first rest info rfl queued lost e present) (Nat.not_le_of_lt later)

/-- In every run: no delivery of a disconnect ends a lifetime that was reserved
    after the event, exactly when none finds its device open under such a one. -/
theorem delivery_spares_iff (daemon : Daemon) (trace : List Action) :
    AllSteps (step daemon) DeliverySpares {} trace ↔ AllSteps (step daemon) DeliveredInTime {} trace :=
  allSteps_congr (fun _ _ _ => step_ok) (fun _ _ _ => deliverySpares_step) (init_ok daemon)

end

/-- The device is unplugged, the task of the first client closes it, and the first
    client opens it again before the task of the second takes the event. -/
def lateDelivery : List Action :=
  connecting 1 ++ connecting 2 ++ openingFirst 1 tokenA ++ [.hotplug false vendorInfo,.relay 1 .take] ++
    openingFirst 1 tokenB

/-- The late delivery closes the second lifetime of the device. -/
theorem late_delivery_ends_other : ∃ w w',
    exec (step vendorDaemon) {} lateDelivery = some w ∧ step vendorDaemon w (.relay 2 .take) = some w' ∧
    (w.shared.events 2).map (·.stamp) = [1] ∧ (w.mgr.devices.lookup 7).map (·.lifetime) = some 2 ∧
    (w.mgr.sessions.lookup tokenB).isSome ∧ w'.mgr.devices.lookup 7 = none ∧ w'.mgr.sessions.lookup tokenB = none ∧
    ¬ AllSteps (step vendorDaemon) DeliverySpares {} (lateDelivery ++ [.relay 2 .take]) := by
  obtain ⟨w',before⟩ := Option.isSome_iff_exists.mp (by decide :
    (exec (step vendorDaemon) {} (lateDelivery ++ [.relay 2 .take])).isSome = true)
  obtain ⟨w,run,last⟩ := exec_append.mp before
  obtain ⟨w₁,taken,done⟩ := exec_cons.mp last
  obtain rfl : w₁ = w' := Option.some.inj done
  have first : (exec (step vendorDaemon) {} lateDelivery).map (fun w =>
      ((w.shared.events 2).map (·.stamp),(w.mgr.devices.lookup 7).map (·.lifetime),
        (w.mgr.sessions.lookup tokenB).isSome)) = some ([1],some 2,true) := by decide
  have second : (exec (step vendorDaemon) {} (lateDelivery ++ [.relay 2 .take])).map (fun w =>
      ((w.mgr.devices.lookup 7).map (·.lifetime),w.mgr.sessions.lookup tokenB)) = some (none,none) := by decide
  have queued : (exec (step vendorDaemon) {} lateDelivery).map (fun w => w.shared.events 2) =
      some [⟨.deviceDisconnected vendorInfo,1⟩] := rfl
  rw [run] at first queued
  rw [before] at second
  simp only [Option.map_some,Option.some.injEq,Prod.mk.injEq] at first second queued
  obtain ⟨stamps,published,session⟩ := first
  obtain ⟨absent,noSession⟩ := second
  have gone : w₁.mgr.devices.lookup 7 = none := Option.map_eq_none_iff.mp absent
  refine ⟨w,w₁,run,taken,stamps,published,session,gone,noSession,?_⟩
  intro spared
  obtain ⟨e,present,lifetime⟩ := Option.map_eq_some_iff.mp published
  have later : 1 < e.lifetime := by rw [lifetime]; decide
  have survives := (spared.at run taken 2 _ _ vendorInfo rfl queued rfl 7 e present later).entry
  rw [gone,present] at survives; cases survives

end FFWebHid.Lifetimes
