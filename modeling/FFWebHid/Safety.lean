import FFWebHid.Maps
import FFWebHid.Runs
import FFWebHid.Capabilities
import FFWebHid.Types
import FFWebHid.Descriptor
import FFWebHid.Registry
import FFWebHid.Lifecycle
import FFWebHid.Coherence
import FFWebHid.Sections
import FFWebHid.Threads

/-!
The invariant of the whole daemon. Threads other than an opening client leave
tokens, reservations and built entries alone, so most steps need one lemma; the
steps of an open are taken one by one.
-/
namespace FFWebHid.Safety
open FFWebHid.Types FFWebHid.Maps FFWebHid.Descriptor FFWebHid.Registry FFWebHid.Lifecycle FFWebHid.Coherence
open FFWebHid.Sections
open FFWebHid.Threads FFWebHid.Registry.DeviceManager

/-- The open that a client has in progress and has not registered yet. -/
def pendingCall : ClientPc → Option OpenCall
  | .opening call .enter => some call
  | .opening call (.wait _ _) => some call
  | .opening call .recheck => some call
  | .opening call (.physical _) => some call
  | .opening call (.check _ _ _) => some call
  | .opening call (.spawn _ _ _) => some call
  | .opening call (.install _ _ _) => some call
  | _ => none

/-- The reservation that a client holds. -/
def generationOf : ClientPc → Option Nat
  | .opening _ (.physical g) => some g
  | .opening _ (.check g _ _) => some g
  | .opening _ (.spawn g _ _) => some g
  | .opening _ (.install g _ _) => some g
  | .opening _ (.stopLocal g _) => some g
  | .opening _ (.start g) => some g
  | .opening _ (.release g) => some g
  | _ => none

/-- The reservation of a client that has not built its entry yet. -/
def unbuilt : ClientPc → Option Nat
  | .opening _ (.physical g) => some g
  | .opening _ (.check g _ _) => some g
  | .opening _ (.spawn g _ _) => some g
  | _ => none

/-- The entry that a client is about to publish. -/
def installing : ClientPc → Option (Nat × Entry)
  | .opening _ (.install g _ e) => some (g,e)
  | _ => none

structure WorldOk (daemon : Daemon) (w : World) : Prop where
  coherent : Coherent w.mgr
  sessions : ∀ t s, w.mgr.sessions.lookup t = some s →
    t ∈ w.shared.issued ∧ s.wsAuthHash = daemon.computeWsAuthHash t
  distinct : ∀ t ∈ w.shared.issued, ∀ t' ∈ w.shared.issued,
    daemon.computeWsAuthHash t = daemon.computeWsAuthHash t' → t = t'
  pending : ∀ c call, pendingCall (w.client c) = some call →
    call.token ∈ w.shared.issued ∧ w.mgr.sessions.lookup call.token = none
  pendingApart : ∀ c c' call call', pendingCall (w.client c) = some call → pendingCall (w.client c') = some call' →
    call.token = call'.token → c = c'
  reserved : ∀ c g, generationOf (w.client c) = some g → g ≤ w.mgr.nextLifetimeGeneration
  reservedApart : ∀ c c' g, generationOf (w.client c) = some g → generationOf (w.client c') = some g → c = c'
  fresh : ∀ c g, unbuilt (w.client c) = some g → w.shared.entryOf g = none
  built : ∀ (g : Nat) e, w.shared.entryOf g = some e →
    g ≤ w.mgr.nextLifetimeGeneration ∧ e.lifetime = g ∧ e.ioTx = some g
  installing : ∀ c g e, installing (w.client c) = some (g,e) → w.shared.entryOf g = some e
  published : ∀ d e, w.mgr.devices.lookup d = some e → w.shared.entryOf e.lifetime = some e
  configured : ∀ g, w.shared.entryOf g = none → w.shared.readerConfig g = none

/-- The token of a pending open is fresh for the registry. -/
theorem WorldOk.isFresh {daemon : Daemon} {w : World} (ok : WorldOk daemon w) {c : ClientId} {call : OpenCall}
    (pending : pendingCall (w.client c) = some call) :
    Fresh w.mgr call.token (daemon.computeWsAuthHash call.token) := by
  obtain ⟨issued,absent⟩ := ok.pending c call pending
  refine ⟨absent,?_⟩
  cases hashed : w.mgr.wsAuthHashes.lookup (daemon.computeWsAuthHash call.token) with
  | none => rfl
  | some t =>
    obtain ⟨s,found,hash⟩ := (ok.coherent.registry.hashed _ t).mp hashed
    obtain ⟨known,same⟩ := ok.sessions t s found
    have equal := ok.distinct t known call.token issued (same.symm.trans hash)
    rw [equal,absent] at found; cases found

structure QuietShared (sh sh' : Shared) : Prop where
  mgr : Quiet sh.mgr sh'.mgr
  issued : sh'.issued = sh.issued
  entryOf : sh'.entryOf = sh.entryOf
  readerConfig : sh'.readerConfig = sh.readerConfig

theorem QuietShared.refl (sh : Shared) : QuietShared sh sh := ⟨.refl _,rfl,rfl,rfl⟩

/-- Only the registry changed. -/
theorem QuietShared.of_mgr {sh : Shared} {m : DeviceManager} (quiet : Quiet sh.mgr m) :
    QuietShared sh { sh with mgr := m } := ⟨quiet,rfl,rfl,rfl⟩

/-- A client keeps what it holds or gives it up. -/
structure Inherits (pc pc' : ClientPc) : Prop where
  pending : ∀ call, pendingCall pc' = some call → pendingCall pc = some call
  generation : ∀ g, generationOf pc' = some g → generationOf pc = some g
  unbuilt : ∀ g, unbuilt pc' = some g → unbuilt pc = some g
  installing : ∀ x, installing pc' = some x → installing pc = some x

theorem Inherits.refl (pc : ClientPc) : Inherits pc pc := ⟨fun _ => id,fun _ => id,fun _ => id,fun _ => id⟩

theorem WorldOk.quiet {daemon : Daemon} {w w' : World} (ok : WorldOk daemon w)
    (quiet : QuietShared w.shared w'.shared) (inherits : ∀ c, Inherits (w.client c) (w'.client c)) :
    WorldOk daemon w' := by
  have generation : w'.mgr.nextLifetimeGeneration = w.mgr.nextLifetimeGeneration := quiet.mgr.generation
  refine ⟨quiet.mgr.effect.coherent ok.coherent,?_,?_,?_,?_,?_,?_,?_,?_,?_,?_,?_⟩
  · intro t s' found
    obtain ⟨s,before,_,_,hash⟩ := quiet.mgr.session found
    obtain ⟨issued,same⟩ := ok.sessions t s before
    exact ⟨quiet.issued ▸ issued,hash ▸ same⟩
  · rw [quiet.issued]; exact ok.distinct
  · intro c call pending
    obtain ⟨issued,absent⟩ := ok.pending c call ((inherits c).pending call pending)
    exact ⟨quiet.issued ▸ issued,quiet.mgr.noNew _ absent⟩
  · intro c c' call call' pending pending'
    exact ok.pendingApart c c' call call' ((inherits c).pending call pending) ((inherits c').pending call' pending')
  · intro c g holds
    rw [generation]; exact ok.reserved c g ((inherits c).generation g holds)
  · intro c c' g holds holds'
    exact ok.reservedApart c c' g ((inherits c).generation g holds) ((inherits c').generation g holds')
  · intro c g holds
    rw [quiet.entryOf]; exact ok.fresh c g ((inherits c).unbuilt g holds)
  · intro g e built
    rw [generation]; exact ok.built g e (quiet.entryOf ▸ built)
  · intro c g e holds
    rw [quiet.entryOf]; exact ok.installing c g e ((inherits c).installing _ holds)
  · intro d e present
    rw [quiet.entryOf]; exact ok.published d e (quiet.mgr.device ok.coherent present)
  · rw [quiet.entryOf,quiet.readerConfig]; exact ok.configured

private theorem emit_quiet (sh : Shared) (event : IpcResponse) : QuietShared sh (sh.emit event) :=
  ⟨.refl _,rfl,rfl,rfl⟩

private theorem push_quiet {sh sh' : Shared} {l : Lifetime} {item : Queued} (pushed : sh.push l item = some sh') :
    QuietShared sh sh' := by
  unfold Shared.push at pushed
  split at pushed
  · cases pushed
  · cases pushed; exact ⟨.refl _,rfl,rfl,rfl⟩

theorem teardown_quiet {sh sh' : Shared} {instruction : TeardownStep} (ran : sh.teardown instruction = some sh') :
    QuietShared sh sh' := by
  cases instruction with
  | cancel t => cases ran; exact .of_mgr (.of_same ⟨rfl,rfl,rfl,rfl,rfl,rfl,rfl,rfl⟩ rfl)
  | subNonNm n =>
    cases ran
    refine .of_mgr (.of_same ?_ ?_)
    · cases sh.mgr; exact ⟨rfl,rfl,rfl,rfl,rfl,rfl,rfl,rfl⟩
    · cases sh.mgr; rfl
  | setStop l => cases ran; exact ⟨.refl _,rfl,rfl,rfl⟩
  | bumpEpoch l => cases ran; exact ⟨.refl _,rfl,rfl,rfl⟩
  | releaseStart l => cases ran; exact ⟨.refl _,rfl,rfl,rfl⟩
  | requestShutdown l =>
    simp only [Shared.teardown] at ran
    split at ran
    · cases ran; exact .refl sh
    · exact push_quiet ran
  | joinReader l =>
    simp only [Shared.teardown] at ran
    split at ran <;> cases ran
    exact .refl sh
  | joinWorker l =>
    simp only [Shared.teardown] at ran
    split at ran <;> cases ran
    exact .refl sh
  | emit event => cases ran; exact emit_quiet sh event

private theorem relayStep_quiet {sh sh' : Shared} {c : ClientId} {running : Bool} {pc pc' : RelayPc} {a : RelayAction}
    (coherent : Coherent sh.mgr) (taken : relayStep sh c running pc a = some (pc',sh')) : QuietShared sh sh' := by
  unfold relayStep at taken
  split at taken
  · -- The event at the head of the queue is taken.
    split at taken
    · split at taken
      · cases taken
      · split at taken
        · cases taken
          exact ⟨forceClose_quiet coherent _,rfl,rfl,rfl⟩
        · cases taken; exact ⟨.refl _,rfl,rfl,rfl⟩
    · cases taken
  · split at taken
    · cases taken; exact ⟨.refl _,rfl,rfl,rfl⟩
    · cases taken
  · cases taken; exact .refl sh
  · obtain ⟨sh₁,ran,result⟩ := Option.map_eq_some_iff.mp taken
    cases result; exact teardown_quiet ran
  · cases taken

private theorem frameStep_quiet {sh sh' : Shared} {t : Nat} {link : Link} {pc pc' : FramePc}
    (taken : frameStep sh t link pc = some (pc',sh')) : QuietShared sh sh' := by
  unfold frameStep at taken
  split at taken
  · cases taken
  · cases taken; exact .refl sh
  · split at taken <;> cases taken <;> exact .refl sh
  · cases taken; exact .refl sh
  · split at taken
    · cases taken; exact .refl sh
    · split at taken <;> cases taken <;> exact .refl sh
  · cases taken; exact ⟨.refl _,rfl,rfl,rfl⟩
  · split at taken
    · cases taken; exact .refl sh
    · obtain ⟨sh₁,pushed,result⟩ := Option.map_eq_some_iff.mp taken
      cases result; exact push_quiet pushed
  · split at taken <;> cases taken
    exact .refl sh

private theorem transportStep_quiet {sh sh' : Shared} {t : Nat} {pc pc' : TransportPc} {a : TransportAction}
    (coherent : Coherent sh.mgr) (taken : transportStep sh t pc a = some (pc',sh')) : QuietShared sh sh' := by
  unfold transportStep at taken
  split at taken
  · obtain ⟨found,_,result⟩ := Option.map_eq_some_iff.mp taken
    cases result; exact .refl sh
  · split at taken
    · cases taken; exact .refl sh
    next connected => cases taken; exact .of_mgr (connect_quiet coherent connected)
  · cases taken; exact .refl sh
  · obtain ⟨⟨frame,sh₁⟩,ran,result⟩ := Option.map_eq_some_iff.mp taken
    cases result; exact frameStep_quiet ran
  · cases taken; exact .of_mgr (disconnect_quiet coherent)
  · obtain ⟨⟨frame,sh₁⟩,ran,result⟩ := Option.map_eq_some_iff.mp taken
    cases result; exact frameStep_quiet ran
  · cases taken

private theorem readerStep_quiet {sh sh' : Shared} {l : Lifetime} {config : ReaderConfig} {pc pc' : ReaderPc}
    {a : ReaderAction} (coherent : Coherent sh.mgr) (taken : readerStep sh l config pc a = some (pc',sh')) :
    QuietShared sh sh' := by
  unfold readerStep at taken
  split at taken
  · split at taken <;> cases taken
    exact .refl sh
  · split at taken <;> cases taken
    · exact ⟨.refl _,rfl,rfl,rfl⟩
    · exact .refl sh
  · cases taken; exact .refl sh
  · cases taken; exact .refl sh
  · cases taken; exact .refl sh
  · cases taken; exact .refl sh
  · cases taken; exact .refl sh
  · cases taken; exact .refl sh
  · cases taken; exact .refl sh
  · cases taken
    split
    · exact emit_quiet sh _
    · exact .refl sh
  · split at taken
    · cases taken; exact ⟨.refl _,rfl,rfl,rfl⟩
    next removed => cases taken; exact .of_mgr (detachDeadReaderLifetime_quiet coherent removed)
  · cases taken; exact ⟨.refl _,rfl,rfl,rfl⟩
  · obtain ⟨sh₁,ran,result⟩ := Option.map_eq_some_iff.mp taken
    cases result; exact teardown_quiet ran
  · cases taken

/-- Dropping the queued commands of a stopped worker only writes replies. -/
theorem answers_frame (replies : List Nat) (sh : Shared) :
    let sh' := replies.foldl (fun sh reply => sh.answer reply false) sh
    sh'.mgr = sh.mgr ∧ sh'.issued = sh.issued ∧ sh'.entryOf = sh.entryOf ∧ sh'.readerConfig = sh.readerConfig ∧
      sh'.queue = sh.queue ∧ sh'.starts = sh.starts ∧ sh'.epoch = sh.epoch := by
  induction replies generalizing sh with
  | nil => exact ⟨rfl,rfl,rfl,rfl,rfl,rfl,rfl⟩
  | cons reply rest ih => exact ih (sh.answer reply false)

private theorem workerStep_quiet {sh sh' : Shared} {l : Lifetime} {pc pc' : WorkerPc}
    (taken : workerStep sh l pc = some (pc',sh')) : QuietShared sh sh' := by
  unfold workerStep at taken
  split at taken
  · split at taken
    · cases taken
    · cases taken
      obtain ⟨mgr,issued,entryOf,readerConfig,_⟩ := answers_frame _ sh
      exact ⟨Quiet.of_same (mgr ▸ SameRegistry.refl _) (mgr ▸ rfl),issued,entryOf,readerConfig⟩
    · cases taken; exact ⟨.refl _,rfl,rfl,rfl⟩
  · split at taken <;> cases taken
    · exact .refl sh
    · exact ⟨.refl _,rfl,rfl,rfl⟩
  · split at taken <;> cases taken <;> exact ⟨.refl _,rfl,rfl,rfl⟩
  · cases taken; exact ⟨.refl _,rfl,rfl,rfl⟩
  · cases taken

/-! ### The steps of a client -/

section
variable {daemon : Daemon} {w : World}

/-- The world after a step of a client. -/
def withClient (w : World) (c : ClientId) (pc : ClientPc) (sh : Shared) : World :=
  { w with shared := sh, client := Function.update w.client c pc }

/-- What a step of the daemon does to tokens, reservations and entries: nothing;
    or a client draws a token, takes a reservation, builds its entry, or registers
    its session. -/
inductive Move (daemon : Daemon) (w w' : World) : Prop where
  | quiet (shared : QuietShared w.shared w'.shared) (inherits : ∀ c, Inherits (w.client c) (w'.client c))
  | issues (c : ClientId) (d : DeviceId) (t : Token) (idle : w.client c = .idle)
      (fresh : ∀ t' ∈ w.shared.issued, t' ≠ t ∧ daemon.computeWsAuthHash t' ≠ daemon.computeWsAuthHash t)
      (result : w' = withClient w c (.opening ⟨d,t⟩ .enter) { w.shared with issued := t :: w.shared.issued })
  | reserves (c : ClientId) (call : OpenCall) (m : DeviceManager) (pending : pendingCall (w.client c) = some call)
      (same : SameRegistry w.mgr m) (generation : m.nextLifetimeGeneration = w.mgr.nextLifetimeGeneration + 1)
      (result : w' = withClient w c (.opening call (.physical m.nextLifetimeGeneration)) { w.shared with mgr := m })
  | builds (c : ClientId) (call : OpenCall) (g : Nat) (info : DeviceInfo) (numbered : Bool)
      (here : w.client c = .opening call (.spawn g info numbered))
      (result : w' = withClient w c (.opening call (.install g info.deviceId (buildEntry daemon g info numbered)))
        { w.shared with
          readerConfig := Function.update w.shared.readerConfig g (some (buildReader daemon info numbered))
          entryOf := Function.update w.shared.entryOf g (some (buildEntry daemon g info numbered)) })
  | registers (c : ClientId) (call : OpenCall) (d : DeviceId) (pc : ClientPc) (m : DeviceManager)
      (pending : pendingCall (w.client c) = some call) (effect : Effect w.mgr m)
      (registered : Registered d call.token c (daemon.computeWsAuthHash call.token) w.mgr m)
      (devices : ∀ d e, m.devices.lookup d = some e →
        w.mgr.devices.lookup d = some e ∨ w.shared.entryOf e.lifetime = some e)
      (inherits : ∀ g, generationOf pc = some g → generationOf (w.client c) = some g)
      (finished : pendingCall pc = none ∧ unbuilt pc = none ∧ installing pc = none)
      (result : w' = withClient w c pc { w.shared with mgr := m })

private theorem client_quiet {c : ClientId} {pc : ClientPc} {sh : Shared} (quiet : QuietShared w.shared sh)
    (inherits : Inherits (w.client c) pc) : Move daemon w (withClient w c pc sh) := by
  refine .quiet quiet fun c' => ?_
  by_cases here : c' = c
  · subst here; simpa [withClient] using inherits
  · simpa [withClient,here] using Inherits.refl (w.client c')

/-- A pending open registers its session; the client keeps at most its reservation. -/
private theorem client_registers (ok : WorldOk daemon w) {c : ClientId} {call : OpenCall} {d : DeviceId}
    {pc : ClientPc} {m : DeviceManager} (pending : pendingCall (w.client c) = some call) (effect : Effect w.mgr m)
    (registered : Registered d call.token c (daemon.computeWsAuthHash call.token) w.mgr m)
    (devices : ∀ d e, m.devices.lookup d = some e →
      w.mgr.devices.lookup d = some e ∨ w.shared.entryOf e.lifetime = some e)
    (inherits : ∀ g, generationOf pc = some g → generationOf (w.client c) = some g)
    (finished : pendingCall pc = none ∧ unbuilt pc = none ∧ installing pc = none) :
    WorldOk daemon (withClient w c pc { w.shared with mgr := m }) := by
  obtain ⟨noPending,noUnbuilt,noInstalling⟩ := finished
  obtain ⟨issued,absent⟩ := ok.pending c call pending
  have others (c' : ClientId) (other : c' ≠ c) : (withClient w c pc { w.shared with mgr := m }).client c' = w.client c' :=
    Function.update_of_ne other _ _
  have own : (withClient w c pc { w.shared with mgr := m }).client c = pc := Function.update_self _ _ _
  have generation : m.nextLifetimeGeneration = w.mgr.nextLifetimeGeneration := registered.generation
  -- What a client holds afterwards it held before.
  have pendingBefore (c' : ClientId) (call' : OpenCall)
      (holds : pendingCall ((withClient w c pc { w.shared with mgr := m }).client c') = some call') :
      c' ≠ c ∧ pendingCall (w.client c') = some call' := by
    by_cases here : c' = c
    · subst here; rw [own,noPending] at holds; cases holds
    · rw [others c' here] at holds; exact ⟨here,holds⟩
  have generationBefore (c' : ClientId) (g : Nat)
      (holds : generationOf ((withClient w c pc { w.shared with mgr := m }).client c') = some g) :
      generationOf (w.client c') = some g := by
    by_cases here : c' = c
    · subst here; rw [own] at holds; exact inherits g holds
    · rw [others c' here] at holds; exact holds
  refine ⟨effect.coherent ok.coherent,?_,ok.distinct,?_,?_,?_,?_,?_,?_,?_,?_,ok.configured⟩
  · intro t s found
    by_cases here : t = call.token
    · subst here
      have same : m.sessions.lookup call.token = some s := found
      rw [registered.session] at same; cases same
      exact ⟨issued,rfl⟩
    · exact ok.sessions t s ((registered.others t here).symm.trans found)
  · intro c' call' holds
    obtain ⟨apart,before⟩ := pendingBefore c' call' holds
    obtain ⟨issued',absent'⟩ := ok.pending c' call' before
    refine ⟨issued',(registered.others _ ?_).trans absent'⟩
    intro same
    exact apart (ok.pendingApart c' c call' call before pending same)
  · intro c' c'' call' call'' holds holds'
    exact ok.pendingApart c' c'' call' call'' (pendingBefore c' call' holds).2 (pendingBefore c'' call'' holds').2
  · intro c' g holds
    exact generation ▸ ok.reserved c' g (generationBefore c' g holds)
  · intro c' c'' g holds holds'
    exact ok.reservedApart c' c'' g (generationBefore c' g holds) (generationBefore c'' g holds')
  · intro c' g holds
    by_cases here : c' = c
    · subst here; rw [own,noUnbuilt] at holds; cases holds
    · rw [others c' here] at holds; exact ok.fresh c' g holds
  · intro g e built
    exact generation ▸ ok.built g e built
  · intro c' g e holds
    by_cases here : c' = c
    · subst here; rw [own,noInstalling] at holds; cases holds
    · rw [others c' here] at holds; exact ok.installing c' g e holds
  · intro d' e present
    rcases devices d' e present with old | entered
    · exact ok.published d' e old
    · exact entered

/-- A client takes the next reservation. -/
private theorem client_reserves (ok : WorldOk daemon w) {c : ClientId} {call : OpenCall} {m : DeviceManager}
    (pending : pendingCall (w.client c) = some call) (same : SameRegistry w.mgr m)
    (generation : m.nextLifetimeGeneration = w.mgr.nextLifetimeGeneration + 1) :
    WorldOk daemon (withClient w c (.opening call (.physical m.nextLifetimeGeneration)) { w.shared with mgr := m }) := by
  obtain ⟨issued,absent⟩ := ok.pending c call pending
  generalize world : withClient w c (.opening call (.physical m.nextLifetimeGeneration)) { w.shared with mgr := m } = w'
  have others (c' : ClientId) (other : c' ≠ c) : w'.client c' = w.client c' := by
    rw [← world]; exact Function.update_of_ne other _ _
  have own : w'.client c = .opening call (.physical m.nextLifetimeGeneration) := by
    rw [← world]; exact Function.update_self _ _ _
  have mgr : w'.mgr = m := by rw [← world]; rfl
  have shared : w'.shared.issued = w.shared.issued ∧ w'.shared.entryOf = w.shared.entryOf ∧
      w'.shared.readerConfig = w.shared.readerConfig := by
    rw [← world]; exact ⟨rfl,rfl,rfl⟩
  have old (c' : ClientId) (g : Nat) (holds : generationOf (w'.client c') = some g) :
      (c' = c ∧ g = m.nextLifetimeGeneration) ∨
        (c' ≠ c ∧ generationOf (w.client c') = some g ∧ g < m.nextLifetimeGeneration) := by
    by_cases here : c' = c
    · subst here; rw [own] at holds; cases holds; exact Or.inl ⟨rfl,rfl⟩
    · rw [others c' here] at holds
      have bound := ok.reserved c' g holds
      exact Or.inr ⟨here,holds,by omega⟩
  have pendingBefore (c' : ClientId) (call' : OpenCall) (holds : pendingCall (w'.client c') = some call') :
      pendingCall (w.client c') = some call' := by
    by_cases here : c' = c
    · subst here; rw [own] at holds; cases holds; exact pending
    · rw [others c' here] at holds; exact holds
  refine ⟨mgr ▸ ok.coherent.congr same,?_,?_,?_,?_,?_,?_,?_,?_,?_,?_,?_⟩
  · rw [mgr,same.sessions,shared.1]; exact ok.sessions
  · rw [shared.1]; exact ok.distinct
  · intro c' call' holds
    rw [mgr,same.sessions,shared.1]
    exact ok.pending c' call' (pendingBefore c' call' holds)
  · intro c' c'' call' call'' holds holds'
    exact ok.pendingApart c' c'' call' call'' (pendingBefore c' call' holds) (pendingBefore c'' call'' holds')
  · intro c' g holds
    rw [mgr]
    rcases old c' g holds with ⟨_,rfl⟩ | ⟨_,_,below⟩ <;> omega
  · intro c' c'' g holds holds'
    rcases old c' g holds with ⟨rfl,rfl⟩ | ⟨_,before,below⟩
    · rcases old c'' _ holds' with ⟨rfl,_⟩ | ⟨_,_,below⟩
      · rfl
      · omega
    · rcases old c'' g holds' with ⟨_,same⟩ | ⟨_,before',_⟩
      · omega
      · exact ok.reservedApart c' c'' g before before'
  · intro c' g holds
    rw [shared.2.1]
    by_cases here : c' = c
    · subst here; rw [own] at holds; cases holds
      -- No entry has been built for a generation that was not taken yet.
      cases built : w.shared.entryOf m.nextLifetimeGeneration with
      | none => rfl
      | some e => have bound := (ok.built _ e built).1; omega
    · rw [others c' here] at holds; exact ok.fresh c' g holds
  · intro g e built
    rw [shared.2.1] at built
    obtain ⟨bound,rest⟩ := ok.built g e built
    exact ⟨by rw [mgr]; omega,rest⟩
  · intro c' g e holds
    rw [shared.2.1]
    by_cases here : c' = c
    · subst here; rw [own] at holds; cases holds
    · rw [others c' here] at holds; exact ok.installing c' g e holds
  · rw [mgr,same.devices,shared.2.1]; exact ok.published
  · rw [shared.2.1,shared.2.2]; exact ok.configured

private theorem generationOf_unbuilt {pc : ClientPc} {g : Nat} (holds : unbuilt pc = some g) :
    generationOf pc = some g := by
  unfold unbuilt at holds
  split at holds <;> first | exact holds | cases holds

/-- A client builds the entry of its reservation. -/
private theorem client_builds (ok : WorldOk daemon w) {c : ClientId} {call : OpenCall} {g : Nat} {info : DeviceInfo}
    {numbered : Bool} (here : w.client c = .opening call (.spawn g info numbered)) (config : Option ReaderConfig) :
    let entry := buildEntry daemon g info numbered
    WorldOk daemon (withClient w c (.opening call (.install g info.deviceId entry)) { w.shared with
      readerConfig := Function.update w.shared.readerConfig g config
      entryOf := Function.update w.shared.entryOf g (some entry) }) := by
  intro entry
  have unbuilt_c : unbuilt (w.client c) = some g := by rw [here]; rfl
  have absent : w.shared.entryOf g = none := ok.fresh c g unbuilt_c
  have holds_c : generationOf (w.client c) = some g := generationOf_unbuilt unbuilt_c
  -- What is recorded for other lifetimes stays.
  have kept {g' : Nat} {e : Entry} (recorded : w.shared.entryOf g' = some e) :
      Function.update w.shared.entryOf g (some entry) g' = some e := by
    have apart : g' ≠ g := by rintro rfl; rw [absent] at recorded; cases recorded
    rw [Function.update_of_ne apart]; exact recorded
  generalize world : withClient w c (.opening call (.install g info.deviceId entry)) _ = w'
  have mgr : w'.mgr = w.mgr := by rw [← world]; rfl
  have issued : w'.shared.issued = w.shared.issued := by rw [← world]; rfl
  have entryOf : w'.shared.entryOf = Function.update w.shared.entryOf g (some entry) := by rw [← world]; rfl
  have readerConfig : w'.shared.readerConfig = Function.update w.shared.readerConfig g config := by rw [← world]; rfl
  have others (c' : ClientId) (other : c' ≠ c) : w'.client c' = w.client c' := by
    rw [← world]; exact Function.update_of_ne other _ _
  have own : w'.client c = .opening call (.install g info.deviceId entry) := by
    rw [← world]; exact Function.update_self _ _ _
  have pendingBefore (c' : ClientId) (call' : OpenCall) (holds : pendingCall (w'.client c') = some call') :
      pendingCall (w.client c') = some call' := by
    by_cases same : c' = c
    · subst same; rw [own] at holds; rw [here]; exact holds
    · rw [others c' same] at holds; exact holds
  have generationBefore (c' : ClientId) (g' : Nat) (holds : generationOf (w'.client c') = some g') :
      generationOf (w.client c') = some g' := by
    by_cases same : c' = c
    · subst same; rw [own] at holds; rw [here]; exact holds
    · rw [others c' same] at holds; exact holds
  refine ⟨mgr ▸ ok.coherent,?_,?_,?_,?_,?_,?_,?_,?_,?_,?_,?_⟩
  · rw [mgr,issued]; exact ok.sessions
  · rw [issued]; exact ok.distinct
  · intro c' call' holds
    rw [mgr,issued]; exact ok.pending c' call' (pendingBefore c' call' holds)
  · intro c' c'' call' call'' holds holds'
    exact ok.pendingApart c' c'' call' call'' (pendingBefore c' call' holds) (pendingBefore c'' call'' holds')
  · intro c' g' holds
    rw [mgr]; exact ok.reserved c' g' (generationBefore c' g' holds)
  · intro c' c'' g' holds holds'
    exact ok.reservedApart c' c'' g' (generationBefore c' g' holds) (generationBefore c'' g' holds')
  · intro c' g' holds
    by_cases same : c' = c
    · subst same; rw [own] at holds; cases holds
    · rw [others c' same] at holds
      have apart : g' ≠ g := by
        rintro rfl
        exact same (ok.reservedApart c' c g' (generationOf_unbuilt holds) holds_c)
      rw [entryOf,Function.update_of_ne apart]
      exact ok.fresh c' g' holds
  · intro g' e built
    rw [mgr]
    rw [entryOf] at built
    by_cases same : g' = g
    · subst same
      rw [Function.update_self] at built
      rw [← Option.some.inj built]
      exact ⟨ok.reserved c g' holds_c,rfl,rfl⟩
    · rw [Function.update_of_ne same] at built; exact ok.built g' e built
  · intro c' g' e holds
    rw [entryOf]
    by_cases same : c' = c
    · subst same
      rw [own] at holds
      obtain ⟨first,second⟩ := Prod.mk.inj (Option.some.inj holds)
      rw [← first,← second]
      exact Function.update_self _ _ _
    · rw [others c' same] at holds; exact kept (ok.installing c' g' e holds)
  · intro d e present
    rw [entryOf]
    exact kept (ok.published d e (mgr ▸ present))
  · intro g' absent'
    rw [entryOf] at absent'
    have apart : g' ≠ g := by rintro rfl; rw [Function.update_self] at absent'; cases absent'
    rw [Function.update_of_ne apart] at absent'
    rw [readerConfig,Function.update_of_ne apart]
    exact ok.configured g' absent'

/-- A client draws a token and starts an open. -/
private theorem client_issues (ok : WorldOk daemon w) {c : ClientId} {d : DeviceId} {t : Token}
    (fresh : ∀ t' ∈ w.shared.issued, t' ≠ t ∧ daemon.computeWsAuthHash t' ≠ daemon.computeWsAuthHash t) :
    WorldOk daemon (withClient w c (.opening ⟨d,t⟩ .enter) { w.shared with issued := t :: w.shared.issued }) := by
  generalize world : withClient w c (.opening ⟨d,t⟩ .enter) _ = w'
  have mgr : w'.mgr = w.mgr := by rw [← world]; rfl
  have issued : w'.shared.issued = t :: w.shared.issued := by rw [← world]; rfl
  have entryOf : w'.shared.entryOf = w.shared.entryOf := by rw [← world]; rfl
  have others (c' : ClientId) (other : c' ≠ c) : w'.client c' = w.client c' := by
    rw [← world]; exact Function.update_of_ne other _ _
  have own : w'.client c = .opening ⟨d,t⟩ .enter := by rw [← world]; exact Function.update_self _ _ _
  have absent : w.mgr.sessions.lookup t = none := by
    cases found : w.mgr.sessions.lookup t with
    | none => rfl
    | some s => exact absurd rfl (fresh t (ok.sessions t s found).1).1
  have old (c' : ClientId) (call : OpenCall) (holds : pendingCall (w'.client c') = some call) :
      (c' = c ∧ call.token = t) ∨ (c' ≠ c ∧ pendingCall (w.client c') = some call ∧ call.token ≠ t) := by
    by_cases same : c' = c
    · subst same; rw [own] at holds; cases holds; exact Or.inl ⟨rfl,rfl⟩
    · rw [others c' same] at holds
      exact Or.inr ⟨same,holds,(fresh _ (ok.pending c' call holds).1).1⟩
  have kept {α : Type} (held : ClientPc → Option α) (silent : held (.opening ⟨d,t⟩ .enter) = none) {c' : ClientId} {x : α}
      (holds : held (w'.client c') = some x) : held (w.client c') = some x := by
    by_cases same : c' = c
    · subst same; rw [own,silent] at holds; cases holds
    · rw [others c' same] at holds; exact holds
  refine ⟨mgr ▸ ok.coherent,?_,?_,?_,?_,?_,?_,?_,?_,?_,?_,?_⟩
  · intro t' s found
    rw [mgr] at found; rw [issued]
    obtain ⟨known,hash⟩ := ok.sessions t' s found
    exact ⟨List.mem_cons_of_mem _ known,hash⟩
  · rw [issued]
    intro t₁ known₁ t₂ known₂ same
    rcases List.mem_cons.mp known₁ with rfl | old₁ <;> rcases List.mem_cons.mp known₂ with rfl | old₂
    · rfl
    · exact absurd same.symm (fresh t₂ old₂).2
    · exact absurd same (fresh t₁ old₁).2
    · exact ok.distinct t₁ old₁ t₂ old₂ same
  · intro c' call holds
    rw [mgr,issued]
    rcases old c' call holds with ⟨_,same⟩ | ⟨_,before,_⟩
    · rw [same]; exact ⟨List.mem_cons_self,absent⟩
    · obtain ⟨known,none⟩ := ok.pending c' call before
      exact ⟨List.mem_cons_of_mem _ known,none⟩
  · intro c' c'' call call' holds holds' same
    rcases old c' call holds with ⟨rfl,first⟩ | ⟨_,before,apart⟩
    · rcases old c'' call' holds' with ⟨rfl,_⟩ | ⟨_,_,apart⟩
      · rfl
      · exact absurd (same.symm.trans first) apart
    · rcases old c'' call' holds' with ⟨_,second⟩ | ⟨_,before',_⟩
      · exact absurd (same.trans second) apart
      · exact ok.pendingApart c' c'' call call' before before' same
  · intro c' g holds
    rw [mgr]; exact ok.reserved c' g (kept generationOf rfl holds)
  · intro c' c'' g holds holds'
    exact ok.reservedApart c' c'' g (kept generationOf rfl holds) (kept generationOf rfl holds')
  · intro c' g holds
    rw [entryOf]; exact ok.fresh c' g (kept unbuilt rfl holds)
  · rw [mgr,entryOf]; exact ok.built
  · intro c' g e holds
    rw [entryOf]; exact ok.installing c' g e (kept installing rfl holds)
  · rw [mgr,entryOf]; exact ok.published
  · rw [entryOf,show w'.shared.readerConfig = w.shared.readerConfig by rw [← world]; rfl]
    exact ok.configured

/-- Every move keeps the invariant. -/
theorem WorldOk.move {w' : World} (ok : WorldOk daemon w) (move : Move daemon w w') : WorldOk daemon w' := by
  cases move with
  | quiet shared inherits => exact ok.quiet shared inherits
  | issues c d t _ fresh result => exact result ▸ client_issues ok fresh
  | reserves c call m pending same generation result => exact result ▸ client_reserves ok pending same generation
  | builds c call g info numbered here result => exact result ▸ client_builds ok here _
  | registers c call d pc m pending effect registered devices inherits finished result =>
    exact result ▸ client_registers ok pending effect registered devices inherits finished

/-- The steps of an open. -/
private theorem openStep_move (ok : WorldOk daemon w) {c : ClientId} {call : OpenCall} {pc : OpenPc} {pc' : ClientPc}
    {sh : Shared} (here : w.client c = .opening call pc)
    (taken : openStep daemon w.shared c call pc = some (pc',sh)) : Move daemon w (withClient w c pc' sh) := by
  have quiet {sh : Shared} {pc' : ClientPc} (quiet : QuietShared w.shared sh)
      (inherits : Inherits (.opening call pc) pc') : Move daemon w (withClient w c pc' sh) :=
    client_quiet quiet (here ▸ inherits)
  have registers {d : DeviceId} {m : DeviceManager} {pc' : ClientPc} (pending : pendingCall (.opening call pc) = some call)
      (done : w.mgr.registerAndRefresh d call.token c (daemon.computeWsAuthHash call.token) = some m)
      (inherits : ∀ g, generationOf pc' = some g → generationOf (.opening call pc) = some g)
      (finished : pendingCall pc' = none ∧ unbuilt pc' = none ∧ installing pc' = none) :
      Move daemon w (withClient w c pc' { w.shared with mgr := m }) := by
    rw [← here] at pending inherits
    obtain ⟨registered,devices⟩ := registerAndRefresh_registered done
    refine .registers c call d pc' m pending (registerAndRefresh_refreshes ok.coherent (ok.isFresh pending) done).effect registered
      ?_ inherits finished rfl
    intro d e present
    exact Or.inl (devices ▸ present)
  cases pc with
  | enter =>
    rcases openEnter_cases w.mgr call.deviceId call.token c (daemon.computeWsAuthHash call.token) with
      ⟨m,done,result⟩ | ⟨g,seen,result⟩ | result
    · simp only [openStep,show w.shared.mgr = w.mgr from rfl,result,Option.some.injEq,Prod.mk.injEq] at taken
      obtain ⟨rfl,rfl⟩ := taken
      exact registers rfl done (by simp [generationOf]) ⟨rfl,rfl,rfl⟩
    · simp only [openStep,show w.shared.mgr = w.mgr from rfl,result,Option.some.injEq,Prod.mk.injEq] at taken
      obtain ⟨rfl,rfl⟩ := taken
      exact quiet (.refl _) ⟨fun _ => id,by simp [generationOf],by simp [unbuilt],by simp [installing]⟩
    · simp only [openStep,show w.shared.mgr = w.mgr from rfl,result,Option.some.injEq,Prod.mk.injEq] at taken
      obtain ⟨rfl,rfl⟩ := taken
      exact .reserves c call { w.mgr with
          nextLifetimeGeneration := w.mgr.nextLifetimeGeneration + 1
          opening := w.mgr.opening.insert call.deviceId ⟨w.mgr.nextLifetimeGeneration + 1⟩ }
        (by rw [here]; rfl) ⟨rfl,rfl,rfl,rfl,rfl,rfl,rfl,rfl⟩ rfl rfl
  | wait g seen =>
    simp only [openStep] at taken
    split at taken <;> cases taken
    exact quiet (.refl _) ⟨fun _ => id,by simp [generationOf],by simp [unbuilt],by simp [installing]⟩
  | recheck =>
    rcases openRecheck_cases w.mgr call.deviceId call.token c (daemon.computeWsAuthHash call.token) with
      ⟨m,done,result⟩ | result | result
    · simp only [openStep,show w.shared.mgr = w.mgr from rfl,result,Option.some.injEq,Prod.mk.injEq] at taken
      obtain ⟨rfl,rfl⟩ := taken
      exact registers rfl done (by simp [generationOf]) ⟨rfl,rfl,rfl⟩
    · simp only [openStep,show w.shared.mgr = w.mgr from rfl,result,Option.some.injEq,Prod.mk.injEq] at taken
      obtain ⟨rfl,rfl⟩ := taken
      exact quiet (.refl _) ⟨fun _ => id,by simp [generationOf],by simp [unbuilt],by simp [installing]⟩
    · simp only [openStep,show w.shared.mgr = w.mgr from rfl,result,Option.some.injEq,Prod.mk.injEq] at taken
      obtain ⟨rfl,rfl⟩ := taken
      exact quiet (.refl _) ⟨by simp [pendingCall],by simp [generationOf],by simp [unbuilt],by simp [installing]⟩
  | physical g => cases taken
  | check g info numbered =>
    rcases openCheck_cases w.mgr call.deviceId info.deviceId g call.token c (daemon.computeWsAuthHash call.token) with
      ⟨m,done,result⟩ | result | result
    · simp only [openStep,show w.shared.mgr = w.mgr from rfl,result,Option.some.injEq,Prod.mk.injEq] at taken
      obtain ⟨rfl,rfl⟩ := taken
      exact registers rfl done (fun _ => id) ⟨rfl,rfl,rfl⟩
    · simp only [openStep,show w.shared.mgr = w.mgr from rfl,result,Option.some.injEq,Prod.mk.injEq] at taken
      obtain ⟨rfl,rfl⟩ := taken
      exact quiet (.refl _) ⟨fun _ => id,fun _ => id,fun _ => id,fun _ => id⟩
    · simp only [openStep,show w.shared.mgr = w.mgr from rfl,result,Option.some.injEq,Prod.mk.injEq] at taken
      obtain ⟨rfl,rfl⟩ := taken
      exact quiet (.refl _) ⟨by simp [pendingCall],fun _ => id,by simp [unbuilt],by simp [installing]⟩
  | spawn g info numbered =>
    cases taken
    exact .builds c call g info numbered here rfl
  | install g reported entry =>
    have pending : pendingCall (w.client c) = some call := by rw [here]; rfl
    have recorded : w.shared.entryOf g = some entry := ok.installing c g entry (by rw [here]; rfl)
    obtain ⟨_,lifetime,running⟩ := ok.built g entry recorded
    rcases openInstall_cases call.deviceId reported g c ok.coherent (ok.isFresh pending)
      (running.trans (congrArg some lifetime.symm)) with
      ⟨m,done,result⟩ | result | ⟨m,result,_,refreshes,registered,devices⟩
    · simp only [openStep,show w.shared.mgr = w.mgr from rfl,result,Option.some.injEq,Prod.mk.injEq] at taken
      obtain ⟨rfl,rfl⟩ := taken
      exact registers rfl done (fun _ => id) ⟨rfl,rfl,rfl⟩
    · simp only [openStep,show w.shared.mgr = w.mgr from rfl,result,Option.some.injEq,Prod.mk.injEq] at taken
      obtain ⟨rfl,rfl⟩ := taken
      exact quiet (.refl _) ⟨by simp [pendingCall],fun _ => id,by simp [unbuilt],by simp [installing]⟩
    · simp only [openStep,show w.shared.mgr = w.mgr from rfl,result,Option.some.injEq,Prod.mk.injEq] at taken
      obtain ⟨rfl,rfl⟩ := taken
      refine .registers c call reported _ m pending refreshes.effect registered ?_ (by rw [here]; exact fun _ => id)
        ⟨rfl,rfl,rfl⟩ rfl
      intro d e present
      rw [devices,lookup_insert_eq] at present
      by_cases same : d = reported
      · rw [if_pos same] at present; cases present
        exact Or.inr (lifetime ▸ recorded)
      · rw [if_neg same] at present; exact Or.inl present
  | stopLocal g steps =>
    cases steps with
    | nil =>
      cases taken
      exact quiet (.refl _) ⟨fun _ => id,fun _ => id,fun _ => id,fun _ => id⟩
    | cons instruction rest =>
      obtain ⟨sh₁,ran,result⟩ := Option.map_eq_some_iff.mp taken
      cases result
      exact quiet (teardown_quiet ran) ⟨fun _ => id,fun _ => id,fun _ => id,fun _ => id⟩
  | start g =>
    cases taken
    exact quiet ⟨.refl _,rfl,rfl,rfl⟩ ⟨fun _ => id,fun _ => id,fun _ => id,fun _ => id⟩
  | release g =>
    cases taken
    refine quiet (.of_mgr (releaseReservation_quiet w.mgr call.deviceId g)) ?_
    split <;> exact ⟨by simp [pendingCall],by simp [generationOf],by simp [unbuilt],by simp [installing]⟩
  | notify g =>
    cases taken
    exact quiet (.of_mgr (.of_same (same_notifyWaiters w.mgr g) rfl))
      ⟨by simp [pendingCall],by simp [generationOf],by simp [unbuilt],by simp [installing]⟩

/-- A client without a reservation holds nothing. -/
private theorem inherits_none {pc' : ClientPc} (pc : ClientPc) (finished : pendingCall pc' = none ∧
    generationOf pc' = none ∧ unbuilt pc' = none ∧ installing pc' = none) : Inherits pc pc' := by
  obtain ⟨first,second,third,fourth⟩ := finished
  exact ⟨by simp [first],by simp [second],by simp [third],by simp [fourth]⟩

private theorem nmStep_quiet {sh sh' : Shared} {c : ClientId} {d : DeviceId} {op : ReportOp} {pc : NmPc}
    {pc' : ClientPc} (taken : nmStep sh c d op pc = some (pc',sh')) :
    QuietShared sh sh' ∧ Inherits (.report d op pc) pc' := by
  unfold nmStep at taken
  split at taken
  · split at taken <;> cases taken <;> exact ⟨.refl sh,inherits_none _ ⟨rfl,rfl,rfl,rfl⟩⟩
  · cases taken; exact ⟨.refl sh,inherits_none _ ⟨rfl,rfl,rfl,rfl⟩⟩
  · cases taken; exact ⟨⟨.refl _,rfl,rfl,rfl⟩,inherits_none _ ⟨rfl,rfl,rfl,rfl⟩⟩
  · split at taken
    · cases taken; exact ⟨.refl sh,inherits_none _ ⟨rfl,rfl,rfl,rfl⟩⟩
    · obtain ⟨sh₁,pushed,result⟩ := Option.map_eq_some_iff.mp taken
      cases result; exact ⟨push_quiet pushed,inherits_none _ ⟨rfl,rfl,rfl,rfl⟩⟩
  · split at taken <;> cases taken
    exact ⟨.refl sh,inherits_none _ ⟨rfl,rfl,rfl,rfl⟩⟩

private theorem clientStep_move (ok : WorldOk daemon w) {c : ClientId} {a : ClientAction} {pc' : ClientPc} {sh : Shared}
    (taken : clientStep daemon w.shared c (w.client c) a = some (pc',sh)) : Move daemon w (withClient w c pc' sh) := by
  have quiet {sh : Shared} {pc' : ClientPc} (quiet : QuietShared w.shared sh)
      (finished : pendingCall pc' = none ∧ generationOf pc' = none ∧ unbuilt pc' = none ∧ installing pc' = none) :
      Move daemon w (withClient w c pc' sh) := client_quiet quiet (inherits_none _ finished)
  generalize here : w.client c = pc at taken
  unfold clientStep at taken
  split at taken
  · -- connect
    obtain ⟨_,result⟩ := Option.ite_none_right_eq_some.mp taken
    cases result
    exact quiet ⟨.of_same ⟨rfl,rfl,rfl,rfl,rfl,rfl,rfl,rfl⟩ rfl,rfl,rfl,rfl⟩ ⟨rfl,rfl,rfl,rfl⟩
  · cases taken; exact quiet (.of_mgr (registerNmSink_quiet ok.coherent c c)) ⟨rfl,rfl,rfl,rfl⟩
  · -- a token is drawn
    split at taken <;> cases taken
    next fresh =>
      refine .issues c _ _ here ?_ rfl
      simpa using fresh
  · -- the physical open succeeded
    cases taken
    split
    · exact client_quiet (.refl _) (here ▸ ⟨by simp [pendingCall],fun _ => id,by simp [unbuilt],by simp [installing]⟩)
    · exact client_quiet (.refl _) (here ▸ ⟨fun _ => id,fun _ => id,fun _ => id,by simp [installing]⟩)
  · cases taken
    exact client_quiet (.refl _) (here ▸ ⟨by simp [pendingCall],fun _ => id,by simp [unbuilt],by simp [installing]⟩)
  · exact openStep_move ok here taken
  · -- close
    next d t =>
      have closed := close_quiet ok.coherent d t c
      dsimp only at taken
      split at taken <;> cases taken <;> exact quiet (.of_mgr closed) ⟨rfl,rfl,rfl,rfl⟩
  · cases taken; exact quiet (.refl _) ⟨rfl,rfl,rfl,rfl⟩
  · obtain ⟨sh₁,ran,result⟩ := Option.map_eq_some_iff.mp taken
    cases result; exact quiet (teardown_quiet ran) ⟨rfl,rfl,rfl,rfl⟩
  · -- set the data plane
    split at taken
    next done => cases taken; exact quiet (.of_mgr (setDataplaneMode_quiet ok.coherent done)) ⟨rfl,rfl,rfl,rfl⟩
    · cases taken; exact quiet (.refl _) ⟨rfl,rfl,rfl,rfl⟩
  · split at taken <;> cases taken <;> exact quiet (.refl _) ⟨rfl,rfl,rfl,rfl⟩
  · obtain ⟨shared,inherits⟩ := nmStep_quiet taken
    exact client_quiet shared (here ▸ inherits)
  · cases taken; exact quiet (.refl _) ⟨rfl,rfl,rfl,rfl⟩
  · cases taken; exact quiet (.refl _) ⟨rfl,rfl,rfl,rfl⟩
  · cases taken; exact quiet (.of_mgr (unregisterNmSink_quiet ok.coherent c)) ⟨rfl,rfl,rfl,rfl⟩
  · cases taken; exact quiet (.refl _) ⟨rfl,rfl,rfl,rfl⟩
  · obtain ⟨sh₁,ran,result⟩ := Option.map_eq_some_iff.mp taken
    cases result; exact quiet (teardown_quiet ran) ⟨rfl,rfl,rfl,rfl⟩
  · -- close one of the sessions that were collected
    next d t rest =>
      have closed := close_quiet ok.coherent d t c
      dsimp only at taken
      split at taken <;> cases taken <;> exact quiet (.of_mgr closed) ⟨rfl,rfl,rfl,rfl⟩
  · cases taken; exact quiet (.refl _) ⟨rfl,rfl,rfl,rfl⟩
  · cases taken

/-- Every step of the daemon is a move. -/
theorem step_move {w' : World} {a : Action} (ok : WorldOk daemon w) (taken : step daemon w a = some w') :
    Move daemon w w' := by
  have same (c : ClientId) : Inherits (w.client c) (w.client c) := Inherits.refl _
  cases a with
  | client c action =>
    obtain ⟨⟨pc,sh⟩,ran,rfl⟩ := Option.map_eq_some_iff.mp taken
    exact clientStep_move ok ran
  | relay c action =>
    obtain ⟨⟨pc,sh⟩,ran,rfl⟩ := Option.map_eq_some_iff.mp taken
    exact .quiet (relayStep_quiet ok.coherent ran) same
  | transport t action =>
    obtain ⟨⟨pc,sh⟩,ran,rfl⟩ := Option.map_eq_some_iff.mp taken
    exact .quiet (transportStep_quiet ok.coherent ran) same
  | reader l action =>
    obtain ⟨config,_,stepped⟩ := Option.bind_eq_some_iff.mp taken
    obtain ⟨⟨pc,sh⟩,ran,rfl⟩ := Option.map_eq_some_iff.mp stepped
    exact .quiet (readerStep_quiet ok.coherent ran) same
  | worker l =>
    simp only [step] at taken
    split at taken
    · obtain ⟨⟨pc,sh⟩,ran,rfl⟩ := Option.map_eq_some_iff.mp taken
      exact .quiet (workerStep_quiet ran) same
    · cases taken
  | hotplug connected info =>
    cases taken
    exact .quiet (emit_quiet _ _) same

theorem step_ok {w' : World} {a : Action} (ok : WorldOk daemon w) (taken : step daemon w a = some w') :
    WorldOk daemon w' := ok.move (step_move ok taken)

/-- Each critical section that a step runs has one of the effects. -/
theorem Move.effect {w' : World} (move : Move daemon w w') : Effect w.mgr w'.mgr := by
  cases move with
  | quiet shared _ => exact shared.mgr.effect
  | issues _ _ _ _ _ result => exact result ▸ .same (SameRegistry.refl _)
  | reserves _ _ _ _ same _ result => exact result ▸ .same same
  | builds _ _ _ _ _ _ result => exact result ▸ .same (SameRegistry.refl _)
  | registers _ _ _ _ _ _ effect _ _ _ _ result => exact result ▸ effect

/-- A session appears only for a client that has an open in progress. -/
theorem Move.opener {w' : World} (move : Move daemon w w') {t : Token} {s : Session}
    (absent : w.mgr.sessions.lookup t = none) (found : w'.mgr.sessions.lookup t = some s) :
    ∃ call, pendingCall (w.client s.ownerClientId) = some call := by
  cases move with
  | quiet shared _ =>
    have still := shared.mgr.noNew t absent
    rw [show w'.shared.mgr = w'.mgr from rfl,found] at still; cases still
  | issues _ _ _ _ _ result =>
    subst result
    have still : w.mgr.sessions.lookup t = some s := found
    rw [absent] at still; cases still
  | reserves _ _ m _ same _ result =>
    subst result
    have still : m.sessions.lookup t = some s := found
    rw [same.sessions,absent] at still; cases still
  | builds _ _ _ _ _ _ result =>
    subst result
    have still : w.mgr.sessions.lookup t = some s := found
    rw [absent] at still; cases still
  | registers c call d _ m pending _ registered _ _ _ result =>
    subst result
    have present : m.sessions.lookup t = some s := found
    by_cases here : t = call.token
    · subst here
      rw [registered.session] at present; cases present
      exact ⟨call,pending⟩
    · rw [registered.others t here,absent] at present; cases present

/-- An entry that was built is never replaced. -/
theorem Move.entryOf {w' : World} (ok : WorldOk daemon w) (move : Move daemon w w') {g : Nat} {e : Entry}
    (built : w.shared.entryOf g = some e) : w'.shared.entryOf g = some e := by
  cases move with
  | quiet shared _ => rw [shared.entryOf]; exact built
  | issues _ _ _ _ _ result => exact result ▸ built
  | reserves _ _ _ _ _ _ result => exact result ▸ built
  | builds c call g' info numbered here result =>
    subst result
    have absent : w.shared.entryOf g' = none := ok.fresh c g' (by rw [here]; rfl)
    have apart : g ≠ g' := by rintro rfl; rw [absent] at built; cases built
    exact (Function.update_of_ne apart _ _).trans built
  | registers _ _ _ _ _ _ _ _ _ _ _ result => exact result ▸ built

/-- Nor is what a reader was started with. -/
theorem Move.readerConfig {w' : World} (ok : WorldOk daemon w) (move : Move daemon w w') {g : Nat} {config : ReaderConfig}
    (built : w.shared.readerConfig g = some config) : w'.shared.readerConfig g = some config := by
  cases move with
  | quiet shared _ => rw [shared.readerConfig]; exact built
  | issues _ _ _ _ _ result => exact result ▸ built
  | reserves _ _ _ _ _ _ result => exact result ▸ built
  | builds c call g' info numbered here result =>
    subst result
    have absent := ok.configured g' (ok.fresh c g' (by rw [here]; rfl))
    have apart : g ≠ g' := by rintro rfl; rw [absent] at built; cases built
    exact (Function.update_of_ne apart _ _).trans built
  | registers _ _ _ _ _ _ _ _ _ _ _ result => exact result ▸ built

end

theorem init_ok (daemon : Daemon) : WorldOk daemon {} := by
  have noSession (t : Token) (s : Session) : ¬ ({} : DeviceManager).sessions.lookup t = some s := by
    simp
  have noEntry (d : DeviceId) (e : Entry) : ¬ ({} : DeviceManager).devices.lookup d = some e := by
    simp
  have registry : RegistryOk {} := by
    refine ⟨fun t s found => absurd found (noSession t s),?_,fun d e present => absurd present (noEntry d e),?_,?_⟩
    · intro d
      constructor
      · rintro ⟨e,present⟩; exact absurd present (noEntry d e)
      · rintro ⟨t,s,found,_⟩; exact absurd found (noSession t s)
    · intro h t
      constructor
      · intro hashed; cases hashed
      · rintro ⟨s,found,_⟩; exact absurd found (noSession t s)
    · intro t f held; cases held
  refine ⟨⟨registry,?_,⟨?_,?_,?_⟩⟩,?_,?_,?_,?_,?_,?_,?_,?_,?_,?_,fun _ _ => rfl⟩
  · intro c d; rfl
  · intro slot f held; cases slot <;> cases held
  · intro slot f held; cases slot <;> cases held
  · intro slot slot' f held; cases slot <;> cases held
  · intro t s found; exact absurd found (noSession t s)
  · intro t known; cases known
  · intro c call holds; cases holds
  · intro c c' call call' holds; cases holds
  · intro c g holds; cases holds
  · intro c c' g holds; cases holds
  · intro c g holds; cases holds
  · intro g e built; cases built
  · intro c g e holds; cases holds
  · intro d e present; exact absurd present (noEntry d e)

/-- The invariant holds in every state that the daemon reaches. -/
theorem reachable_ok {daemon : Daemon} {w : World} (reachable : Reachable daemon w) : WorldOk daemon w := by
  obtain ⟨trace,run⟩ := reachable
  exact Runs.exec_invariant (fun _ _ _ => step_ok) (init_ok daemon) run

/-! ### The registry of a running daemon -/

/-- An active session of the registry. -/
def Live (m : DeviceManager) (t : Token) (s : Session) : Prop := m.sessions.lookup t = some s ∧ s.active = true

/-- In every state that the daemon reaches: entries are those with a session;
    hashes are those of the sessions; capabilities belong to sessions; and bindings
    are those of the clients that are connected and have an NM session on the
    device, each valid and on the present entry. -/
theorem registry_coherent {daemon : Daemon} {w : World} (reachable : Reachable daemon w) :
    let m := w.mgr
    (∀ d, (∃ e, m.devices.lookup d = some e) ↔ ∃ t s, Live m t s ∧ s.deviceId = d) ∧
    (∀ h t, m.wsAuthHashes.lookup h = some t ↔ ∃ s, Live m t s ∧ s.wsAuthHash = h ∧ s.token = t) ∧
    (∀ t, (∃ f, m.transportValidity.lookup t = some f) → ∃ s, Live m t s ∧ s.token = t) ∧
    (∀ c d, (∃ hot, m.nmHot.lookup (c,d) = some hot) ↔ (∃ sink, m.nmSinks.lookup c = some sink) ∧
      ∃ t s, Live m t s ∧ s.ownerClientId = c ∧ s.deviceId = d ∧ s.mode = .nm) ∧
    (∀ c d hot, m.nmHot.lookup (c,d) = some hot → m.valid hot.valid = true ∧
      ∃ e, m.devices.lookup d = some e ∧ e.ioTx = some hot.ioTx ∧ hot.epoch = e.lifetime ∧
        hot.blocking = e.blocking ∧ hot.vendorId = e.vendorId ∧ hot.productId = e.productId) := by
  intro m
  obtain ⟨⟨keyed,published,running,hashed,transports⟩,bound,flagsOk⟩ := (reachable_ok reachable).coherent
  refine ⟨?_,?_,?_,?_,?_⟩
  · intro d
    rw [published]
    constructor
    · rintro ⟨t,s,found,device⟩; exact ⟨t,s,⟨found,(keyed t s found).2⟩,device⟩
    · rintro ⟨t,s,live,device⟩; exact ⟨t,s,live.1,device⟩
  · intro h t
    rw [hashed]
    constructor
    · rintro ⟨s,found,hash⟩; exact ⟨s,⟨found,(keyed t s found).2⟩,hash,(keyed t s found).1⟩
    · rintro ⟨s,live,hash,_⟩; exact ⟨s,live.1,hash⟩
  · rintro t ⟨f,held⟩
    obtain ⟨s,found⟩ := transports t f held
    exact ⟨s,⟨found,(keyed t s found).2⟩,(keyed t s found).1⟩
  · intro c d
    rw [binding_iff (reachable_ok reachable).coherent]
    refine and_congr_right fun _ => ?_
    constructor
    · rintro ⟨t,s,found,owner,device,mode⟩; exact ⟨t,s,⟨found,(keyed t s found).2⟩,owner,device,mode⟩
    · rintro ⟨t,s,live,rest⟩; exact ⟨t,s,live.1,rest⟩
  · intro c d hot stored
    refine ⟨flagsOk.set (.nm c d) hot.valid (Option.map_eq_some_iff.mpr ⟨hot,stored,rfl⟩),?_⟩
    obtain ⟨e,present,io,epoch,blocking,vendor,product,_⟩ := binding_entry (reachable_ok reachable).coherent stored
    exact ⟨e,present,io,epoch,blocking,vendor,product⟩

/-- A vendor device with one output report of two bytes. -/
def vendorDescriptor : ReportDescriptor :=
  let vendor : HidCollection := ⟨0,1,[⟨0xFF00,1⟩]⟩
  let byte (n : Nat) : HidField := .variable
    { bitsStart := 8 * n, bitsEnd := 8 * n + 8, collections := [vendor], logicalMinimum := 0, logicalMaximum := 255
      usage := ⟨0xFF00,1⟩ }
  { inputReports := [], outputReports := [⟨none,[byte 0,byte 1]⟩], featureReports := [] }

def vendorRaw : Bytes :=
  [0x06,0x00,0xFF,0x09,0x01,0xA1,0x01,0x75,0x08,0x95,0x02,0x15,0x00,0x26,0xFF,0x00,0x09,0x01,0x91,0x02,0xC0]

def tokenA : Token := "3f9c0a51d2b74e8868a1c0ffee15bad0"
def tokenB : Token := "a70d13c9485e2fb61c93d07be6f85a24"

/-- The digests of the two tokens, each followed by the nonce. -/
def vendorDaemon : Daemon where
  lib :=
    { tryFrom := fun raw => if raw = vendorRaw then some vendorDescriptor else none
      sha256Hex := fun text =>
        if text = "3f9c0a51d2b74e8868a1c0ffee15bad06b1f0c2e9a7d4835b0c1d2e3f4a59687" then
          "0508eac2ae17e1488e7693094f4c0bb901b2458af36b0bf47c3597d8f6234c7f"
        else if text = "a70d13c9485e2fb61c93d07be6f85a246b1f0c2e9a7d4835b0c1d2e3f4a59687" then
          "d2eff425cdaf6b6b4d9c54cb43144c8b6561db02da9b77e0968066709c59a340"
        else "" }
  wsNonce := "6b1f0c2e9a7d4835b0c1d2e3f4a59687"

def vendorInfo : DeviceInfo :=
  { vendorId := 0x1234, productId := 0x5678, deviceId := 7, rawDescriptor := vendorRaw
    collections := descriptorCollections vendorDaemon.lib vendorRaw }

/-- A client connects. -/
def connecting (c : ClientId) : List Action := [.client c .connect,.client c .advance]

/-- A client opens the device, which nobody has open. -/
def openingFirst (c : ClientId) (t : Token) : List Action :=
  [.client c (.openDevice 7 t),.client c .advance,.client c (.opened vendorInfo false)] ++
    List.replicate 6 (.client c .advance)

/-- The binding of a client that has opened the device is set and on its entry. -/
theorem registry_coherent_opened : ∃ w hot,
    Runs.exec (step vendorDaemon) {} (connecting 1 ++ openingFirst 1 tokenA) = some w ∧
    w.mgr.nmHot.lookup (1,7) = some hot ∧ w.mgr.valid hot.valid = true ∧
    ∃ e, w.mgr.devices.lookup 7 = some e ∧ hot.blocking = e.blocking := by
  obtain ⟨w,run⟩ := Option.isSome_iff_exists.mp
    (by decide : (Runs.exec (step vendorDaemon) {} (connecting 1 ++ openingFirst 1 tokenA)).isSome = true)
  obtain ⟨_,_,_,_,bound⟩ := registry_coherent ⟨_,run⟩
  have present : ((Runs.exec (step vendorDaemon) {} (connecting 1 ++ openingFirst 1 tokenA)).bind
      fun w => w.mgr.nmHot.lookup (1,7)).isSome = true := by decide
  rw [run] at present
  obtain ⟨hot,stored⟩ := Option.isSome_iff_exists.mp present
  obtain ⟨set,e,entry,_,_,blocking,_⟩ := bound 1 7 hot stored
  exact ⟨w,hot,run,stored,set,e,entry,blocking⟩

end FFWebHid.Safety
