import Mathlib.Data.List.Dedup
import FFWebHid.Maps
import FFWebHid.Capabilities
import FFWebHid.Types
import FFWebHid.Registry
import FFWebHid.Lifecycle
import FFWebHid.Coherence

/-!
Every critical section has one of four effects on the registry, and with it the
invariant. Later results about runs use the effects and not the sections.
-/
namespace FFWebHid.Sections
open FFWebHid.Types FFWebHid.Maps FFWebHid.Capabilities FFWebHid.Registry FFWebHid.Lifecycle FFWebHid.Coherence
open FFWebHid.Registry.DeviceManager

/-- What a critical section does: nothing but counters and wake-ups; one session
    is touched and its pair refreshed; a device is detached; or a client's sink
    changes and its bindings follow. -/
inductive Effect (m m' : DeviceManager) : Prop where
  | same (same : SameRegistry m m')
  | touched (c : ClientId) (d : DeviceId) (t : Token) (middle : DeviceManager) (touched : Touched c d t m middle)
      (result : m' = middle.refreshNmHotLocked d c)
  | detached (d : DeviceId) (detached : Detached d m m')
  | sinks (devices : m'.devices = m.devices) (sessions : m'.sessions = m.sessions)
      (transports : m'.transportValidity = m.transportValidity) (evolves : Evolves (flags m) (flags m'))
      (coherent : Coherent m')

theorem Effect.coherent {m m' : DeviceManager} (coherent : Coherent m) (effect : Effect m m') : Coherent m' := by
  cases effect with
  | same same => exact coherent.congr same
  | touched c d t middle touched result => exact result ▸ touched.refreshed coherent
  | detached d detached => exact detached.coherent coherent
  | sinks _ _ _ _ coherent => exact coherent

theorem Effect.evolves {m m' : DeviceManager} (coherent : Coherent m) (effect : Effect m m') :
    Evolves (flags m) (flags m') := by
  cases effect with
  | same same => rw [same.flags]; exact Evolves.refl _
  | touched c d t middle touched result =>
    rw [result]
    exact Evolves.trans coherent.flagsOk.granted touched.evolves (refresh_flags middle d c touched.flagsOk).2
  | detached d detached => exact detached.evolves
  | sinks _ _ _ evolves _ => exact evolves

/-- A session that is there afterwards was there before with the same owner and
    device, or its token is new. -/
theorem Effect.session {m m' : DeviceManager} (effect : Effect m m') {t : Token} {s' : Session}
    (found : m'.sessions.lookup t = some s') :
    m.sessions.lookup t = none ∨ ∃ s, m.sessions.lookup t = some s ∧ s.ownerClientId = s'.ownerClientId ∧
      s.deviceId = s'.deviceId ∧ s.wsAuthHash = s'.wsAuthHash := by
  cases effect with
  | same same => exact Or.inr ⟨s',same.sessions ▸ found,rfl,rfl,rfl⟩
  | touched c d t₀ middle touched result =>
    subst result
    rw [refresh_sessions] at found
    by_cases here : t = t₀
    · subst here
      cases before : m.sessions.lookup t with
      | none => exact Or.inl rfl
      | some s =>
        obtain ⟨owner,device⟩ := touched.before s before
        obtain ⟨owner',device'⟩ := touched.after s' found
        exact Or.inr ⟨s,rfl,owner.trans owner'.symm,device.trans device'.symm,(touched.hash s s' before found).symm⟩
    · exact Or.inr ⟨s',(touched.others t here).symm.trans found,rfl,rfl,rfl⟩
  | detached d detached => exact Or.inr ⟨s',((detached.session_iff t s').mp found).1,rfl,rfl,rfl⟩
  | sinks _ sessions _ _ _ => exact Or.inr ⟨s',sessions ▸ found,rfl,rfl,rfl⟩

/-- While a device keeps an entry and was open before, it keeps the same entry. -/
theorem Effect.device {m m' : DeviceManager} (effect : Effect m m') {d : DeviceId} {e e' : Entry}
    (before : m.devices.lookup d = some e) (after : m'.devices.lookup d = some e') : e' = e := by
  cases effect with
  | same same => rw [same.devices,before] at after; exact (Option.some.inj after).symm
  | touched c d₀ t middle touched result =>
    subst result
    rw [refresh_devices] at after
    rcases touched.devices d with kept | ⟨rfl,absent⟩
    · rw [kept,before] at after; exact (Option.some.inj after).symm
    · rw [absent] at before; cases before
  | detached d₀ detached =>
    rw [detached.devices,before] at after
    by_cases gone : d = d₀
    · rw [if_pos gone] at after; cases after
    · rw [if_neg gone] at after; exact (Option.some.inj after).symm
  | sinks devices _ _ _ _ => rw [devices,before] at after; exact (Option.some.inj after).symm

/-- A client that owns a session on a device afterwards had one before, on the
    same entry, or the section registered a session for it. -/
theorem Effect.owner {m m' : DeviceManager} (coherent : Coherent m) (effect : Effect m m') {c : ClientId}
    {d : DeviceId} (owns : Owns m' c d) :
    (∃ t s, m.sessions.lookup t = none ∧ m'.sessions.lookup t = some s ∧ s.ownerClientId = c ∧ s.deviceId = d) ∨
      (Owns m c d ∧ m'.devices.lookup d = m.devices.lookup d) := by
  have coherent' := effect.coherent coherent
  obtain ⟨t,s',found,rfl,rfl⟩ := owns
  rcases effect.session found with fresh | ⟨s,before,owner,device,_⟩
  · exact Or.inl ⟨t,s',fresh,found,rfl,rfl⟩
  · refine Or.inr ⟨⟨t,s,before,owner,device⟩,?_⟩
    obtain ⟨e,present⟩ := (coherent.registry.published s'.deviceId).mpr ⟨t,s,before,device⟩
    obtain ⟨e',present'⟩ := (coherent'.registry.published s'.deviceId).mpr ⟨t,s',found,rfl⟩
    rw [present,present',effect.device present present']

/-- A transport capability that is still set is still that of its session, and the
    device of the session still has the same entry. -/
theorem Effect.transport {m m' : DeviceManager} (coherent : Coherent m) (effect : Effect m m') {t : Token} {f : Flag}
    {s : Session} (held : m.transportValidity.lookup t = some f) (found : m.sessions.lookup t = some s)
    (set : m'.valid f = true) :
    m'.transportValidity.lookup t = some f ∧ (∃ s', m'.sessions.lookup t = some s' ∧ s'.deviceId = s.deviceId) ∧
      m'.devices.lookup s.deviceId = m.devices.lookup s.deviceId := by
  have coherent' := effect.coherent coherent
  have still : m'.transportValidity.lookup t = some f :=
    (effect.evolves coherent).stays (.transport t) f held set
  obtain ⟨s',found'⟩ := coherent'.registry.transports t f still
  have device : s.deviceId = s'.deviceId := by
    rcases effect.session found' with fresh | ⟨old,before,_,device,_⟩
    · rw [found] at fresh; cases fresh
    · rw [found] at before; cases before; exact device
  refine ⟨still,⟨s',found',device.symm⟩,?_⟩
  obtain ⟨e,present⟩ := (coherent.registry.published s.deviceId).mpr ⟨t,s,found,rfl⟩
  obtain ⟨e',present'⟩ := (coherent'.registry.published s.deviceId).mpr ⟨t,s',found',device.symm⟩
  rw [present,present',effect.device present present']

/-- The section touches one session and brings the binding of its owner and device
    up to date. -/
def Refreshes (c : ClientId) (d : DeviceId) (t : Token) (m m' : DeviceManager) : Prop :=
  ∃ middle, Touched c d t m middle ∧ m' = middle.refreshNmHotLocked d c

theorem Refreshes.effect {c : ClientId} {d : DeviceId} {t : Token} {m m' : DeviceManager}
    (refreshes : Refreshes c d t m m') : Effect m m' := by
  obtain ⟨middle,touched,result⟩ := refreshes
  exact .touched c d t middle touched result

/-- A section that registers nothing and takes no reservation. -/
structure Quiet (m m' : DeviceManager) : Prop where
  effect : Effect m m'
  noNew : ∀ t, m.sessions.lookup t = none → m'.sessions.lookup t = none
  generation : m'.nextLifetimeGeneration = m.nextLifetimeGeneration

theorem Quiet.refl (m : DeviceManager) : Quiet m m := ⟨.same (SameRegistry.refl m),fun _ => id,rfl⟩

theorem Quiet.of_same {m m' : DeviceManager} (same : SameRegistry m m')
    (generation : m'.nextLifetimeGeneration = m.nextLifetimeGeneration) : Quiet m m' :=
  ⟨.same same,fun _ absent => by rw [same.sessions]; exact absent,generation⟩

/-- The sessions afterwards are sessions from before. -/
theorem Quiet.session {m m' : DeviceManager} (quiet : Quiet m m') {t : Token} {s' : Session}
    (found : m'.sessions.lookup t = some s') : ∃ s, m.sessions.lookup t = some s ∧
      s.ownerClientId = s'.ownerClientId ∧ s.deviceId = s'.deviceId ∧ s.wsAuthHash = s'.wsAuthHash := by
  rcases quiet.effect.session found with fresh | old
  · rw [quiet.noNew t fresh] at found; cases found
  · exact old

/-- The entries afterwards are entries from before. -/
theorem Quiet.device {m m' : DeviceManager} (coherent : Coherent m) (quiet : Quiet m m') {d : DeviceId} {e : Entry}
    (present : m'.devices.lookup d = some e) : m.devices.lookup d = some e := by
  obtain ⟨t,s',found,rfl⟩ := ((quiet.effect.coherent coherent).registry.published d).mp ⟨e,present⟩
  obtain ⟨s,before,_,device,_⟩ := quiet.session found
  obtain ⟨e₀,present₀⟩ := (coherent.registry.published s'.deviceId).mpr ⟨t,s,before,device⟩
  rw [present₀,quiet.effect.device present₀ present]

/-- Neither the token nor its hash is in use. -/
def Fresh (m : DeviceManager) (t : Token) (h : String) : Prop :=
  m.sessions.lookup t = none ∧ m.wsAuthHashes.lookup h = none

/-- The registry with a new session, over the given entries. -/
private def withSession (m : DeviceManager) (entries : HashMap DeviceId Entry) (d : DeviceId) (t : Token)
    (c : ClientId) (h : String) : DeviceManager :=
  { m with
    devices := entries
    sessions := m.sessions.insert t ⟨t,d,c,.nm,h,true,0,0⟩
    wsAuthHashes := m.wsAuthHashes.insert h t }

private theorem withSession_touched {m : DeviceManager} (coherent : Coherent m) (entries : HashMap DeviceId Entry)
    {d : DeviceId} {t : Token} {c : ClientId} {h : String} (fresh : Fresh m t h)
    (kept : ∀ d', entries.lookup d' = m.devices.lookup d' ∨ d' = d ∧ m.devices.lookup d = none)
    (entered : ∃ e, entries.lookup d = some e) (running : ∀ d' e, entries.lookup d' = some e → e.ioTx = some e.lifetime) :
    Touched c d t m (withSession m entries d t c h) := by
  obtain ⟨keyed,published,_,hashed,transports⟩ := coherent.registry
  have sessions (t' : Token) : (withSession m entries d t c h).sessions.lookup t' =
      if t' = t then some ⟨t,d,c,.nm,h,true,0,0⟩ else m.sessions.lookup t' := lookup_insert_eq _ _ _ _
  refine ⟨kept,?_,?_,?_,?_,rfl,rfl,Evolves.of_eq rfl rfl rfl,⟨?_,?_,running,?_,?_⟩,coherent.flagsOk⟩
  · intro t' other; rw [sessions,if_neg other]
  · intro s found; rw [fresh.1] at found; cases found
  · intro s found; rw [sessions,if_pos rfl] at found; cases found; exact ⟨rfl,rfl⟩
  · intro s s' found; rw [fresh.1] at found; cases found
  · intro t' s found
    rw [sessions] at found
    by_cases here : t' = t
    · rw [if_pos here] at found; cases found; exact ⟨here.symm,rfl⟩
    · rw [if_neg here] at found; exact keyed t' s found
  · intro d'
    constructor
    · rintro ⟨e,present⟩
      by_cases here : d' = d
      · exact ⟨t,_,by rw [sessions,if_pos rfl],here.symm⟩
      · have old : m.devices.lookup d' = some e := by
          rcases kept d' with same | ⟨same,_⟩
          · exact same ▸ present
          · exact absurd same here
        obtain ⟨t',s,found,device⟩ := (published d').mp ⟨e,old⟩
        have apart : t' ≠ t := by rintro rfl; rw [fresh.1] at found; cases found
        exact ⟨t',s,by rw [sessions,if_neg apart]; exact found,device⟩
    · rintro ⟨t',s,found,rfl⟩
      rw [sessions] at found
      by_cases here : t' = t
      · rw [if_pos here] at found; cases found; exact entered
      · rw [if_neg here] at found
        obtain ⟨e,present⟩ := (published s.deviceId).mpr ⟨t',s,found,rfl⟩
        rcases kept s.deviceId with same | ⟨same,_⟩
        · exact ⟨e,same.trans present⟩
        · exact same ▸ entered
  · intro h' t'
    rw [sessions,show (withSession m entries d t c h).wsAuthHashes = m.wsAuthHashes.insert h t from rfl,lookup_insert_eq]
    by_cases here : t' = t
    · subst here
      by_cases hash : h' = h
      · simp [hash]
      · simp only [hash,if_false,if_true,Option.some.injEq,exists_eq_left']
        constructor
        · intro old
          obtain ⟨s,found,_⟩ := (hashed h' t').mp old
          rw [fresh.1] at found; cases found
        · intro same; exact absurd same.symm hash
    · by_cases hash : h' = h
      · subst hash
        simp only [if_true,Option.some.injEq,if_neg here]
        constructor
        · intro same; exact absurd same.symm here
        · intro old
          have present := (hashed h' t').mpr old
          rw [fresh.2] at present; cases present
      · simp only [hash,if_false,if_neg here]
        exact hashed h' t'
  · intro t' f held
    obtain ⟨s,found⟩ := transports t' f held
    have apart : t' ≠ t := by rintro rfl; rw [fresh.1] at found; cases found
    exact ⟨s,by rw [sessions,if_neg apart]; exact found⟩

theorem registerAndRefresh_eq {m m' : DeviceManager} {d : DeviceId} {t : Token} {c : ClientId} {h : String} :
    m.registerAndRefresh d t c h = some m' ↔
      d ∈ m.devices ∧ m' = (withSession m m.devices d t c h).refreshNmHotLocked d c := by
  unfold registerAndRefresh registerSessionLocked
  by_cases present : d ∈ m.devices <;> simp [present,withSession,eq_comm]

theorem registerAndRefresh_none {m : DeviceManager} {d : DeviceId} {t : Token} {c : ClientId} {h : String} :
    m.registerAndRefresh d t c h = none ↔ m.devices.lookup d = none := by
  unfold registerAndRefresh registerSessionLocked
  by_cases present : d ∈ m.devices
  · obtain ⟨e,found⟩ := mem_iff_lookup.mp present
    simp [present,found]
  · simp [present,AList.lookup_eq_none]

/-- What registering leaves: the session is there, sessions of other tokens and
    all entries are as before. -/
structure Registered (d : DeviceId) (t : Token) (c : ClientId) (h : String) (m m' : DeviceManager) : Prop where
  session : m'.sessions.lookup t = some ⟨t,d,c,.nm,h,true,0,0⟩
  others : ∀ t', t' ≠ t → m'.sessions.lookup t' = m.sessions.lookup t'
  generation : m'.nextLifetimeGeneration = m.nextLifetimeGeneration

theorem registerAndRefresh_registered {m m' : DeviceManager} {d : DeviceId} {t : Token} {c : ClientId} {h : String}
    (done : m.registerAndRefresh d t c h = some m') :
    Registered d t c h m m' ∧ m'.devices = m.devices := by
  obtain ⟨_,rfl⟩ := registerAndRefresh_eq.mp done
  refine ⟨⟨?_,?_,?_⟩,?_⟩
  · simp [withSession]
  · intro t' other; simp [withSession,AList.lookup_insert_ne other]
  · simp [withSession]
  · simp [withSession]

theorem registerAndRefresh_refreshes {m m' : DeviceManager} {d : DeviceId} {t : Token} {c : ClientId} {h : String}
    (coherent : Coherent m) (fresh : Fresh m t h) (done : m.registerAndRefresh d t c h = some m') :
    Refreshes c d t m m' := by
  obtain ⟨present,rfl⟩ := registerAndRefresh_eq.mp done
  exact ⟨_,withSession_touched coherent m.devices fresh (fun _ => Or.inl rfl) (mem_iff_lookup.mp present)
    coherent.registry.running,rfl⟩

/-- Publishing an entry and registering on it, where the device was not open. -/
private theorem install_refreshes {m : DeviceManager} {d : DeviceId} {e : Entry} {t : Token} {c : ClientId} {h : String}
    (coherent : Coherent m) (fresh : Fresh m t h) (absent : m.devices.lookup d = none)
    (running : e.ioTx = some e.lifetime) :
    ∃ m', { m with devices := m.devices.insert d e }.registerAndRefresh d t c h = some m' ∧ Refreshes c d t m m' ∧
      Registered d t c h m m' ∧ m'.devices = m.devices.insert d e := by
  have present : d ∈ ({ m with devices := m.devices.insert d e } : DeviceManager).devices := by simp
  refine ⟨_,registerAndRefresh_eq.mpr ⟨present,rfl⟩,?_,?_⟩
  · refine ⟨_,withSession_touched coherent (m.devices.insert d e) fresh ?_ ⟨e,by simp⟩ ?_,rfl⟩
    · intro d'
      by_cases here : d' = d
      · exact Or.inr ⟨here,absent⟩
      · exact Or.inl (AList.lookup_insert_ne here)
    · intro d' e' found
      rw [lookup_insert_eq] at found
      by_cases here : d' = d
      · rw [if_pos here] at found; cases found; exact running
      · rw [if_neg here] at found; exact coherent.registry.running d' e' found
  · have registered := registerAndRefresh_registered
      (registerAndRefresh_eq.mpr ⟨present,rfl⟩ : _ = some
        ((withSession _ _ d t c h).refreshNmHotLocked d c))
    exact ⟨⟨registered.1.session,registered.1.others,registered.1.generation⟩,registered.2⟩

theorem openEnter_cases (m : DeviceManager) (d : DeviceId) (t : Token) (c : ClientId) (h : String) :
    (∃ m', m.registerAndRefresh d t c h = some m' ∧ m.openEnter d t c h = (.registered,m')) ∨
    (∃ g seen, m.openEnter d t c h = (.waiting g seen,m)) ∨
    m.openEnter d t c h = (.reserved (m.nextLifetimeGeneration + 1),{ m with
      nextLifetimeGeneration := m.nextLifetimeGeneration + 1
      opening := m.opening.insert d ⟨m.nextLifetimeGeneration + 1⟩ }) := by
  unfold openEnter
  cases m.registerAndRefresh d t c h with
  | some m' => exact Or.inl ⟨m',rfl,rfl⟩
  | none =>
    cases m.opening.lookup d with
    | some reservation => exact Or.inr (Or.inl ⟨_,_,rfl⟩)
    | none => exact Or.inr (Or.inr rfl)

theorem openRecheck_cases (m : DeviceManager) (d : DeviceId) (t : Token) (c : ClientId) (h : String) :
    (∃ m', m.registerAndRefresh d t c h = some m' ∧ m.openRecheck d t c h = (.registered,m')) ∨
    m.openRecheck d t c h = (.again,m) ∨ m.openRecheck d t c h = (.failed,m) := by
  unfold openRecheck
  cases m.registerAndRefresh d t c h with
  | some m' => exact Or.inl ⟨m',rfl,rfl⟩
  | none => by_cases busy : d ∈ m.opening <;> simp [busy]

theorem openCheck_cases (m : DeviceManager) (d id : DeviceId) (g : Nat) (t : Token) (c : ClientId) (h : String) :
    (∃ m', m.registerAndRefresh id t c h = some m' ∧ m.openCheck d id g t c h = (.registered,m')) ∨
    m.openCheck d id g t c h = (.proceed,m) ∨ m.openCheck d id g t c h = (.failed,m) := by
  unfold openCheck
  cases m.reservationCurrent d g
  · exact Or.inr (Or.inr rfl)
  · cases m.registerAndRefresh id t c h with
    | some m' => exact Or.inl ⟨m',rfl,rfl⟩
    | none => exact Or.inr (Or.inl rfl)

theorem openInstall_cases {m : DeviceManager} (d id : DeviceId) (g : Nat) {e : Entry} {t : Token} (c : ClientId)
    {h : String} (coherent : Coherent m) (fresh : Fresh m t h) (running : e.ioTx = some e.lifetime) :
    (∃ m', m.registerAndRefresh id t c h = some m' ∧ m.openInstall d id g e t c h = (.registered,m')) ∨
    m.openInstall d id g e t c h = (.failed,m) ∨
    ∃ m', m.openInstall d id g e t c h = (.installed,m') ∧ m.devices.lookup id = none ∧ Refreshes c id t m m' ∧
      Registered id t c h m m' ∧ m'.devices = m.devices.insert id e := by
  unfold openInstall
  cases m.reservationCurrent d g
  · exact Or.inr (Or.inl rfl)
  · cases done : m.registerAndRefresh id t c h with
    | some m' => exact Or.inl ⟨m',rfl,rfl⟩
    | none =>
      have absent := registerAndRefresh_none.mp done
      obtain ⟨m',installed,refreshes,registered,devices⟩ := install_refreshes (d := id) (c := c) coherent fresh absent running
      refine Or.inr (Or.inr ⟨m',?_,absent,refreshes,registered,devices⟩)
      simp only [if_true,installed,Option.getD_some]

theorem releaseReservation_quiet (m : DeviceManager) (d : DeviceId) (g : Nat) :
    Quiet m (m.releaseReservation d g).2 := by
  unfold releaseReservation
  split
  · exact .of_same ⟨rfl,rfl,rfl,rfl,rfl,rfl,rfl,rfl⟩ rfl
  · exact .refl m

/-- Detaching a device registers nothing. -/
private theorem quiet_detached {d : DeviceId} {m m' : DeviceManager} (detached : Detached d m m')
    (generation : m'.nextLifetimeGeneration = m.nextLifetimeGeneration) : Quiet m m' := by
  refine ⟨.detached d detached,?_,generation⟩
  intro t absent
  rw [detached.sessions,absent]; rfl

theorem updateNonNmCount_generation (m : DeviceManager) (was now : Bool) :
    (m.updateNonNmCount was now).nextLifetimeGeneration = m.nextLifetimeGeneration := by
  cases m; cases was <;> cases now <;> rfl

private theorem endSession_generation (m : DeviceManager) (t : Token) (s : Session) :
    (m.endSession t s).nextLifetimeGeneration = m.nextLifetimeGeneration :=
  updateNonNmCount_generation _ _ _

theorem close_generation (m : DeviceManager) (d : DeviceId) (t : Token) (c : ClientId) :
    (m.close d t c).2.nextLifetimeGeneration = m.nextLifetimeGeneration := by
  unfold close
  cases m.sessions.lookup t with
  | none => rfl
  | some s =>
    simp only
    split
    · rfl
    split
    · rfl
    split
    · rfl
    split
    · exact endSession_generation m t s
    · exact (refresh_generation _ _ _).trans (endSession_generation m t s)

theorem forceClose_generation (m : DeviceManager) (d : DeviceId) :
    (m.forceClose d).2.nextLifetimeGeneration = m.nextLifetimeGeneration := by
  show (m.tellOpener d).nextLifetimeGeneration = _
  unfold tellOpener
  split <;> rfl

theorem registerNmSink_generation (m : DeviceManager) (c : ClientId) (sink : Sink) :
    (m.registerNmSink c sink).nextLifetimeGeneration = m.nextLifetimeGeneration := by
  have folded (ds : List DeviceId) (m : DeviceManager) :
      (ds.foldl (fun m d => m.refreshNmHotLocked d c) m).nextLifetimeGeneration = m.nextLifetimeGeneration := by
    induction ds generalizing m with
    | nil => rfl
    | cons d rest ih => exact (ih _).trans (refresh_generation m d c)
  exact folded _ _

/-! ### Changing a session in place -/

/-- A section may change counters and wake-ups after it touched a session. -/
private theorem touched_same {c : ClientId} {d : DeviceId} {t : Token} {m m₁ m₂ : DeviceManager}
    (touched : Touched c d t m m₁) (same : SameRegistry m₁ m₂) : Touched c d t m m₂ := by
  obtain ⟨devices,others,before,after,hash,sinks,hot,evolves,registry,flagsOk⟩ := touched
  refine ⟨?_,?_,before,?_,?_,same.sinks.trans sinks,same.hot.trans hot,?_,registry.congr same,?_⟩
  · rw [same.devices]; exact devices
  · rw [same.sessions]; exact others
  · rw [same.sessions]; exact after
  · rw [same.sessions]; exact hash
  · rw [same.flags]; exact evolves
  · rw [same.flags]; exact flagsOk

/-- It may revoke capabilities. -/
private theorem touched_drop {c : ClientId} {d : DeviceId} {t : Token} {m m₁ : DeviceManager} (coherent : Coherent m)
    (touched : Touched c d t m m₁) (selected : Token → Bool) : Touched c d t m (m₁.dropTransports selected) := by
  have revokes := dropTransports_revokes m₁ selected
  obtain ⟨devices,others,before,after,hash,sinks,hot,evolves,⟨keyed,published,running,hashed,transports⟩,flagsOk⟩ :=
    touched
  refine ⟨devices,others,before,after,hash,sinks,hot,Evolves.trans coherent.flagsOk.granted evolves revokes.evolves,
    ⟨keyed,published,running,hashed,?_⟩,revokes.ok flagsOk⟩
  intro t' f held
  rw [lookup_dropTransports] at held
  by_cases hit : selected t' = true
  · rw [if_pos hit] at held; cases held
  · rw [if_neg hit] at held; exact transports t' f held

/-- It may hand out a fresh capability for the session. -/
private theorem touched_replace {c : ClientId} {d : DeviceId} {t : Token} {m m₁ : DeviceManager}
    (coherent : Coherent m) (touched : Touched c d t m m₁) (live : ∃ s, m₁.sessions.lookup t = some s) :
    Touched c d t m (m₁.replaceTransportValidity t).2 := by
  have dropped := touched_drop coherent touched (· == t)
  have grants : Grants (Slot.transport t) (flags (m₁.dropTransports (· == t)))
      (flags (m₁.replaceTransportValidity t).2) := by
    refine ⟨rfl,?_,?_,?_,?_⟩
    · simp only [flags,replaceTransportValidity,lookup_insert_eq,if_true]
    · intro slot other
      cases slot with
      | nm c' d' => rfl
      | transport t' =>
        have apart : t' ≠ t := by rintro rfl; exact other rfl
        simp only [flags,replaceTransportValidity,lookup_insert_eq,if_neg apart]
    · intro f old; exact Function.update_of_ne old _ _
    · exact Function.update_self _ _ _
  have emptied := (dropTransports_revokes m₁ (· == t)).emptied (.transport t) (by simp)
  obtain ⟨devices,others,before,after,hash,sinks,hot,evolves,⟨keyed,published,running,hashed,transports⟩,flagsOk⟩ :=
    dropped
  refine ⟨devices,others,before,after,hash,sinks,hot,
    Evolves.trans coherent.flagsOk.granted evolves (grants.evolves emptied),⟨keyed,published,running,hashed,?_⟩,grants.ok flagsOk⟩
  intro t' f held
  by_cases here : t' = t
  · subst here; exact live
  · refine transports t' f ?_
    have kept := grants.kept (.transport t') (by rintro same; cases same; exact here rfl)
    exact kept.symm.trans held

/-- Storing a session with the same identity. -/
private theorem touched_put {m : DeviceManager} (coherent : Coherent m) {t : Token} {s : Session} (s' : Session)
    (found : m.sessions.lookup t = some s)
    (identity : s'.token = s.token ∧ s'.deviceId = s.deviceId ∧ s'.ownerClientId = s.ownerClientId ∧
      s'.wsAuthHash = s.wsAuthHash ∧ s'.active = s.active) :
    Touched s.ownerClientId s.deviceId t m (m.putSession t s') := by
  obtain ⟨token,device,owner,hash,active⟩ := identity
  obtain ⟨keyed,published,running,hashed,transports⟩ := coherent.registry
  have sessions (t' : Token) : (m.putSession t s').sessions.lookup t' = if t' = t then some s' else m.sessions.lookup t' :=
    lookup_insert_eq _ _ _ _
  refine ⟨fun _ => Or.inl rfl,?_,?_,?_,?_,rfl,rfl,Evolves.of_eq rfl rfl rfl,⟨?_,?_,running,?_,?_⟩,coherent.flagsOk⟩
  · intro t' other; rw [sessions,if_neg other]
  · intro s₀ before; rw [found] at before; cases before; exact ⟨rfl,rfl⟩
  · intro s₀ after; rw [sessions,if_pos rfl] at after; cases after; exact ⟨owner,device⟩
  · intro s₀ s₁ before after
    rw [found] at before; cases before
    rw [sessions,if_pos rfl] at after; cases after
    exact hash
  · intro t' s₀ after
    rw [sessions] at after
    by_cases here : t' = t
    · rw [if_pos here] at after; cases after
      rw [token,active,here]; exact keyed t s found
    · rw [if_neg here] at after; exact keyed t' s₀ after
  · intro d'
    rw [show (m.putSession t s').devices = m.devices from rfl,published]
    constructor
    · rintro ⟨t',s₀,before,at_⟩
      by_cases here : t' = t
      · subst here
        rw [found] at before; cases before
        exact ⟨t',s',by rw [sessions,if_pos rfl],device.trans at_⟩
      · exact ⟨t',s₀,by rw [sessions,if_neg here]; exact before,at_⟩
    · rintro ⟨t',s₀,after,at_⟩
      rw [sessions] at after
      by_cases here : t' = t
      · rw [if_pos here] at after; cases after
        exact ⟨t,s,found,device.symm.trans at_⟩
      · rw [if_neg here] at after; exact ⟨t',s₀,after,at_⟩
  · intro h t'
    rw [show (m.putSession t s').wsAuthHashes = m.wsAuthHashes from rfl,hashed,sessions]
    by_cases here : t' = t
    · subst here; simp [found,hash]
    · rw [if_neg here]
  · intro t' f held
    rw [sessions]
    by_cases here : t' = t
    · exact ⟨s',if_pos here⟩
    · rw [if_neg here]; exact transports t' f held

/-- What a section does that changes a session in place. -/
structure Changes (c : ClientId) (d : DeviceId) (t : Token) (m m' : DeviceManager) : Prop where
  session : ∃ s, m.sessions.lookup t = some s ∧ s.deviceId = d ∧ s.ownerClientId = c
  refreshes : Refreshes c d t m m'
  generation : m'.nextLifetimeGeneration = m.nextLifetimeGeneration

/-- It registers nothing. -/
private theorem Changes.quiet {c : ClientId} {d : DeviceId} {t : Token} {m m' : DeviceManager}
    (changes : Changes c d t m m') : Quiet m m' := by
  obtain ⟨⟨s,found,_⟩,⟨middle,touched,rfl⟩,generation⟩ := changes
  refine ⟨.touched c d t middle touched rfl,?_,generation⟩
  intro t' absent
  rw [refresh_sessions,touched.others t' ?_]
  · exact absent
  · rintro rfl; rw [found] at absent; cases absent

/-- Setting the data plane of a session is refused, or it changes the client's own
    session on the device. -/
theorem setDataplaneMode_changes {m m' : DeviceManager} {d : DeviceId} {t : Token} {mode : Option Mode} {c : ClientId}
    (coherent : Coherent m) (done : m.setDataplaneMode d t mode c = .ok m') : Changes c d t m m' := by
  unfold setDataplaneMode at done
  cases mode with
  | none => cases done
  | some mode =>
    cases found : m.sessions.lookup t with
    | none => simp only [found] at done; cases done
    | some s =>
      simp only [found] at done
      split at done
      · cases done
      split at done
      · cases done
      split at done
      · cases done
      next _ device owner =>
      cases done
      have put := touched_put coherent { s with mode := mode } found ⟨rfl,rfl,rfl,rfl,rfl⟩
      have dropped := touched_same (touched_drop coherent put (· == t))
        (same_updateNonNmCount _ s.mode.isNonNm mode.isNonNm)
      rw [← not_ne_iff.mp device,← not_ne_iff.mp owner]
      exact ⟨⟨s,found,rfl,rfl⟩,⟨_,dropped,rfl⟩,(refresh_generation _ _ _).trans (updateNonNmCount_generation _ _ _)⟩

theorem setDataplaneMode_quiet {m m' : DeviceManager} {d : DeviceId} {t : Token} {mode : Option Mode} {c : ClientId}
    (coherent : Coherent m) (done : m.setDataplaneMode d t mode c = .ok m') : Quiet m m' :=
  (setDataplaneMode_changes coherent done).quiet

/-- A connection changes the session it is for. -/
theorem connect_changes {m m' : DeviceManager} {kind : TransportKind} {d : DeviceId} {t : Token}
    {grant : TransportGrant} (coherent : Coherent m) (done : m.connect kind d t = some (grant,m')) :
    ∃ s, m.sessions.lookup t = some s ∧ s.deviceId = d ∧ Changes s.ownerClientId d t m m' := by
  unfold connect at done
  cases found : m.sessions.lookup t with
  | none => simp only [found] at done; cases done
  | some s =>
    simp only [found] at done
    split at done
    · cases done
    next fits =>
    obtain ⟨-,rfl⟩ := Prod.mk.inj (Option.some.inj done)
    have device : s.deviceId = d := by simp at fits; exact fits.2
    have put := touched_put coherent (kind.connected s) found (by cases kind <;> exact ⟨rfl,rfl,rfl,rfl,rfl⟩)
    have granted := touched_same (touched_replace coherent put ⟨_,AList.lookup_insert _⟩)
      (same_updateNonNmCount _ s.mode.isNonNm true)
    refine ⟨s,rfl,device,⟨s,found,device,rfl⟩,⟨_,device ▸ granted,rfl⟩,?_⟩
    exact (refresh_generation _ _ _).trans (updateNonNmCount_generation _ _ _)

theorem connect_quiet {m m' : DeviceManager} {kind : TransportKind} {d : DeviceId} {t : Token} {grant : TransportGrant}
    (coherent : Coherent m) (done : m.connect kind d t = some (grant,m')) : Quiet m m' := by
  obtain ⟨_,_,_,changes⟩ := connect_changes coherent done
  exact changes.quiet

/-- What a connect leaves in the slot and in the session. -/
theorem connect_grants {m m' : DeviceManager} {kind : TransportKind} {d : DeviceId} {t : Token}
    {grant : TransportGrant} (done : m.connect kind d t = some (grant,m')) :
    ∃ s, m.sessions.lookup t = some s ∧ grant = ⟨kind.generation (kind.connected s),m.nextFlag⟩ ∧
      (∀ t', m'.transportValidity.lookup t' = if t' = t then some m.nextFlag else m.transportValidity.lookup t') ∧
      ∀ t', m'.sessions.lookup t' = if t' = t then some (kind.connected s) else m.sessions.lookup t' := by
  unfold connect at done
  split at done
  · cases done
  next s found =>
  split at done
  · cases done
  obtain ⟨rfl,rfl⟩ := Prod.mk.inj (Option.some.inj done)
  let granted := ((m.putSession t (kind.connected s)).replaceTransportValidity t).2
  have counted := same_updateNonNmCount granted s.mode.isNonNm true
  refine ⟨s,found,rfl,?_,?_⟩
  · intro t'
    refine (congrArg (·.lookup t') ((refresh_transports _ _ _).trans counted.transports)).trans ?_
    refine (lookup_insert_eq _ _ _ _).trans ?_
    by_cases here : t' = t
    · rw [if_pos here,if_pos here]; rfl
    · rw [if_neg here,if_neg here,lookup_dropTransports]
      simp only [beq_iff_eq,here,if_false]; rfl
  · intro t'
    exact (congrArg (·.lookup t') ((refresh_sessions _ _ _).trans counted.sessions)).trans (lookup_insert_eq _ _ _ _)

/-- What a change of the mode leaves: an empty slot, and the session in its new mode. -/
theorem setDataplaneMode_switches {m m' : DeviceManager} {d : DeviceId} {t : Token} {mode : Mode} {c : ClientId}
    (done : m.setDataplaneMode d t (some mode) c = .ok m') :
    ∃ s, m.sessions.lookup t = some s ∧
      (∀ t', m'.transportValidity.lookup t' = if t' = t then none else m.transportValidity.lookup t') ∧
      ∀ t', m'.sessions.lookup t' = if t' = t then some { s with mode := mode } else m.sessions.lookup t' := by
  unfold setDataplaneMode at done
  dsimp only at done
  split at done
  · cases done
  next s found =>
  split at done
  · cases done
  split at done
  · cases done
  split at done
  · cases done
  cases done
  let switched := (m.putSession t { s with mode := mode }).invalidateTransportValidity t
  have counted := same_updateNonNmCount switched s.mode.isNonNm mode.isNonNm
  refine ⟨s,found,fun t' => ?_,fun t' => ?_⟩
  · refine (congrArg (·.lookup t') ((refresh_transports _ _ _).trans counted.transports)).trans ?_
    refine (lookup_dropTransports _ _ t').trans ?_
    simp only [beq_iff_eq]
    rfl
  · exact (congrArg (·.lookup t') ((refresh_sessions _ _ _).trans counted.sessions)).trans (lookup_insert_eq _ _ _ _)

/-- A disconnect counts when it is of the current connection of its kind. -/
def Disconnects (m : DeviceManager) (kind : TransportKind) (d : DeviceId) (t : Token) (g : Nat) (f : Flag)
    (s : Session) : Prop :=
  m.sessions.lookup t = some s ∧ (s.active && s.deviceId == d) = true ∧
    (kind.generation s == g && s.mode == kind.mode && m.transportCapabilityCurrent t f) = true

/-- A disconnect that counts changes its session; any other does nothing. -/
theorem disconnect_cases {m : DeviceManager} (coherent : Coherent m) (kind : TransportKind) (d : DeviceId) (t : Token)
    (g : Nat) (f : Flag) :
    (∃ s, Disconnects m kind d t g f s ∧ Changes s.ownerClientId d t m (m.disconnect kind d t g f)) ∨
      ((¬ ∃ s, Disconnects m kind d t g f s) ∧ m.disconnect kind d t g f = m) := by
  unfold disconnect
  cases found : m.sessions.lookup t with
  | none =>
    refine Or.inr ⟨?_,rfl⟩
    rintro ⟨s,here,_⟩; rw [found] at here; cases here
  | some s =>
    simp only
    split
    next fits =>
      split
      next current =>
        have device : s.deviceId = d := by simp at fits; exact fits.2
        have put := touched_put coherent { s with mode := .nm } found ⟨rfl,rfl,rfl,rfl,rfl⟩
        have dropped := touched_same (touched_drop coherent put (· == t)) (same_updateNonNmCount _ s.mode.isNonNm false)
        refine Or.inl ⟨s,⟨found,fits,current⟩,⟨s,found,device,rfl⟩,⟨_,device ▸ dropped,rfl⟩,?_⟩
        exact (refresh_generation _ _ _).trans (updateNonNmCount_generation _ _ _)
      next stale =>
        refine Or.inr ⟨?_,rfl⟩
        rintro ⟨s',here,_,current⟩; rw [found] at here; cases here; exact stale current
    next other =>
      refine Or.inr ⟨?_,rfl⟩
      rintro ⟨s',here,fits,_⟩; rw [found] at here; cases here; exact other fits

/-- What a disconnect that counts leaves. -/
theorem disconnect_switches {m : DeviceManager} {kind : TransportKind} {d : DeviceId} {t : Token} {g : Nat} {f : Flag}
    {s : Session} (counts : Disconnects m kind d t g f s) :
    (∀ t', (m.disconnect kind d t g f).transportValidity.lookup t' =
        if t' = t then none else m.transportValidity.lookup t') ∧
      ∀ t', (m.disconnect kind d t g f).sessions.lookup t' =
        if t' = t then some { s with mode := .nm } else m.sessions.lookup t' := by
  obtain ⟨found,fits,current⟩ := counts
  unfold disconnect
  rw [found]
  dsimp only
  rw [if_pos fits,if_pos current]
  let switched := (m.putSession t { s with mode := .nm }).invalidateTransportValidity t
  have counted := same_updateNonNmCount switched s.mode.isNonNm false
  refine ⟨fun t' => ?_,fun t' => ?_⟩
  · refine (congrArg (·.lookup t') ((refresh_transports _ _ _).trans counted.transports)).trans ?_
    refine (lookup_dropTransports _ _ t').trans ?_
    simp only [beq_iff_eq]
    rfl
  · exact (congrArg (·.lookup t') ((refresh_sessions _ _ _).trans counted.sessions)).trans (lookup_insert_eq _ _ _ _)

theorem disconnect_quiet {m : DeviceManager} {kind : TransportKind} {d : DeviceId} {t : Token} {g : Nat} {f : Flag}
    (coherent : Coherent m) : Quiet m (m.disconnect kind d t g f) := by
  rcases disconnect_cases coherent kind d t g f with ⟨_,_,changes⟩ | ⟨_,same⟩
  · exact changes.quiet
  · rw [same]; exact .refl m

/-- The registry without one session, its hash and its capability. -/
private def withoutSession (m : DeviceManager) (t : Token) (h : String) : DeviceManager :=
  { m with sessions := m.sessions.erase t, wsAuthHashes := m.wsAuthHashes.erase h }.dropTransports (· == t)

private theorem same_ended (m : DeviceManager) (t : Token) (s : Session) :
    SameRegistry (withoutSession m t s.wsAuthHash) (m.endSession t s) := by
  have counted := same_updateNonNmCount
    (({ m with sessions := m.sessions.erase t }.invalidateTransportValidity t).cancel t) s.mode.isNonNm false
  exact ⟨counted.devices,counted.sessions,congrArg (·.erase s.wsAuthHash) counted.hashes,counted.transports,
    counted.sinks,counted.hot,counted.valid,counted.nextFlag⟩

private theorem withoutSession_sessions (m : DeviceManager) (t : Token) (h : String) (t' : Token) :
    (withoutSession m t h).sessions.lookup t' = if t' = t then none else m.sessions.lookup t' :=
  lookup_erase_eq _ _ _

/-- The hashes and capabilities that stay are those of the sessions that stay. -/
private theorem withoutSession_hashes {m : DeviceManager} (coherent : Coherent m) {t : Token} {s : Session}
    (found : m.sessions.lookup t = some s) (h' : String) (t' : Token) :
    (withoutSession m t s.wsAuthHash).wsAuthHashes.lookup h' = some t' ↔
      m.wsAuthHashes.lookup h' = some t' ∧ ∃ s', (withoutSession m t s.wsAuthHash).sessions.lookup t' = some s' := by
  have hashed := coherent.registry.hashed
  rw [withoutSession_sessions,show (withoutSession m t s.wsAuthHash).wsAuthHashes = m.wsAuthHashes.erase s.wsAuthHash
    from rfl,lookup_erase_eq]
  have own := (hashed s.wsAuthHash t).mpr ⟨s,found,rfl⟩
  by_cases same : h' = s.wsAuthHash
  · subst same
    rw [if_pos rfl,own]
    constructor
    · intro impossible; cases impossible
    · rintro ⟨here,s',left⟩; cases here; rw [if_pos rfl] at left; cases left
  · rw [if_neg same]
    refine ⟨fun old => ⟨old,?_⟩,And.left⟩
    obtain ⟨s',found',hash⟩ := (hashed h' t').mp old
    have apart : t' ≠ t := by
      rintro rfl; rw [found] at found'; cases found'; exact same hash.symm
    exact ⟨s',by rw [if_neg apart]; exact found'⟩

private theorem withoutSession_transports {m : DeviceManager} (coherent : Coherent m) (t : Token) (h : String)
    (t' : Token) (f : Flag) : (withoutSession m t h).transportValidity.lookup t' = some f ↔
      m.transportValidity.lookup t' = some f ∧ ∃ s', (withoutSession m t h).sessions.lookup t' = some s' := by
  rw [withoutSession_sessions,show (withoutSession m t h).transportValidity.lookup t' =
    if (t' == t) = true then none else m.transportValidity.lookup t' from lookup_dropTransports _ _ _]
  by_cases here : t' = t
  · simp [here]
  · simp only [beq_iff_eq,here,if_false]
    exact ⟨fun held => ⟨held,coherent.registry.transports t' f held⟩,And.left⟩

private theorem withoutSession_flags {m : DeviceManager} (coherent : Coherent m) (t : Token) (h : String) :
    Capabilities.Ok (flags (withoutSession m t h)) ∧ Evolves (flags m) (flags (withoutSession m t h)) := by
  have revokes := dropTransports_revokes
    { m with sessions := m.sessions.erase t, wsAuthHashes := m.wsAuthHashes.erase h } (· == t)
  exact ⟨revokes.ok coherent.flagsOk,revokes.evolves⟩

/-- Another session stays on the device: only the owner's binding may change. -/
private theorem withoutSession_touched {m : DeviceManager} (coherent : Coherent m) {t : Token} {s : Session}
    (found : m.sessions.lookup t = some s)
    (remains : ∃ t' s', t' ≠ t ∧ m.sessions.lookup t' = some s' ∧ s'.deviceId = s.deviceId) :
    Touched s.ownerClientId s.deviceId t m (withoutSession m t s.wsAuthHash) := by
  have sessions := withoutSession_sessions m t s.wsAuthHash
  have left {t' : Token} {s' : Session} (after : (withoutSession m t s.wsAuthHash).sessions.lookup t' = some s') :
      t' ≠ t ∧ m.sessions.lookup t' = some s' := by
    rw [sessions] at after
    by_cases here : t' = t
    · rw [if_pos here] at after; cases after
    · rw [if_neg here] at after; exact ⟨here,after⟩
  obtain ⟨keyed,published,running,hashed,transports⟩ := coherent.registry
  obtain ⟨flagsOk,evolves⟩ := withoutSession_flags coherent t s.wsAuthHash
  refine ⟨fun _ => Or.inl rfl,?_,?_,?_,?_,rfl,rfl,evolves,⟨?_,?_,running,?_,?_⟩,flagsOk⟩
  · intro t' other; rw [sessions,if_neg other]
  · intro s₀ before; rw [found] at before; cases before; exact ⟨rfl,rfl⟩
  · intro s₀ after; exact absurd rfl (left after).1
  · intro s₀ s₁ _ after; exact absurd rfl (left after).1
  · intro t' s' after; exact keyed t' s' (left after).2
  · intro d'
    rw [show (withoutSession m t s.wsAuthHash).devices = m.devices from rfl,published]
    constructor
    · rintro ⟨t',s',before,at_⟩
      by_cases here : t' = t
      · obtain ⟨t₂,s₂,apart,before₂,device⟩ := remains
        subst here; rw [found] at before; cases before
        exact ⟨t₂,s₂,by rw [sessions,if_neg apart]; exact before₂,device.trans at_⟩
      · exact ⟨t',s',by rw [sessions,if_neg here]; exact before,at_⟩
    · rintro ⟨t',s',after,at_⟩; exact ⟨t',s',(left after).2,at_⟩
  · intro h' t'
    rw [withoutSession_hashes coherent found,hashed]
    constructor
    · rintro ⟨⟨s₀,before,hash⟩,s',after⟩
      have same := (left after).2
      rw [before] at same; cases same
      exact ⟨s₀,after,hash⟩
    · rintro ⟨s',after,hash⟩; exact ⟨⟨s',(left after).2,hash⟩,s',after⟩
  · intro t' f held
    exact ((withoutSession_transports coherent t s.wsAuthHash t' f).mp held).2

/-- No other session is on the device: closing the last one detaches it. -/
private theorem withoutSession_detached {m m₁ : DeviceManager} (coherent : Coherent m) {t : Token} {s : Session}
    (found : m.sessions.lookup t = some s)
    (last : ∀ t' s', t' ≠ t → m.sessions.lookup t' = some s' → s'.deviceId ≠ s.deviceId)
    (same : SameRegistry (withoutSession m t s.wsAuthHash) m₁) :
    Detached s.deviceId m { m₁.invalidateNmHotForDeviceLocked s.deviceId with
      devices := (m₁.invalidateNmHotForDeviceLocked s.deviceId).devices.erase s.deviceId } := by
  obtain ⟨flagsOk,evolves⟩ := withoutSession_flags coherent t s.wsAuthHash
  have revokes := dropHot_revokes m₁ fun key => key.2 == s.deviceId
  rw [← same.flags] at flagsOk evolves
  refine ⟨?_,?_,?_,?_,?_,same.sinks,revokes.ok flagsOk,Evolves.trans coherent.flagsOk.granted evolves revokes.evolves⟩
  · intro d'
    exact (lookup_erase_eq _ _ _).trans (by rw [show (m₁.invalidateNmHotForDeviceLocked s.deviceId).devices = m.devices
      from same.devices])
  · intro t'
    rw [show (m₁.invalidateNmHotForDeviceLocked s.deviceId).sessions = (withoutSession m t s.wsAuthHash).sessions
      from same.sessions,withoutSession_sessions]
    by_cases here : t' = t
    · subst here; simp [found,Option.filter]
    · rw [if_neg here]
      cases before : m.sessions.lookup t' with
      | none => rfl
      | some s' => simp [Option.filter,last t' s' here before]
  · intro h' t'
    rw [show (m₁.invalidateNmHotForDeviceLocked s.deviceId).wsAuthHashes = _ from same.hashes,
      show (m₁.invalidateNmHotForDeviceLocked s.deviceId).sessions = _ from same.sessions]
    exact withoutSession_hashes coherent found h' t'
  · intro t' f
    rw [show (m₁.invalidateNmHotForDeviceLocked s.deviceId).transportValidity = _ from same.transports,
      show (m₁.invalidateNmHotForDeviceLocked s.deviceId).sessions = _ from same.sessions]
    exact withoutSession_transports coherent t s.wsAuthHash t' f
  · intro c d'
    rw [show (m₁.invalidateNmHotForDeviceLocked s.deviceId).nmHot.lookup (c,d') = _ from lookup_dropHot _ _ _,same.hot]
    simp only [beq_iff_eq]; rfl

/-- What `close` does: nothing, when the session is not the client's own on the
    device; or it ends that session, and detaches the device exactly when it was the
    last one on it. -/
theorem close_cases {m : DeviceManager} (coherent : Coherent m) (d : DeviceId) (t : Token) (c : ClientId) :
    ((¬ ∃ s, m.sessions.lookup t = some s ∧ s.deviceId = d ∧ s.ownerClientId = c) ∧ (m.close d t c).2 = m) ∨
    ∃ s, m.sessions.lookup t = some s ∧ s.deviceId = d ∧ s.ownerClientId = c ∧
      (((∃ t' s', t' ≠ t ∧ m.sessions.lookup t' = some s' ∧ s'.deviceId = d) ∧ (m.close d t c).1 = .closed none ∧
          Refreshes c d t m (m.close d t c).2) ∨
        ((∀ t' s', t' ≠ t → m.sessions.lookup t' = some s' → s'.deviceId ≠ d) ∧
          (m.close d t c).1 = .closed (m.devices.lookup d) ∧ Detached d m (m.close d t c).2)) := by
  unfold close
  cases found : m.sessions.lookup t with
  | none =>
    refine Or.inl ⟨?_,rfl⟩
    rintro ⟨s,found',_⟩; cases found'
  | some s =>
    simp only
    split
    next device =>
      refine Or.inl ⟨?_,rfl⟩
      rintro ⟨s',found',same,_⟩; cases found'; exact device same
    split
    next owner =>
      refine Or.inl ⟨?_,rfl⟩
      rintro ⟨s',found',_,same⟩; cases found'; exact owner same
    split
    next ended =>
      rw [(coherent.registry.keyed t s found).2] at ended; cases ended
    next device owner _ =>
    have device := not_ne_iff.mp device
    have owner := not_ne_iff.mp owner
    subst device owner
    refine Or.inr ⟨s,rfl,rfl,rfl,?_⟩
    have same := same_ended m t s
    have others : (values (m.endSession t s).sessions).any (fun s' => s'.deviceId == s.deviceId && s'.active) = true ↔
        ∃ t' s', t' ≠ t ∧ m.sessions.lookup t' = some s' ∧ s'.deviceId = s.deviceId := by
      simp only [List.any_eq_true,mem_values,same.sessions,withoutSession_sessions,Bool.and_eq_true,beq_iff_eq]
      constructor
      · rintro ⟨s',⟨t',left⟩,at_,_⟩
        by_cases here : t' = t
        · rw [if_pos here] at left; cases left
        · rw [if_neg here] at left; exact ⟨t',s',here,left,at_⟩
      · rintro ⟨t',s',apart,before,at_⟩
        exact ⟨s',⟨t',by rw [if_neg apart]; exact before⟩,at_,(coherent.registry.keyed t' s' before).2⟩
    by_cases remains : ∃ t' s', t' ≠ t ∧ m.sessions.lookup t' = some s' ∧ s'.deviceId = s.deviceId
    · rw [others.mpr remains]
      exact Or.inl ⟨remains,rfl,_,touched_same (withoutSession_touched coherent found remains) same,rfl⟩
    · have last : ∀ t' s', t' ≠ t → m.sessions.lookup t' = some s' → s'.deviceId ≠ s.deviceId :=
        fun t' s' apart before at_ => remains ⟨t',s',apart,before,at_⟩
      have entry : ((m.endSession t s).invalidateNmHotForDeviceLocked s.deviceId).devices = m.devices := same.devices
      rw [Bool.eq_false_iff.mpr (mt others.mp remains)]
      refine Or.inr ⟨last,?_,withoutSession_detached coherent found last same⟩
      simp only [Bool.not_false,if_true,entry]

theorem close_quiet {m : DeviceManager} (coherent : Coherent m) (d : DeviceId) (t : Token) (c : ClientId) :
    Quiet m (m.close d t c).2 := by
  have generation := close_generation m d t c
  rcases close_cases coherent d t c with ⟨_,same⟩ | ⟨s,found,_,_,⟨_,_,middle,touched,result⟩ | ⟨_,_,detached⟩⟩
  · rw [same]; exact .refl m
  · refine ⟨.touched c d t middle touched result,?_,generation⟩
    intro t' absent
    rw [result,refresh_sessions,touched.others t' ?_]
    · exact absent
    · rintro rfl; rw [found] at absent; cases absent
  · exact quiet_detached detached generation

/-- `force_close` tells an opener in progress before it looks at the maps. -/
private theorem same_told (m : DeviceManager) (d : DeviceId) : SameRegistry m (m.tellOpener d) := by
  unfold tellOpener
  cases m.opening.lookup d with
  | none => exact SameRegistry.refl m
  | some reservation => exact ⟨rfl,rfl,rfl,rfl,rfl,rfl,rfl,rfl⟩

theorem forceClose_detached {m : DeviceManager} (coherent : Coherent m) (d : DeviceId) :
    Detached d m (m.forceClose d).2 ∧ (m.forceClose d).1.2.2 = m.devices.lookup d := by
  have same := same_told m d
  have detached := detachDevice_detached (coherent.congr same) d
  refine ⟨?_,congrArg (·.lookup d) same.devices⟩
  obtain ⟨devices,sessions,hashes,transports,hot,sinks,flagsOk,evolves⟩ := detached
  rw [same.devices] at devices
  rw [same.sessions] at sessions
  rw [same.hashes] at hashes
  rw [same.transports] at transports
  rw [same.hot] at hot
  rw [same.flags] at evolves
  exact ⟨devices,sessions,hashes,transports,hot,sinks.trans same.sinks,flagsOk,evolves⟩

theorem forceClose_quiet {m : DeviceManager} (coherent : Coherent m) (d : DeviceId) : Quiet m (m.forceClose d).2 :=
  quiet_detached (forceClose_detached coherent d).1 (forceClose_generation m d)

theorem detachDeadReaderLifetime_detached {m m' : DeviceManager} (coherent : Coherent m) {d : DeviceId}
    {removed : Entry × List Token × Nat} (done : m.detachDeadReaderLifetime d = some (removed,m')) :
    Detached d m m' ∧ m.devices.lookup d = some removed.1 := by
  unfold detachDeadReaderLifetime at done
  obtain ⟨entry,present,result⟩ := Option.map_eq_some_iff.mp done
  obtain ⟨rfl,rfl⟩ := Prod.mk.inj result
  exact ⟨detachDevice_detached coherent d,present⟩

theorem detachDeadReaderLifetime_quiet {m m' : DeviceManager} (coherent : Coherent m) {d : DeviceId}
    {removed : Entry × List Token × Nat} (done : m.detachDeadReaderLifetime d = some (removed,m')) : Quiet m m' := by
  have detached := (detachDeadReaderLifetime_detached coherent done).1
  refine quiet_detached detached ?_
  obtain ⟨entry,_,result⟩ := Option.map_eq_some_iff.mp done
  obtain ⟨_,rfl⟩ := Prod.mk.inj result
  rfl

/-- Refreshing a list of devices brings the bindings of the client on them up to date. -/
private theorem foldl_refresh (c : ClientId) (ds : List DeviceId) (m : DeviceManager)
    (coherent : CoherentBut (fun c' d' => c' = c ∧ d' ∈ ds) m) :
    let m' := ds.foldl (fun m d => m.refreshNmHotLocked d c) m
    Coherent m' ∧ Evolves (flags m) (flags m') ∧ m'.devices = m.devices ∧ m'.sessions = m.sessions ∧
      m'.transportValidity = m.transportValidity := by
  induction ds generalizing m with
  | nil => exact ⟨coherent.coherent (by simp),Evolves.refl _,rfl,rfl,rfl⟩
  | cons d rest ih =>
    have refreshed := coherent.refresh d c
    obtain ⟨done,evolves,devices,sessions,transports⟩ := ih (m.refreshNmHotLocked d c) <| by
      refine ⟨refreshed.registry,fun c' d' fine => refreshed.hot c' d' ?_,refreshed.flagsOk⟩
      rintro ⟨⟨rfl,member⟩,apart⟩
      rcases List.mem_cons.mp member with rfl | later
      · exact apart rfl
      · exact fine ⟨rfl,later⟩
    exact ⟨done,Evolves.trans coherent.flagsOk.granted (refresh_flags m d c coherent.flagsOk).2 evolves,
      devices.trans (refresh_devices m d c),sessions.trans (refresh_sessions m d c),
      transports.trans (refresh_transports m d c)⟩

theorem registerNmSink_quiet {m : DeviceManager} (coherent : Coherent m) (c : ClientId) (sink : Sink) :
    Quiet m (m.registerNmSink c sink) := by
  let inserted : DeviceManager := { m with nmSinks := m.nmSinks.insert c sink }
  have stale : CoherentBut (fun c' d' => c' = c ∧ d' ∈ inserted.devicesOfClient c) inserted := by
    have registry : RegistryOk inserted := by
      obtain ⟨keyed,published,running,hashed,transports⟩ := coherent.registry
      exact ⟨keyed,published,running,hashed,transports⟩
    refine ⟨registry,?_,coherent.flagsOk⟩
    intro c' d' fine
    have kept := coherent.hot c' d'
    unfold HotOk at kept ⊢
    rw [show inserted.nmHot = m.nmHot from rfl,kept]
    by_cases here : c' = c
    · -- The client has no session on the device, so nothing is called for with or without a sink.
      have none : m.hasNmSessionForClient d' c' = false := by
        rw [Bool.eq_false_iff]
        intro has
        obtain ⟨t,s,found,device,owner,active,_⟩ := (hasNm_iff m d' c').mp has
        refine fine ⟨here,?_⟩
        simp only [devicesOfClient,List.mem_dedup,List.mem_map,List.mem_filter,mem_values,Bool.and_eq_true,beq_iff_eq]
        exact ⟨s,⟨⟨t,found⟩,owner.trans here,active⟩,device⟩
      have none' : inserted.hasNmSessionForClient d' c' = false := none
      unfold wantedHot
      rw [none,none']; rfl
    · exact (wanted_congr m inserted rfl rfl (AList.lookup_insert_ne here)).symm
  obtain ⟨done,evolves,devices,sessions,transports⟩ := foldl_refresh c (inserted.devicesOfClient c) inserted stale
  refine ⟨.sinks devices sessions transports evolves done,?_,registerNmSink_generation m c sink⟩
  intro t absent
  exact (congrArg (·.lookup t) sessions).trans absent

theorem unregisterNmSink_quiet {m : DeviceManager} (coherent : Coherent m) (c : ClientId) :
    Quiet m (m.unregisterNmSink c) := by
  have revokes := dropHot_revokes { m with nmSinks := m.nmSinks.erase c } fun key => key.1 == c
  have registry : RegistryOk (m.unregisterNmSink c) := by
    obtain ⟨keyed,published,running,hashed,transports⟩ := coherent.registry
    exact ⟨keyed,published,running,hashed,transports⟩
  have sinks (c' : ClientId) : (m.unregisterNmSink c).nmSinks.lookup c' = if c' = c then none else m.nmSinks.lookup c' :=
    lookup_erase_eq _ _ _
  refine ⟨.sinks rfl rfl rfl revokes.evolves ⟨registry,?_,revokes.ok coherent.flagsOk⟩,fun _ => id,rfl⟩
  intro c' d'
  have kept := coherent.hot c' d'
  unfold HotOk at kept ⊢
  rw [show (m.unregisterNmSink c).nmHot.lookup (c',d') = _ from lookup_dropHot _ _ _]
  by_cases here : c' = c
  · subst here
    have silent : (m.unregisterNmSink c').wantedHot d' c' = none := by
      unfold wantedHot
      rw [sinks c',if_pos rfl]
      split
      · cases (m.unregisterNmSink c').devices.lookup d' with
        | none => rfl
        | some e => cases e.ioTx <;> simp
      · rfl
    simp [silent]
  · have other : ((c',d').1 == c) = false := by simpa using here
    simp only [other,Bool.false_eq_true,if_false]
    exact kept.trans (wanted_congr m (m.unregisterNmSink c) rfl rfl ((sinks c').trans (if_neg here))).symm

end FFWebHid.Sections
