import FFWebHid.Maps
import FFWebHid.Capabilities
import FFWebHid.Types
import FFWebHid.Registry
import FFWebHid.Lifecycle

/-!
The invariant that the maps of the registry keep with one another, and the proof
that every critical section restores it. A section either touches the session of
one token and then refreshes the binding of its owner and device, or detaches a
device with everything on it, or changes the sink of a client.
-/
namespace FFWebHid.Coherence
open FFWebHid.Types FFWebHid.Maps FFWebHid.Capabilities FFWebHid.Registry FFWebHid.Lifecycle
open FFWebHid.Registry.DeviceManager

/-- Where a flag is held: in the binding of a client and device, or as the
    transport capability of a session. -/
inductive Slot where
  | nm (clientId : ClientId) (deviceId : DeviceId)
  | transport (token : Token)
  deriving DecidableEq

/-- The flags of the registry as a table of capabilities. -/
def flags (m : DeviceManager) : Table Slot where
  held
    | .nm c d => (m.nmHot.lookup (c,d)).map (·.valid)
    | .transport t => m.transportValidity.lookup t
  valid := m.valid
  next := m.nextFlag

/-- A binding without its flag. -/
def NmHotSession.forget (hot : NmHotSession) : NmHotSession := { hot with valid := 0 }

/-- A client has an active session on a device. -/
def Owns (m : DeviceManager) (c : ClientId) (d : DeviceId) : Prop :=
  ∃ t s, m.sessions.lookup t = some s ∧ s.ownerClientId = c ∧ s.deviceId = d

/-- Sessions, entries, hashes and capabilities fit together. -/
structure RegistryOk (m : DeviceManager) : Prop where
  keyed : ∀ t s, m.sessions.lookup t = some s → s.token = t ∧ s.active = true
  published : ∀ d, (∃ e, m.devices.lookup d = some e) ↔ ∃ t s, m.sessions.lookup t = some s ∧ s.deviceId = d
  running : ∀ d e, m.devices.lookup d = some e → e.ioTx = some e.lifetime
  hashed : ∀ h t, m.wsAuthHashes.lookup h = some t ↔ ∃ s, m.sessions.lookup t = some s ∧ s.wsAuthHash = h
  transports : ∀ t f, m.transportValidity.lookup t = some f → ∃ s, m.sessions.lookup t = some s

/-- The stored binding is the one called for, up to its flag. -/
def HotOk (m : DeviceManager) (c : ClientId) (d : DeviceId) : Prop :=
  (m.nmHot.lookup (c,d)).map NmHotSession.forget = (m.wantedHot d c).map NmHotSession.forget

structure Coherent (m : DeviceManager) : Prop where
  registry : RegistryOk m
  hot : ∀ c d, HotOk m c d
  flagsOk : Capabilities.Ok (flags m)

/-- The invariant but for the bindings of some pairs, in the middle of a section. -/
structure CoherentBut (p : ClientId → DeviceId → Prop) (m : DeviceManager) : Prop where
  registry : RegistryOk m
  hot : ∀ c d, ¬ p c d → HotOk m c d
  flagsOk : Capabilities.Ok (flags m)

theorem CoherentBut.coherent {p : ClientId → DeviceId → Prop} {m : DeviceManager} (coherent : CoherentBut p m)
    (fresh : ∀ c d, ¬ p c d) : Coherent m :=
  ⟨coherent.registry,fun c d => coherent.hot c d (fresh c d),coherent.flagsOk⟩

/-- The maps and flags of two registries agree; counters and wake-ups may differ. -/
structure SameRegistry (m m' : DeviceManager) : Prop where
  devices : m'.devices = m.devices
  sessions : m'.sessions = m.sessions
  hashes : m'.wsAuthHashes = m.wsAuthHashes
  transports : m'.transportValidity = m.transportValidity
  sinks : m'.nmSinks = m.nmSinks
  hot : m'.nmHot = m.nmHot
  valid : m'.valid = m.valid
  nextFlag : m'.nextFlag = m.nextFlag

theorem SameRegistry.refl (m : DeviceManager) : SameRegistry m m := ⟨rfl,rfl,rfl,rfl,rfl,rfl,rfl,rfl⟩

theorem SameRegistry.flags {m m' : DeviceManager} (same : SameRegistry m m') : flags m' = flags m := by
  simp [Coherence.flags,same.hot,same.transports,same.valid,same.nextFlag]

theorem hasNm_iff (m : DeviceManager) (d : DeviceId) (c : ClientId) :
    m.hasNmSessionForClient d c = true ↔ ∃ t s, m.sessions.lookup t = some s ∧ s.deviceId = d ∧
      s.ownerClientId = c ∧ s.active = true ∧ s.mode = .nm := by
  simp only [hasNmSessionForClient,List.any_eq_true,mem_values,Bool.and_eq_true,beq_iff_eq]
  constructor
  · rintro ⟨s,⟨t,found⟩,⟨⟨device,owner⟩,active⟩,mode⟩; exact ⟨t,s,found,device,owner,active,mode⟩
  · rintro ⟨t,s,found,device,owner,active,mode⟩; exact ⟨s,⟨t,found⟩,⟨⟨device,owner⟩,active⟩,mode⟩

/-- The binding called for depends on the NM sessions of the pair, the entry and
    the sink. -/
theorem wanted_congr (m m' : DeviceManager) {c : ClientId} {d : DeviceId}
    (sessions : m'.hasNmSessionForClient d c = m.hasNmSessionForClient d c)
    (devices : m'.devices.lookup d = m.devices.lookup d) (sinks : m'.nmSinks.lookup c = m.nmSinks.lookup c) :
    (m'.wantedHot d c).map NmHotSession.forget = (m.wantedHot d c).map NmHotSession.forget := by
  unfold wantedHot
  rw [sessions,devices,sinks]
  cases m.hasNmSessionForClient d c
  · rfl
  · cases m.devices.lookup d with
    | none => rfl
    | some e =>
      cases tx : e.ioTx with
      | none => simp [tx]
      | some q => cases m.nmSinks.lookup c <;> simp [tx,NmHotSession.forget]

theorem RegistryOk.congr {m m' : DeviceManager} (registry : RegistryOk m) (same : SameRegistry m m') :
    RegistryOk m' := by
  obtain ⟨keyed,published,running,hashed,transports⟩ := registry
  constructor
  · rw [same.sessions]; exact keyed
  · rw [same.sessions,same.devices]; exact published
  · rw [same.devices]; exact running
  · rw [same.sessions,same.hashes]; exact hashed
  · rw [same.sessions,same.transports]; exact transports

theorem Coherent.congr {m m' : DeviceManager} (coherent : Coherent m) (same : SameRegistry m m') : Coherent m' := by
  refine ⟨coherent.registry.congr same,?_,same.flags ▸ coherent.flagsOk⟩
  · intro c d
    have wanted := wanted_congr m m' (c := c) (d := d)
      (by rw [hasNmSessionForClient,hasNmSessionForClient,same.sessions]) (by rw [same.devices]) (by rw [same.sinks])
    unfold HotOk
    rw [wanted,same.hot]
    exact coherent.hot c d

theorem same_updateNonNmCount (m : DeviceManager) (was now : Bool) : SameRegistry m (m.updateNonNmCount was now) := by
  cases m
  cases was <;> cases now <;> exact ⟨rfl,rfl,rfl,rfl,rfl,rfl,rfl,rfl⟩

theorem same_notifyWaiters (m : DeviceManager) (generation : Nat) : SameRegistry m (m.notifyWaiters generation) :=
  ⟨rfl,rfl,rfl,rfl,rfl,rfl,rfl,rfl⟩

theorem lookup_dropHot (m : DeviceManager) (selected : ClientId × DeviceId → Bool) (key : ClientId × DeviceId) :
    (m.dropHot selected).nmHot.lookup key = if selected key then none else m.nmHot.lookup key := by
  rw [show (m.dropHot selected).nmHot = retain m.nmHot fun key _ => !selected key from rfl,lookup_retain]
  cases hit : selected key <;> cases m.nmHot.lookup key <;> simp [Option.filter]

theorem lookup_dropTransports (m : DeviceManager) (selected : Token → Bool) (t : Token) :
    (m.dropTransports selected).transportValidity.lookup t = if selected t then none else m.transportValidity.lookup t := by
  rw [show (m.dropTransports selected).transportValidity = retain m.transportValidity fun t _ => !selected t from rfl,
    lookup_retain]
  cases hit : selected t <;> cases m.transportValidity.lookup t <;> simp [Option.filter]

theorem dropHot_revokes (m : DeviceManager) (selected : ClientId × DeviceId → Bool) :
    Revokes (fun | Slot.nm c d => selected (c,d) = true | Slot.transport _ => False) (flags m)
      (flags (m.dropHot selected)) := by
  refine ⟨rfl,?_,?_,?_⟩
  · intro slot miss
    cases slot with
    | nm c d => simp only [flags,lookup_dropHot]; rw [if_neg miss]
    | transport t => rfl
  · intro slot hit
    cases slot with
    | nm c d => simp only [flags,lookup_dropHot]; rw [if_pos hit]; rfl
    | transport t => exact hit.elim
  · intro f
    simp only [flags,dropHot,clearFlags,Bool.and_eq_true,Bool.not_eq_true',List.any_eq_false,beq_iff_eq,not_and]
    refine and_congr_right fun _ => ⟨?_,?_⟩
    · rintro absent ⟨slot,hit,held⟩
      cases slot with
      | nm c d =>
        obtain ⟨hot,found,same⟩ := Option.map_eq_some_iff.mp held
        exact absent ⟨(c,d),hot⟩ (lookup_eq_some.mp found) hit same
      | transport t => exact hit.elim
    · rintro absent ⟨⟨c,d⟩,hot⟩ member hit same
      refine absent ⟨.nm c d,hit,?_⟩
      have found := lookup_eq_some.mpr member
      simpa [found] using same

theorem dropTransports_revokes (m : DeviceManager) (selected : Token → Bool) :
    Revokes (fun | Slot.nm _ _ => False | Slot.transport t => selected t = true) (flags m)
      (flags (m.dropTransports selected)) := by
  refine ⟨rfl,?_,?_,?_⟩
  · intro slot miss
    cases slot with
    | nm c d => rfl
    | transport t => simp only [flags,lookup_dropTransports]; rw [if_neg miss]
  · intro slot hit
    cases slot with
    | nm c d => exact hit.elim
    | transport t => simp only [flags,lookup_dropTransports]; rw [if_pos hit]
  · intro f
    simp only [flags,dropTransports,clearFlags,Bool.and_eq_true,Bool.not_eq_true',List.any_eq_false,beq_iff_eq,not_and]
    refine and_congr_right fun _ => ⟨?_,?_⟩
    · rintro absent ⟨slot,hit,held⟩
      cases slot with
      | nm c d => exact hit.elim
      | transport t => exact absent ⟨t,f⟩ (lookup_eq_some.mp held) hit rfl
    · rintro absent ⟨t,g⟩ member hit same
      refine absent ⟨.transport t,hit,?_⟩
      have found := lookup_eq_some.mpr member
      simpa [found] using same

/-! ### Refreshing one binding -/

section
variable (m : DeviceManager) (d : DeviceId) (c : ClientId)

@[simp] theorem refresh_devices : (m.refreshNmHotLocked d c).devices = m.devices := by
  unfold refreshNmHotLocked; split <;> rfl

@[simp] theorem refresh_sessions : (m.refreshNmHotLocked d c).sessions = m.sessions := by
  unfold refreshNmHotLocked; split <;> rfl

@[simp] theorem refresh_hashes : (m.refreshNmHotLocked d c).wsAuthHashes = m.wsAuthHashes := by
  unfold refreshNmHotLocked; split <;> rfl

@[simp] theorem refresh_transports : (m.refreshNmHotLocked d c).transportValidity = m.transportValidity := by
  unfold refreshNmHotLocked; split <;> rfl

@[simp] theorem refresh_sinks : (m.refreshNmHotLocked d c).nmSinks = m.nmSinks := by
  unfold refreshNmHotLocked; split <;> rfl

@[simp] theorem refresh_generation :
    (m.refreshNmHotLocked d c).nextLifetimeGeneration = m.nextLifetimeGeneration := by
  unfold refreshNmHotLocked; split <;> rfl

theorem lookup_refresh (key : ClientId × DeviceId) :
    (m.refreshNmHotLocked d c).nmHot.lookup key = if key = (c,d) then m.wantedHot d c else m.nmHot.lookup key := by
  unfold refreshNmHotLocked
  cases wanted : m.wantedHot d c with
  | none =>
    simp only [lookup_dropHot,beq_iff_eq]
  | some hot =>
    simp only [lookup_insert_eq,lookup_dropHot,beq_iff_eq]
    by_cases here : key = (c,d) <;> simp [here]

/-- The flag of the binding called for is the next fresh one. -/
theorem wantedHot_valid {hot : NmHotSession} (wanted : m.wantedHot d c = some hot) : hot.valid = m.nextFlag := by
  unfold wantedHot at wanted
  split at wanted
  · simp only [Option.bind_eq_some_iff,Option.map_eq_some_iff] at wanted
    obtain ⟨_,_,_,_,_,_,rfl⟩ := wanted
    rfl
  · cases wanted

theorem refresh_flags (ok : Capabilities.Ok (flags m)) :
    Capabilities.Ok (flags (m.refreshNmHotLocked d c)) ∧ Evolves (flags m) (flags (m.refreshNmHotLocked d c)) := by
  have revoked := dropHot_revokes m (· == (c,d))
  unfold refreshNmHotLocked
  cases wanted : m.wantedHot d c with
  | none => exact ⟨revoked.ok ok,revoked.evolves⟩
  | some hot =>
    -- The old flag is cleared, then a fresh one is put in the slot.
    have fresh : Grants (Slot.nm c d) (flags (m.dropHot (· == (c,d))))
        (flags { (m.dropHot (· == (c,d))).newFlag with
          nmHot := (m.dropHot (· == (c,d))).nmHot.insert (c,d) hot }) := by
      refine ⟨rfl,?_,?_,?_,?_⟩
      · simp only [flags,lookup_insert_eq,if_true,Option.map_some]
        rw [wantedHot_valid m d c wanted]; rfl
      · intro slot other
        cases slot with
        | nm c' d' =>
          have apart : ((c',d') : ClientId × DeviceId) ≠ (c,d) := by
            rintro same; cases same; exact other rfl
          simp only [flags,lookup_insert_eq,if_neg apart]
        | transport t => rfl
      · intro f old
        exact Function.update_of_ne old _ _
      · exact Function.update_self _ _ _
    exact ⟨fresh.ok (revoked.ok ok),Evolves.trans ok.granted revoked.evolves
      (fresh.evolves (revoked.emptied (.nm c d) (by simp)))⟩

end

/-- Refreshing a pair brings its binding up to date and leaves the others. -/
theorem CoherentBut.refresh {p : ClientId → DeviceId → Prop} {m : DeviceManager} (coherent : CoherentBut p m)
    (d : DeviceId) (c : ClientId) :
    CoherentBut (fun c' d' => p c' d' ∧ (c',d') ≠ (c,d)) (m.refreshNmHotLocked d c) := by
  refine ⟨?_,?_,(refresh_flags m d c coherent.flagsOk).1⟩
  · obtain ⟨keyed,published,running,hashed,transports⟩ := coherent.registry
    constructor <;> simpa only [refresh_sessions,refresh_devices,refresh_hashes,refresh_transports]
  · intro c' d' fine
    have wanted : ((m.refreshNmHotLocked d c).wantedHot d' c').map NmHotSession.forget =
        (m.wantedHot d' c').map NmHotSession.forget :=
      wanted_congr _ _ (by simp [hasNmSessionForClient]) (by simp) (by simp)
    unfold HotOk
    rw [wanted,lookup_refresh]
    by_cases here : ((c',d') : ClientId × DeviceId) = (c,d)
    · rw [if_pos here]; cases here; rfl
    · rw [if_neg here]
      exact coherent.hot c' d' fun stale => fine ⟨stale,here⟩

/-- `m'` differs from `m` at most in the session of one token, which belongs to
    client `c` and device `d`, in its hash and capability, and in the entry of `d`
    where there was none. The bindings are those of `m`, and all but the binding of
    the pair fits together again. -/
structure Touched (c : ClientId) (d : DeviceId) (t : Token) (m m' : DeviceManager) : Prop where
  devices : ∀ d', m'.devices.lookup d' = m.devices.lookup d' ∨ d' = d ∧ m.devices.lookup d = none
  others : ∀ t', t' ≠ t → m'.sessions.lookup t' = m.sessions.lookup t'
  before : ∀ s, m.sessions.lookup t = some s → s.ownerClientId = c ∧ s.deviceId = d
  after : ∀ s, m'.sessions.lookup t = some s → s.ownerClientId = c ∧ s.deviceId = d
  hash : ∀ s s', m.sessions.lookup t = some s → m'.sessions.lookup t = some s' → s'.wsAuthHash = s.wsAuthHash
  sinks : m'.nmSinks = m.nmSinks
  hot : m'.nmHot = m.nmHot
  evolves : Evolves (flags m) (flags m')
  registry : RegistryOk m'
  flagsOk : Capabilities.Ok (flags m')

/-- The NM sessions of any other pair are untouched. -/
private theorem Touched.hasNm {c : ClientId} {d : DeviceId} {t : Token} {m m' : DeviceManager}
    (touched : Touched c d t m m') (c' : ClientId) (d' : DeviceId) (other : (c',d') ≠ (c,d)) :
    m'.hasNmSessionForClient d' c' = m.hasNmSessionForClient d' c' := by
  rw [Bool.eq_iff_iff,hasNm_iff,hasNm_iff]
  constructor
  · rintro ⟨t',s,found,rfl,rfl,active,mode⟩
    have apart : t' ≠ t := by
      rintro rfl
      obtain ⟨owner,device⟩ := touched.after s found
      exact other (by rw [owner,device])
    exact ⟨t',s,touched.others t' apart ▸ found,rfl,rfl,active,mode⟩
  · rintro ⟨t',s,found,rfl,rfl,active,mode⟩
    have apart : t' ≠ t := by
      rintro rfl
      obtain ⟨owner,device⟩ := touched.before s found
      exact other (by rw [owner,device])
    exact ⟨t',s,(touched.others t' apart).trans found,rfl,rfl,active,mode⟩

/-- The pair that was touched is the only one whose binding may be out of date. -/
theorem Touched.coherentBut {c : ClientId} {d : DeviceId} {t : Token} {m m' : DeviceManager} (coherent : Coherent m)
    (touched : Touched c d t m m') : CoherentBut (fun c' d' => (c',d') = (c,d)) m' := by
  refine ⟨touched.registry,?_,touched.flagsOk⟩
  intro c' d' other
  have kept := coherent.hot c' d'
  unfold HotOk at kept ⊢
  rw [touched.hot,kept]
  rcases touched.devices d' with same | ⟨rfl,absent⟩
  · exact (wanted_congr _ _ (touched.hasNm c' d' other) same (by rw [touched.sinks])).symm
  · -- The device was not open, so no other client called for a binding on it.
    have none : m.hasNmSessionForClient d' c' = false := by
      rw [Bool.eq_false_iff]
      intro has
      obtain ⟨t',s,found,device,_⟩ := (hasNm_iff m d' c').mp has
      obtain ⟨e,present⟩ := (coherent.registry.published d').mpr ⟨t',s,found,device⟩
      rw [absent] at present; cases present
    unfold wantedHot
    rw [touched.hasNm c' d' other,none]
    rfl

/-- Refreshing the pair that was touched restores the invariant. -/
theorem Touched.refreshed {c : ClientId} {d : DeviceId} {t : Token} {m m' : DeviceManager} (coherent : Coherent m)
    (touched : Touched c d t m m') : Coherent (m'.refreshNmHotLocked d c) :=
  ((touched.coherentBut coherent).refresh d c).coherent fun _ _ ⟨here,apart⟩ => apart here

/-- `m'` is `m` without the entry of a device, the sessions on it, and their
    hashes, capabilities and bindings. -/
structure Detached (d : DeviceId) (m m' : DeviceManager) : Prop where
  devices : ∀ d', m'.devices.lookup d' = if d' = d then none else m.devices.lookup d'
  sessions : ∀ t, m'.sessions.lookup t = (m.sessions.lookup t).filter (·.deviceId != d)
  hashes : ∀ h t, m'.wsAuthHashes.lookup h = some t ↔
    m.wsAuthHashes.lookup h = some t ∧ ∃ s, m'.sessions.lookup t = some s
  transports : ∀ t f, m'.transportValidity.lookup t = some f ↔
    m.transportValidity.lookup t = some f ∧ ∃ s, m'.sessions.lookup t = some s
  hot : ∀ c d', m'.nmHot.lookup (c,d') = if d' = d then none else m.nmHot.lookup (c,d')
  sinks : m'.nmSinks = m.nmSinks
  flagsOk : Capabilities.Ok (flags m')
  evolves : Evolves (flags m) (flags m')

theorem Detached.session_iff {d : DeviceId} {m m' : DeviceManager} (detached : Detached d m m') (t : Token)
    (s : Session) : m'.sessions.lookup t = some s ↔ m.sessions.lookup t = some s ∧ s.deviceId ≠ d := by
  rw [detached.sessions,Option.filter_eq_some_iff]; simp

theorem Detached.coherent {d : DeviceId} {m m' : DeviceManager} (coherent : Coherent m)
    (detached : Detached d m m') : Coherent m' := by
  obtain ⟨keyed,published,running,hashed,transports⟩ := coherent.registry
  refine ⟨⟨?_,?_,?_,?_,?_⟩,?_,detached.flagsOk⟩
  · intro t s found
    exact keyed t s ((detached.session_iff t s).mp found).1
  · intro d'
    simp only [detached.session_iff,detached.devices]
    by_cases gone : d' = d
    · subst gone
      constructor
      · rintro ⟨e,present⟩; simp at present
      · rintro ⟨t,s,⟨_,apart⟩,device⟩; exact absurd device apart
    · rw [if_neg gone,published]
      constructor
      · rintro ⟨t,s,found,rfl⟩; exact ⟨t,s,⟨found,gone⟩,rfl⟩
      · rintro ⟨t,s,⟨found,_⟩,device⟩; exact ⟨t,s,found,device⟩
  · intro d' e present
    rw [detached.devices] at present
    by_cases gone : d' = d
    · rw [if_pos gone] at present; cases present
    · rw [if_neg gone] at present; exact running d' e present
  · intro h t
    rw [detached.hashes,hashed]
    constructor
    · rintro ⟨⟨s,found,hash⟩,s',left⟩
      have same := ((detached.session_iff t s').mp left).1
      rw [found] at same; cases same
      exact ⟨s,left,hash⟩
    · rintro ⟨s,left,hash⟩
      exact ⟨⟨s,((detached.session_iff t s).mp left).1,hash⟩,s,left⟩
  · intro t f held
    exact ((detached.transports t f).mp held).2
  · intro c d'
    unfold HotOk
    rw [detached.hot]
    by_cases gone : d' = d
    · subst gone
      have none : m'.hasNmSessionForClient d' c = false := by
        rw [Bool.eq_false_iff]
        intro has
        obtain ⟨t,s,found,device,_⟩ := (hasNm_iff m' d' c).mp has
        exact ((detached.session_iff t s).mp found).2 device
      unfold wantedHot
      rw [none]; simp
    · rw [if_neg gone]
      have kept : m'.hasNmSessionForClient d' c = m.hasNmSessionForClient d' c := by
        rw [Bool.eq_iff_iff,hasNm_iff,hasNm_iff]
        simp only [detached.session_iff]
        constructor
        · rintro ⟨t,s,⟨found,_⟩,rest⟩; exact ⟨t,s,found,rest⟩
        · rintro ⟨t,s,found,rfl,rest⟩; exact ⟨t,s,⟨found,gone⟩,rfl,rest⟩
      have same := wanted_congr m m' kept (by rw [detached.devices,if_neg gone]) (by rw [detached.sinks])
      rw [same]
      exact coherent.hot c d'

theorem mem_tokensOn {m : DeviceManager} (registry : RegistryOk m) (d : DeviceId) (t : Token) :
    t ∈ m.tokensOn d ↔ ∃ s, m.sessions.lookup t = some s ∧ s.deviceId = d := by
  simp only [tokensOn,List.mem_map,List.mem_filter,mem_values,beq_iff_eq]
  constructor
  · rintro ⟨s,⟨⟨t',found⟩,device⟩,rfl⟩
    obtain ⟨key,_⟩ := registry.keyed t' s found
    exact ⟨s,key ▸ found,device⟩
  · rintro ⟨s,found,device⟩
    exact ⟨s,⟨⟨t,found⟩,device⟩,(registry.keyed t s found).1⟩

theorem detachDevice_detached {m : DeviceManager} (coherent : Coherent m) (d : DeviceId) :
    Detached d m (m.detachDevice d) := by
  have tokens (t : Token) : (m.tokensOn d).contains t = true ↔ ∃ s, m.sessions.lookup t = some s ∧ s.deviceId = d := by
    rw [List.contains_iff_mem]; exact mem_tokensOn coherent.registry d t
  have sessions (t : Token) : (m.detachDevice d).sessions.lookup t =
      (m.sessions.lookup t).filter (·.deviceId != d) := by
    rw [show (m.detachDevice d).sessions = eraseAll m.sessions (m.tokensOn d) from rfl,lookup_eraseAll]
    simp only [mem_tokensOn coherent.registry]
    cases found : m.sessions.lookup t with
    | none => simp
    | some s => by_cases device : s.deviceId = d <;> simp [device,Option.filter]
  have survives (t : Token) : (∃ s, m.sessions.lookup t = some s) →
      ((∃ s, (m.detachDevice d).sessions.lookup t = some s) ↔ (m.tokensOn d).contains t = false) := by
    rintro ⟨s,found⟩
    rw [← Bool.not_eq_true,tokens t,sessions,found]
    by_cases device : s.deviceId = d <;> simp [device,Option.filter]
  -- The flags change in two stages: the capabilities of the tokens, then the bindings of the device.
  let stripped : DeviceManager := { m with
    sessions := eraseAll m.sessions (m.tokensOn d)
    wsAuthHashes := retain m.wsAuthHashes fun _ token => !(m.tokensOn d).contains token }
  have first := dropTransports_revokes stripped (m.tokensOn d).contains
  have second := dropHot_revokes (stripped.dropTransports (m.tokensOn d).contains) (fun key => key.2 == d)
  have strippedOk : Capabilities.Ok (flags stripped) := coherent.flagsOk
  refine ⟨?_,sessions,?_,?_,?_,rfl,second.ok (first.ok strippedOk),
    Evolves.trans strippedOk.granted first.evolves second.evolves⟩
  · intro d'; exact lookup_erase_eq _ _ _
  · intro h t
    rw [show (m.detachDevice d).wsAuthHashes = retain m.wsAuthHashes
      fun _ token => !(m.tokensOn d).contains token from rfl,lookup_retain,Option.filter_eq_some_iff]
    refine and_congr_right fun hashed => ?_
    obtain ⟨s,found,_⟩ := (coherent.registry.hashed h t).mp hashed
    rw [survives t ⟨s,found⟩]; simp
  · intro t f
    rw [show (m.detachDevice d).transportValidity =
      (stripped.dropTransports (m.tokensOn d).contains).transportValidity from rfl,lookup_dropTransports]
    by_cases held : m.transportValidity.lookup t = some f
    · rw [survives t (coherent.registry.transports t f held)]
      cases hit : (m.tokensOn d).contains t <;> simp_all [stripped]
    · cases hit : (m.tokensOn d).contains t <;> simp_all [stripped]
  · intro c d'
    rw [show (m.detachDevice d).nmHot =
      ((stripped.dropTransports (m.tokensOn d).contains).dropHot fun key => key.2 == d).nmHot from rfl,lookup_dropHot]
    simp only [beq_iff_eq]; rfl

/-- A client is bound to a device when its sink is registered and it has an NM
    session on the device. -/
theorem binding_iff {m : DeviceManager} (coherent : Coherent m) (c : ClientId) (d : DeviceId) :
    (∃ hot, m.nmHot.lookup (c,d) = some hot) ↔ (∃ sink, m.nmSinks.lookup c = some sink) ∧
      ∃ t s, m.sessions.lookup t = some s ∧ s.ownerClientId = c ∧ s.deviceId = d ∧ s.mode = .nm := by
  have bound : (m.nmHot.lookup (c,d)).isSome = (m.wantedHot d c).isSome := by
    simpa using congrArg Option.isSome (coherent.hot c d)
  rw [← Option.isSome_iff_exists,bound]
  unfold wantedHot
  constructor
  · intro wanted
    split at wanted
    next has =>
      obtain ⟨t,s,found,device,owner,_,mode⟩ := (hasNm_iff m d c).mp has
      obtain ⟨hot,bind⟩ := Option.isSome_iff_exists.mp wanted
      obtain ⟨e,_,bind⟩ := Option.bind_eq_some_iff.mp bind
      obtain ⟨io,_,bind⟩ := Option.bind_eq_some_iff.mp bind
      obtain ⟨sink,present,_⟩ := Option.map_eq_some_iff.mp bind
      exact ⟨⟨sink,present⟩,t,s,found,owner,device,mode⟩
    · cases wanted
  · rintro ⟨⟨sink,present⟩,t,s,found,owner,device,mode⟩
    have active := (coherent.registry.keyed t s found).2
    obtain ⟨e,entry⟩ := (coherent.registry.published d).mpr ⟨t,s,found,device⟩
    have io := coherent.registry.running d e entry
    rw [if_pos ((hasNm_iff m d c).mpr ⟨t,s,found,device,owner,active,mode⟩)]
    simp [entry,io,present]

/-- A stored binding is on the present entry of its device. -/
theorem binding_entry {m : DeviceManager} (coherent : Coherent m) {c : ClientId} {d : DeviceId} {hot : NmHotSession}
    (stored : m.nmHot.lookup (c,d) = some hot) :
    ∃ e, m.devices.lookup d = some e ∧ e.ioTx = some hot.ioTx ∧ hot.epoch = e.lifetime ∧
      hot.blocking = e.blocking ∧ hot.vendorId = e.vendorId ∧ hot.productId = e.productId ∧
      m.nmSinks.lookup c = some hot.sink := by
  have bound := coherent.hot c d
  unfold HotOk at bound
  rw [stored] at bound
  obtain ⟨wanted,found,same⟩ := Option.map_eq_some_iff.mp bound.symm
  unfold wantedHot at found
  split at found
  · obtain ⟨e,entry,found⟩ := Option.bind_eq_some_iff.mp found
    obtain ⟨io,running,found⟩ := Option.bind_eq_some_iff.mp found
    obtain ⟨sink,present,rfl⟩ := Option.map_eq_some_iff.mp found
    simp only [NmHotSession.forget,NmHotSession.mk.injEq] at same
    obtain ⟨rfl,epoch,_,blocking,vendor,product,rfl⟩ := same
    exact ⟨e,entry,running,epoch.symm,blocking.symm,vendor.symm,product.symm,present⟩
  · cases found

end FFWebHid.Coherence
