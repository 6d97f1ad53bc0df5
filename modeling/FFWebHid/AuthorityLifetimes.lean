import FFWebHid.Maps
import FFWebHid.Runs
import FFWebHid.StateOps
import FFWebHid.Background
import FFWebHid.Bookkeeping
import FFWebHid.LiveSessions
import FFWebHid.Effects

/-!
The lifetimes that a session cannot outlive: its device and the native port. A
disconnected device and a retired port clear the bookkeeping once. An open that the
daemon has answered may still await its second lookup of the grants: the lookup finds
its frame retired when the port is gone, but nothing tells it that the device is.
-/
namespace FFWebHid.AuthorityLifetimes
open FFWebHid.Maps FFWebHid.Runs FFWebHid.StateOps FFWebHid.Background FFWebHid.Bookkeeping FFWebHid.LiveSessions
open FFWebHid.Effects

/-- `retirePort`: every request that waits is resolved with an error, and its code runs
    after the bookkeeping is cleared. What that code sends while no port is open fails,
    like a request that times out. -/
def retirePort (b : Browser) (w : World) : World :=
  (values w.pending).reverse.foldl (fun w c => w.resolve b ⟨503,0,""⟩ c)
    { w with state := w.state.clearAuthorityOwnership, pending := ∅, inFlight := ∅ }

/-- The background page and its port. `handed` are the tokens of the sessions that the
    daemon has opened for requests it has still to answer; `dead` is a ghost, the
    sessions that the daemon had opened when their device or their port was lost. -/
structure Authority where
  world : World := {}
  handed : HashMap Nat Token := ∅
  dead : List (DeviceId × Token) := []

inductive Event where
  | page (action : Action)
  | issue (id : Nat) (token : Token)
  | deviceGone (deviceId : DeviceId)
  | portRetired
  deriving DecidableEq, Repr

namespace Authority
variable (s : Authority)

/-- The sessions of the answers that are on their way. -/
def underway : List (DeviceId × Token) := s.handed.entries.filterMap fun entry =>
  match s.world.inFlight.lookup entry.1 with
  | some (.openDevice d) => some (d,entry.2)
  | _ => none

/-- The sessions that the daemon has opened. -/
def issued : List (DeviceId × Token) := s.world.issued ++ s.underway

/-- The daemon answers an open with the session that it has opened. -/
def mayRun : Action → Bool
  | .answer n response =>
    match s.world.inFlight.lookup n with
    | some (.openDevice _) => s.handed.lookup n == if isOk response.s then some response.t else none
    | _ => true
  | _ => true

def afterwards : Action → HashMap Nat Token
  | .answer n _ => s.handed.erase n
  | _ => s.handed

end Authority

def step (b : Browser) (s : Authority) : Event → Option Authority
  | .page a =>
    if s.mayRun a then (Background.step b s.world a).map fun w => { s with world := w, handed := s.afterwards a } else none
  | .issue n t =>
    match s.world.inFlight.lookup n with
    | some (.openDevice _) =>
      if s.handed.lookup n = none ∧ t ≠ "" ∧ t ∉ s.world.known ∧ t ∉ values s.handed then
        some { s with handed := s.handed.insert n t }
      else none
    | _ => none
  | .deviceGone d =>
    some { s with
      world := { s.world with state := s.world.state.clearDeviceOwnership d }
      dead := s.issued.filter (fun key => key.1 == d) ++ s.dead }
  | .portRetired =>
    let named := { s.world with known := values s.handed ++ s.world.known }
    some { world := retirePort b named, handed := ∅, dead := s.issued ++ s.dead }

def init : Authority := {}

/-- No session that outlived its device or its port is registered. -/
def Forgotten (s : Authority) : Prop := ∀ d t, (d,t) ∈ s.dead → ownerOf s.world d t = none

/-- What a step counts for a tab is an open whose session is not dead, and the lost
    device or port leaves nothing counted. -/
structure CountsLive (b : Browser) (s : Authority) (e : Event) (s' : Authority) : Prop where
  opened : ∀ d tab, s.world.state.opens d tab < s'.world.state.opens d tab →
    ∃ k client r, e = .page (.stored k) ∧ s.world.store.lookup k = some (.openRecheck client d r) ∧
      b.tab client = tab ∧ (d,r.t) ∉ s.dead
  device : ∀ d, e = .deviceGone d → ∀ tab, s'.world.state.opens d tab = 0
  port : e = .portRetired → ∀ d tab, s'.world.state.opens d tab = 0

/-- Some open awaits its second lookup of the grants. -/
def awaits (w : World) (test : Client → DeviceId → Token → Bool) : Bool := (values w.store).any fun wait =>
  match wait with
  | .openRecheck client d r => test client d r.t
  | _ => false

/-- The open belongs to the frame of the client, and its session is dead. -/
def sameFrameDead (b : Browser) (s : Authority) (client client' : Client) (d : DeviceId) (t : Token) : Bool :=
  s.dead.contains (d,t) && b.tab client' == b.tab client && client'.frame == client.frame

/-- A device is lost only while no open of it has its session, and after the loss of the
    port no frame opens a device while an earlier open of it has still to finish. -/
def inTime (b : Browser) (s : Authority) : Event → Bool
  | .deviceGone d => !awaits s.world (fun _ d' _ => d' == d) && s.underway.all fun key => key.1 != d
  | .page (.openRequest client _) => !awaits s.world (sameFrameDead b s client)
  | _ => true

/-- What every run of which each step is in time keeps. -/
structure Sealed (b : Browser) (s : Authority) : Prop where
  sound : Sound b s.world
  known : ∀ d t, (d,t) ∈ s.dead → t ∈ s.world.known
  gone : Forgotten s
  dormant : ∀ k client d r, s.world.store.lookup k = some (.openRecheck client d r) → (d,r.t) ∈ s.dead →
    s.world.state.isFrameLifetimeActive (b.tab client) client.frame = false

section
variable {b : Browser} {s s' : Authority} {w : World} {d d' : DeviceId} {t : Token} {tab : TabId}

theorem awaits_iff {test : Client → DeviceId → Token → Bool} : awaits w test = true ↔
    ∃ k client d r, w.store.lookup k = some (.openRecheck client d r) ∧ test client d r.t = true := by
  simp only [awaits,List.any_eq_true,mem_values]
  constructor
  · rintro ⟨wait,⟨k,found⟩,passes⟩
    cases wait with
    | openRecheck client d r => exact ⟨k,client,d,r,found,passes⟩
    | _ => cases passes
  · rintro ⟨k,client,d,r,found,passes⟩
    exact ⟨_,⟨k,found⟩,passes⟩

/-! ### A lost port -/

/-- Nothing is registered or counted, and no frame is active. -/
structure Cleared (b : Browser) (w : World) : Prop where
  sound : Sound b w
  sessions : w.state.deviceSessions = ∅
  counts : ∀ d tab, w.state.opens d tab = 0
  frames : w.state.frameLifetimes = ∅

theorem Sound.names (ok : Sound b w) (tokens : List Token) : Sound b { w with known := tokens ++ w.known } := by
  induction tokens with
  | nil => exact ok
  | cons t rest ih => exact ih.name t

/-- The bookkeeping is cleared and no request waits. -/
theorem cleared_start (ok : Sound b w) :
    Cleared b { w with state := w.state.clearAuthorityOwnership, pending := ∅, inFlight := ∅ } := by
  have none {κ ν : Type} [DecidableEq κ] {k : κ} {v : ν} (found : (∅ : HashMap κ ν).lookup k = some v) : False := by
    cases (AList.lookup_empty k).symm.trans found
  have empty : Sound b { w with state := w.state.clearAuthorityOwnership } :=
    ok.withState (fun key => Or.inr (AList.lookup_empty key)) (fun t d found => (none found).elim)
      fun key found => (none found).elim
  refine ⟨{ empty with pendingFresh := ?_, flightFresh := ?_, awaited := ?_, continuations := ?_ },rfl,fun _ _ => rfl,rfl⟩
  · exact fun n c found => (none found).elim
  · exact fun n q found => (none found).elim
  · exact fun n c found => (none found).elim
  · exact fun n c found => (none found).elim

/-- The code that awaited a request finds the bookkeeping cleared. -/
theorem Cleared.resolve (cleared : Cleared b w) {c : Continuation} (fine : ContinuationOk b w c) :
    Cleared b (w.resolve b ⟨503,0,""⟩ c) ∧ Later w (w.resolve b ⟨503,0,""⟩ c) ∧
      ∀ t ∈ w.known, t ∈ (w.resolve b ⟨503,0,""⟩ c).known := by
  have same : Cleared b w ∧ Later w w ∧ ∀ t ∈ w.known, t ∈ w.known :=
    ⟨cleared,⟨fun _ told => told,fun _ _ _ => Or.inl rfl⟩,fun _ known => known⟩
  cases c with
  | opened client d => exact same
  | closed client d t => exact same
  | reported client op d => exact same
  | cleaned d t own rest =>
    have done : Cleared b (w.cleanupDone d t own false) := by
      refine ⟨cleared.sound.cleanupDone fine.1 fine.2.1 false,?_,cleared.counts,cleared.frames⟩
      show (w.state.dropOwned d t own).deviceSessions = ∅
      rw [BgState.dropOwned]
      split_ifs with owned
      · rw [cleared.sessions] at owned
        exact absurd (owned.2 ▸ owned.1) (by simp)
      · exact cleared.sessions
    have later : Later w (w.cleanupDone d t own false) := .cleanupDone w d t own false
    cases rest with
    | none => exact ⟨done,later,fun _ known => known⟩
    | some rev =>
      have calm : Calm (fun _ _ => True) (w.cleanupDone d t own false) ((w.cleanupDone d t own false).revokeTokens rev) :=
        .revokeTokens done.sound fun _ _ _ _ => trivial
      refine ⟨⟨cleared.sound.cleanupSettled fine false,calm.sessions.trans done.sessions,?_,?_⟩,
        Later.trans later calm.later,fun t known => calm.known t known⟩
      · exact fun d' tab => Nat.le_zero.mp (done.counts d' tab ▸ calm.counts d' tab)
      · exact (OnlyAdds.revokeTokens done.sound rev).frames.trans done.frames

theorem Cleared.resolveAll {continuations : List Continuation} (cleared : Cleared b w)
    (fine : ∀ c ∈ continuations, ContinuationOk b w c) :
    Cleared b (continuations.foldl (fun w c => w.resolve b ⟨503,0,""⟩ c) w) ∧
      ∀ t ∈ w.known, t ∈ (continuations.foldl (fun w c => w.resolve b ⟨503,0,""⟩ c) w).known := by
  induction continuations generalizing w with
  | nil => exact ⟨cleared,fun _ known => known⟩
  | cons c rest ih =>
    obtain ⟨next,later,known⟩ := cleared.resolve (fine c List.mem_cons_self)
    obtain ⟨last,knownLast⟩ := ih next fun c' member => (fine c' (List.mem_cons_of_mem c member)).later later
    exact ⟨last,fun t here => knownLast t (known t here)⟩

/-- What a request awaits is fine once the bookkeeping is cleared. -/
theorem cleared_continuation (ok : Sound b w) {n : Nat} {c : Continuation} (waiting : w.pending.lookup n = some c) :
    ContinuationOk b { w with state := w.state.clearAuthorityOwnership, pending := ∅, inFlight := ∅ } c := by
  have later : Later w { w with state := w.state.clearAuthorityOwnership, pending := ∅, inFlight := ∅ } :=
    .of_same rfl rfl fun d t => Or.inr (AList.lookup_empty (d,t))
  exact (ok.continuations n c waiting).later later

theorem retirePort_cleared (ok : Sound b w) :
    Cleared b (retirePort b w) ∧ ∀ t ∈ w.known, t ∈ (retirePort b w).known := by
  refine (cleared_start ok).resolveAll fun c member => ?_
  obtain ⟨n,waiting⟩ := mem_values.mp (List.mem_reverse.mp member)
  exact cleared_continuation ok waiting

theorem clearDeviceOwnership_owner : (w.state.clearDeviceOwnership d).deviceSessions.lookup (d',t) =
    if d' = d then none else ownerOf w d' t := by
  simp only [BgState.clearDeviceOwnership,lookup_retain]
  by_cases same : d' = d
  · rw [if_pos same]
    cases registered : w.state.deviceSessions.lookup (d',t) <;> simp [Option.filter,same]
  · rw [if_neg same]
    cases registered : w.state.deviceSessions.lookup (d',t) <;> simp [Option.filter,same,registered]

theorem clearDeviceOwnership_opens : (w.state.clearDeviceOwnership d).opens d' tab =
    if d' = d then 0 else w.state.opens d' tab := by
  simp only [BgState.clearDeviceOwnership,BgState.opens,lookup_retain]
  by_cases same : d' = d
  · rw [if_pos same]
    cases w.state.deviceTabMap.lookup (d',tab) <;> simp [Option.filter,same]
  · rw [if_neg same]
    cases w.state.deviceTabMap.lookup (d',tab) <;> simp [Option.filter,same]

theorem deviceGone_sound (ok : Sound b w) : Sound b { w with state := w.state.clearDeviceOwnership d } := by
  refine ok.withState (fun key => ?_) (fun t d' orphan => ?_) fun key zero => ?_
  · rw [show key = (key.1,key.2) from rfl,clearDeviceOwnership_owner]
    by_cases same : key.1 = d
    · exact Or.inr (if_pos same)
    · exact Or.inl (if_neg same)
  · simp only [BgState.clearDeviceOwnership,lookup_retain] at orphan
    obtain ⟨found,_⟩ := Option.filter_eq_some_iff.mp orphan
    obtain ⟨told,none⟩ := ok.orphans t d' found
    refine ⟨told,?_⟩
    rw [clearDeviceOwnership_owner,none,ite_self]
  · simp only [BgState.clearDeviceOwnership,lookup_retain] at zero
    exact ok.noZero key (Option.filter_eq_some_iff.mp zero).1

theorem Sealed.init : Sealed b {} := by
  refine ⟨Sound.init b,fun d t member => ?_,fun d t member => ?_,fun k client d r found => ?_⟩
  · cases member
  · cases member
  · cases (AList.lookup_empty k).symm.trans found

/-- A session that is dead is not registered and not counted. -/
theorem Sealed.page (sealed : Sealed b s) {a : Action} (taken : Background.step b s.world a = some w)
    (fine : inTime b s (.page a) = true) : Sealed b { s with world := w, handed := s.afterwards a } := by
  obtain ⟨ok,known,gone,dormant⟩ := sealed
  have effect := step_effect_any ok taken
  refine ⟨step_sound ok taken,fun d t member => effect.known ok (known d t member),fun d t member => ?_,
    fun k client d r held member => ?_⟩
  · cases registered : ownerOf w d t with
    | none => rfl
    | some o =>
      rcases effect.registered ok registered with before | ⟨k,client,registers⟩
      · cases (gone d t member).symm.trans before
      · obtain ⟨r,held,rfl⟩ := registers.waits
        cases (dormant k client d r held member).symm.trans registers.active
  · rcases effect.rechecks ok held with before | fresh
    · refine Bool.eq_false_of_not_eq_true fun active => ?_
      rcases (step_keeps ok taken).revived _ _ active with still | ⟨client',d',rfl,tab,frame⟩
      · cases (dormant k client d r before member).symm.trans still
      · have same : sameFrameDead b s client' client d r.t = true := by simp [sameFrameDead,member,tab,frame]
        have busy : awaits s.world (sameFrameDead b s client') = true := awaits_iff.mpr ⟨k,client,d,r,before,same⟩
        simp [inTime,busy] at fine
    · exact absurd (known d r.t member) fresh

theorem mem_underway : (d,t) ∈ s.underway ↔
    ∃ n, s.handed.lookup n = some t ∧ s.world.inFlight.lookup n = some (.openDevice d) := by
  simp only [Authority.underway,List.mem_filterMap]
  constructor
  · rintro ⟨⟨n,t'⟩,member,same⟩
    split at same
    · next d' flying => cases same; exact ⟨n,lookup_eq_some.mpr member,flying⟩
    · cases same
  · rintro ⟨n,handed,flying⟩
    exact ⟨⟨n,t⟩,lookup_eq_some.mp handed,by rw [flying]⟩

theorem step_sealed (sealed : Sealed b s) {e : Event} (taken : step b s e = some s') (fine : inTime b s e = true) :
    Sealed b s' := by
  cases e with
  | page a =>
    simp only [step] at taken
    split_ifs at taken
    obtain ⟨w,ran,rfl⟩ := Option.map_eq_some_iff.mp taken
    exact sealed.page ran fine
  | issue n t =>
    simp only [step] at taken
    split at taken
    · split_ifs at taken
      cases taken
      exact ⟨sealed.sound,sealed.known,sealed.gone,sealed.dormant⟩
    · cases taken
  | deviceGone d =>
    cases taken
    obtain ⟨ok,known,gone,dormant⟩ := sealed
    simp only [inTime,Bool.and_eq_true,Bool.not_eq_true',List.all_eq_true,bne_iff_ne] at fine
    obtain ⟨noOpen,noAnswer⟩ := fine
    have issued (key : DeviceId × Token) (member : key ∈ s.issued.filter (fun key => key.1 == d)) :
        key.1 = d ∧ key ∈ s.world.issued := by
      obtain ⟨here,device⟩ := List.mem_filter.mp member
      have device := beq_iff_eq.mp device
      refine ⟨device,(List.mem_append.mp here).resolve_right fun underway => ?_⟩
      exact noAnswer key underway device
    refine ⟨deviceGone_sound ok,fun d' t member => ?_,fun d' t member => ?_,fun k client d' r held member => ?_⟩
    · rcases List.mem_append.mp member with new | before
      · exact (ok.issued d' t (issued _ new).2).1
      · exact known d' t before
    · rw [ownerOf,clearDeviceOwnership_owner]
      rcases List.mem_append.mp member with new | before
      · exact if_pos (issued _ new).1
      · rw [gone d' t before,ite_self]
    · rcases List.mem_append.mp member with new | before
      · have busy : awaits s.world (fun _ d' _ => d' == d) = true :=
          awaits_iff.mpr ⟨k,client,d',r,held,beq_iff_eq.mpr (issued _ new).1⟩
        cases noOpen.symm.trans busy
      · exact dormant k client d' r held before
  | portRetired =>
    cases taken
    have named := Sound.names sealed.sound (values s.handed)
    obtain ⟨cleared,known⟩ := retirePort_cleared named
    refine ⟨cleared.sound,fun d t member => known t ?_,fun d t _ => ?_,fun k client d r _ _ => ?_⟩
    · rcases List.mem_append.mp member with new | before
      · rcases List.mem_append.mp new with issued | underway
        · exact List.mem_append_right _ (sealed.sound.issued d t issued).1
        · obtain ⟨n,handed,_⟩ := mem_underway.mp underway
          exact List.mem_append_left _ (mem_values.mpr ⟨n,handed⟩)
      · exact List.mem_append_right _ (sealed.known d t before)
    · rw [ownerOf,cleared.sessions,AList.lookup_empty]
    · rw [BgState.isFrameLifetimeActive,cleared.frames,AList.lookup_empty]; rfl

theorem step_countsLive (sealed : Sealed b s) {e : Event} (taken : step b s e = some s') : CountsLive b s e s' := by
  cases e with
  | page a =>
    simp only [step] at taken
    split_ifs at taken
    obtain ⟨w,ran,rfl⟩ := Option.map_eq_some_iff.mp taken
    refine ⟨fun d tab more => ?_,fun d none => (by cases none),fun none => (by cases none)⟩
    obtain ⟨k,client,r,rfl,held,same,active⟩ := (step_effect_any sealed.sound ran).counts sealed.sound more
    refine ⟨k,client,r,rfl,held,same,fun member => ?_⟩
    cases (sealed.dormant k client d r held member).symm.trans active
  | issue n t =>
    simp only [step] at taken
    split at taken
    · split_ifs at taken
      cases taken
      exact ⟨fun d tab more => absurd more (Nat.lt_irrefl _),fun d none => (by cases none),fun none => (by cases none)⟩
    · cases taken
  | deviceGone d =>
    cases taken
    refine ⟨fun d' tab more => absurd more (Nat.not_lt.mpr ?_),fun d' same tab => ?_,fun none => (by cases none)⟩
    · rw [clearDeviceOwnership_opens]
      split_ifs
      · exact Nat.zero_le _
      · exact Nat.le_refl _
    · cases same
      rw [clearDeviceOwnership_opens,if_pos rfl]
  | portRetired =>
    cases taken
    have cleared := (retirePort_cleared (Sound.names sealed.sound (values s.handed))).1
    refine ⟨fun d tab more => ?_,fun d none => (by cases none),fun _ => cleared.counts⟩
    exact absurd (cleared.counts d tab ▸ more) (Nat.not_lt_zero _)

/-- In every run in which no open is caught between its session and its second lookup by
    the loss of its device, and none is revived after the loss of the port, no session
    outlives its device or its port. -/
theorem no_session_survives {trace : List Event} (run : exec (step b) init trace = some s)
    (keeps : AllSteps (step b) (fun s e _ => inTime b s e = true) init trace) :
    Forgotten s ∧ AllSteps (step b) (CountsLive b) init trace := by
  have preserved (s : Authority) (e : Event) (s' : Authority) (sealed : Sealed b s) (taken : step b s e = some s')
      (fine : inTime b s e = true) : Sealed b s' := step_sealed sealed taken fine
  constructor
  · exact (exec_invariant_under preserved Sealed.init run keeps).gone
  · exact allSteps_under preserved (fun _ _ _ sealed taken _ => step_countsLive sealed taken) Sealed.init keeps

end

/-- A page opens the device; the daemon has answered when the device disconnects. -/
def disconnectedWhileOpening : List Event :=
  [.page (.pair "https://example.org" 7),.page (.openRequest (frameWindow 1) 7),.page (.stored 0),.issue 1 "stale",
    .page (.answer 1 ⟨200,7,"stale"⟩),.deviceGone 7]

/-- The second lookup of the grants registers the session of the lost device, and counts
    its open. -/
theorem stale_open_registers :
    (∃ s, exec (step oneTab) init (disconnectedWhileOpening ++ [.page (.stored 1)]) = some s ∧ ¬ Forgotten s) ∧
    ¬ AllSteps (step oneTab) (CountsLive oneTab) init (disconnectedWhileOpening ++ [.page (.stored 1)]) := by
  constructor
  · obtain ⟨s,run⟩ := Option.isSome_iff_exists.mp
      (by decide : (exec (step oneTab) init (disconnectedWhileOpening ++ [.page (.stored 1)])).isSome = true)
    have facts : (exec (step oneTab) init (disconnectedWhileOpening ++ [.page (.stored 1)])).map (fun s =>
        (s.dead,(ownerOf s.world 7 "stale").isSome)) = some ([(7,"stale")],true) := by decide
    rw [run] at facts
    simp only [Option.map_some,Option.some.injEq,Prod.mk.injEq] at facts
    obtain ⟨dead,registered⟩ := facts
    refine ⟨s,run,fun forgotten => ?_⟩
    rw [forgotten 7 "stale" (dead ▸ List.mem_cons_self)] at registered
    cases registered
  · intro all
    obtain ⟨s,run⟩ := Option.isSome_iff_exists.mp
      (by decide : (exec (step oneTab) init disconnectedWhileOpening).isSome = true)
    have before : (exec (step oneTab) init disconnectedWhileOpening).map (fun s =>
        (s.dead,s.world.state.opens 7 1,s.world.store.lookup 1)) =
        some ([(7,"stale")],0,some (.openRecheck (frameWindow 1) 7 ⟨200,7,"stale"⟩)) := by decide
    have after : (exec (step oneTab) init disconnectedWhileOpening).bind (fun s =>
        (step oneTab s (.page (.stored 1))).map fun s' => s'.world.state.opens 7 1) = some 1 := by decide
    rw [run] at before after
    obtain ⟨s',taken,counted⟩ := Option.map_eq_some_iff.mp after
    simp only [Option.map_some,Option.some.injEq,Prod.mk.injEq] at before
    obtain ⟨dead,none,held⟩ := before
    obtain ⟨k,client,r,same,here,_,alive⟩ := (all.at run taken).opened 7 1 (by rw [none,counted]; exact Nat.one_pos)
    cases same
    cases held.symm.trans here
    exact alive (dead ▸ List.mem_cons_self)

/-- A device disconnects after its session is registered; then the port is retired while
    an open of another device awaits its second lookup. -/
def lostDeviceAndPort : List Event :=
  [.page (.pair "https://example.org" 7),.page (.pair "https://example.org" 8),
    .page (.openRequest (frameWindow 1) 7),.page (.stored 0),.issue 1 "first",.page (.answer 1 ⟨200,7,"first"⟩),
    .page (.stored 1),.page (.openRequest (frameWindow 1) 8),.page (.stored 2),.issue 2 "second",.deviceGone 7,
    .page (.answer 2 ⟨200,8,"second"⟩),.portRetired,.page (.stored 3)]

/-- The first session is dropped with its device, and the frame of the second is no
    longer active. -/
theorem no_session_survives_both : ∃ s, exec (step oneTab) init lostDeviceAndPort = some s ∧
    (7,"first") ∈ s.dead ∧ (8,"second") ∈ s.dead ∧ Forgotten s := by
  obtain ⟨s,run⟩ := Option.isSome_iff_exists.mp (by decide : (exec (step oneTab) init lostDeviceAndPort).isSome = true)
  have dead : (exec (step oneTab) init lostDeviceAndPort).map (fun s =>
      (s.dead.contains (7,"first"),s.dead.contains (8,"second"))) = some (true,true) := by decide
  rw [run] at dead
  simp only [Option.map_some,Option.some.injEq,Prod.mk.injEq,List.contains_eq_mem,decide_eq_true_eq] at dead
  exact ⟨s,run,dead.1,dead.2,(no_session_survives run (allSteps_of_checkAll (by decide))).1⟩

end FFWebHid.AuthorityLifetimes
