import FFWebHid.Maps
import FFWebHid.Runs
import FFWebHid.StateOps
import FFWebHid.Background

/-!
What every run of the background page keeps: which tokens may occur where, and what a
registered session still has. A token is first held by the open that received it;
only then can it be registered, closed or kept for retry, and it is registered at most
once. A session is live while it is registered and no cleanup that will drop it is
under way.
-/
namespace FFWebHid.Bookkeeping
open FFWebHid.Maps FFWebHid.Runs FFWebHid.StateOps FFWebHid.Background

abbrev ownerOf (w : World) (d : DeviceId) (t : Token) : Option Owner := w.state.deviceSessions.lookup (d,t)

/-- The request is a cleanup that will drop the session. -/
def ends (d : DeviceId) (t : Token) : Continuation → Bool
  | .cleaned d' t' own _ => d' == d && t' == t && own.isSome
  | _ => false

def ending (w : World) (d : DeviceId) (t : Token) : Bool := (values w.pending).any (ends d t)

/-- A registered session that no cleanup under way will drop. -/
structure Live (w : World) (d : DeviceId) (t : Token) (o : Owner) : Prop where
  registered : ownerOf w d t = some o
  kept : ending w d t = false

/-- The token has left the open that received it, or was only made up. -/
def Told (w : World) (t : Token) : Prop := t ∈ w.known ∧ w.holds t = false

/-! ### The invariant -/

def RevocationOk (w : World) (rev : Revocation) : Prop :=
  ∀ t ∈ rev.tokens, Told w t ∧ ∀ o, ownerOf w rev.deviceId t = some o → o.origin = rev.origin

def ContinuationOk (b : Browser) (w : World) : Continuation → Prop
  | .cleaned d t own rest => Told w t ∧ (ownerOf w d t = own ∨ ownerOf w d t = none) ∧
      ∀ rev, rest = some rev → RevocationOk w rev
  | .closed client d t => t ≠ "" → Told w t ∧ ∀ o, ownerOf w d t = some o → o.tabId = b.tab client
  | _ => True

/-- The owner is a frame of its tab, with the frame's origin. -/
structure OwnerOk (b : Browser) (o : Owner) : Prop where
  tab : o.tabId = b.tabOf o.frameKey.bridgeInstanceId
  origin : o.origin = b.originOf o.frameKey
  bridge : o.bridgeInstanceId = o.frameKey.bridgeInstanceId

structure Sound (b : Browser) (w : World) : Prop where
  pendingFresh : ∀ n c, w.pending.lookup n = some c → n < w.nextId
  flightFresh : ∀ n q, w.inFlight.lookup n = some q → n < w.nextId
  awaited : ∀ n c, w.pending.lookup n = some c → w.inFlight.lookup n = some c.request
  storeFresh : ∀ k wait, w.store.lookup k = some wait → k < w.nextStore
  issued : ∀ d t, (d,t) ∈ w.issued → t ∈ w.known ∧ t ≠ ""
  oneDevice : ∀ d d' t, (d,t) ∈ w.issued → (d',t) ∈ w.issued → d = d'
  rechecks : ∀ k client d r, w.store.lookup k = some (.openRecheck client d r) →
    r.i = d ∧ (d,r.t) ∈ w.issued
  oneHolder : ∀ k k' client client' d d' r r', w.store.lookup k = some (.openRecheck client d r) →
    w.store.lookup k' = some (.openRecheck client' d' r') → r.t = r'.t → k = k'
  sessions : ∀ d t o, ownerOf w d t = some o →
    (d,t) ∈ w.issued ∧ Told w t ∧ OwnerOk b o
  nonzero : ∀ t, ownerOf w 0 t = none
  continuations : ∀ n c, w.pending.lookup n = some c → ContinuationOk b w c
  orphans : ∀ t d, w.state.orphanCleanup.lookup t = some d → Told w t ∧ ownerOf w d t = none
  noZero : w.state.NoZero

section
variable {b : Browser} {w w' : World} {d d' : DeviceId} {t t' : Token} {o : Owner}

theorem holds_iff : w.holds t = true ↔
    ∃ k client d r, w.store.lookup k = some (.openRecheck client d r) ∧ r.t = t := by
  simp only [World.holds,List.any_eq_true,mem_values]
  constructor
  · rintro ⟨wait,⟨k,found⟩,same⟩
    cases wait with
    | openRecheck client d r => exact ⟨k,client,d,r,found,beq_iff_eq.mp same⟩
    | _ => cases same
  · rintro ⟨k,client,d,r,found,rfl⟩
    exact ⟨_,⟨k,found⟩,beq_self_eq_true _⟩

theorem ending_iff : ending w d t = true ↔ ∃ n c, w.pending.lookup n = some c ∧ ends d t c = true := by
  simp only [ending,List.any_eq_true,mem_values]
  constructor
  · rintro ⟨c,⟨n,found⟩,same⟩; exact ⟨n,c,found,same⟩
  · rintro ⟨n,c,found,same⟩; exact ⟨c,⟨n,found⟩,same⟩

theorem ends_iff {c : Continuation} : ends d t c = true ↔ ∃ o rest, c = .cleaned d t (some o) rest := by
  cases c with
  | cleaned d' t' own rest =>
    cases own with
    | none => simp [ends]
    | some o => simp [ends]
  | _ => simp [ends]

/-- Tokens that were told stay told, and their sessions are at most dropped. -/
structure Later (w w' : World) : Prop where
  told : ∀ t, Told w t → Told w' t
  sessions : ∀ d t, Told w t → ownerOf w' d t = ownerOf w d t ∨ ownerOf w' d t = none

theorem RevocationOk.later {rev : Revocation} (ok : RevocationOk w rev) (later : Later w w') : RevocationOk w' rev := by
  intro t member
  obtain ⟨told,origin⟩ := ok t member
  refine ⟨later.told t told,fun o found => ?_⟩
  rcases later.sessions rev.deviceId t told with same | gone
  · exact origin o (same ▸ found)
  · rw [gone] at found; cases found

theorem ContinuationOk.later {c : Continuation} (ok : ContinuationOk b w c) (later : Later w w') :
    ContinuationOk b w' c := by
  cases c with
  | cleaned d t own rest =>
    obtain ⟨told,here,revocation⟩ := ok
    refine ⟨later.told t told,?_,fun rev same => (revocation rev same).later later⟩
    rcases later.sessions d t told with same | gone
    · rw [same]; exact here
    · exact Or.inr gone
  | closed client d t =>
    intro nonempty
    obtain ⟨told,tab⟩ := ok nonempty
    refine ⟨later.told t told,fun o found => ?_⟩
    rcases later.sessions d t told with same | gone
    · exact tab o (same ▸ found)
    · rw [gone] at found; cases found
  | _ => trivial

/-- A world with the same tokens whose sessions are at most dropped. -/
theorem Later.of_same (known : w'.known = w.known) (store : w'.store = w.store)
    (sessions : ∀ d t, ownerOf w' d t = ownerOf w d t ∨ ownerOf w' d t = none) : Later w w' :=
  ⟨fun t told => by rw [Told,known,World.holds,store]; exact told,fun d t _ => sessions d t⟩

theorem pending_sendFrame (ok : Sound b w) {c c' : Continuation} {n : Nat} :
    (w.sendFrame c).pending.lookup n = some c' ↔
      n = w.nextId ∧ c' = c ∨ n < w.nextId ∧ w.pending.lookup n = some c' := by
  simp only [World.sendFrame,lookup_insert_eq]
  by_cases new : n = w.nextId
  · simp [new,eq_comm]
  · simp only [new,if_false,false_and,false_or]
    exact ⟨fun found => ⟨ok.pendingFresh n c' found,found⟩,And.right⟩

theorem store_await (ok : Sound b w) {wait wait' : StoreWait} {k : Nat} :
    (w.await wait).store.lookup k = some wait' ↔
      k = w.nextStore ∧ wait' = wait ∨ k < w.nextStore ∧ w.store.lookup k = some wait' := by
  simp only [World.await,lookup_insert_eq]
  by_cases new : k = w.nextStore
  · simp [new,eq_comm]
  · simp only [new,if_false,false_and,false_or]
    exact ⟨fun found => ⟨ok.storeFresh k wait' found,found⟩,And.right⟩

theorem Sound.sendFrame (ok : Sound b w) {c : Continuation} (fine : ContinuationOk b w c) : Sound b (w.sendFrame c) := by
  have later : Later w (w.sendFrame c) := .of_same rfl rfl fun _ _ => Or.inl rfl
  refine { ok with pendingFresh := ?_, flightFresh := ?_, awaited := ?_, continuations := ?_ }
  · intro n c' here
    rcases (pending_sendFrame ok).mp here with ⟨rfl,_⟩ | ⟨old,_⟩
    · exact Nat.lt_succ_self _
    · exact Nat.lt_succ_of_lt old
  · intro n q here
    simp only [World.sendFrame,lookup_insert_eq] at here
    by_cases new : n = w.nextId
    · rw [new]; exact Nat.lt_succ_self _
    · rw [if_neg new] at here; exact Nat.lt_succ_of_lt (ok.flightFresh n q here)
  · intro n c' here
    simp only [World.sendFrame,lookup_insert_eq]
    rcases (pending_sendFrame ok).mp here with ⟨rfl,rfl⟩ | ⟨old,before⟩
    · rw [if_pos rfl]
    · rw [if_neg (Nat.ne_of_lt old)]; exact ok.awaited n c' before
  · intro n c' here
    rcases (pending_sendFrame ok).mp here with ⟨_,rfl⟩ | ⟨_,before⟩
    · exact fine.later later
    · exact (ok.continuations n c' before).later later

theorem holds_await {wait : StoreWait} (ok : Sound b w) :
    (w.await wait).holds t = true ↔ w.holds t = true ∨ ∃ client d r, wait = .openRecheck client d r ∧ r.t = t := by
  simp only [holds_iff,store_await ok]
  constructor
  · rintro ⟨k,client,d,r,⟨_,found⟩ | ⟨_,found⟩,same⟩
    · exact Or.inr ⟨client,d,r,found.symm,same⟩
    · exact Or.inl ⟨k,client,d,r,found,same⟩
  · rintro (⟨k,client,d,r,found,same⟩ | ⟨client,d,r,rfl,same⟩)
    · exact ⟨k,client,d,r,Or.inr ⟨ok.storeFresh k _ found,found⟩,same⟩
    · exact ⟨w.nextStore,client,d,r,Or.inl ⟨rfl,rfl⟩,same⟩

/-- A wait of another kind than a second lookup. -/
theorem Sound.await (ok : Sound b w) {wait : StoreWait} (plain : ∀ client d r, wait ≠ .openRecheck client d r) :
    Sound b (w.await wait) := by
  have later : Later w (w.await wait) := by
    refine ⟨fun t told => ⟨told.1,?_⟩,fun _ _ _ => Or.inl rfl⟩
    by_contra held
    rcases (holds_await ok).mp (Bool.eq_true_of_not_eq_false held) with before | ⟨client,d,r,same,_⟩
    · rw [told.2] at before; cases before
    · exact plain client d r same
  have old {k : Nat} {client : Client} {d : DeviceId} {r : NmResponse}
      (here : (w.await wait).store.lookup k = some (.openRecheck client d r)) :
      w.store.lookup k = some (.openRecheck client d r) := by
    rcases (store_await ok).mp here with ⟨_,same⟩ | ⟨_,before⟩
    · exact absurd same.symm (plain client d r)
    · exact before
  refine { ok with storeFresh := ?_, rechecks := ?_, oneHolder := ?_, sessions := ?_, continuations := ?_, orphans := ?_ }
  · intro k wait' here
    rcases (store_await ok).mp here with ⟨rfl,_⟩ | ⟨before,_⟩
    · exact Nat.lt_succ_self _
    · exact Nat.lt_succ_of_lt before
  · intro k client d r here
    exact ok.rechecks k client d r (old here)
  · intro k k' client client' d d' r r' here there
    exact ok.oneHolder k k' client client' d d' r r' (old here) (old there)
  · intro d t o registered
    obtain ⟨issued,told,owned⟩ := ok.sessions d t o registered
    exact ⟨issued,later.told t told,owned⟩
  · intro n c here
    exact (ok.continuations n c here).later later
  · intro t d orphan
    obtain ⟨told,none⟩ := ok.orphans t d orphan
    exact ⟨later.told t told,none⟩

theorem Sound.withAllowed (ok : Sound b w) (allowed : Finset (Origin × DeviceId)) : Sound b { w with allowed } :=
  { ok with pendingFresh := ok.pendingFresh }

theorem Sound.withConfirmed (ok : Sound b w) (confirmed : List (DeviceId × Token)) : Sound b { w with confirmed } :=
  { ok with pendingFresh := ok.pendingFresh }

/-- The request settles: nothing waits for its answer any more. -/
theorem Sound.forgetPending (ok : Sound b w) (n : Nat) : Sound b { w with pending := w.pending.erase n } := by
  have old {n' : Nat} {c : Continuation} (found : (w.pending.erase n).lookup n' = some c) :
      w.pending.lookup n' = some c := by
    rw [lookup_erase_eq] at found
    by_cases same : n' = n
    · rw [if_pos same] at found; cases found
    · rw [if_neg same] at found; exact found
  exact { ok with
    pendingFresh := fun n' c found => ok.pendingFresh n' c (old found)
    awaited := fun n' c found => ok.awaited n' c (old found)
    continuations := fun n' c found => ok.continuations n' c (old found) }

/-- The daemon answered the request. -/
theorem Sound.forgetFlight (ok : Sound b w) (n : Nat) :
    Sound b { w with inFlight := w.inFlight.erase n, pending := w.pending.erase n } := by
  have waiting := ok.forgetPending n
  refine { waiting with flightFresh := ?_, awaited := ?_ }
  · intro n' q found
    rw [lookup_erase_eq] at found
    by_cases same : n' = n
    · rw [if_pos same] at found; cases found
    · rw [if_neg same] at found; exact ok.flightFresh n' q found
  · intro n' c found
    have before := waiting.awaited n' c found
    rw [lookup_erase_eq] at found ⊢
    by_cases same : n' = n
    · rw [if_pos same] at found; cases found
    · rw [if_neg same]; exact before

theorem holds_forgetStore {k : Nat} (held : { w with store := w.store.erase k }.holds t = true) : w.holds t = true := by
  obtain ⟨k',client,d,r,found,same⟩ := holds_iff.mp held
  rw [lookup_erase_eq] at found
  by_cases here : k' = k
  · rw [if_pos here] at found; cases found
  · rw [if_neg here] at found; exact holds_iff.mpr ⟨k',client,d,r,found,same⟩

theorem Later.forgetStore (w : World) (k : Nat) : Later w { w with store := w.store.erase k } := by
  refine ⟨fun t told => ⟨told.1,?_⟩,fun _ _ _ => Or.inl rfl⟩
  by_contra held
  have before := holds_forgetStore (Bool.eq_true_of_not_eq_false held)
  rw [told.2] at before; cases before

/-- The store transaction ended. -/
theorem Sound.forgetStore (ok : Sound b w) (k : Nat) : Sound b { w with store := w.store.erase k } := by
  have later := Later.forgetStore w k
  have old {k' : Nat} {wait : StoreWait} (found : (w.store.erase k).lookup k' = some wait) :
      w.store.lookup k' = some wait := by
    rw [lookup_erase_eq] at found
    by_cases same : k' = k
    · rw [if_pos same] at found; cases found
    · rw [if_neg same] at found; exact found
  refine { ok with storeFresh := ?_, rechecks := ?_, oneHolder := ?_, sessions := ?_, continuations := ?_, orphans := ?_ }
  · intro k' wait found
    exact ok.storeFresh k' wait (old found)
  · intro k' client d r found
    exact ok.rechecks k' client d r (old found)
  · intro k' k'' client client' d d' r r' here there
    exact ok.oneHolder k' k'' client client' d d' r r' (old here) (old there)
  · intro d t o registered
    obtain ⟨issued,told,owned⟩ := ok.sessions d t o registered
    exact ⟨issued,later.told t told,owned⟩
  · intro n c found
    exact (ok.continuations n c found).later later
  · intro t d orphan
    obtain ⟨told,none⟩ := ok.orphans t d orphan
    exact ⟨later.told t told,none⟩

/-- Bookkeeping that at most drops sessions. -/
theorem Sound.withState (ok : Sound b w) {s : BgState}
    (sessions : ∀ key, s.deviceSessions.lookup key = w.state.deviceSessions.lookup key ∨ s.deviceSessions.lookup key = none)
    (orphans : ∀ t d, s.orphanCleanup.lookup t = some d → Told w t ∧ s.deviceSessions.lookup (d,t) = none)
    (noZero : s.NoZero) : Sound b { w with state := s } := by
  have later : Later w { w with state := s } := .of_same rfl rfl fun d t => sessions (d,t)
  refine { ok with sessions := ?_, nonzero := ?_, continuations := ?_, orphans := orphans, noZero := noZero }
  · intro d t o registered
    rcases sessions (d,t) with same | gone
    · exact ok.sessions d t o (same.symm.trans registered)
    · rw [ownerOf,gone] at registered; cases registered
  · intro t
    rcases sessions (0,t) with same | gone
    · exact same.trans (ok.nonzero t)
    · exact gone
  · intro n c found
    exact (ok.continuations n c found).later later

/-- Bookkeeping that leaves the sessions and the orphans alone. -/
theorem Sound.withCounts (ok : Sound b w) {s : BgState} (sessions : s.deviceSessions = w.state.deviceSessions)
    (orphans : s.orphanCleanup = w.state.orphanCleanup) (noZero : s.NoZero) : Sound b { w with state := s } := by
  refine ok.withState (fun key => Or.inl (by rw [sessions])) (fun t d orphan => ?_) noZero
  rw [orphans] at orphan
  rw [sessions]
  exact ok.orphans t d orphan

/-- Somebody names a token that no open holds. -/
theorem Sound.name (ok : Sound b w) (t : Token) : Sound b { w with known := t :: w.known } := by
  have later : Later w { w with known := t :: w.known } :=
    ⟨fun t' told => ⟨List.mem_cons_of_mem t told.1,told.2⟩,fun _ _ _ => Or.inl rfl⟩
  refine { ok with issued := ?_, sessions := ?_, continuations := ?_, orphans := ?_ }
  · intro d t' issued
    obtain ⟨known,nonempty⟩ := ok.issued d t' issued
    exact ⟨List.mem_cons_of_mem t known,nonempty⟩
  · intro d t' o registered
    obtain ⟨issued,told,owned⟩ := ok.sessions d t' o registered
    exact ⟨issued,later.told t' told,owned⟩
  · intro n c found
    exact (ok.continuations n c found).later later
  · intro t' d orphan
    obtain ⟨told,none⟩ := ok.orphans t' d orphan
    exact ⟨later.told t' told,none⟩

/-- The daemon opens a session under a token that nobody has named. -/
theorem Sound.issue (ok : Sound b w) (d : DeviceId) (fresh : t ∉ w.known) (nonempty : t ≠ "") :
    Sound b { w with issued := (d,t) :: w.issued, known := t :: w.known } := by
  have named := ok.name t
  refine { named with issued := ?_, oneDevice := ?_, rechecks := ?_, sessions := ?_ }
  · intro d' t' issued
    rcases List.mem_cons.mp issued with same | before
    · cases same; exact ⟨List.mem_cons_self,nonempty⟩
    · exact named.issued d' t' before
  · intro d₁ d₂ t' first second
    rcases List.mem_cons.mp first with same | before
    · cases same
      rcases List.mem_cons.mp second with same' | before'
      · cases same'; rfl
      · exact absurd (ok.issued d₂ t before').1 fresh
    · rcases List.mem_cons.mp second with same' | before'
      · cases same'; exact absurd (ok.issued d₁ t before).1 fresh
      · exact ok.oneDevice d₁ d₂ t' before before'
  · intro k client d' r found
    obtain ⟨device,issued⟩ := ok.rechecks k client d' r found
    exact ⟨device,List.mem_cons_of_mem _ issued⟩
  · intro d' t' o registered
    obtain ⟨issued,told,owned⟩ := named.sessions d' t' o registered
    exact ⟨List.mem_cons_of_mem _ issued,told,owned⟩

/-- An open receives its answer. -/
theorem Sound.receive (ok : Sound b w) {client : Client} {r : NmResponse} (device : r.i = d) (fresh : r.t ∉ w.known)
    (nonempty : r.t ≠ "") :
    Sound b ({ w with issued := (d,r.t) :: w.issued, known := r.t :: w.known }.await (.openRecheck client d r)) := by
  have opened := ok.issue d fresh nonempty
  have later : Later w ({ w with issued := (d,r.t) :: w.issued, known := r.t :: w.known }.await
      (.openRecheck client d r)) := by
    refine ⟨fun t told => ⟨List.mem_cons_of_mem _ told.1,?_⟩,fun _ _ _ => Or.inl rfl⟩
    by_contra held
    rcases (holds_await opened).mp (Bool.eq_true_of_not_eq_false held) with before | ⟨_,_,_,same,rfl⟩
    · exact Bool.false_ne_true (told.2.symm.trans before)
    · cases same; exact fresh told.1
  have unheld {k : Nat} {client' : Client} {d' : DeviceId} {r' : NmResponse}
      (found : w.store.lookup k = some (.openRecheck client' d' r')) : r'.t ≠ r.t := by
    intro same
    exact fresh (same ▸ (ok.issued d' r'.t (ok.rechecks k client' d' r' found).2).1)
  refine { opened with
    storeFresh := ?_, rechecks := ?_, oneHolder := ?_, sessions := ?_, continuations := ?_, orphans := ?_ }
  · intro k wait' here
    rcases (store_await opened).mp here with ⟨rfl,_⟩ | ⟨before,_⟩
    · exact Nat.lt_succ_self _
    · exact Nat.lt_succ_of_lt before
  · intro k client' d' r' here
    rcases (store_await opened).mp here with ⟨_,same⟩ | ⟨_,before⟩
    · cases same; exact ⟨device,List.mem_cons_self⟩
    · exact opened.rechecks k client' d' r' before
  · intro k k' client₁ client₂ d₁ d₂ r₁ r₂ here there same
    rcases (store_await opened).mp here with ⟨new,first⟩ | ⟨_,first⟩ <;>
      rcases (store_await opened).mp there with ⟨new',second⟩ | ⟨_,second⟩
    · rw [new,new']
    · cases first; exact absurd same.symm (unheld second)
    · cases second; exact absurd same (unheld first)
    · exact ok.oneHolder k k' client₁ client₂ d₁ d₂ r₁ r₂ first second same
  · intro d' t' o registered
    obtain ⟨issued,told,owned⟩ := ok.sessions d' t' o registered
    exact ⟨List.mem_cons_of_mem _ issued,later.told t' told,owned⟩
  · intro n c found
    exact (ok.continuations n c found).later later
  · intro t' d' orphan
    obtain ⟨told,none⟩ := ok.orphans t' d' orphan
    exact ⟨later.told t' told,none⟩

/-- An open registers the session it holds. -/
theorem Sound.register (ok : Sound b w) {k : Nat} {client : Client} {r : NmResponse} {s : BgState}
    (held : w.store.lookup k = some (.openRecheck client d r)) (nonzero : d ≠ 0) (owned : OwnerOk b o)
    (sessions : s.deviceSessions = w.state.deviceSessions.insert (d,r.t) o)
    (orphans : s.orphanCleanup = w.state.orphanCleanup) (noZero : s.NoZero) :
    Sound b { w with store := w.store.erase k, state := s } := by
  obtain ⟨device,issued⟩ := ok.rechecks k client d r held
  have holding : w.holds r.t = true := holds_iff.mpr ⟨k,client,d,r,held,rfl⟩
  have untold {t : Token} (told : Told w t) : t ≠ r.t := by
    rintro rfl
    exact Bool.false_ne_true (told.2.symm.trans holding)
  have elsewhere {d' : DeviceId} {t : Token} (other : t ≠ r.t) :
      s.deviceSessions.lookup (d',t) = w.state.deviceSessions.lookup (d',t) := by
    rw [sessions,lookup_insert_eq,if_neg fun same => other (Prod.mk.inj same).2]
  have later : Later w { w with store := w.store.erase k, state := s } :=
    ⟨(Later.forgetStore w k).told,fun d' t told => Or.inl (elsewhere (untold told))⟩
  have released : Told { w with store := w.store.erase k, state := s } r.t := by
    refine ⟨(ok.issued d r.t issued).1,?_⟩
    by_contra held'
    obtain ⟨k',client',d',r',found,same⟩ := holds_iff.mp (Bool.eq_true_of_not_eq_false held')
    rw [lookup_erase_eq] at found
    by_cases here : k' = k
    · rw [if_pos here] at found; cases found
    · rw [if_neg here] at found
      exact here (ok.oneHolder k' k client' client d' d r' r found held same)
  refine { ok.forgetStore k with sessions := ?_, nonzero := ?_, continuations := ?_, orphans := ?_, noZero := noZero }
  · intro d' t o' registered
    by_cases here : t = r.t
    · by_cases dev : d' = d
      · have same : ownerOf { w with store := w.store.erase k, state := s } d' t = some o := by
          rw [ownerOf,sessions,lookup_insert_eq,if_pos (by rw [dev,here])]
        cases Option.some.inj (same.symm.trans registered)
        exact ⟨dev ▸ here ▸ issued,here ▸ released,owned⟩
      · rw [ownerOf,sessions,lookup_insert_eq,if_neg fun same => dev (Prod.mk.inj same).1] at registered
        exact absurd here (untold (ok.sessions d' t o' registered).2.1)
    · rw [ownerOf,elsewhere here] at registered
      obtain ⟨issued',told,owned'⟩ := ok.sessions d' t o' registered
      exact ⟨issued',later.told t told,owned'⟩
  · intro t
    rw [ownerOf,sessions,lookup_insert_eq,if_neg fun same => nonzero (Prod.mk.inj same).1.symm]
    exact ok.nonzero t
  · intro n c found
    exact (ok.continuations n c found).later later
  · intro t d' orphan
    rw [orphans] at orphan
    obtain ⟨told,none⟩ := ok.orphans t d' orphan
    exact ⟨later.told t told,by rw [ownerOf,elsewhere (untold told)]; exact none⟩

/-! ### The handlers keep the invariant -/

theorem Sound.closeForCleanup (ok : Sound b w) (told : Told w t) {rest : Option Revocation}
    (revocation : ∀ rev, rest = some rev → RevocationOk w rev) : Sound b (w.closeForCleanup d t rest) :=
  ok.sendFrame ⟨told,Or.inl rfl,revocation⟩

/-- The bookkeeping before a close touches neither sessions nor frames nor orphans. -/
structure Quiet (before : BgState → DeviceId × Token → BgState) : Prop where
  sessions : ∀ s key, (before s key).deviceSessions = s.deviceSessions
  frames : ∀ s key, (before s key).frameLifetimes = s.frameLifetimes
  orphans : ∀ s key, (before s key).orphanCleanup = s.orphanCleanup
  noZero : ∀ s key, s.NoZero → (before s key).NoZero
  counts : ∀ s key d tab, (before s key).opens d tab ≤ s.opens d tab

theorem quiet_unregisterDeviceTab (tab : TabId) : Quiet fun s key => s.unregisterDeviceTab key.1 tab :=
  ⟨fun _ _ => rfl,fun _ _ => rfl,fun _ _ => rfl,fun _ _ => noZero_unregisterDeviceTab,
    fun _ _ _ _ => opens_unregisterDeviceTab_le⟩

theorem quiet_id : Quiet fun s _ => s :=
  ⟨fun _ _ => rfl,fun _ _ => rfl,fun _ _ => rfl,fun _ _ => id,fun _ _ _ _ => Nat.le_refl _⟩

theorem Sound.closeNext {before : BgState → DeviceId × Token → BgState} (quiet : Quiet before)
    {key : DeviceId × Token} (ok : Sound b w) (told : Told w key.2) : Sound b (w.closeNext before key) := by
  have updated : Sound b { w with state := before w.state key } :=
    ok.withCounts (quiet.sessions _ key) (quiet.orphans _ key) (quiet.noZero _ key ok.noZero)
  exact updated.closeForCleanup told fun rev none => by cases none

theorem Sound.closeAll {before : BgState → DeviceId × Token → BgState} (quiet : Quiet before)
    (keys : List (DeviceId × Token)) (ok : Sound b w) (told : ∀ key ∈ keys, Told w key.2) :
    Sound b (w.closeAll before keys) := by
  induction keys generalizing w with
  | nil => exact ok
  | cons key rest ih =>
    exact ih (Sound.closeNext quiet ok (told key List.mem_cons_self))
      fun key' member => told key' (List.mem_cons_of_mem key member)

theorem Sound.collected (ok : Sound b w) {test : DeviceId → Owner → Bool} {key : DeviceId × Token}
    (member : key ∈ w.state.collectDeviceSessions test) : Told w key.2 := by
  obtain ⟨o,registered,_⟩ := mem_collectDeviceSessions.mp member
  exact (ok.sessions key.1 key.2 o registered).2.1

theorem Sound.purgeFrame (ok : Sound b w) (tab : TabId) (frame : FrameKey) : Sound b (w.purgeFrame tab frame) :=
  have retired : Sound b { w with state := w.state.retireFrameLifetime tab frame } := ok.withCounts rfl rfl ok.noZero
  Sound.closeAll (quiet_unregisterDeviceTab tab) _ retired fun _ member => retired.collected member

theorem Sound.purgeBridge (ok : Sound b w) (tab : TabId) (bridge : String) : Sound b (w.purgeBridge tab bridge) :=
  have retired : Sound b { w with state := w.state.retireBridgeFrames tab bridge } := ok.withCounts rfl rfl ok.noZero
  Sound.closeAll (quiet_unregisterDeviceTab tab) _ retired fun _ member => retired.collected member

theorem Sound.purgeTab (ok : Sound b w) (tab : TabId) : Sound b (w.purgeTab tab) :=
  have forgotten : Sound b { w with state := (w.state.forgetTabDevices tab).forgetTabFrames tab } :=
    ok.withCounts rfl rfl (noZero_forgetTabDevices ok.noZero)
  Sound.closeAll quiet_id _ forgotten fun _ member => forgotten.collected member

theorem mem_orphanKeys {key : DeviceId × Token} :
    key ∈ w.state.orphanCleanup.entries.map (fun entry => (entry.2,entry.1)) ↔
      w.state.orphanCleanup.lookup key.2 = some key.1 := by
  rw [List.mem_map,lookup_eq_some]
  constructor
  · rintro ⟨⟨t,d⟩,member,rfl⟩; exact member
  · intro member; exact ⟨⟨key.2,key.1⟩,member,rfl⟩

theorem Sound.retryOrphanCleanup (ok : Sound b w) : Sound b w.retryOrphanCleanup :=
  Sound.closeAll quiet_id _ ok fun key member => (ok.orphans key.2 key.1 (mem_orphanKeys.mp member)).1

theorem Sound.revokeNext (ok : Sound b w) (origin : Origin) (call : RevokeCall) (devices : List DeviceId) :
    Sound b (w.revokeNext origin call devices) := by
  cases devices <;> exact ok.await fun _ _ _ same => by cases same

theorem Sound.revokeTokens (ok : Sound b w) {rev : Revocation} (fine : RevocationOk w rev) :
    Sound b (w.revokeTokens rev) := by
  obtain ⟨origin,d,tokens,devices,call⟩ := rev
  cases tokens with
  | nil => exact ok.revokeNext origin call devices
  | cons t tokens =>
    have rest (rev : Revocation) (same : some ⟨origin,d,tokens,devices,call⟩ = some rev) : RevocationOk w rev := by
      cases same
      exact fun t' member => fine t' (List.mem_cons_of_mem t member)
    have told := (fine t List.mem_cons_self).1
    have released : Sound b { w with state := w.state.unregisterOwnerTab d t } :=
      ok.withCounts unregisterOwnerTab_sessions unregisterOwnerTab_orphanCleanup (noZero_unregisterOwnerTab ok.noZero)
    have later : Later w { w with state := w.state.unregisterOwnerTab d t } :=
      .of_same rfl rfl fun d' t' => Or.inl (by simp only [ownerOf,unregisterOwnerTab_sessions])
    exact released.closeForCleanup told fun rev same => (rest rev same).later later

theorem Sound.revokeRemoved (ok : Sound b w) (origin : Origin) (d : DeviceId) (rest : List DeviceId) (call : RevokeCall) :
    Sound b (w.revokeRemoved origin d rest call) := by
  refine (ok.withAllowed _).revokeTokens fun t member => ?_
  obtain ⟨⟨d',t'⟩,collected,rfl⟩ := List.mem_map.mp member
  obtain ⟨rfl,o,registered,same⟩ := mem_collectDeviceSessionsForOrigin.mp collected
  refine ⟨(ok.sessions _ _ o registered).2.1,fun o' found => ?_⟩
  cases Option.some.inj (found.symm.trans registered)
  exact same

theorem dropOwned_sessions (s : BgState) (own : Option Owner) (key : DeviceId × Token) :
    (s.dropOwned d t own).deviceSessions.lookup key = s.deviceSessions.lookup key ∨
      (s.dropOwned d t own).deviceSessions.lookup key = none := by
  rw [lookup_dropOwned]
  split_ifs
  · exact Or.inr rfl
  · exact Or.inl rfl

/-- Nothing is registered under a key once its cleanup has settled. -/
theorem dropOwned_gone {s : BgState} {own : Option Owner}
    (here : s.deviceSessions.lookup (d,t) = own ∨ s.deviceSessions.lookup (d,t) = none) :
    (s.dropOwned d t own).deviceSessions.lookup (d,t) = none := by
  rw [lookup_dropOwned]
  split_ifs with dropped
  · rfl
  · rcases here with same | gone
    · cases own with
      | none => exact same
      | some o => exact absurd ⟨rfl,rfl,same⟩ dropped
    · exact gone

theorem Later.cleanupDone (w : World) (d : DeviceId) (t : Token) (own : Option Owner) (gone : Bool) :
    Later w (w.cleanupDone d t own gone) := by
  cases gone <;> exact .of_same rfl rfl fun d' t' => dropOwned_sessions w.state own (d',t')

theorem Sound.cleanupDone (ok : Sound b w) {own : Option Owner} (told : Told w t)
    (here : ownerOf w d t = own ∨ ownerOf w d t = none) (gone : Bool) : Sound b (w.cleanupDone d t own gone) := by
  have others {t' : Token} {d' : DeviceId} (orphan : w.state.orphanCleanup.lookup t' = some d') :
      Told w t' ∧ (w.state.dropOwned d t own).deviceSessions.lookup (d',t') = none := by
    obtain ⟨told',none⟩ := ok.orphans t' d' orphan
    refine ⟨told',?_⟩
    rcases dropOwned_sessions (d := d) (t := t) w.state own (d',t') with kept | dropped
    · exact kept.trans none
    · exact dropped
  cases gone with
  | true =>
    refine Sound.withConfirmed (ok.withState (s := w.state.confirmCleanup d t own) (dropOwned_sessions w.state own)
      (fun t' d' orphan => ?_) ok.noZero) _
    simp only [BgState.confirmCleanup,lookup_erase_eq] at orphan
    by_cases same : t' = t
    · rw [if_pos same] at orphan; cases orphan
    · rw [if_neg same] at orphan; exact others orphan
  | false =>
    refine ok.withState (dropOwned_sessions w.state own) (fun t' d' orphan => ?_) ok.noZero
    simp only [BgState.retainOrphanCleanup] at orphan
    by_cases known : t ∈ w.state.orphanCleanup
    · exact others ((congrArg (AList.lookup t') (if_pos known)).symm.trans orphan)
    · have inserted := (congrArg (AList.lookup t') (if_neg known)).symm.trans orphan
      rw [lookup_insert_eq] at inserted
      by_cases same : t' = t
      · rw [if_pos same] at inserted
        cases same
        cases Option.some.inj inserted
        exact ⟨told,dropOwned_gone here⟩
      · rw [if_neg same] at inserted; exact others inserted

theorem Sound.cleanupSettled (ok : Sound b w) {own : Option Owner} {rest : Option Revocation}
    (fine : ContinuationOk b w (.cleaned d t own rest)) (gone : Bool) :
    Sound b (w.cleanupSettled d t own rest gone) := by
  obtain ⟨told,here,revocation⟩ := fine
  have done := ok.cleanupDone told here gone
  cases rest with
  | none => exact done
  | some rev => exact done.revokeTokens ((revocation rev rfl).later (.cleanupDone w d t own gone))

theorem registerFrameLifetime_quiet {s s' : BgState} {tab : TabId} {frame : FrameKey}
    (registered : s.registerFrameLifetime tab frame = some s') : s'.deviceTabMap = s.deviceTabMap ∧
      s'.deviceSessions = s.deviceSessions ∧ s'.orphanCleanup = s.orphanCleanup := by
  unfold BgState.registerFrameLifetime at registered
  split at registered <;> cases registered
  exact ⟨rfl,rfl,rfl⟩

/-- What a registration that is not refused writes. -/
theorem registerDeviceSession_some {s s' : BgState} {o : Owner} (registered : s.registerDeviceSession d t o = some s') :
    d ≠ 0 ∧ t ≠ "" ∧ s'.deviceTabMap = s.deviceTabMap ∧ s'.deviceSessions = s.deviceSessions.insert (d,t) o ∧
      s'.orphanCleanup = s.orphanCleanup := by
  simp only [BgState.registerDeviceSession] at registered
  split_ifs at registered with falsy active
  · cases registered
    exact ⟨fun zero => falsy (Or.inl zero),fun empty => falsy (Or.inr (Or.inl empty)),rfl,rfl,rfl⟩
  · obtain ⟨s'',first,rfl⟩ := Option.map_eq_some_iff.mp registered
    obtain ⟨tabs,sessions,orphans⟩ := registerFrameLifetime_quiet first
    refine ⟨fun zero => falsy (Or.inl zero),fun empty => falsy (Or.inr (Or.inl empty)),tabs,?_,orphans⟩
    simp only [sessions]

theorem Sound.handleOpen (ok : Sound b w) (client : Client) (d : DeviceId) : Sound b (w.handleOpen b client d) := by
  unfold World.handleOpen
  cases registered : w.state.registerFrameLifetime (b.tab client) client.frame with
  | none => exact ok
  | some s =>
    obtain ⟨tabs,sessions,orphans⟩ := registerFrameLifetime_quiet registered
    have noZero : s.NoZero := fun key => by rw [tabs]; exact ok.noZero key
    exact (ok.withCounts sessions orphans noZero).await fun _ _ _ same => by cases same

theorem Sound.openRechecked (ok : Sound b w) {k : Nat} {client : Client} {r : NmResponse}
    (held : w.store.lookup k = some (.openRecheck client d r)) :
    Sound b ({ w with store := w.store.erase k }.openRechecked b client d r k) := by
  obtain ⟨device,issued⟩ := ok.rechecks k client d r held
  have nonempty := (ok.issued d r.t issued).2
  have freed := ok.forgetStore k
  have told : Told { w with store := w.store.erase k } r.t := by
    refine ⟨(ok.issued d r.t issued).1,?_⟩
    by_contra held'
    obtain ⟨k',client',d',r',found,same⟩ := holds_iff.mp (Bool.eq_true_of_not_eq_false held')
    rw [lookup_erase_eq] at found
    by_cases here : k' = k
    · rw [if_pos here] at found; cases found
    · rw [if_neg here] at found
      exact here (ok.oneHolder k' k client' client d' d r' r found held same)
  have discarded : Sound b ({ w with store := w.store.erase k }.closeForCleanup r.i r.t none) :=
    freed.closeForCleanup told fun rev none => by cases none
  simp only [World.openRechecked,if_neg nonempty]
  split_ifs
  · split
    · exact discarded
    · next s registered =>
      obtain ⟨nonzero,_,tabs,sessions,orphans⟩ := registerDeviceSession_some registered
      have noZero : s.NoZero := fun key => by rw [tabs]; exact ok.noZero key
      exact ok.register (s := s.registerDeviceTab r.i (b.tab client)) held (device ▸ nonzero) ⟨rfl,rfl,rfl⟩ (device ▸ sessions) orphans
        (noZero_registerDeviceTab noZero)
  · exact discarded

theorem Sound.handleClose (ok : Sound b w) (client : Client) (d : DeviceId) (t : Token) :
    Sound b (w.handleClose b client d t) := by
  unfold World.handleClose
  split_ifs with owned
  · refine ok.sendFrame fun nonempty => ?_
    have mine := owned.2.resolve_left nonempty
    simp only [BgState.isSessionOwnedBy,Option.any_eq_true,Bool.and_eq_true,beq_iff_eq] at mine
    obtain ⟨o,registered,⟨⟨_,tab⟩,_⟩,_⟩ := mine
    refine ⟨(ok.sessions d t o registered).2.1,fun o' found => ?_⟩
    cases Option.some.inj (found.symm.trans registered)
    exact tab
  · exact ok

theorem Sound.closeAnswered (ok : Sound b w) (client : Client) (d : DeviceId) (t : Token) (response : NmResponse) :
    Sound b (w.closeAnswered b client d t response) := by
  unfold World.closeAnswered
  split_ifs with accepted empty
  · exact Sound.withConfirmed (ok.withCounts (s := w.state.unregisterDeviceTab d (b.tab client)) rfl rfl
      (noZero_unregisterDeviceTab ok.noZero)) _
  · have dropped (key : DeviceId × Token) :
        ((w.state.unregisterDeviceTab d (b.tab client)).unregisterDeviceSession d t).deviceSessions.lookup key =
          if key = (d,t) then none else w.state.deviceSessions.lookup key := lookup_erase_eq _ _ _
    refine Sound.withConfirmed (ok.withState (s := (w.state.unregisterDeviceTab d (b.tab client)).unregisterDeviceSession d t)
      ?_ ?_ (noZero_unregisterDeviceTab ok.noZero)) _
    · intro key
      rw [dropped]
      split_ifs
      · exact Or.inr rfl
      · exact Or.inl rfl
    · intro t' d' orphan
      obtain ⟨told,none⟩ := ok.orphans t' d' orphan
      refine ⟨told,?_⟩
      rw [dropped]
      split_ifs
      · rfl
      · exact none
  · exact ok

theorem Sound.handleReport (ok : Sound b w) (client : Client) (op : ReportOp) (d : DeviceId) :
    Sound b (w.handleReport b client op d) := by
  unfold World.handleReport
  split_ifs
  · exact ok.sendFrame trivial
  · exact ok

/-- The answer of the daemon is recorded and, if it still waits, the handler resumes. -/
theorem Sound.answered (ok : Sound b w) {n : Nat} {q : NmRequest} {response : NmResponse}
    (flying : w.inFlight.lookup n = some q) (may : w.mayAnswer response q = true)
    (result : w' = match w.pending.lookup n with
      | none => { w with inFlight := w.inFlight.erase n, pending := w.pending.erase n }.record response q
      | some c => ({ w with inFlight := w.inFlight.erase n, pending := w.pending.erase n }.record response q).resolve
          b response c) : Sound b w' := by
  subst result
  have landed := ok.forgetFlight n
  cases q with
  | openDevice d =>
    simp only [World.mayAnswer,Bool.or_eq_true,Bool.not_eq_true',Bool.and_eq_true,beq_iff_eq,bne_iff_ne,ne_eq,
      List.contains_eq_mem,decide_eq_false_iff_not] at may
    simp only [World.record]
    by_cases accepted : isOk response.s = true
    · obtain ⟨⟨device,nonempty⟩,fresh⟩ := may.resolve_left fun refused => by rw [accepted] at refused; cases refused
      rw [if_pos accepted]
      cases waiting : w.pending.lookup n with
      | none => exact landed.issue d fresh nonempty
      | some c =>
        have same := Option.some.inj ((ok.awaited n c waiting).symm.trans flying)
        cases c with
        | opened client d' =>
          cases same
          simp only [World.resolve,World.openAnswered]
          split_ifs
          · exact landed.receive device fresh nonempty
          · exact landed.issue d fresh nonempty
        | _ => cases same
    · rw [if_neg accepted]
      cases waiting : w.pending.lookup n with
      | none => exact landed
      | some c =>
        have same := Option.some.inj ((ok.awaited n c waiting).symm.trans flying)
        cases c with
        | opened client d' =>
          simp only [World.resolve,World.openAnswered,accepted]
          exact landed
        | _ => cases same
  | closeDevice d t =>
    simp only [World.record]
    cases waiting : w.pending.lookup n with
    | none => exact landed
    | some c =>
      have fine := ok.continuations n c waiting
      cases c with
      | cleaned d' t' own rest => exact landed.cleanupSettled fine (isCleanupConfirmed response.s)
      | closed client d' t' => exact landed.closeAnswered client d' t' response
      | _ => cases Option.some.inj ((ok.awaited n _ waiting).symm.trans flying)
  | report op d =>
    simp only [World.record]
    cases waiting : w.pending.lookup n with
    | none => exact landed
    | some c =>
      cases c with
      | reported client op' d' => exact landed
      | _ => cases Option.some.inj ((ok.awaited n _ waiting).symm.trans flying)

theorem Sound.init (b : Browser) : Sound b init := by
  have nothing {κ ν : Type} [DecidableEq κ] {k : κ} {v : ν} (found : (∅ : HashMap κ ν).lookup k = some v) : False := by
    rw [AList.lookup_empty] at found; cases found
  constructor
  case noZero => intro key stored; exact nothing stored
  case nonzero => exact fun t => AList.lookup_empty (0,t)
  case issued => intro d t issued; cases issued
  case oneDevice => intro d d' t issued; cases issued
  all_goals intros
  all_goals exact (nothing ‹_›).elim

/-- Every step keeps the invariant. -/
theorem step_sound (ok : Sound b w) {a : Action} (taken : step b w a = some w') : Sound b w' := by
  cases a with
  | openRequest client d => cases taken; exact ok.handleOpen client d
  | closeRequest client d t => cases taken; exact ok.handleClose client d t
  | cleanupSession d t =>
    simp only [step] at taken
    split_ifs at taken with held
    cases taken
    exact (ok.name t).closeForCleanup ⟨List.mem_cons_self,Bool.eq_false_of_not_eq_true held⟩ fun rev none => by cases none
  | frameDestroyed frame => cases taken; exact ok.purgeFrame _ frame
  | bridgeGone bridge => cases taken; exact ok.purgeBridge _ bridge
  | tabRemoved tab => cases taken; exact ok.purgeTab tab
  | revokeRequest origin targets =>
    cases taken
    unfold World.handleRevokeDevice
    split_ifs
    · exact ok
    · exact ok.await fun _ _ _ same => by cases same
  | retryOrphans => cases taken; exact ok.retryOrphanCleanup
  | pair origin d => cases taken; exact ok.withAllowed _
  | report client op d => cases taken; exact ok.handleReport client op d
  | answer n response =>
    simp only [step] at taken
    cases flying : w.inFlight.lookup n with
    | none => rw [flying] at taken; cases taken
    | some q =>
      rw [flying] at taken
      dsimp only at taken
      split_ifs at taken with may
      refine ok.answered flying may ?_
      cases waiting : w.pending.lookup n <;> rw [waiting] at taken <;> cases taken <;> rfl
  | timeout n =>
    simp only [step] at taken
    cases waiting : w.pending.lookup n with
    | none => rw [waiting] at taken; cases taken
    | some c =>
      rw [waiting] at taken
      cases taken
      cases c with
      | cleaned d t own rest => exact (ok.forgetPending n).cleanupSettled (ok.continuations n _ waiting) false
      | _ => exact ok.forgetPending n
  | stored k =>
    obtain ⟨wait,found,ran⟩ := Option.bind_eq_some_iff.mp taken
    cases wait with
    | openLookup client d =>
      cases ran
      unfold World.openLookedUp
      split_ifs
      · exact (ok.forgetStore k).sendFrame trivial
      · exact ok.forgetStore k
    | openRecheck client d r => cases ran; exact ok.openRechecked found
    | revokeGroups origin targets => cases ran
    | revokeRemove origin d rest call => cases ran; exact (ok.forgetStore k).revokeRemoved origin d rest call
    | revokeFinish origin call => cases ran; exact ok.forgetStore k
  | groupsRead k groups =>
    simp only [step] at taken
    split at taken <;> cases taken
    exact (ok.forgetStore k).revokeNext _ _ _
  | storeFailed k =>
    simp only [step] at taken
    split at taken <;> cases taken
    exact ok.forgetStore k

end
end FFWebHid.Bookkeeping
