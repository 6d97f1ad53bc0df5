import FFWebHid.Maps
import FFWebHid.Runs
import FFWebHid.StateOps
import FFWebHid.Background
import FFWebHid.Bookkeeping
import FFWebHid.LiveSessions
import FFWebHid.Effects

/-!
Where the sessions end that the daemon opened. From the answer on, an open holds the
token of its session, hands it to the registry or to a cleanup, and a cleanup ends with
a confirmed close or leaves the token for retry. An answer that arrives after the
timeout of its request, and an open whose second lookup of the grants rejects, lose it.
-/
namespace FFWebHid.OpenCleanup
open FFWebHid.Maps FFWebHid.Runs FFWebHid.StateOps FFWebHid.Background FFWebHid.Bookkeeping FFWebHid.LiveSessions
open FFWebHid.Effects

/-- Registered to an owner whose frame is active and whose origin is still allowed. -/
def Registered (w : World) (d : DeviceId) (t : Token) : Prop :=
  ∃ o, ownerOf w d t = some o ∧ w.state.isFrameLifetimeActive o.tabId o.frameKey = true ∧ (o.origin,d) ∈ w.allowed

def ExactlyOne (p q r : Prop) : Prop := (p ∧ ¬ q ∧ ¬ r) ∨ (¬ p ∧ q ∧ ¬ r) ∨ (¬ p ∧ ¬ q ∧ r)

/-- Once everything has settled, every session that the daemon opened is in exactly one
    of the three places. -/
def NoLeak (w : World) : Prop := settled w = true → ∀ d t, (d,t) ∈ w.issued →
  ExactlyOne (Registered w d t) (Confirmed w d t) (Orphaned w d t)

/-- No operation loses a token or files it twice: a session is opened for a request
    that still waits, on a device whose id is not 0; the second lookup of an open does
    not reject; a cleanup fails only for a session whose close nobody else got
    confirmed; a close of `handleClose` is accepted only for a session that is not left
    for retry; and a cleanup names a session with its own device. -/
def keepsTrack (w : World) : Action → Bool
  | .answer n response =>
    match w.inFlight.lookup n,w.pending.lookup n with
    | some (.openDevice _),none => !isOk response.s
    | some (.openDevice d),some _ => !isOk response.s || d != 0
    | _,some (.cleaned d t _ _) => isCleanupConfirmed response.s || !w.confirmed.contains (d,t)
    | _,some (.closed _ _ t) => !isOk response.s || (w.state.orphanCleanup.lookup t).isNone
    | _,_ => true
  | .timeout n =>
    match w.pending.lookup n with
    | some (.cleaned d t _ _) => !w.confirmed.contains (d,t)
    | _ => true
  | .storeFailed k =>
    match w.store.lookup k with
    | some (.openRecheck _ _ _) => false
    | _ => true
  | .cleanupSession d t => w.issued.all fun key => key.2 != t || key.1 == d
  | _ => true

/-- A cleanup of the session is under way. -/
def Closing (w : World) (d : DeviceId) (t : Token) : Prop :=
  ∃ n own rest, w.pending.lookup n = some (.cleaned d t own rest)

structure Tracked (w : World) : Prop where
  somewhere : ∀ d t, (d,t) ∈ w.issued → w.holds t = true ∨ (∃ o, ownerOf w d t = some o) ∨ Closing w d t ∨
    Confirmed w d t ∨ Orphaned w d t
  unconfirmed : ∀ d t o, ownerOf w d t = some o → ¬ Confirmed w d t
  unorphaned : ∀ d t o, ownerOf w d t = some o → w.state.orphanCleanup.lookup t = none
  orphans : ∀ d t, Orphaned w d t → ¬ Confirmed w d t ∧ Aimed w d t
  confirmed : ∀ d t, Confirmed w d t → Told w t
  closings : ∀ n d t own rest, w.pending.lookup n = some (.cleaned d t own rest) → Aimed w d t ∧ Remaining (Aimed w) rest

section
variable {b : Browser} {w w' w'' : World} {d : DeviceId} {t : Token}

theorem Tracked.calm (tracked : Tracked w) (calm : Calm (Aimed w) w w') : Tracked w' := by
  have holds := calm.holds
  obtain ⟨sessions,orphans,issued,confirmed,known,_,closings,aimed⟩ := calm
  have owners (d : DeviceId) (t : Token) : ownerOf w' d t = ownerOf w d t := by rw [ownerOf,ownerOf,sessions]
  have aimed' {d : DeviceId} {t : Token} (here : Aimed w d t) : Aimed w' d t := by rw [Aimed,issued]; exact here
  constructor
  · intro d t member
    rw [issued] at member
    rw [holds,owners,Confirmed,Orphaned,confirmed,orphans]
    rcases tracked.somewhere d t member with held | registered | ⟨n,own,rest,found⟩ | filed
    · exact Or.inl held
    · exact Or.inr (Or.inl registered)
    · exact Or.inr (Or.inr (Or.inl ⟨n,own,rest,closings n d t own rest found⟩))
    · exact Or.inr (Or.inr (Or.inr filed))
  · intro d t o registered
    rw [Confirmed,confirmed]
    exact tracked.unconfirmed d t o ((owners d t).symm.trans registered)
  · intro d t o registered
    rw [orphans]
    exact tracked.unorphaned d t o ((owners d t).symm.trans registered)
  · intro d t orphaned
    rw [Orphaned,orphans] at orphaned
    rw [Confirmed,confirmed]
    exact ⟨(tracked.orphans d t orphaned).1,aimed' (tracked.orphans d t orphaned).2⟩
  · intro d t here
    rw [Confirmed,confirmed] at here
    obtain ⟨told,free⟩ := tracked.confirmed d t here
    exact ⟨known t told,(holds t).trans free⟩
  · intro n d t own rest found
    rcases aimed n d t own rest found with before | here
    · obtain ⟨first,second⟩ := tracked.closings n d t own rest before
      exact ⟨aimed' first,fun rev same t' member => aimed' (second rev same t' member)⟩
    · exact ⟨aimed' here.1,fun rev same t' member => aimed' (here.2 rev same t' member)⟩

/-! ### Steps that settle -/

/-- A cleanup of the session has ended: it is confirmed, or left for retry. -/
theorem Tracked.cleanupDone (ok : Sound b w) (tracked : Tracked w) {n : Nat} {own : Option Owner}
    {rest : Option Revocation} (waiting : w.pending.lookup n = some (.cleaned d t own rest))
    {f : HashMap Nat NmRequest} (gone : Bool) (first : gone = true ∨ ¬ Confirmed w d t) :
    Tracked ({ w with pending := w.pending.erase n, inFlight := f }.cleanupDone d t own gone) := by
  obtain ⟨told,here,_⟩ := ok.continuations n _ waiting
  obtain ⟨aimed,_⟩ := tracked.closings n d t own rest waiting
  have holds (t' : Token) : (cleaned w n f d t own gone).holds t' = w.holds t' := by
    rw [World.holds,World.holds,cleaned_store]
  have dropped : ownerOf (cleaned w n f d t own gone) d t = none := cleaned_owner.trans (dropOwned_gone here)
  have elsewhere {d' : DeviceId} {t' : Token} (other : (d',t') ≠ (d,t)) : ownerOf (cleaned w n f d t own gone) d' t' = ownerOf w d' t' := by
    rw [cleaned_owner,lookup_dropOwned,if_neg fun both => other both.1]
  have aimed' {d' : DeviceId} {t' : Token} (here : Aimed w d' t') :
      Aimed (cleaned w n f d t own gone) d' t' := .of_issued cleaned_issued here
  -- The session itself is now confirmed or an orphan.
  have filed (member : (d,t) ∈ w.issued) : Confirmed (cleaned w n f d t own gone) d t ∨
      Orphaned (cleaned w n f d t own gone) d t := by
    by_cases settled : gone = true
    · exact Or.inl (cleaned_confirmed.mpr (Or.inl ⟨settled,rfl⟩))
    · refine Or.inr ?_
      rw [Orphaned,cleaned_orphan,if_neg fun both => settled both.2]
      cases before : w.state.orphanCleanup.lookup t with
      | none => rw [if_pos ⟨rfl,rfl⟩]
      | some d' =>
        rw [if_neg fun both => by cases both.2]
        rw [(tracked.orphans d' t before).2 d member]
  constructor
  · intro d' t' member
    rw [cleaned_issued] at member
    rw [holds]
    by_cases same : (d',t') = (d,t)
    · cases same
      exact Or.inr (Or.inr (Or.inr (filed member)))
    · rw [elsewhere same]
      rcases tracked.somewhere d' t' member with held | registered | ⟨n',own',rest',found⟩ | before | before
      · exact Or.inl held
      · exact Or.inr (Or.inl registered)
      · refine Or.inr (Or.inr (Or.inl ⟨n',own',rest',?_⟩))
        rw [cleaned_pending,lookup_erase_eq,if_neg]
        · exact found
        · rintro rfl
          cases waiting.symm.trans found
          exact same rfl
      · exact Or.inr (Or.inr (Or.inr (Or.inl (cleaned_confirmed.mpr (Or.inr before)))))
      · refine Or.inr (Or.inr (Or.inr (Or.inr ?_)))
        rw [Orphaned,cleaned_orphan]
        by_cases token : t' = t
        · subst token
          exact absurd (Prod.ext (aimed d' member) rfl : (d',t') = (d,t')) same
        · rw [if_neg fun both => token both.1,if_neg fun both => token both.1]
          exact before
  · intro d' t' o registered here
    have other : (d',t') ≠ (d,t) := by
      rintro ⟨rfl,rfl⟩
      rw [dropped] at registered; cases registered
    rcases cleaned_confirmed.mp here with ⟨_,same⟩ | before
    · exact other same
    · exact tracked.unconfirmed d' t' o ((elsewhere other).symm.trans registered) before
  · intro d' t' o registered
    have other : (d',t') ≠ (d,t) := by
      rintro ⟨rfl,rfl⟩
      rw [dropped] at registered; cases registered
    rw [elsewhere other] at registered
    have token : t' ≠ t := by
      rintro rfl
      exact other (Prod.ext (aimed d' (ok.sessions d' t' o registered).1) rfl)
    rw [cleaned_orphan,if_neg fun both => token both.1,if_neg fun both => token both.1]
    exact tracked.unorphaned d' t' o registered
  · intro d' t' orphaned
    rw [Orphaned,cleaned_orphan] at orphaned
    split_ifs at orphaned with erased new
    · cases orphaned
      obtain ⟨rfl,_⟩ := new
      have failed : gone ≠ true := fun settled => erased ⟨rfl,settled⟩
      refine ⟨fun here => ?_,aimed' aimed⟩
      rcases cleaned_confirmed.mp here with ⟨settled,_⟩ | before
      · exact failed settled
      · exact first.resolve_left failed before
    · obtain ⟨fresh,device⟩ := tracked.orphans d' t' orphaned
      refine ⟨fun here => ?_,aimed' device⟩
      rcases cleaned_confirmed.mp here with ⟨settled,same⟩ | before
      · exact erased ⟨(Prod.mk.inj same).2,settled⟩
      · exact fresh before
  · intro d' t' here
    rw [Told,cleaned_known,holds]
    rcases cleaned_confirmed.mp here with ⟨_,same⟩ | before
    · cases same; exact told
    · exact tracked.confirmed d' t' before
  · intro n' d' t' own' rest' found
    rw [cleaned_pending,lookup_erase_eq] at found
    by_cases same : n' = n
    · rw [if_pos same] at found; cases found
    · rw [if_neg same] at found
      obtain ⟨one,two⟩ := tracked.closings n' d' t' own' rest' found
      exact ⟨aimed' one,fun rev same t'' member => aimed' (two rev same t'' member)⟩

/-- The daemon accepted a close of `handleClose`. -/
theorem Tracked.closeAnswered (tracked : Tracked w) {client : Client} {response : NmResponse}
    (nonempty : t ≠ "") (fine : ContinuationOk b w (.closed client d t))
    (unretained : isOk response.s = true → w.state.orphanCleanup.lookup t = none) :
    Tracked (w.closeAnswered b client d t response) := by
  unfold World.closeAnswered
  by_cases accepted : isOk response.s = true
  · simp only [if_pos accepted,if_neg nonempty]
    have absent := unretained accepted
    have owners (d' : DeviceId) (t' : Token) :
        ((w.state.unregisterDeviceTab d (b.tab client)).unregisterDeviceSession d t).deviceSessions.lookup (d',t') =
          if (d',t') = (d,t) then none else ownerOf w d' t' := lookup_erase_eq _ _ _
    have still {d' : DeviceId} {t' : Token} {o : Owner} (registered : ((w.state.unregisterDeviceTab d (b.tab client)
        ).unregisterDeviceSession d t).deviceSessions.lookup (d',t') = some o) :
        (d',t') ≠ (d,t) ∧ ownerOf w d' t' = some o := by
      rw [owners] at registered
      by_cases same : (d',t') = (d,t)
      · rw [if_pos same] at registered; cases registered
      · rw [if_neg same] at registered; exact ⟨same,registered⟩
    refine { tracked with somewhere := ?_, unconfirmed := ?_, unorphaned := ?_, orphans := ?_, confirmed := ?_ }
    · intro d' t' member
      rcases tracked.somewhere d' t' member with held | ⟨o,registered⟩ | closing | before | before
      · exact Or.inl held
      · by_cases same : (d',t') = (d,t)
        · exact Or.inr (Or.inr (Or.inr (Or.inl (same ▸ List.mem_cons_self))))
        · exact Or.inr (Or.inl ⟨o,(owners d' t').trans ((if_neg same).trans registered)⟩)
      · exact Or.inr (Or.inr (Or.inl closing))
      · exact Or.inr (Or.inr (Or.inr (Or.inl (List.mem_cons_of_mem _ before))))
      · exact Or.inr (Or.inr (Or.inr (Or.inr before)))
    · intro d' t' o registered here
      obtain ⟨other,before⟩ := still registered
      rcases List.mem_cons.mp here with same | confirmed
      · exact other same
      · exact tracked.unconfirmed d' t' o before confirmed
    · exact fun d' t' o registered => tracked.unorphaned d' t' o (still registered).2
    · intro d' t' orphaned
      obtain ⟨fresh,aimed⟩ := tracked.orphans d' t' orphaned
      refine ⟨fun here => ?_,aimed⟩
      rcases List.mem_cons.mp here with same | confirmed
      · cases same
        cases absent.symm.trans orphaned
      · exact fresh confirmed
    · intro d' t' here
      rcases List.mem_cons.mp here with same | before
      · cases same; exact (fine nonempty).1
      · exact tracked.confirmed d' t' before
  · simpa only [if_neg accepted] using tracked

/-- The daemon opens a session for a request that waits: the open holds it. -/
theorem Tracked.receive (ok : Sound b w) (tracked : Tracked w) {client : Client} {r : NmResponse} (fresh : r.t ∉ w.known)
    (nonempty : r.t ≠ "") :
    Tracked ({ w with issued := (d,r.t) :: w.issued, known := r.t :: w.known }.await (.openRecheck client d r)) := by
  have opened := ok.issue d fresh nonempty
  have holds (t : Token) := @holds_await b _ t (.openRecheck client d r) opened
  have new {t : Token} (told : Told w t) : t ≠ r.t := by
    rintro rfl
    exact fresh told.1
  have aimed' {d' : DeviceId} {t : Token} (told : Told w t) (here : Aimed w d' t) :
      Aimed ({ w with issued := (d,r.t) :: w.issued, known := r.t :: w.known }.await (.openRecheck client d r)) d' t := by
    intro d'' member
    rcases List.mem_cons.mp member with same | before
    · cases same; exact absurd rfl (new told)
    · exact here d'' before
  refine { tracked with somewhere := ?_, orphans := ?_, confirmed := ?_, closings := ?_ }
  · intro d' t' member
    rcases List.mem_cons.mp member with same | before
    · cases same
      exact Or.inl ((holds r.t).mpr (Or.inr ⟨client,d,r,rfl,rfl⟩))
    · rcases tracked.somewhere d' t' before with held | elsewhere
      · exact Or.inl ((holds t').mpr (Or.inl held))
      · exact Or.inr elsewhere
  · intro d' t' orphaned
    exact ⟨(tracked.orphans d' t' orphaned).1,aimed' (ok.orphans t' d' orphaned).1 (tracked.orphans d' t' orphaned).2⟩
  · intro d' t' here
    have told := tracked.confirmed d' t' here
    refine ⟨List.mem_cons_of_mem _ told.1,Bool.eq_false_of_not_eq_true fun held => ?_⟩
    rcases (holds t').mp held with before | ⟨_,_,_,same,rfl⟩
    · exact Bool.false_ne_true (told.2.symm.trans before)
    · cases same; exact fresh told.1
  · intro n d' t' own rest found
    obtain ⟨one,two⟩ := tracked.closings n d' t' own rest found
    obtain ⟨told,_,revocation⟩ := ok.continuations n _ found
    exact ⟨aimed' told one,fun rev same t'' member => aimed' (revocation rev same t'' member).1 (two rev same t'' member)⟩

/-- The second lookup of an open: the session is registered or closed. -/
theorem Tracked.openRechecked (ok : Sound b w) (tracked : Tracked w) {k : Nat} {client : Client} {r : NmResponse}
    (held : w.store.lookup k = some (.openRecheck client d r)) :
    Tracked ({ w with store := w.store.erase k }.openRechecked b client d r k) := by
  obtain ⟨device,issued⟩ := ok.rechecks k client d r held
  have untold := held_untold held
  have others {t : Token} (holding : w.holds t = true) (other : t ≠ r.t) :
      { w with store := w.store.erase k }.holds t = true := by
    obtain ⟨k',client',d',r',found,rfl⟩ := holds_iff.mp holding
    refine holds_iff.mpr ⟨k',client',d',r',?_,rfl⟩
    rw [lookup_erase_eq,if_neg]
    · exact found
    · rintro rfl
      cases found.symm.trans held
      exact other rfl
  have freed {t : Token} (told : Told w t) : Told { w with store := w.store.erase k } t := (Later.forgetStore w k).told t told
  rcases openRechecked_cases ok held rfl with ⟨_,_,_,_,result⟩ | ⟨_,result⟩ <;> rw [result]
  · have owners (d' : DeviceId) (t' : Token) (o : Owner) : AList.lookup (d',t')
        (registeredState w.state d r.t o).deviceSessions = if (d',t') = (d,r.t) then some o else ownerOf w d' t' :=
      lookup_insert_eq _ _ _ _
    refine { tracked with somewhere := ?_, unconfirmed := ?_, unorphaned := ?_, confirmed := ?_ }
    · intro d' t' member
      by_cases same : t' = r.t
      · cases ok.oneDevice d' d r.t (same ▸ member) issued
        exact Or.inr (Or.inl ⟨_,(owners d t' _).trans (if_pos (by rw [same]))⟩)
      · rcases tracked.somewhere d' t' member with holding | ⟨o,registered⟩ | elsewhere
        · exact Or.inl (others holding same)
        · exact Or.inr (Or.inl ⟨o,(owners d' t' _).trans ((if_neg fun pair => same (Prod.mk.inj pair).2).trans registered)⟩)
        · exact Or.inr (Or.inr elsewhere)
    · intro d' t' o registered here
      have token : t' ≠ r.t := by
        rintro rfl
        exact untold (tracked.confirmed d' r.t here)
      rw [ownerOf,owners,if_neg fun pair => token (Prod.mk.inj pair).2] at registered
      exact tracked.unconfirmed d' t' o registered here
    · intro d' t' o registered
      show w.state.orphanCleanup.lookup t' = none
      by_cases same : t' = r.t
      · cases orphaned : w.state.orphanCleanup.lookup t' with
        | none => rfl
        | some d'' => exact absurd (same ▸ (ok.orphans t' d'' orphaned).1) untold
      · rw [ownerOf,owners,if_neg fun pair => same (Prod.mk.inj pair).2] at registered
        exact tracked.unorphaned d' t' o registered
    · exact fun d' t' here => freed (tracked.confirmed d' t' here)
  · have released : Sound b { w with store := w.store.erase k } := ok.forgetStore k
    have before (n : Nat) {d' : DeviceId} {t' : Token} {own : Option Owner} {rest : Option Revocation} :=
      @pending_sendFrame b _ released (.cleaned d r.t (ownerOf w d r.t) none) (.cleaned d' t' own rest) n
    refine { tracked with somewhere := ?_, confirmed := ?_, closings := ?_ }
    · intro d' t' member
      by_cases same : t' = r.t
      · cases ok.oneDevice d' d r.t (same ▸ member) issued
        exact Or.inr (Or.inr (Or.inl ⟨w.nextId,_,none,(before w.nextId).mpr (Or.inl ⟨rfl,by rw [same]⟩)⟩))
      · rcases tracked.somewhere d' t' member with holding | registered | ⟨n,own,rest,found⟩ | elsewhere
        · exact Or.inl (others holding same)
        · exact Or.inr (Or.inl registered)
        · exact Or.inr (Or.inr (Or.inl ⟨n,own,rest,(before n).mpr (Or.inr ⟨ok.pendingFresh n _ found,found⟩)⟩))
        · exact Or.inr (Or.inr (Or.inr elsewhere))
    · exact fun d' t' here => freed (tracked.confirmed d' t' here)
    · intro n d' t' own rest found
      rcases (before n).mp found with ⟨_,same⟩ | ⟨_,old⟩
      · cases same
        exact ⟨fun d'' member => ok.oneDevice d'' d r.t member issued,fun rev none => by cases none⟩
      · exact tracked.closings n d' t' own rest old

theorem Tracked.aims (ok : Sound b w) (tracked : Tracked w) : Aims (Aimed w) w :=
  ⟨fun _ _ _ => aimed_of_registered ok,fun d t orphaned => (tracked.orphans d t orphaned).2,tracked.closings⟩

theorem step_tracked (ok : Sound b w) (tracked : Tracked w) {a : Action} (taken : step b w a = some w')
    (fine : keepsTrack w a = true) : Tracked w' := by
  have aimed : wellAimed w a = true := by
    cases a with
    | cleanupSession d t => exact fine
    | _ => rfl
  cases step_aimed ok (tracked.aims ok) aimed taken with
  | calm calm => exact tracked.calm calm
  | settled n d t own rest f gone waiting action calm =>
    have issued : (cleaned w n f d t own gone).issued = w.issued := cleaned_issued
    have calm : Calm (Aimed (cleaned w n f d t own gone)) (cleaned w n f d t own gone) w' := by
      rw [show Aimed (cleaned w n f d t own gone) = Aimed w by funext d t; rw [Aimed,Aimed,issued]]
      exact calm
    refine (tracked.cleanupDone ok waiting gone ?_).calm calm
    rcases action with ⟨r,rfl,rfl⟩ | ⟨rfl,rfl⟩
    · have flying := ok.awaited n _ waiting
      simpa [keepsTrack,flying,waiting,Continuation.request,Confirmed] using fine
    · simpa [keepsTrack,waiting,Confirmed] using fine
  | accepted n client d t r waiting action answered nonempty result =>
    subst action result
    have flying := ok.awaited n _ waiting
    have dropped := tracked.calm (.forget (f := w.inFlight.erase n) waiting fun _ _ _ _ same => by cases same)
    refine dropped.closeAnswered nonempty (ok.continuations n _ waiting) fun _ => ?_
    simpa [keepsTrack,flying,waiting,Continuation.request,answered] using fine
  | received n client d r waiting action answered nonzero fresh nonempty result =>
    subst action result
    have dropped := tracked.calm (.forget (f := w.inFlight.erase n) waiting fun _ _ _ _ same => by cases same)
    exact dropped.receive (ok.forgetFlight n) fresh nonempty
  | dropped n d r flying action answered nobody =>
    subst action
    cases waiting : w.pending.lookup n with
    | none => simp [keepsTrack,flying,waiting,answered] at fine
    | some c =>
      have zero := nobody.resolve_left (waiting ▸ Option.some_ne_none c)
      simp [keepsTrack,flying,waiting,answered,zero] at fine
  | rechecked k client d r action held result => exact result ▸ tracked.openRechecked ok held
  | lost k client d r action held =>
    subst action
    simp [keepsTrack,held] at fine

theorem tracked_init : Tracked init := by
  have unregistered {d : DeviceId} {t : Token} {o : Owner} (registered : ownerOf init d t = some o) : False := by
    cases (AList.lookup_empty (d,t)).symm.trans registered
  constructor
  case closings =>
    intro n d t own rest found
    cases (AList.lookup_empty n).symm.trans found
  case orphans =>
    intro d t orphaned
    cases (AList.lookup_empty t).symm.trans orphaned
  case somewhere => intro d t member; cases member
  case unconfirmed => intro d t o registered; exact (unregistered registered).elim
  case unorphaned => intro d t o registered; exact (unregistered registered).elim
  case confirmed => intro d t here; cases here

theorem noLeak (standing : Standing w) (tracked : Tracked w) : NoLeak w := by
  intro rest d t issued
  have idle := rest
  simp only [settled,Bool.and_eq_true,List.isEmpty_iff] at idle
  have unheld : w.holds t = false := by
    rw [World.holds,values,idle.2]; rfl
  have unsent {n : Nat} {c : Continuation} (found : w.pending.lookup n = some c) : False := by
    have member := lookup_eq_some.mp found
    rw [idle.1.1] at member
    cases member
  have full {o : Owner} (registered : ownerOf w d t = some o) : Registered w d t := by
    have live : Live w d t o := ⟨registered,ending_settled rest t⟩
    refine ⟨o,registered,standing.active d t o live,?_⟩
    rcases standing.granted d t o live with allowed | ⟨_,_,_,_,_,found,_⟩
    · exact allowed
    · exact (unsent found).elim
  have apart (registered : Registered w d t) : ¬ Confirmed w d t ∧ ¬ Orphaned w d t := by
    obtain ⟨o,here,_⟩ := registered
    refine ⟨tracked.unconfirmed d t o here,fun orphaned => ?_⟩
    cases (tracked.unorphaned d t o here).symm.trans orphaned
  rcases tracked.somewhere d t issued with held | ⟨o,registered⟩ | ⟨n,own,rest',found⟩ | confirmed | orphaned
  · rw [unheld] at held; cases held
  · exact Or.inl ⟨full registered,apart (full registered)⟩
  · exact (unsent found).elim
  · exact Or.inr (Or.inl ⟨fun registered => (apart registered).1 confirmed,confirmed,
      fun orphaned => (tracked.orphans d t orphaned).1 confirmed⟩)
  · exact Or.inr (Or.inr ⟨fun registered => (apart registered).2 orphaned,(tracked.orphans d t orphaned).1,orphaned⟩)

/-- In every run that loses no token on the way, every session that the daemon opened
    ends in exactly one of the three places. -/
theorem no_session_leaks {trace : List Action} (run : exec (step b) init trace = some w)
    (keeps : AllSteps (step b) (fun s a _ => keepsTrack s a = true) init trace) : NoLeak w := by
  have inv := exec_invariant_under (I := fun w => Sound b w ∧ Standing w ∧ Tracked w)
    (fun _ _ _ inv taken fine => ⟨step_sound inv.1 taken,step_standing inv.1 inv.2.1 taken,
      step_tracked inv.1 inv.2.2 taken fine⟩) ⟨Sound.init b,standing_init,tracked_init⟩ run keeps
  exact noLeak inv.2.1 inv.2.2

end

/-- The daemon answers an open after the request timed out. -/
def lateAnswer : List Action :=
  [.pair "https://example.org" 7,.openRequest (frameWindow 1) 7,.stored 0,.timeout 1,.answer 1 ⟨200,7,"late"⟩]

/-- Nobody holds the token of a late answer: its session is in none of the places. -/
theorem late_answer_leaks : ∃ w, exec (step oneTab) init lateAnswer = some w ∧ ¬ NoLeak w := by
  obtain ⟨w,run⟩ := Option.isSome_iff_exists.mp (by decide : (exec (step oneTab) init lateAnswer).isSome = true)
  refine ⟨w,run,fun noLeak => ?_⟩
  have facts : (exec (step oneTab) init lateAnswer).map (fun w => (settled w,w.issued,w.confirmed)) =
      some (true,[(7,"late")],[]) := by decide
  have places : (exec (step oneTab) init lateAnswer).map (fun w =>
      (ownerOf w 7 "late",w.state.orphanCleanup.lookup "late")) = some (none,none) := by decide
  rw [run] at facts places
  simp only [Option.map_some,Option.some.injEq,Prod.mk.injEq] at facts places
  obtain ⟨rest,issued,confirmed⟩ := facts
  rcases noLeak rest 7 "late" (by rw [issued]; exact List.mem_cons_self) with ⟨⟨o,registered,_⟩,_⟩ | ⟨_,here,_⟩ | ⟨_,_,here⟩
  · cases places.1.symm.trans registered
  · rw [Confirmed,confirmed] at here; cases here
  · cases places.2.symm.trans here

/-- The frame of an open is destroyed while the daemon opens the device. -/
def destroyedWhileOpening : List Action :=
  [.pair "https://example.org" 7,.openRequest (frameWindow 1) 7,.stored 0,.frameDestroyed (frameWindow 1).frame,
    .answer 1 ⟨200,7,"orphan"⟩,.stored 1,.timeout 2,.answer 2 ⟨200,0,""⟩]

/-- The session of a frame that died is closed, and left for retry when that fails. -/
theorem no_session_leaks_destroyed : ∃ w, exec (step oneTab) init destroyedWhileOpening = some w ∧
    settled w = true ∧ w.issued = [(7,"orphan")] ∧ NoLeak w := by
  obtain ⟨w,run⟩ := Option.isSome_iff_exists.mp
    (by decide : (exec (step oneTab) init destroyedWhileOpening).isSome = true)
  have facts : (exec (step oneTab) init destroyedWhileOpening).map (fun w => (settled w,w.issued)) =
      some (true,[(7,"orphan")]) := by decide
  rw [run] at facts
  simp only [Option.map_some,Option.some.injEq,Prod.mk.injEq] at facts
  exact ⟨w,run,facts.1,facts.2,no_session_leaks run (allSteps_of_checkAll (by decide))⟩

end FFWebHid.OpenCleanup
