import FFWebHid.Maps
import FFWebHid.Runs
import FFWebHid.StateOps
import FFWebHid.Background
import FFWebHid.Bookkeeping
import FFWebHid.LiveSessions
import FFWebHid.Effects
import FFWebHid.Revocations
import FFWebHid.Callers
import FFWebHid.BridgeSessions

/-!
When the sessions of a bridge are those that the background has registered for its
clients. A session that the bridge holds without the background is due: something is
under way that will delete it. A session that is registered without the bridge is being
handed over or cleaned up.

The bridge writes and deletes without a look at what is there: an open that is answered
replaces what there is, a close that fails restores the token it had, and an event deletes
also a session that was opened after it was sent.
-/
namespace FFWebHid.SessionAgreement
open FFWebHid.Maps FFWebHid.Runs FFWebHid.StateOps FFWebHid.Bookkeeping FFWebHid.Effects FFWebHid.Callers
open FFWebHid.Background hiding World Action step init
open FFWebHid.LiveSessions hiding settled
open FFWebHid.Revocations hiding Stage
open FFWebHid.BridgeSessions

/-- Registered for the client, and no cleanup under way will drop it. -/
def live (w : World) (c : Client) (d : DeviceId) (t : Token) : Bool :=
  registered w c d t && !ending w.background d t

/-- The event deletes the sessions of the client on the device. -/
def covers (b : Browser) (c : Client) (d : DeviceId) : Event → Bool
  | .disconnect d' => d' == d
  | .revoked d' origin => d' == d && origin == b.origin c
  | .globalReset => true

/-- The task will delete the session that the client has on the device. -/
def reaches (c : Client) (d : DeviceId) : Task → Bool
  | .reconcile d' rest => d' == d && rest.contains c
  | .reset frames clients devices d' rest => frames.contains c.frame || clients.contains c && devices.contains d ||
    d' == d && rest.contains c
  | _ => false

/-- A revocation of the device for the origin is under way. -/
def revokes (bg : Background.World) (origin : Origin) (d : DeviceId) : Bool :=
  let names (s : Option Revocations.Stage) := s.any fun s => s.origin == origin && s.call.toRevoke.contains d
  (values bg.store).any (fun wait => names (stageOfWait wait)) || (values bg.pending).any fun c => names (stageOfRequest c)

/-- Something is under way that will delete the session from the bridge. -/
def due (b : Browser) (w : World) (c : Client) (d : DeviceId) (t : Token) : Bool :=
  w.events.any (covers b c d) || w.tasks.any (reaches c d) || revokes w.background (b.origin c) d ||
    w.controlPending == some (.closing c d (some t),.answered .ok)

/-- The entry has a live session. -/
def holdsLive (w : World) (key : Client × DeviceId) : Bool :=
  (w.sessions.lookup key).any fun t => live w key.1 key.2 t

/-- What the bridge overwrites or deletes is not live, or is meant: an open that is
    answered finds no live session, and its own is still registered or about to be
    deleted; a close that fails finds its token where it was; one that succeeds, and an
    open that has no data plane, find their own token or none that is live; an event finds
    none that is live; and when the store fails no session waits for the revocation. -/
def orderly (b : Browser) (w : World) : Action → Bool
  | .deliver =>
    match w.controlPending with
    | some (.opening c d,.answered (.opened t)) =>
      !w.clients.contains c || !holdsLive w (c,d) && (live w c d t || due b w c d t)
    | some (.closing c d token,.answered .ok) => w.sessions.lookup (c,d) == token || !holdsLive w (c,d)
    | some (.closing c d (some t),.answered .failed) => !w.clients.contains c || w.sessions.lookup (c,d) == some t
    | _ => true
  | .resume k accepted =>
    match w.tasks[k]? with
    | some (.plane c d t) => accepted || w.sessions.lookup (c,d) == some t || !holdsLive w (c,d)
    | some task => (w.continued task).1.all fun key => !holdsLive w key
    | none => true
  | .event k =>
    match w.events[k]? with
    | some e => (w.reconciled b e).1.all fun key => !holdsLive w key
    | none => true
  | .background (.storeFailed k) => w.sessions.entries.all fun entry =>
    live w entry.1.1 entry.1.2 entry.2 ||
      due b { w with background := { w.background with store := w.background.store.erase k } } entry.1.1 entry.1.2 entry.2
  | _ => true

/-! ### The invariant -/

/-- The client has a live session with the token. -/
def LiveFor (bg : Background.World) (c : Client) (d : DeviceId) (t : Token) : Prop :=
  ∃ o, Live bg d t o ∧ o.frameKey = c.frame ∧ o.clientKey = c.clientKey

def Place.stage : Place → Stage
  | .stored k => .stored k
  | .native n => .native n

def Call.client : Call → Client
  | .opening c _ => c
  | .closing c _ _ => c

/-- What the background is asked for. -/
def Job.call : Job → Option Call
  | .opening c d => some (.opening c d)
  | .closing c d token => some (.closing c d (token.getD ""))
  | _ => none

/-- The session will be cleaned up. -/
def ToClean (w : World) (d : DeviceId) (t : Token) : Prop :=
  .discard d t ∈ w.tasks ∨ .cleanupSession d t ∈ w.controlQueue ∨
    w.controlPending = some (.cleanupSession d t,.posted)

/-- The bridge has the token. -/
def Seen (w : World) (t : Token) : Prop :=
  (∃ key, w.sessions.lookup key = some t) ∨ (∃ c d, .plane c d t ∈ w.tasks) ∨ ∃ d, ToClean w d t

/-- The frame has ended and the background does not know. -/
def Ending (w : World) (frame : FrameKey) : Prop :=
  .frameDestroyed frame ∈ w.controlQueue ∨ w.controlPending = some (.frameDestroyed frame,.posted)

structure Accord (b : Browser) (bridge : String) (w : World) : Prop where
  sound : Sound b w.background
  owned : Owned w.background
  listed : Listed w.background
  clients : ∀ c ∈ w.clients, c.frame.bridgeInstanceId = bridge
  own : ∀ c d t, w.sessions.lookup (c,d) = some t → c ∈ w.clients
  places : ∀ p call, callAt w.background p = some call → (Call.client call).frame.bridgeInstanceId = bridge →
    ∃ job, w.controlPending = some (job,Place.stage p) ∧ Job.call job = some call
  stands : ∀ p job call, w.controlPending = some (job,Place.stage p) → Job.call job = some call →
    callAt w.background p = some call
  present : ∀ c ∈ w.clients, c.frame ∉ w.gone
  ended : ∀ frame, Ending w frame → frame ∈ w.gone
  seen : ∀ t, Seen w t → Told w.background t
  answer : ∀ c d t, w.controlPending = some (.opening c d,.answered (.opened t)) → Told w.background t ∧ ¬ Seen w t
  closed : ∀ c d t, w.controlPending = some (.closing c d (some t),.answered .ok) →
    Told w.background t ∧ ∀ o, ¬ Live w.background d t o
  handed : ∀ c d t, c.frame.bridgeInstanceId = bridge → LiveFor w.background c d t → t ∈ w.handed
  plane : ∀ c d t, .plane c d t ∈ w.tasks → ∀ key, w.sessions.lookup key = some t → key = (c,d)
  clean : ∀ d t, ToClean w d t → ∀ key, w.sessions.lookup key ≠ some t
  held : ∀ c d t, w.sessions.lookup (c,d) = some t → LiveFor w.background c d t ∨ due b w c d t = true
  heard : ∀ c d t, c.frame.bridgeInstanceId = bridge → LiveFor w.background c d t →
    w.sessions.lookup (c,d) = some t ∨ w.controlPending = some (.opening c d,.answered (.opened t)) ∨ ToClean w d t ∨
      Ending w c.frame

section
variable {b : Browser} {bridge : String} {w w' : World} {c : Client} {d : DeviceId} {t : Token}

theorem live_iff : live w c d t = true ↔ LiveFor w.background c d t := by
  simp only [live,registered,Bool.and_eq_true,Option.any_eq_true,beq_iff_eq,Bool.not_eq_true',LiveFor]
  constructor
  · rintro ⟨⟨o,found,frame,key⟩,kept⟩
    exact ⟨o,⟨found,kept⟩,frame,key⟩
  · rintro ⟨o,⟨found,kept⟩,frame,key⟩
    exact ⟨⟨o,found,frame,key⟩,kept⟩

theorem not_holdsLive {key : Client × DeviceId} (free : (!holdsLive w key) = true)
    (found : w.sessions.lookup key = some t) : ¬ LiveFor w.background key.1 key.2 t := by
  intro alive
  rw [holdsLive,found,Option.any_some,live_iff.mpr alive] at free
  cases free

theorem revokes_iff {bg : Background.World} {origin : Origin} : revokes bg origin d = true ↔ Revoking bg origin d := by
  simp only [revokes,Bool.or_eq_true,List.any_eq_true,mem_values,Option.any_eq_true,Bool.and_eq_true,beq_iff_eq,
    List.contains_eq_mem,decide_eq_true_eq]
  constructor
  · rintro (⟨wait,⟨k,found⟩,s,stage,names⟩ | ⟨request,⟨n,found⟩,s,stage,names⟩)
    · exact ⟨s,.inl ⟨k,wait,found,stage⟩,names⟩
    · exact ⟨s,.inr ⟨n,request,found,stage⟩,names⟩
  · rintro ⟨s,⟨k,wait,found,stage⟩ | ⟨n,request,found,stage⟩,names⟩
    · exact .inl ⟨wait,⟨k,found⟩,s,stage,names⟩
    · exact .inr ⟨request,⟨n,found⟩,s,stage,names⟩

theorem due_iff : due b w c d t = true ↔ (∃ e ∈ w.events, covers b c d e = true) ∨
    (∃ task ∈ w.tasks, reaches c d task = true) ∨ Revoking w.background (b.origin c) d ∨
    w.controlPending = some (.closing c d (some t),.answered .ok) := by
  rw [due,Bool.or_eq_true,Bool.or_eq_true,Bool.or_eq_true,List.any_eq_true,List.any_eq_true,revokes_iff,beq_iff_eq,
    or_assoc,or_assoc]

theorem Accord.join (ok : Accord b bridge w) (here : c.frame.bridgeInstanceId = bridge) (there : c.frame ∉ w.gone) :
    Accord b bridge { w with clients := w.clients ++ [c] } :=
  { ok with
    present := fun c' member => by
      rcases List.mem_append.mp member with before | new
      · exact ok.present c' before
      · exact List.mem_singleton.mp new ▸ there
    clients := fun c' member => by
      rcases List.mem_append.mp member with before | new
      · exact ok.clients c' before
      · exact List.mem_singleton.mp new ▸ here
    own := fun c' d t found => List.mem_append_left _ (ok.own c' d t found) }

/-- What waits in the queue stays there. -/
theorem mem_enqueue {job other : Job} : other ∈ (w.enqueue job).controlQueue ↔ other ∈ w.controlQueue ∨ other = job := by
  rw [World.enqueue,List.mem_append,List.mem_singleton]

theorem toClean_enqueue {job : Job} (plain : ∀ d t, job ≠ .cleanupSession d t) :
    ToClean (w.enqueue job) d t ↔ ToClean w d t := by
  simp only [ToClean,mem_enqueue,Ne.symm (plain d t),or_false]
  rfl

theorem Ending.enqueue {frame : FrameKey} (job : Job) (ending : Ending w frame) : Ending (w.enqueue job) frame :=
  ending.imp_left fun queued => mem_enqueue.mpr (.inl queued)

theorem Seen.mono (seen : Seen w' t)
    (sessions : ∀ key t, w'.sessions.lookup key = some t → w.sessions.lookup key = some t)
    (planes : ∀ c d t, .plane c d t ∈ w'.tasks → .plane c d t ∈ w.tasks)
    (cleans : ∀ d t, ToClean w' d t → ToClean w d t) : Seen w t := by
  rcases seen with ⟨key,found⟩ | ⟨c,d,member⟩ | ⟨d,cleaned⟩
  · exact .inl ⟨key,sessions key t found⟩
  · exact .inr (.inl ⟨c,d,planes c d t member⟩)
  · exact .inr (.inr ⟨d,cleans d t cleaned⟩)

theorem Accord.enqueue (ok : Accord b bridge w) {job : Job} (plain : ∀ d t, job ≠ .cleanupSession d t)
    (lasting : ∀ frame, job ≠ .frameDestroyed frame) : Accord b bridge (w.enqueue job) := by
  have same {t : Token} (seen : Seen (w.enqueue job) t) : Seen w t :=
    seen.mono (fun _ _ found => found) (fun _ _ _ member => member) fun _ _ => (toClean_enqueue plain).mp
  exact { ok with
    seen := fun t seen => ok.seen t (same seen)
    answer := fun c d t pending => (ok.answer c d t pending).imp_right fun unseen seen => unseen (same seen)
    clean := fun d t cleaned => ok.clean d t ((toClean_enqueue plain).mp cleaned)
    ended := fun frame ending => ok.ended frame
      (ending.imp_left fun queued => (mem_enqueue.mp queued).resolve_right (Ne.symm (lasting frame)))
    heard := fun c d t here alive => (ok.heard c d t here alive).imp_right fun rest => rest.imp_right fun rest =>
      rest.imp (toClean_enqueue plain).mpr (Ending.enqueue job) }

theorem Accord.destroyFrame (ok : Accord b bridge w) (frame : FrameKey) : Accord b bridge (w.destroyFrame frame) := by
  let w₁ : World := { w with
    clients := w.clients.filter fun c => c.frame != frame
    sessions := retain w.sessions fun key _ => key.1.frame != frame
    gone := frame :: w.gone }
  have plain : ∀ d t, Job.frameDestroyed frame ≠ .cleanupSession d t := fun _ _ same => nomatch same
  have fewer {key : Client × DeviceId} {t : Token} (found : w₁.sessions.lookup key = some t) :
      w.sessions.lookup key = some t := lookup_of_retain found
  have seen {t : Token} (seen : Seen (w₁.enqueue (.frameDestroyed frame)) t) : Seen w t :=
    seen.mono (fun _ _ => fewer) (fun _ _ _ member => member) fun _ _ => (toClean_enqueue plain).mp
  exact { ok with
    clients := fun c member => ok.clients c (List.mem_filter.mp member).1
    present := fun c member gone => by
      obtain ⟨before,other⟩ := List.mem_filter.mp member
      rcases List.mem_cons.mp gone with same | earlier
      · exact bne_iff_ne.mp other same
      · exact ok.present c before earlier
    ended := fun frame' ending => by
      rcases ending with queued | posted
      · rcases mem_enqueue.mp queued with before | new
        · exact List.mem_cons_of_mem _ (ok.ended frame' (.inl before))
        · cases new
          exact List.mem_cons_self
      · exact List.mem_cons_of_mem _ (ok.ended frame' (.inr posted))
    own := fun c d t found => by
      refine List.mem_filter.mpr ⟨ok.own c d t (fewer found),?_⟩
      have kept : (retain w.sessions fun key _ => key.1.frame != frame).lookup (c,d) = some t := found
      rw [lookup_retain,Option.filter_eq_some_iff] at kept
      exact kept.2
    seen := fun t here => ok.seen t (seen here)
    answer := fun c d t pending => (ok.answer c d t pending).imp_right fun unseen here => unseen (seen here)
    plane := fun c d t member key found => ok.plane c d t member key (fewer found)
    clean := fun d t cleaned key found => ok.clean d t ((toClean_enqueue plain).mp cleaned) key (fewer found)
    held := fun c d t found => ok.held c d t (fewer found)
    heard := fun c d t here alive => by
      by_cases ends : c.frame = frame
      · exact .inr (.inr (.inr (.inl (mem_enqueue.mpr (.inr (ends ▸ rfl))))))
      · rcases ok.heard c d t here alive with found | answered | cleaned | ending
        · refine .inl ?_
          show (retain w.sessions fun key _ => key.1.frame != frame).lookup (c,d) = some t
          rw [lookup_retain,found,Option.filter_some,if_pos (bne_iff_ne.mpr ends)]
        · exact .inr (.inl answered)
        · exact .inr (.inr (.inl ((toClean_enqueue plain).mpr cleaned)))
        · exact .inr (.inr (.inr (ending.enqueue _))) }

theorem Accord.send (ok : Accord b bridge w) {job : Job} {rest : List Job} (free : w.controlPending = none)
    (queue : w.controlQueue = job :: rest) :
    Accord b bridge { w with controlQueue := rest, controlPending := some (job,.posted) } := by
  have clean {d : DeviceId} {t : Token} :
      ToClean { w with controlQueue := rest, controlPending := some (job,.posted) } d t ↔ ToClean w d t := by
    simp only [ToClean,free,queue,List.mem_cons,Option.some.injEq,Prod.mk.injEq,and_true,reduceCtorEq,or_false]
    rw [eq_comm,or_comm (a := Job.cleanupSession d t = job)]
  have seen {t : Token} (seen : Seen { w with controlQueue := rest, controlPending := some (job,.posted) } t) : Seen w t :=
    seen.mono (fun _ _ found => found) (fun _ _ _ member => member) fun _ _ => clean.mp
  have due {c : Client} {d : DeviceId} {t : Token} (is : due b w c d t = true) :
      due b { w with controlQueue := rest, controlPending := some (job,.posted) } c d t = true := by
    rw [due_iff,free] at is
    simp only [reduceCtorEq,or_false] at is
    rw [due_iff]
    exact is.imp_right fun more => more.imp_right .inl
  exact { ok with
    places := fun p call here there => by
      obtain ⟨_,pending,_⟩ := ok.places p call here there
      rw [free] at pending
      cases pending
    stands := fun p job' call posted => by cases p <;> cases posted
    ended := fun frame ending => ok.ended frame <| .inl <| by
      rw [queue]
      rcases ending with later | posted
      · exact List.mem_cons_of_mem _ later
      · cases posted
        exact List.mem_cons_self
    seen := fun t here => ok.seen t (seen here)
    answer := fun c d t pending => by cases pending
    closed := fun c d t pending => by cases pending
    clean := fun d t cleaned => ok.clean d t (clean.mp cleaned)
    held := fun c d t found => (ok.held c d t found).imp_right due
    heard := fun c d t here alive => by
      rcases ok.heard c d t here alive with found | answered | cleaned | queued | posted
      · exact .inl found
      · rw [free] at answered
        cases answered
      · exact .inr (.inr (.inl (clean.mpr cleaned)))
      · rw [queue] at queued
        rcases List.mem_cons.mp queued with rfl | later
        · exact .inr (.inr (.inr (.inr rfl)))
        · exact .inr (.inr (.inr (.inl later)))
      · rw [free] at posted
        cases posted }

/-- What a reconciliation has to reach: the session is deleted now, or by a task. -/
def Reached (done : List (Client × DeviceId) × List Task) (c : Client) (d : DeviceId) : Prop :=
  (c,d) ∈ done.1 ∨ ∃ task ∈ done.2, reaches c d task = true

theorem reached_resetDevice {frames : List FrameKey} {clients : List Client} {devices : List DeviceId}
    (found : w.sessions.lookup (c,d) = some t) (member : c ∈ clients) :
    Reached (w.resetDevice frames clients devices d) c d := by
  have has : c ∈ clients.filter (w.has d) := List.mem_filter.mpr ⟨member,by rw [World.has,found]; rfl⟩
  unfold World.resetDevice
  cases chosen : clients.filter (w.has d) with
  | nil => rw [chosen] at has; cases has
  | cons first rest =>
    rw [chosen] at has
    rcases List.mem_cons.mp has with rfl | later
    · exact .inl List.mem_cons_self
    · exact .inr ⟨_,List.mem_cons_self,by simp [reaches,later]⟩

/-- The other sessions that the reset still has to delete. -/
theorem reached_later {frames : List FrameKey} {clients : List Client} {devices : List DeviceId} (d' : DeviceId)
    (later : c.frame ∈ frames ∨ c ∈ clients ∧ d ∈ devices) :
    Reached (w.resetDevice frames clients devices d') c d := by
  have reset (rest : List Client) : reaches c d (.reset frames clients devices d' rest) = true := by
    simp only [reaches,Bool.or_eq_true,Bool.and_eq_true,List.contains_eq_mem,decide_eq_true_eq]
    exact .inl later
  unfold World.resetDevice
  cases clients.filter (w.has d') with
  | nil => exact .inr ⟨_,List.mem_cons_self,reset []⟩
  | cons first rest => exact .inr ⟨_,List.mem_cons_self,reset rest⟩

theorem mem_devicesOf {clients : List Client} (found : w.sessions.lookup (c,d) = some t) (member : c ∈ clients) :
    d ∈ w.devicesOf clients := by
  refine List.mem_eraseDups.mpr (List.mem_map.mpr ⟨(c,d),List.mem_filter.mpr ⟨?_,?_⟩,rfl⟩)
  · exact mem_keys_iff_lookup.mpr ⟨t,found⟩
  · simp [member]

theorem reached_resetFrames {frames : List FrameKey} (found : w.sessions.lookup (c,d) = some t) (client : c ∈ w.clients)
    (member : c.frame ∈ frames) : Reached (w.resetFrames frames) c d := by
  induction frames with
  | nil => cases member
  | cons frame frames ih =>
    have own (here : c.frame = frame) : c ∈ w.clientsOf frame := List.mem_filter.mpr ⟨client,beq_iff_eq.mpr here⟩
    unfold World.resetFrames
    cases devices : w.devicesOf (w.clientsOf frame) with
    | nil =>
      rcases List.mem_cons.mp member with here | later
      · have none := mem_devicesOf found (own here)
        rw [devices] at none
        cases none
      · exact ih later
    | cons first rest =>
      rcases List.mem_cons.mp member with here | later
      · have some := mem_devicesOf found (own here)
        rw [devices] at some
        rcases List.mem_cons.mp some with rfl | device
        · exact reached_resetDevice found (own here)
        · exact reached_later first (.inr ⟨own here,device⟩)
      · exact reached_later first (.inl later)

theorem reached_continued {task : Task} (found : w.sessions.lookup (c,d) = some t) (client : c ∈ w.clients)
    (is : reaches c d task = true) : Reached (w.continued task) c d := by
  cases task with
  | plane c' d' t' => cases is
  | discard d' t' => cases is
  | reconcile d' rest =>
    simp only [reaches,Bool.and_eq_true,beq_iff_eq,List.contains_eq_mem,decide_eq_true_eq] at is
    obtain ⟨rfl,member⟩ := is
    cases rest with
    | nil => cases member
    | cons first rest =>
      rcases List.mem_cons.mp member with rfl | later
      · exact .inl List.mem_cons_self
      · exact .inr ⟨_,List.mem_cons_self,by simp [reaches,later]⟩
  | reset frames clients devices d' rest =>
    simp only [reaches,Bool.or_eq_true,Bool.and_eq_true,beq_iff_eq,List.contains_eq_mem,decide_eq_true_eq] at is
    cases rest with
    | cons first rest =>
      rcases is with later | ⟨rfl,member⟩
      · refine .inr ⟨_,List.mem_cons_self,?_⟩
        simp only [reaches,Bool.or_eq_true,Bool.and_eq_true,beq_iff_eq,List.contains_eq_mem,decide_eq_true_eq]
        exact .inl later
      · rcases List.mem_cons.mp member with rfl | later
        · exact .inl List.mem_cons_self
        · exact .inr ⟨_,List.mem_cons_self,by simp [reaches,later]⟩
    | nil =>
      have later := is.resolve_right fun empty => nomatch empty.2
      cases devices with
      | nil => exact reached_resetFrames found client (later.resolve_right fun empty => nomatch empty.2)
      | cons next devices =>
        rcases later with frame | ⟨member,device⟩
        · exact reached_later next (.inl frame)
        · rcases List.mem_cons.mp device with rfl | device
          · exact reached_resetDevice found member
          · exact reached_later next (.inr ⟨member,device⟩)

theorem reached_reconcileFrames {frames : List FrameKey} (found : w.sessions.lookup (c,d) = some t)
    (client : c ∈ w.clients) (member : c.frame ∈ frames) : Reached (w.reconcileFrames frames d) c d := by
  have has : c ∈ (w.clientsOf c.frame).filter (w.has d) := by
    refine List.mem_filter.mpr ⟨List.mem_filter.mpr ⟨client,beq_self_eq_true _⟩,?_⟩
    rw [World.has,found]
    rfl
  have listed : (w.clientsOf c.frame).filter (w.has d) ∈
      (frames.map fun frame => (w.clientsOf frame).filter (w.has d)).filter fun cs => !cs.isEmpty := by
    refine List.mem_filter.mpr ⟨List.mem_map.mpr ⟨c.frame,member,rfl⟩,?_⟩
    cases chosen : (w.clientsOf c.frame).filter (w.has d) with
    | nil => rw [chosen] at has; cases has
    | cons first rest => rfl
  unfold World.reconcileFrames
  cases chosen : (w.clientsOf c.frame).filter (w.has d) with
  | nil => rw [chosen] at has; cases has
  | cons first rest =>
    rw [chosen] at has listed
    rcases List.mem_cons.mp has with rfl | later
    · exact .inl (List.mem_filterMap.mpr ⟨_,listed,rfl⟩)
    · exact .inr ⟨_,List.mem_map.mpr ⟨_,listed,rfl⟩,by simp [reaches,later]⟩

theorem reached_reconciled {e : Event} (found : w.sessions.lookup (c,d) = some t) (client : c ∈ w.clients)
    (is : covers b c d e = true) : Reached (w.reconciled b e) c d := by
  have frame : c.frame ∈ w.frames := List.mem_eraseDups.mpr (List.mem_map.mpr ⟨c,client,rfl⟩)
  cases e with
  | disconnect d' =>
    cases beq_iff_eq.mp is
    exact reached_reconcileFrames found client frame
  | revoked d' origin =>
    simp only [covers,Bool.and_eq_true,beq_iff_eq] at is
    obtain ⟨rfl,rfl⟩ := is
    exact reached_reconcileFrames found client (List.mem_filter.mpr ⟨frame,beq_self_eq_true _⟩)
  | globalReset => exact reached_resetFrames found client frame

/-- Nothing else than the sessions to reconcile goes on. -/
def Reconciles (task : Task) : Prop := (∀ c d t, task ≠ .plane c d t) ∧ ∀ d t, task ≠ .discard d t

theorem reconciles_resetDevice {frames : List FrameKey} {clients : List Client} {devices : List DeviceId} {task : Task}
    (member : task ∈ (w.resetDevice frames clients devices d).2) : Reconciles task := by
  unfold World.resetDevice at member
  split at member
  all_goals
    cases List.mem_singleton.mp member
    exact ⟨fun _ _ _ same => (nomatch same),fun _ _ same => nomatch same⟩

theorem reconciles_resetFrames {frames : List FrameKey} {task : Task} (member : task ∈ (w.resetFrames frames).2) :
    Reconciles task := by
  induction frames with
  | nil => cases member
  | cons frame frames ih =>
    unfold World.resetFrames at member
    split at member
    · exact ih member
    · exact reconciles_resetDevice member

theorem reconciles_continued {task next : Task} (member : next ∈ (w.continued task).2) : Reconciles next := by
  unfold World.continued at member
  split at member
  · cases List.mem_singleton.mp member
    exact ⟨fun _ _ _ same => (nomatch same),fun _ _ same => nomatch same⟩
  · cases List.mem_singleton.mp member
    exact ⟨fun _ _ _ same => (nomatch same),fun _ _ same => nomatch same⟩
  · exact reconciles_resetDevice member
  · exact reconciles_resetFrames member
  · cases member

theorem reconciles_reconciled {e : Event} {next : Task} (member : next ∈ (w.reconciled b e).2) : Reconciles next := by
  have plain {frames : List FrameKey} {d : DeviceId} (member : next ∈ (w.reconcileFrames frames d).2) : Reconciles next := by
    obtain ⟨cs,_,rfl⟩ := List.mem_map.mp member
    exact ⟨fun _ _ _ same => (nomatch same),fun _ _ same => nomatch same⟩
  cases e with
  | disconnect d => exact plain member
  | revoked d origin => exact plain member
  | globalReset => exact reconciles_resetFrames member

/-- A reconciliation deletes only sessions that are not live, and reaches what is due. -/
theorem Accord.apply (ok : Accord b bridge w) {done : List (Client × DeviceId) × List Task} {tasks : List Task}
    {events : List Event} (fewer : ∀ task ∈ tasks, task ∈ w.tasks) (discards : ∀ d t, .discard d t ∈ w.tasks → .discard d t ∈ tasks)
    (reconciles : ∀ task ∈ done.2, Reconciles task) (free : (done.1.all fun key => !holdsLive w key) = true)
    (reached : ∀ c d t, w.sessions.lookup (c,d) = some t →
      (∃ e ∈ w.events, covers b c d e = true) ∨ (∃ task ∈ w.tasks, reaches c d task = true) →
      Reached done c d ∨ (∃ e ∈ events, covers b c d e = true) ∨ ∃ task ∈ tasks, reaches c d task = true) :
    Accord b bridge (World.apply { w with tasks := tasks, events := events } done) := by
  let w' := World.apply { w with tasks := tasks, events := events } done
  have left {key : Client × DeviceId} {t : Token} (found : w'.sessions.lookup key = some t) :
      key ∉ done.1 ∧ w.sessions.lookup key = some t := by
    have kept : (eraseAll w.sessions done.1).lookup key = some t := found
    rw [lookup_eraseAll] at kept
    split_ifs at kept with erased
    exact ⟨erased,kept⟩
  have older {task : Task} (member : task ∈ w'.tasks) : task ∈ tasks ∨ Reconciles task :=
    (List.mem_append.mp member).imp_right (reconciles task)
  have planes {c : Client} {d : DeviceId} {t : Token} (member : .plane c d t ∈ w'.tasks) : .plane c d t ∈ w.tasks :=
    fewer _ ((older member).resolve_right fun plain => plain.1 c d t rfl)
  have clean {d : DeviceId} {t : Token} : ToClean w' d t ↔ ToClean w d t := by
    have same : .discard d t ∈ w'.tasks ↔ .discard d t ∈ w.tasks :=
      ⟨fun member => fewer _ ((older member).resolve_right fun plain => plain.2 d t rfl),
        fun member => List.mem_append_left _ (discards d t member)⟩
    exact or_congr_left same
  have seen {t : Token} (seen : Seen w' t) : Seen w t :=
    seen.mono (fun _ _ found => (left found).2) (fun _ _ _ => planes) fun _ _ => clean.mp
  exact { ok with
    own := fun c d t found => ok.own c d t (left found).2
    seen := fun t here => ok.seen t (seen here)
    answer := fun c d t pending => (ok.answer c d t pending).imp_right fun unseen here => unseen (seen here)
    plane := fun c d t member key found => ok.plane c d t (planes member) key (left found).2
    clean := fun d t cleaned key found => ok.clean d t (clean.mp cleaned) key (left found).2
    held := fun c d t found => by
      obtain ⟨kept,before⟩ := left found
      rcases ok.held c d t before with alive | is
      · exact .inl alive
      · refine .inr (due_iff.mpr ?_)
        rw [due_iff,← or_assoc] at is
        rcases is with moving | still
        · rcases reached c d t before moving with (now | ⟨task,member,reach⟩) | event | ⟨task,member,reach⟩
          · exact absurd now kept
          · exact .inr (.inl ⟨task,List.mem_append_right _ member,reach⟩)
          · exact .inl event
          · exact .inr (.inl ⟨task,List.mem_append_left _ member,reach⟩)
        · exact .inr (.inr still)
    heard := fun c d t here alive => by
      rcases ok.heard c d t here alive with found | answered | cleaned | ending
      · refine .inl ?_
        show (eraseAll w.sessions done.1).lookup (c,d) = some t
        rw [lookup_eraseAll,if_neg fun erased => ?_,found]
        exact not_holdsLive (List.all_eq_true.mp free _ erased) found alive
      · exact .inr (.inl answered)
      · exact .inr (.inr (.inl (clean.mpr cleaned)))
      · exact .inr (.inr (.inr ending)) }

/-- Nothing of the bridge stands in the background any more. -/
theorem Accord.no_place {job : Job} {reply : Reply} (ok : Accord b bridge w)
    (pending : w.controlPending = some (job,.answered reply)) (p : Place) (call : Call)
    (here : callAt w.background p = some call) : (Call.client call).frame.bridgeInstanceId ≠ bridge := by
  intro mine
  obtain ⟨_,stands,_⟩ := ok.places p call here mine
  rw [pending] at stands
  cases p <;> cases stands

theorem toClean_answered {job : Job} {reply : Reply} {S : HashMap (Client × DeviceId) Token}
    (pending : w.controlPending = some (job,.answered reply)) :
    ToClean { w with controlPending := none, sessions := S } d t ↔ ToClean w d t := by
  refine or_congr_right (or_congr_right ⟨fun none => (nomatch none),fun posted => ?_⟩)
  rw [pending] at posted
  cases posted

theorem Ending.answered {job : Job} {reply : Reply} {frame : FrameKey}
    (pending : w.controlPending = some (job,.answered reply)) (ending : Ending w frame) :
    .frameDestroyed frame ∈ w.controlQueue := by
  refine ending.resolve_right fun posted => ?_
  rw [pending] at posted
  cases posted

/-- An answer that at most deletes a session. -/
theorem Accord.answered {job : Job} {reply : Reply} (ok : Accord b bridge w)
    (pending : w.controlPending = some (job,.answered reply)) (S : HashMap (Client × DeviceId) Token)
    (fewer : ∀ key t, S.lookup key = some t → w.sessions.lookup key = some t)
    (lost : ∀ c d t, w.sessions.lookup (c,d) = some t → S.lookup (c,d) = some t ∨ ¬ LiveFor w.background c d t)
    (closed : ∀ c d t, job = .closing c d (some t) → reply = .ok → S.lookup (c,d) ≠ some t)
    (opened : ∀ c d t, job = .opening c d → reply ≠ .opened t) :
    Accord b bridge { w with controlPending := none, sessions := S } := by
  have clean {d : DeviceId} {t : Token} :
      ToClean { w with controlPending := none, sessions := S } d t ↔ ToClean w d t := toClean_answered pending
  have seen {t : Token} (seen : Seen { w with controlPending := none, sessions := S } t) : Seen w t :=
    seen.mono fewer (fun _ _ _ member => member) fun _ _ => clean.mp
  exact { ok with
    own := fun c d t found => ok.own c d t (fewer _ t found)
    places := fun p call here mine => absurd mine (ok.no_place pending p call here)
    stands := fun _ _ _ none => nomatch none
    ended := fun frame ending => ok.ended frame (.inl (ending.resolve_right fun none => nomatch none))
    seen := fun t here => ok.seen t (seen here)
    answer := fun _ _ _ none => nomatch none
    closed := fun _ _ _ none => nomatch none
    plane := fun c d t member key found => ok.plane c d t member key (fewer key t found)
    clean := fun d t cleaned key found => ok.clean d t (clean.mp cleaned) key (fewer key t found)
    held := fun c d t found => by
      rcases ok.held c d t (fewer _ t found) with alive | is
      · exact .inl alive
      · refine .inr (due_iff.mpr ?_)
        rcases due_iff.mp is with event | task | revoking | close
        · exact .inl event
        · exact .inr (.inl task)
        · exact .inr (.inr (.inl revoking))
        · rw [pending] at close
          cases close
          exact absurd found (closed c d t rfl rfl)
    heard := fun c d t mine alive => by
      rcases ok.heard c d t mine alive with found | answered | cleaned | ending
      · exact .inl ((lost c d t found).resolve_right fun dead => dead alive)
      · rw [pending] at answered
        cases answered
        exact absurd rfl (opened c d t rfl)
      · exact .inr (.inr (.inl (clean.mpr cleaned)))
      · have queued := ending.answered pending
        exact .inr (.inr (.inr (.inl queued))) }

/-- The token of an open that is answered comes to its client. -/
theorem Accord.received (ok : Accord b bridge w) (client : c ∈ w.clients)
    (pending : w.controlPending = some (.opening c d,.answered (.opened t))) (free : (!holdsLive w (c,d)) = true)
    (fine : LiveFor w.background c d t ∨ due b w c d t = true) :
    Accord b bridge { w with
      controlPending := none, sessions := w.sessions.insert (c,d) t, tasks := w.tasks ++ [.plane c d t] } := by
  obtain ⟨told,unseen⟩ := ok.answer c d t pending
  let w' : World := { w with
    controlPending := none, sessions := w.sessions.insert (c,d) t, tasks := w.tasks ++ [.plane c d t] }
  have entry {key : Client × DeviceId} {t' : Token} (found : w'.sessions.lookup key = some t') :
      key = (c,d) ∧ t' = t ∨ key ≠ (c,d) ∧ w.sessions.lookup key = some t' := by
    have there : (w.sessions.insert (c,d) t).lookup key = some t' := found
    rw [lookup_insert_eq] at there
    split_ifs at there with same
    · exact .inl ⟨same,(Option.some.inj there).symm⟩
    · exact .inr ⟨same,there⟩
  have clean {d' : DeviceId} {t' : Token} : ToClean w' d' t' ↔ ToClean w d' t' := by
    have task : .discard d' t' ∈ w'.tasks ↔ .discard d' t' ∈ w.tasks := by simp [w']
    refine or_congr task (or_congr_right ⟨fun none => (nomatch none),fun posted => ?_⟩)
    rw [pending] at posted
    cases posted
  have plane {c' : Client} {d' : DeviceId} {t' : Token} (member : .plane c' d' t' ∈ w'.tasks) :
      .plane c' d' t' ∈ w.tasks ∨ c' = c ∧ d' = d ∧ t' = t := by
    rcases List.mem_append.mp member with before | new
    · exact .inl before
    · cases List.mem_singleton.mp new
      exact .inr ⟨rfl,rfl,rfl⟩
  have moved {c' : Client} {d' : DeviceId} {t' : Token} (is : due b w c' d' t' = true) : due b w' c' d' t' = true := by
    rcases due_iff.mp is with event | ⟨task,member,reach⟩ | revoking | close
    · exact due_iff.mpr (.inl event)
    · exact due_iff.mpr (.inr (.inl ⟨task,List.mem_append_left _ member,reach⟩))
    · exact due_iff.mpr (.inr (.inr (.inl revoking)))
    · rw [pending] at close
      cases close
  exact { ok with
    own := fun c' d' t' found => by
      rcases entry found with ⟨same,_⟩ | ⟨_,before⟩
      · cases same; exact client
      · exact ok.own c' d' t' before
    places := fun p call here mine => absurd mine (ok.no_place pending p call here)
    stands := fun _ _ _ none => nomatch none
    ended := fun frame ending => ok.ended frame (.inl (ending.resolve_right fun none => nomatch none))
    seen := fun t' seen => by
      rcases seen with ⟨key,found⟩ | ⟨c',d',member⟩ | ⟨d',cleaned⟩
      · rcases entry found with ⟨_,rfl⟩ | ⟨_,before⟩
        · exact told
        · exact ok.seen t' (.inl ⟨key,before⟩)
      · rcases plane member with before | ⟨_,_,rfl⟩
        · exact ok.seen t' (.inr (.inl ⟨c',d',before⟩))
        · exact told
      · exact ok.seen t' (.inr (.inr ⟨d',clean.mp cleaned⟩))
    answer := fun _ _ _ none => nomatch none
    closed := fun _ _ _ none => nomatch none
    plane := fun c' d' t' member key found => by
      rcases plane member with before | ⟨rfl,rfl,rfl⟩
      · rcases entry found with ⟨_,rfl⟩ | ⟨_,held⟩
        · exact absurd (.inr (.inl ⟨c',d',before⟩)) unseen
        · exact ok.plane c' d' t' before key held
      · rcases entry found with ⟨same,_⟩ | ⟨_,held⟩
        · exact same
        · exact absurd (.inl ⟨key,held⟩) unseen
    clean := fun d' t' cleaned key found => by
      rcases entry found with ⟨_,rfl⟩ | ⟨_,held⟩
      · exact unseen (.inr (.inr ⟨d',clean.mp cleaned⟩))
      · exact ok.clean d' t' (clean.mp cleaned) key held
    held := fun c' d' t' found => by
      rcases entry found with ⟨same,rfl⟩ | ⟨_,held⟩
      · cases same
        exact fine.imp_right moved
      · exact (ok.held c' d' t' held).imp_right moved
    heard := fun c' d' t' mine alive => by
      rcases ok.heard c' d' t' mine alive with held | answered | cleaned | ending
      · refine .inl ((lookup_insert_eq _ _ _ _).trans ((if_neg fun same => ?_).trans held))
        cases same
        exact not_holdsLive free held alive
      · rw [pending] at answered
        cases answered
        exact .inl ((lookup_insert_eq _ _ _ _).trans (if_pos rfl))
      · exact .inr (.inr (.inl (clean.mpr cleaned)))
      · have queued := ending.answered pending
        exact .inr (.inr (.inr (.inl queued))) }

/-- The client of an open that is answered is gone. -/
theorem Accord.refused (ok : Accord b bridge w)
    (pending : w.controlPending = some (.opening c d,.answered (.opened t))) :
    Accord b bridge { w with controlPending := none, tasks := w.tasks ++ [.discard d t] } := by
  obtain ⟨told,unseen⟩ := ok.answer c d t pending
  let w' : World := { w with controlPending := none, tasks := w.tasks ++ [.discard d t] }
  have clean {d' : DeviceId} {t' : Token} : ToClean w' d' t' ↔ ToClean w d' t' ∨ d' = d ∧ t' = t := by
    simp only [ToClean,w',List.mem_append,List.mem_singleton,Task.discard.injEq,pending,reduceCtorEq,or_false,
      Option.some.injEq,Prod.mk.injEq,and_false]
    exact or_right_comm
  have plane {c' : Client} {d' : DeviceId} {t' : Token} (member : .plane c' d' t' ∈ w'.tasks) :
      .plane c' d' t' ∈ w.tasks := (List.mem_append.mp member).resolve_right (by simp)
  exact { ok with
    places := fun p call here mine => absurd mine (ok.no_place pending p call here)
    stands := fun _ _ _ none => nomatch none
    ended := fun frame ending => ok.ended frame (.inl (ending.resolve_right fun none => nomatch none))
    seen := fun t' seen => by
      rcases seen with held | ⟨c',d',member⟩ | ⟨d',cleaned⟩
      · exact ok.seen t' (.inl held)
      · exact ok.seen t' (.inr (.inl ⟨c',d',plane member⟩))
      · rcases clean.mp cleaned with before | ⟨_,rfl⟩
        · exact ok.seen t' (.inr (.inr ⟨d',before⟩))
        · exact told
    answer := fun _ _ _ none => nomatch none
    closed := fun _ _ _ none => nomatch none
    plane := fun c' d' t' member => ok.plane c' d' t' (plane member)
    clean := fun d' t' cleaned key found => by
      rcases clean.mp cleaned with before | ⟨_,rfl⟩
      · exact ok.clean d' t' before key found
      · exact unseen (.inl ⟨key,found⟩)
    held := fun c' d' t' found => (ok.held c' d' t' found).imp_right fun is => by
      rcases due_iff.mp is with event | ⟨task,member,reach⟩ | revoking | close
      · exact due_iff.mpr (.inl event)
      · exact due_iff.mpr (.inr (.inl ⟨task,List.mem_append_left _ member,reach⟩))
      · exact due_iff.mpr (.inr (.inr (.inl revoking)))
      · rw [pending] at close
        cases close
    heard := fun c' d' t' mine alive => by
      rcases ok.heard c' d' t' mine alive with held | answered | cleaned | ending
      · exact .inl held
      · rw [pending] at answered
        cases answered
        exact .inr (.inr (.inl (clean.mpr (.inr ⟨rfl,rfl⟩))))
      · exact .inr (.inr (.inl (clean.mpr (.inl cleaned))))
      · have queued := ending.answered pending
        exact .inr (.inr (.inr (.inl queued))) }

theorem Accord.deliver {job : Job} {reply : Reply} (ok : Accord b bridge w)
    (pending : w.controlPending = some (job,.answered reply)) (fine : orderly b w .deliver = true) :
    Accord b bridge ({ w with controlPending := none }.delivered job reply) := by
  simp only [orderly,pending] at fine
  have plain (opened : ∀ c d t, job = .opening c d → reply ≠ .opened t)
      (closed : ∀ c d t, job = .closing c d (some t) → reply ≠ .ok) : Accord b bridge { w with controlPending := none } :=
    ok.answered pending w.sessions (fun _ _ found => found) (fun _ _ _ found => .inl found)
      (fun c d t same accepted => absurd accepted (closed c d t same)) opened
  cases job with
  | opening c d =>
    cases reply with
    | opened t =>
      simp only [World.delivered,World.handleOpenSuccess]
      by_cases client : c ∈ w.clients
      · rw [if_pos client]
        simp only [client,List.contains_eq_mem,decide_true,Bool.not_true,Bool.false_or,Bool.and_eq_true,Bool.or_eq_true,
          live_iff] at fine
        exact ok.received client pending fine.1 fine.2
      · rw [if_neg client]
        exact ok.refused pending
    | ok => exact plain (fun _ _ _ _ same => nomatch same) fun _ _ _ same => nomatch same
    | failed => exact plain (fun _ _ _ _ same => nomatch same) fun _ _ _ same => nomatch same
  | closing c d token =>
    cases reply with
    | opened t => exact plain (fun _ _ _ same => nomatch same) fun _ _ _ _ same => nomatch same
    | ok =>
      refine ok.answered pending _ (fun key t found => lookup_of_erase found) (fun c' d' t held => ?_)
        (fun c' d' t same _ => ?_) fun _ _ _ same => nomatch same
      · rw [lookup_erase_eq]
        by_cases same : (c',d') = (c,d)
        · cases same
          refine .inr ?_
          simp only [Bool.or_eq_true,beq_iff_eq] at fine
          rcases fine with own | free
          · cases held.symm.trans own
            rintro ⟨o,alive,_⟩
            exact (ok.closed c d t pending).2 o alive
          · exact not_holdsLive free held
        · exact .inl ((if_neg same).trans held)
      · cases same
        rw [lookup_erase_eq,if_pos rfl]
        exact fun none => nomatch none
    | failed =>
      cases token with
      | none => exact plain (fun _ _ _ same => nomatch same) fun _ _ _ _ same => nomatch same
      | some t =>
        simp only [World.delivered]
        by_cases client : c ∈ w.clients
        · rw [if_pos client]
          simp only [client,List.contains_eq_mem,decide_true,Bool.not_true,Bool.false_or,beq_iff_eq] at fine
          have same (key : Client × DeviceId) : (w.sessions.insert (c,d) t).lookup key = w.sessions.lookup key := by
            rw [lookup_insert_eq]
            split_ifs with here
            · rw [here,fine]
            · rfl
          exact ok.answered pending _ (fun key t' found => (same key).symm.trans found)
            (fun c' d' t' found => .inl ((same _).trans found)) (fun _ _ _ _ accepted => nomatch accepted)
            fun _ _ _ same => nomatch same
        · rw [if_neg client]
          exact plain (fun _ _ _ same => nomatch same) fun _ _ _ _ same => nomatch same
  | cleanupSession d t => exact plain (fun _ _ _ same => nomatch same) fun _ _ _ same => nomatch same
  | frameDestroyed frame => exact plain (fun _ _ _ same => nomatch same) fun _ _ _ same => nomatch same

/-! ### Tasks -/

/-- An open that has no data plane gives its session up. -/
theorem Accord.planeFailed (ok : Accord b bridge w) {k : Nat} (found : w.tasks[k]? = some (.plane c d t))
    (fine : w.sessions.lookup (c,d) = some t ∨ (!holdsLive w (c,d)) = true) :
    Accord b bridge { w with
      sessions := w.sessions.erase (c,d), tasks := w.tasks.eraseIdx k ++ [.discard d t] } := by
  have there : .plane c d t ∈ w.tasks := List.mem_of_getElem? found
  let w' : World := { w with sessions := w.sessions.erase (c,d), tasks := w.tasks.eraseIdx k ++ [.discard d t] }
  have fewer {key : Client × DeviceId} {t' : Token} (found : w'.sessions.lookup key = some t') :
      w.sessions.lookup key = some t' := lookup_of_erase found
  have older {task : Task} (member : task ∈ w'.tasks) : task ∈ w.tasks ∨ task = .discard d t :=
    (List.mem_append.mp member).imp List.mem_of_mem_eraseIdx List.mem_singleton.mp
  have kept {task : Task} (member : task ∈ w.tasks) (other : task ≠ .plane c d t) : task ∈ w'.tasks :=
    List.mem_append_left _ ((mem_eraseIdx_or found member).resolve_left other)
  have plane {c' : Client} {d' : DeviceId} {t' : Token} (member : .plane c' d' t' ∈ w'.tasks) :
      .plane c' d' t' ∈ w.tasks := (older member).resolve_right fun same => nomatch same
  have clean {d' : DeviceId} {t' : Token} : ToClean w' d' t' ↔ ToClean w d' t' ∨ d' = d ∧ t' = t := by
    constructor
    · rintro (member | rest)
      · rcases older member with before | same
        · exact .inl (.inl before)
        · cases same; exact .inr ⟨rfl,rfl⟩
      · exact .inl (.inr rest)
    · rintro ((member | rest) | ⟨rfl,rfl⟩)
      · exact .inl (kept member fun same => nomatch same)
      · exact .inr rest
      · exact .inl (List.mem_append_right _ (List.mem_singleton.mpr rfl))
  have seen {t' : Token} (seen : Seen w' t') : Seen w t' := by
    rcases seen with ⟨key,found⟩ | ⟨c',d',member⟩ | ⟨d',cleaned⟩
    · exact .inl ⟨key,fewer found⟩
    · exact .inr (.inl ⟨c',d',plane member⟩)
    · rcases clean.mp cleaned with before | ⟨_,rfl⟩
      · exact .inr (.inr ⟨d',before⟩)
      · exact .inr (.inl ⟨c,d,there⟩)
  exact { ok with
    own := fun c' d' t' found => ok.own c' d' t' (fewer found)
    seen := fun t' here => ok.seen t' (seen here)
    answer := fun c' d' t' pending => (ok.answer c' d' t' pending).imp_right fun unseen here => unseen (seen here)
    plane := fun c' d' t' member key found => ok.plane c' d' t' (plane member) key (fewer found)
    clean := fun d' t' cleaned key found => by
      rcases clean.mp cleaned with before | ⟨_,rfl⟩
      · exact ok.clean d' t' before key (fewer found)
      · have own := ok.plane c d t' there key (fewer found)
        have erased : (w.sessions.erase (c,d)).lookup key = some t' := found
        rw [lookup_erase_eq,if_pos own] at erased
        cases erased
    held := fun c' d' t' found => (ok.held c' d' t' (fewer found)).imp_right fun is => by
      rcases due_iff.mp is with event | ⟨task,member,reach⟩ | rest
      · exact due_iff.mpr (.inl event)
      · refine due_iff.mpr (.inr (.inl ⟨task,kept member fun same => ?_,reach⟩))
        subst same
        cases reach
      · exact due_iff.mpr (.inr (.inr rest))
    heard := fun c' d' t' mine alive => by
      rcases ok.heard c' d' t' mine alive with held | answered | cleaned | ending
      · by_cases same : (c',d') = (c,d)
        · cases same
          rcases fine with own | free
          · cases held.symm.trans own
            exact .inr (.inr (.inl (clean.mpr (.inr ⟨rfl,rfl⟩))))
          · exact absurd alive (not_holdsLive free held)
        · exact .inl ((lookup_erase_eq _ _ _).trans ((if_neg same).trans held))
      · exact .inr (.inl answered)
      · exact .inr (.inr (.inl (clean.mpr (.inl cleaned))))
      · exact .inr (.inr (.inr ending)) }

/-- A task ends, and the cleanup that it leads to waits in the queue. -/
theorem Accord.planeReady (ok : Accord b bridge w) {k : Nat} (found : w.tasks[k]? = some (.plane c d t)) :
    Accord b bridge { w with tasks := w.tasks.eraseIdx k } := by
  have same : World.apply { w with tasks := w.tasks.eraseIdx k, events := w.events } ([],[]) =
      { w with tasks := w.tasks.eraseIdx k } := by simp [World.apply,eraseAll]
  refine same ▸ ok.apply (fun _ => List.mem_of_mem_eraseIdx) (fun d' t' member => ?_) (fun _ none => by cases none) rfl
    fun c' d' t' _ is => ?_
  · exact (mem_eraseIdx_or found member).resolve_left fun same => by cases same
  · rcases is with event | ⟨task,member,reach⟩
    · exact .inr (.inl event)
    · refine .inr (.inr ⟨task,(mem_eraseIdx_or found member).resolve_left fun same => ?_,reach⟩)
      subst same
      cases reach

/-- The cleanup of a session that was given up waits in the queue. -/
theorem Accord.discarded (ok : Accord b bridge w) {k : Nat} (found : w.tasks[k]? = some (.discard d t)) :
    Accord b bridge (World.enqueue { w with tasks := w.tasks.eraseIdx k } (.cleanupSession d t)) := by
  let w₁ : World := { w with tasks := w.tasks.eraseIdx k }
  have fewer {task : Task} (member : task ∈ w₁.tasks) : task ∈ w.tasks := List.mem_of_mem_eraseIdx member
  have clean {d' : DeviceId} {t' : Token} : ToClean (w₁.enqueue (.cleanupSession d t)) d' t' ↔ ToClean w d' t' := by
    constructor
    · rintro (member | queued | posted)
      · exact .inl (fewer member)
      · rcases mem_enqueue.mp queued with before | new
        · exact .inr (.inl before)
        · cases new
          exact .inl (List.mem_of_getElem? found)
      · exact .inr (.inr posted)
    · rintro (member | queued | posted)
      · rcases mem_eraseIdx_or found member with same | kept
        · cases same
          exact .inr (.inl (mem_enqueue.mpr (.inr rfl)))
        · exact .inl kept
      · exact .inr (.inl (mem_enqueue.mpr (.inl queued)))
      · exact .inr (.inr posted)
  have seen {t' : Token} (seen : Seen (w₁.enqueue (.cleanupSession d t)) t') : Seen w t' :=
    seen.mono (fun _ _ found => found) (fun _ _ _ => fewer) fun _ _ => clean.mp
  exact { ok with
    ended := fun frame ending => by
      rcases ending with queued | posted
      · exact ok.ended frame (.inl ((mem_enqueue.mp queued).resolve_right fun same => nomatch same))
      · exact ok.ended frame (.inr posted)
    seen := fun t' here => ok.seen t' (seen here)
    answer := fun c d t pending => (ok.answer c d t pending).imp_right fun unseen here => unseen (seen here)
    plane := fun c d t member => ok.plane c d t (fewer member)
    clean := fun d t cleaned => ok.clean d t (clean.mp cleaned)
    held := fun c d' t' held => (ok.held c d' t' held).imp_right fun is => by
      rcases due_iff.mp is with event | ⟨task,member,reach⟩ | rest
      · exact due_iff.mpr (.inl event)
      · refine due_iff.mpr (.inr (.inl ⟨task,(mem_eraseIdx_or found member).resolve_left fun same => ?_,reach⟩))
        subst same
        cases reach
      · exact due_iff.mpr (.inr (.inr rest))
    heard := fun c d' t' mine alive => by
      rcases ok.heard c d' t' mine alive with held | answered | cleaned | ending
      · exact .inl held
      · exact .inr (.inl answered)
      · exact .inr (.inr (.inl (clean.mpr cleaned)))
      · have later : Ending (w₁.enqueue (.cleanupSession d t)) c.frame := ending.imp_left fun queued =>
          mem_enqueue.mpr (.inl queued)
        exact .inr (.inr (.inr later)) }

theorem resetFrames_tasks (tasks : List Task) (frames : List FrameKey) :
    World.resetFrames { w with tasks := tasks } frames = w.resetFrames frames := by
  induction frames with
  | nil => rfl
  | cons frame frames ih =>
    simp only [World.resetFrames,ih]
    rfl

/-- What goes on does not depend on the other tasks. -/
theorem continued_tasks (tasks : List Task) (task : Task) :
    World.continued { w with tasks := tasks } task = w.continued task := by
  unfold World.continued
  split
  · rfl
  · rfl
  · rfl
  · exact resetFrames_tasks tasks _
  · rfl

theorem Accord.resume (ok : Accord b bridge w) {k : Nat} {accepted : Bool} {task : Task} (found : w.tasks[k]? = some task)
    (fine : orderly b w (.resume k accepted) = true) :
    Accord b bridge (World.resumed { w with tasks := w.tasks.eraseIdx k } task accepted) := by
  simp only [orderly,found] at fine
  have goesOn (plain : Reconciles task) (free : ((w.continued task).1.all fun key => !holdsLive w key) = true) :
      Accord b bridge (World.apply { w with tasks := w.tasks.eraseIdx k }
        (World.continued { w with tasks := w.tasks.eraseIdx k } task)) := by
    rw [continued_tasks]
    refine ok.apply (fun _ => List.mem_of_mem_eraseIdx) (fun d t member => ?_) (fun _ => reconciles_continued) free
      fun c d t held is => ?_
    · exact (mem_eraseIdx_or found member).resolve_left fun same => plain.2 d t same.symm
    · rcases is with event | ⟨other,member,reach⟩
      · exact .inr (.inl event)
      · rcases mem_eraseIdx_or found member with rfl | kept
        · exact .inl (reached_continued held (ok.own c d t held) reach)
        · exact .inr (.inr ⟨other,kept,reach⟩)
  cases task with
  | plane c d t =>
    cases accepted with
    | true => exact ok.planeReady found
    | false =>
      simp only [Bool.false_or,Bool.or_eq_true,beq_iff_eq] at fine
      exact ok.planeFailed found fine
  | discard d t => exact ok.discarded found
  | reconcile d rest => exact goesOn ⟨fun _ _ _ same => (nomatch same),fun _ _ same => nomatch same⟩ fine
  | reset frames clients devices d rest =>
    exact goesOn ⟨fun _ _ _ same => (nomatch same),fun _ _ same => nomatch same⟩ fine

theorem Accord.event (ok : Accord b bridge w) {k : Nat} {e : Event} (found : w.events[k]? = some e)
    (fine : orderly b w (.event k) = true) :
    Accord b bridge (World.apply { w with events := w.events.eraseIdx k } (w.reconciled b e)) := by
  simp only [orderly,found] at fine
  refine ok.apply (fun _ member => member) (fun _ _ member => member) (fun _ => reconciles_reconciled) fine
    fun c d t held is => ?_
  rcases is with ⟨other,member,covered⟩ | task
  · rcases mem_eraseIdx_or found member with rfl | kept
    · exact .inl (reached_reconciled held (ok.own c d t held) covered)
    · exact .inr (.inl ⟨other,kept,covered⟩)
  · exact .inr (.inr task)

end
end FFWebHid.SessionAgreement
