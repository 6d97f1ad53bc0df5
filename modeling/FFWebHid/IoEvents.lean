import FFWebHid.Types
import FFWebHid.Mailboxes
import FFWebHid.Registry
import FFWebHid.Lifecycle
import FFWebHid.Coherence
import FFWebHid.Threads
import FFWebHid.Safety
import FFWebHid.IoAuthority

/-!
The events on the way of a command: its epoch is read, it is enqueued, the worker
takes it, runs it or not, and it is answered. A step is at most one such event;
what the other threads do to queues is to ask workers to stop.
-/
namespace FFWebHid.IoEvents
open FFWebHid.Types FFWebHid.Registry FFWebHid.Lifecycle FFWebHid.Coherence FFWebHid.Threads FFWebHid.Safety
open FFWebHid.IoAuthority FFWebHid.Mailboxes FFWebHid.Registry.DeviceManager

inductive IoEvent where
  | captures (reply : Nat) (cell : Lifetime)
  | enqueues (queue : Lifetime) (command : IoCommand)
  | receives (worker : Lifetime) (command : IoCommand)
  | runs (worker : Lifetime) (command : IoCommand)
  | answers (worker : Lifetime) (command : IoCommand) (how : Answer)
  | stops (worker : Lifetime) (dropped : List IoCommand)

def commandsOf (queue : List Queued) : List IoCommand :=
  queue.filterMap fun
    | .shutdown => none
    | .command command => some command

def ofNm (sh : Shared) : NmPc → Option IoEvent
  | .haveBuf hot _ => some (.captures sh.nextReply hot.epoch)
  | .haveCommand queue command => if sh.workerStopped queue then none else some (.enqueues queue command)
  | _ => none

def ofFrame (sh : Shared) : FramePc → Option IoEvent
  | .haveEntry _ _ epochOf _ => some (.captures sh.nextReply epochOf)
  | .haveCommand queue command => if sh.workerStopped queue then none else some (.enqueues queue command)
  | _ => none

def ofWorker (sh : Shared) (l : Lifetime) : WorkerPc → Option IoEvent
  | .idle =>
    match sh.queue l with
    | [] => none
    | .shutdown :: rest => some (.stops l (commandsOf rest))
    | .command command :: _ => some (.receives l command)
  | .received command => if sh.mgr.valid command.validity then none else some (.answers l command .rejected)
  | .validated command =>
    if command.epoch = sh.epoch l then some (.runs l command) else some (.answers l command .rejected)
  | .running command => some (.answers l command .result)
  | .stopped => none

/-- The event that a step is. -/
def ioEvent (w : World) : Action → Option IoEvent
  | .client c .advance =>
    match w.client c with
    | .report _ _ pc => ofNm w.shared pc
    | _ => none
  | .transport t .advance =>
    match w.transport t with
    | .connected _ frame => ofFrame w.shared frame
    | .closed _ frame => ofFrame w.shared frame
    | _ => none
  | .worker l => ofWorker w.shared l (w.worker l)
  | _ => none

/-- A thread that sends commands. -/
inductive Thread where
  | client (clientId : ClientId)
  | transport (transport : Nat)
  deriving DecidableEq

def nmCarries : NmPc → Option (Lifetime × IoCommand)
  | .haveCommand queue command => some (queue,command)
  | _ => none

def frameCarries : FramePc → Option (Lifetime × IoCommand)
  | .haveCommand queue command => some (queue,command)
  | _ => none

def clientCarries : ClientPc → Option (Lifetime × IoCommand)
  | .report _ _ pc => nmCarries pc
  | _ => none

def transportCarries : TransportPc → Option (Lifetime × IoCommand)
  | .connected _ frame => frameCarries frame
  | .closed _ frame => frameCarries frame
  | _ => none

/-- The command that a thread is about to enqueue, and the queue. -/
def carrying (w : World) : Thread → Option (Lifetime × IoCommand)
  | .client c => clientCarries (w.client c)
  | .transport t => transportCarries (w.transport t)

def nmAims : NmPc → Option (Lifetime × Lifetime)
  | .haveHot hot => some (hot.ioTx,hot.epoch)
  | .haveBuf hot _ => some (hot.ioTx,hot.epoch)
  | _ => none

def frameAims : FramePc → Option (Lifetime × Lifetime)
  | .haveEntry _ queue epochOf _ => some (queue,epochOf)
  | _ => none

def clientAims : ClientPc → Option (Lifetime × Lifetime)
  | .report _ _ pc => nmAims pc
  | _ => none

def transportAims : TransportPc → Option (Lifetime × Lifetime)
  | .connected _ frame => frameAims frame
  | .closed _ frame => frameAims frame
  | _ => none

/-- The queue and the epoch of which a thread is about to build a command. -/
def aiming (w : World) : Thread → Option (Lifetime × Lifetime)
  | .client c => clientAims (w.client c)
  | .transport t => transportAims (w.transport t)

/-- Nothing happens to commands; workers may be asked to stop. -/
structure Silent (sh sh' : Shared) : Prop where
  queue : ∀ l, commandsOf (sh'.queue l) = commandsOf (sh.queue l)
  stopped : sh'.workerStopped = sh.workerStopped
  replies : sh'.replies = sh.replies
  nextReply : sh'.nextReply = sh.nextReply
  epoch : ∀ l, sh.epoch l ≤ sh'.epoch l

section
variable {sh sh' : Shared}

theorem Silent.of_eq (queue : sh'.queue = sh.queue) (stopped : sh'.workerStopped = sh.workerStopped)
    (replies : sh'.replies = sh.replies) (nextReply : sh'.nextReply = sh.nextReply) (epoch : sh'.epoch = sh.epoch) :
    Silent sh sh' :=
  ⟨fun _ => by rw [queue],stopped,replies,nextReply,fun _ => by rw [epoch]⟩

theorem Silent.refl (sh : Shared) : Silent sh sh := .of_eq rfl rfl rfl rfl rfl

private theorem silent_mgr (sh : Shared) (m : DeviceManager) : Silent sh { sh with mgr := m } := .of_eq rfl rfl rfl rfl rfl

private theorem silent_teardown {instruction : TeardownStep} (ran : sh.teardown instruction = some sh') :
    Silent sh sh' := by
  cases instruction with
  | requestShutdown l =>
    simp only [Shared.teardown] at ran
    split at ran
    · cases ran; exact .refl sh
    · unfold Shared.push at ran
      split at ran
      · cases ran
      · cases ran
        refine ⟨?_,rfl,rfl,rfl,fun _ => Nat.le_refl _⟩
        intro l'
        by_cases here : l' = l
        · subst here; simp [commandsOf]
        · simp [here]
  | bumpEpoch l =>
    cases ran
    refine ⟨fun _ => rfl,rfl,rfl,rfl,?_⟩
    intro l'
    by_cases here : l' = l
    · subst here; simp
    · simp [here]
  | joinReader l =>
    obtain ⟨_,same⟩ := Option.ite_none_right_eq_some.mp ran
    cases same; exact .refl sh
  | joinWorker l =>
    obtain ⟨_,same⟩ := Option.ite_none_right_eq_some.mp ran
    cases same; exact .refl sh
  | _ => cases ran; exact .of_eq rfl rfl rfl rfl rfl

private theorem silent_openStep {daemon : Daemon} {c : ClientId} {call : OpenCall} {pc : OpenPc} {pc' : ClientPc}
    (taken : openStep daemon sh c call pc = some (pc',sh')) : Silent sh sh' ∧ clientCarries pc' = none ∧ clientAims pc' = none := by
  cases pc with
  | physical g => cases taken
  | wait g seen =>
    obtain ⟨_,same⟩ := Option.ite_none_right_eq_some.mp taken
    cases same; exact ⟨.refl sh,rfl,rfl⟩
  | stopLocal g steps =>
    cases steps with
    | nil => cases taken; exact ⟨.refl sh,rfl,rfl⟩
    | cons instruction rest =>
      obtain ⟨sh₁,ran,result⟩ := Option.map_eq_some_iff.mp taken
      cases result; exact ⟨silent_teardown ran,rfl,rfl⟩
  | spawn g info numbered => cases taken; exact ⟨.of_eq rfl rfl rfl rfl rfl,rfl,rfl⟩
  | start g => cases taken; exact ⟨.of_eq rfl rfl rfl rfl rfl,rfl,rfl⟩
  | release g =>
    cases taken
    refine ⟨silent_mgr sh _,?_⟩
    split <;> exact ⟨rfl,rfl⟩
  | notify g => cases taken; exact ⟨silent_mgr sh _,rfl,rfl⟩
  | _ =>
    simp only [openStep] at taken
    split at taken <;> cases taken <;> exact ⟨silent_mgr sh _,rfl,rfl⟩

/-- A client sends nothing unless it has a report operation in progress. -/
private theorem clientStep_silent {daemon : Daemon} {c : ClientId} {pc pc' : ClientPc} {a : ClientAction}
    (taken : clientStep daemon sh c pc a = some (pc',sh')) :
    (∃ d op nm, pc = .report d op nm ∧ a = .advance ∧ nmStep sh c d op nm = some (pc',sh')) ∨
    (Silent sh sh' ∧ (clientCarries pc' = none ∧ clientAims pc' = none) ∧ clientCarries pc = none) := by
  unfold clientStep at taken
  split at taken
  · obtain ⟨_,result⟩ := Option.ite_none_right_eq_some.mp taken
    cases result; exact Or.inr ⟨.of_eq rfl rfl rfl rfl rfl,⟨rfl,rfl⟩,rfl⟩
  · cases taken; exact Or.inr ⟨silent_mgr sh _,⟨rfl,rfl⟩,rfl⟩
  · obtain ⟨_,result⟩ := Option.ite_none_right_eq_some.mp taken
    cases result; exact Or.inr ⟨.of_eq rfl rfl rfl rfl rfl,⟨rfl,rfl⟩,rfl⟩
  · cases taken
    refine Or.inr ⟨.refl sh,?_,rfl⟩
    split <;> exact ⟨rfl,rfl⟩
  · cases taken; exact Or.inr ⟨.refl sh,⟨rfl,rfl⟩,rfl⟩
  · obtain ⟨silent,nothing⟩ := silent_openStep taken
    exact Or.inr ⟨silent,nothing,rfl⟩
  · dsimp only at taken
    split at taken <;> cases taken <;> exact Or.inr ⟨silent_mgr sh _,⟨rfl,rfl⟩,rfl⟩
  · cases taken; exact Or.inr ⟨.refl sh,⟨rfl,rfl⟩,rfl⟩
  · obtain ⟨sh₁,ran,result⟩ := Option.map_eq_some_iff.mp taken
    cases result; exact Or.inr ⟨silent_teardown ran,⟨rfl,rfl⟩,rfl⟩
  · split at taken <;> cases taken
    · exact Or.inr ⟨silent_mgr sh _,⟨rfl,rfl⟩,rfl⟩
    · exact Or.inr ⟨.refl sh,⟨rfl,rfl⟩,rfl⟩
  · split at taken <;> cases taken <;> exact Or.inr ⟨.refl sh,⟨rfl,rfl⟩,rfl⟩
  · exact Or.inl ⟨_,_,_,rfl,rfl,taken⟩
  · cases taken; exact Or.inr ⟨.refl sh,⟨rfl,rfl⟩,rfl⟩
  · cases taken; exact Or.inr ⟨.refl sh,⟨rfl,rfl⟩,rfl⟩
  · cases taken; exact Or.inr ⟨silent_mgr sh _,⟨rfl,rfl⟩,rfl⟩
  · cases taken; exact Or.inr ⟨.refl sh,⟨rfl,rfl⟩,rfl⟩
  · obtain ⟨sh₁,ran,result⟩ := Option.map_eq_some_iff.mp taken
    cases result; exact Or.inr ⟨silent_teardown ran,⟨rfl,rfl⟩,rfl⟩
  · dsimp only at taken
    split at taken <;> cases taken <;> exact Or.inr ⟨silent_mgr sh _,⟨rfl,rfl⟩,rfl⟩
  · cases taken; exact Or.inr ⟨.refl sh,⟨rfl,rfl⟩,rfl⟩
  · cases taken

private theorem relayStep_silent {c : ClientId} {running : Bool} {pc pc' : RelayPc} {a : RelayAction}
    (taken : relayStep sh c running pc a = some (pc',sh')) : Silent sh sh' := by
  unfold relayStep at taken
  split at taken
  · split at taken
    · split at taken
      · cases taken
      · split at taken <;> cases taken <;> exact .of_eq rfl rfl rfl rfl rfl
    · cases taken
  · split at taken <;> cases taken
    exact .of_eq rfl rfl rfl rfl rfl
  · cases taken; exact .refl sh
  · obtain ⟨sh₁,ran,result⟩ := Option.map_eq_some_iff.mp taken
    cases result; exact silent_teardown ran
  · cases taken

private theorem readerStep_silent {l : Lifetime} {config : ReaderConfig} {pc pc' : ReaderPc} {a : ReaderAction}
    (taken : readerStep sh l config pc a = some (pc',sh')) : Silent sh sh' := by
  unfold readerStep at taken
  split at taken
  case h_10 =>
    cases taken
    split
    · exact .of_eq rfl rfl rfl rfl rfl
    · exact .refl sh
  case h_13 =>
    obtain ⟨sh₁,ran,result⟩ := Option.map_eq_some_iff.mp taken
    cases result; exact silent_teardown ran
  all_goals first
    | cases taken; exact .of_eq rfl rfl rfl rfl rfl
    | cases taken
    | (split at taken <;> cases taken <;> exact .of_eq rfl rfl rfl rfl rfl)

end

/-! ### What a step does to commands -/

section
variable {daemon : Daemon} {w w' : World}

/-- What a step does to the commands that are under way, by the event that it is. -/
inductive IoChange (w : World) (w' : World) : Option IoEvent → Prop where
  | silent (shared : Silent w.shared w'.shared) (worker : w'.worker = w.worker)
      (carries : ∀ thread x, carrying w' thread = some x → carrying w thread = some x) : IoChange w w' none
  | validates (l : Lifetime) (command : IoCommand) (here : w.worker l = .received command)
      (set : w.mgr.valid command.validity = true) (shared : w'.shared = w.shared)
      (worker : w'.worker = Function.update w.worker l (.validated command))
      (carries : carrying w' = carrying w) : IoChange w w' none
  | captures (thread : Thread) (queue cell : Lifetime) (command : IoCommand) (aims : aiming w thread = some (queue,cell))
      (reply : command.reply = w.shared.nextReply) (epoch : command.epoch = w.shared.epoch cell)
      (shared : w'.shared = { w.shared with nextReply := w.shared.nextReply + 1 }) (worker : w'.worker = w.worker)
      (here : carrying w' thread = some (queue,command))
      (others : ∀ other, other ≠ thread → carrying w' other = carrying w other) :
      IoChange w w' (some (.captures w.shared.nextReply cell))
  | enqueues (thread : Thread) (queue : Lifetime) (command : IoCommand)
      (carried : carrying w thread = some (queue,command))
      (pushed : w.shared.push queue (.command command) = some w'.shared) (worker : w'.worker = w.worker)
      (gone : carrying w' thread = none) (others : ∀ other, other ≠ thread → carrying w' other = carrying w other) :
      IoChange w w' (some (.enqueues queue command))
  | receives (l : Lifetime) (command : IoCommand) (rest : List Queued) (idle : w.worker l = .idle)
      (queued : w.shared.queue l = .command command :: rest)
      (shared : w'.shared = { w.shared with queue := Function.update w.shared.queue l rest })
      (worker : w'.worker = Function.update w.worker l (.received command)) (carries : carrying w' = carrying w) :
      IoChange w w' (some (.receives l command))
  | runs (l : Lifetime) (command : IoCommand) (here : w.worker l = .validated command)
      (current : command.epoch = w.shared.epoch l)
      (shared : w'.shared = { w.shared with starts := (l,command.op) :: w.shared.starts })
      (worker : w'.worker = Function.update w.worker l (.running command)) (carries : carrying w' = carrying w) :
      IoChange w w' (some (.runs l command))
  | rejects (l : Lifetime) (command : IoCommand)
      (here : w.worker l = .received command ∨ w.worker l = .validated command)
      (shared : w'.shared = w.shared.answer command.reply false)
      (worker : w'.worker = Function.update w.worker l .idle) (carries : carrying w' = carrying w) :
      IoChange w w' (some (.answers l command .rejected))
  | finishes (l : Lifetime) (command : IoCommand) (here : w.worker l = .running command)
      (shared : w'.shared = w.shared.answer command.reply true)
      (worker : w'.worker = Function.update w.worker l .idle) (carries : carrying w' = carrying w) :
      IoChange w w' (some (.answers l command .result))
  | stops (l : Lifetime) (rest : List Queued) (idle : w.worker l = .idle)
      (queued : w.shared.queue l = .shutdown :: rest)
      (shared : w'.shared = { (commandsOf rest).foldl (fun sh command => sh.answer command.reply false) w.shared with
        queue := Function.update w.shared.queue l []
        workerStopped := Function.update w.shared.workerStopped l true })
      (worker : w'.worker = Function.update w.worker l .stopped) (carries : carrying w' = carrying w) :
      IoChange w w' (some (.stops l (commandsOf rest)))

/-- Answering what was dropped is answering the commands one by one. -/
private theorem foldl_answers (rest : List Queued) (sh : Shared) :
    (rest.filterMap fun | .shutdown => none | .command command => some command.reply).foldl
      (fun sh reply => sh.answer reply false) sh =
    (commandsOf rest).foldl (fun sh command => sh.answer command.reply false) sh := by
  induction rest generalizing sh with
  | nil => rfl
  | cons first rest ih =>
    cases first with
    | shutdown => exact ih sh
    | command command => exact ih (sh.answer command.reply false)

/-- What the report operation of a client does. -/
private theorem nmStep_change {c : ClientId} {d : DeviceId} {op : ReportOp} {pc : NmPc} {pc' : ClientPc} {sh : Shared}
    (here : w.client c = .report d op pc) (taken : nmStep w.shared c d op pc = some (pc',sh)) :
    IoChange w (withClient w c pc' sh) (ofNm w.shared pc) := by
  have self : carrying (withClient w c pc' sh) (.client c) = clientCarries pc' := by simp [carrying,withClient]
  have others (thread : Thread) (other : thread ≠ .client c) :
      carrying (withClient w c pc' sh) thread = carrying w thread := by
    cases thread with
    | client c' =>
      have apart : c' ≠ c := by rintro rfl; exact other rfl
      simp [carrying,withClient,apart]
    | transport t => rfl
  have quiet (same : sh = w.shared) (nothing : clientCarries pc' = none) : IoChange w (withClient w c pc' sh) none := by
    refine .silent (same ▸ .refl _) rfl ?_
    intro thread x carries
    by_cases mine : thread = .client c
    · subst mine
      rw [self,nothing] at carries; cases carries
    · rwa [others thread mine] at carries
  cases pc with
  | allowed =>
    simp only [nmStep] at taken
    split at taken <;> cases taken <;> exact quiet rfl rfl
  | haveHot hot => cases taken; exact quiet rfl rfl
  | haveBuf hot n =>
    cases taken
    exact .captures (.client c) hot.ioTx hot.epoch _ (by simp [aiming,here,clientAims,nmAims]) rfl rfl rfl rfl self others
  | haveCommand queue command =>
    simp only [nmStep] at taken
    split at taken
    next stopped =>
      cases taken
      rw [ofNm,if_pos stopped]
      exact quiet rfl rfl
    next running =>
      obtain ⟨sh₁,pushed,result⟩ := Option.map_eq_some_iff.mp taken
      cases result
      rw [ofNm,if_neg running]
      exact .enqueues (.client c) queue command (by simp [carrying,here,clientCarries,nmCarries]) pushed rfl self others
  | awaiting reply =>
    obtain ⟨_,same⟩ := Option.ite_none_right_eq_some.mp taken
    cases same
    exact quiet rfl rfl

/-- What the frame worker of a transport does. -/
private theorem frameStep_change {t : Nat} {link : Link} {pc pc' : FramePc} {sh : Shared} {next : TransportPc}
    (carried : transportCarries (w.transport t) = frameCarries pc) (aimed : transportAims (w.transport t) = frameAims pc)
    (carries : transportCarries next = frameCarries pc') (taken : frameStep w.shared t link pc = some (pc',sh)) :
    IoChange w { w with shared := sh, transport := Function.update w.transport t next } (ofFrame w.shared pc) := by
  have self : carrying { w with shared := sh, transport := Function.update w.transport t next } (.transport t) =
      frameCarries pc' := by simp [carrying,carries]
  have others (thread : Thread) (other : thread ≠ .transport t) :
      carrying { w with shared := sh, transport := Function.update w.transport t next } thread = carrying w thread := by
    cases thread with
    | client c => rfl
    | transport t' =>
      have apart : t' ≠ t := by rintro rfl; exact other rfl
      simp [carrying,apart]
  have quiet (same : sh = w.shared) (nothing : frameCarries pc' = none) :
      IoChange w { w with shared := sh, transport := Function.update w.transport t next } none := by
    refine .silent (same ▸ .refl _) rfl ?_
    intro thread x holds
    by_cases mine : thread = .transport t
    · subst mine
      rw [self,nothing] at holds; cases holds
    · rwa [others thread mine] at holds
  cases pc with
  | idle => cases taken
  | received op =>
    cases taken
    refine quiet rfl ?_
    split <;> rfl
  | valid op =>
    simp only [frameStep] at taken
    split at taken <;> cases taken <;> exact quiet rfl rfl
  | prechecked op =>
    cases taken
    refine quiet rfl ?_
    split <;> rfl
  | context op =>
    simp only [frameStep] at taken
    split at taken
    · cases taken; exact quiet rfl rfl
    · split at taken <;> cases taken <;> exact quiet rfl rfl
  | haveEntry op queue cell n =>
    cases taken
    exact .captures (.transport t) queue cell _ aimed rfl rfl rfl rfl self others
  | haveCommand queue command =>
    simp only [frameStep] at taken
    split at taken
    next stopped =>
      cases taken
      rw [ofFrame,if_pos stopped]
      exact quiet rfl rfl
    next running =>
      obtain ⟨sh₁,pushed,result⟩ := Option.map_eq_some_iff.mp taken
      cases result
      rw [ofFrame,if_neg running]
      exact .enqueues (.transport t) queue command carried pushed rfl self others
  | awaiting reply =>
    obtain ⟨_,same⟩ := Option.ite_none_right_eq_some.mp taken
    cases same
    exact quiet rfl rfl

private theorem workerStep_change {l : Lifetime} {pc' : WorkerPc} {sh : Shared}
    (taken : workerStep w.shared l (w.worker l) = some (pc',sh)) :
    IoChange w { w with shared := sh, worker := Function.update w.worker l pc' } (ofWorker w.shared l (w.worker l)) := by
  generalize here : w.worker l = pc at taken
  cases pc with
  | idle =>
    simp only [workerStep] at taken
    split at taken
    · cases taken
    next rest queued =>
      cases taken
      simp only [ofWorker,queued]
      exact .stops l rest here queued (foldl_answers rest w.shared ▸ rfl) rfl rfl
    next command rest queued =>
      cases taken
      simp only [ofWorker,queued]
      exact .receives l command rest here queued rfl rfl rfl
  | received command =>
    simp only [workerStep] at taken
    split at taken
    next set =>
      cases taken
      rw [ofWorker,if_pos set]
      exact .validates l command here set rfl rfl rfl
    next cleared =>
      cases taken
      rw [ofWorker,if_neg cleared]
      exact .rejects l command (Or.inl here) rfl rfl rfl
  | validated command =>
    simp only [workerStep] at taken
    split at taken
    next current =>
      cases taken
      rw [ofWorker,if_pos current]
      exact .runs l command here current rfl rfl rfl
    next advanced =>
      cases taken
      rw [ofWorker,if_neg advanced]
      exact .rejects l command (Or.inr here) rfl rfl rfl
  | running command =>
    cases taken
    exact .finishes l command here rfl rfl rfl
  | stopped => cases taken

/-- What every step does to commands, and the event that it is. -/
theorem step_ioChange {a : Action} (taken : step daemon w a = some w') : IoChange w w' (ioEvent w a) := by
  cases a with
  | client c action =>
    obtain ⟨⟨pc',sh⟩,ran,rfl⟩ := Option.map_eq_some_iff.mp taken
    rcases clientStep_silent ran with ⟨d,op,nm,here,rfl,sent⟩ | ⟨shared,⟨nothing,_⟩,before⟩
    · simp only [ioEvent,here]
      exact nmStep_change here sent
    · have noEvent : ioEvent w (.client c action) = none := by
        cases action with
        | advance =>
          simp only [ioEvent]
          split
          next d op pc here =>
            rw [here] at before
            cases pc <;> first | rfl | cases before
            rw [here] at ran
            cases ran
            cases nothing
          · rfl
        | _ => rfl
      rw [noEvent]
      refine .silent shared rfl ?_
      intro thread x carries
      cases thread with
      | client c' =>
        by_cases mine : c' = c
        · subst mine
          simp only [carrying,Function.update_self] at carries
          rw [nothing] at carries; cases carries
        · simpa [carrying,mine] using carries
      | transport t => exact carries
  | relay c action =>
    obtain ⟨⟨pc,sh⟩,ran,rfl⟩ := Option.map_eq_some_iff.mp taken
    exact .silent (relayStep_silent ran) rfl fun _ _ => id
  | transport t action =>
    obtain ⟨⟨pc',sh⟩,ran,rfl⟩ := Option.map_eq_some_iff.mp taken
    have moved (shared : Silent w.shared sh) (carries : transportCarries pc' = none ∨
        transportCarries pc' = transportCarries (w.transport t)) :
        IoChange w { w with shared := sh, transport := Function.update w.transport t pc' } none := by
      refine .silent shared rfl ?_
      intro thread x holds
      cases thread with
      | client c => exact holds
      | transport t' =>
        by_cases mine : t' = t
        · subst mine
          simp only [carrying,Function.update_self] at holds ⊢
          rcases carries with nothing | same
          · rw [nothing] at holds; cases holds
          · rwa [same] at holds
        · simpa [carrying,mine] using holds
    generalize here : w.transport t = pc at ran
    unfold transportStep at ran
    split at ran
    · obtain ⟨found,_,result⟩ := Option.map_eq_some_iff.mp ran
      cases result
      exact moved (.refl _) (Or.inl rfl)
    · split at ran
      · cases ran; exact moved (.refl _) (Or.inl rfl)
      · cases ran; exact moved (silent_mgr _ _) (Or.inl rfl)
    · cases ran
      refine moved (.refl _) (Or.inl ?_)
      split <;> rfl
    · obtain ⟨⟨frame,sh₁⟩,framed,result⟩ := Option.map_eq_some_iff.mp ran
      cases result
      simp only [ioEvent,here]
      exact frameStep_change (by rw [here]; rfl) (by rw [here]; rfl) rfl framed
    · cases ran
      exact moved (silent_mgr _ _) (Or.inr (by rw [here]; rfl))
    · obtain ⟨⟨frame,sh₁⟩,framed,result⟩ := Option.map_eq_some_iff.mp ran
      cases result
      simp only [ioEvent,here]
      exact frameStep_change (by rw [here]; rfl) (by rw [here]; rfl) rfl framed
    · cases ran
  | reader l action =>
    obtain ⟨config,configured,stepped⟩ := Option.bind_eq_some_iff.mp taken
    obtain ⟨⟨pc,sh⟩,ran,rfl⟩ := Option.map_eq_some_iff.mp stepped
    exact .silent (readerStep_silent ran) rfl fun _ _ => id
  | worker l =>
    simp only [step] at taken
    split at taken
    · obtain ⟨⟨pc,sh⟩,ran,rfl⟩ := Option.map_eq_some_iff.mp taken
      exact workerStep_change ran
    · cases taken
  | hotplug connected info =>
    cases taken
    exact .silent (.of_eq rfl rfl rfl rfl rfl) rfl fun _ _ => id

/-- The queue and the epoch that a thread has found are of one entry, which was built. -/
theorem step_aims {a : Action} (ok : WorldOk daemon w) (taken : step daemon w a = some w')
    (aimed : ∀ thread queue cell, aiming w thread = some (queue,cell) → queue = cell ∧ (w.shared.entryOf queue).isSome = true) :
    ∀ thread queue cell, aiming w' thread = some (queue,cell) → queue = cell ∧ (w.shared.entryOf queue).isSome = true := by
  have client {c : ClientId} {pc : ClientPc} {sh : Shared}
      (here : ∀ queue cell, clientAims pc = some (queue,cell) → queue = cell ∧ (w.shared.entryOf queue).isSome = true) :
      ∀ thread queue cell, aiming (withClient w c pc sh) thread = some (queue,cell) → queue = cell ∧ (w.shared.entryOf queue).isSome = true := by
    intro thread queue cell aims
    cases thread with
    | client c' =>
      by_cases mine : c' = c
      · subst mine
        exact here queue cell (by simpa [aiming,withClient] using aims)
      · exact aimed (.client c') queue cell (by simpa [aiming,withClient,mine] using aims)
    | transport t => exact aimed (.transport t) queue cell aims
  have transport {t : Nat} {pc : TransportPc} {sh : Shared}
      (here : ∀ queue cell, transportAims pc = some (queue,cell) → queue = cell ∧ (w.shared.entryOf queue).isSome = true) : ∀ thread queue cell,
      aiming { w with shared := sh, transport := Function.update w.transport t pc } thread = some (queue,cell) →
      queue = cell ∧ (w.shared.entryOf queue).isSome = true := by
    intro thread queue cell aims
    cases thread with
    | client c => exact aimed (.client c) queue cell aims
    | transport t' =>
      by_cases mine : t' = t
      · subst mine
        exact here queue cell (by simpa [aiming] using aims)
      · exact aimed (.transport t') queue cell (by simpa [aiming,mine] using aims)
  have frame {t : Nat} {link : Link} {pc pc' : FramePc} {sh : Shared} (before : ∀ queue cell,
      frameAims pc = some (queue,cell) → queue = cell ∧ (w.shared.entryOf queue).isSome = true) (framed : frameStep w.shared t link pc = some (pc',sh)) :
      ∀ queue cell, frameAims pc' = some (queue,cell) → queue = cell ∧ (w.shared.entryOf queue).isSome = true := by
    intro queue cell aims
    unfold frameStep at framed
    split at framed
    · cases framed
    · cases framed; split at aims <;> cases aims
    · split at framed <;> cases framed <;> cases aims
    · cases framed; split at aims <;> cases aims
    · split at framed
      · cases framed; cases aims
      next e present =>
        split at framed
        · cases framed; cases aims
        next running =>
          cases framed
          cases aims
          have lifetime := ok.coherent.registry.running _ e present
          have same := Option.some.inj (running.symm.trans lifetime)
          exact ⟨same,by rw [same,show w.shared.entryOf e.lifetime = some e from ok.published _ e present]; rfl⟩
    · cases framed; cases aims
    · split at framed
      · cases framed; cases aims
      · obtain ⟨sh₁,_,result⟩ := Option.map_eq_some_iff.mp framed
        cases result; cases aims
    · obtain ⟨_,same⟩ := Option.ite_none_right_eq_some.mp framed
      cases same; cases aims
  cases a with
  | client c action =>
    obtain ⟨⟨pc',sh⟩,ran,rfl⟩ := Option.map_eq_some_iff.mp taken
    refine client ?_
    intro queue cell aims
    rcases clientStep_silent ran with ⟨d,op,nm,here,_,sent⟩ | ⟨_,⟨_,nothing⟩,_⟩
    · have before := aimed (.client c)
      simp only [aiming,here,clientAims] at before
      unfold nmStep at sent
      split at sent
      · split at sent
        · cases sent; cases aims
        next hot stored =>
          cases sent
          cases aims
          obtain ⟨e,present,running,lifetime,_⟩ := binding_entry ok.coherent stored
          have own := ok.coherent.registry.running _ e present
          have same := Option.some.inj (running.symm.trans own)
          exact ⟨same.trans lifetime.symm,by rw [same,ok.published _ e present]; rfl⟩
      · cases sent; exact before queue cell aims
      · cases sent; cases aims
      · split at sent
        · cases sent; cases aims
        · obtain ⟨sh₁,_,result⟩ := Option.map_eq_some_iff.mp sent
          cases result; cases aims
      · obtain ⟨_,same⟩ := Option.ite_none_right_eq_some.mp sent
        cases same; cases aims
    · rw [nothing] at aims; cases aims
  | transport t action =>
    obtain ⟨⟨pc',sh⟩,ran,rfl⟩ := Option.map_eq_some_iff.mp taken
    refine transport ?_
    intro queue cell aims
    have before := aimed (.transport t)
    generalize here : w.transport t = pc at ran
    simp only [aiming,here] at before
    unfold transportStep at ran
    split at ran
    · obtain ⟨found,_,result⟩ := Option.map_eq_some_iff.mp ran
      cases result; cases aims
    · split at ran <;> cases ran <;> cases aims
    · cases ran
      simp only [transportAims] at aims
      split at aims <;> cases aims
    · obtain ⟨⟨next,sh₁⟩,framed,result⟩ := Option.map_eq_some_iff.mp ran
      cases result
      exact frame before framed queue cell aims
    · cases ran; exact before queue cell aims
    · obtain ⟨⟨next,sh₁⟩,framed,result⟩ := Option.map_eq_some_iff.mp ran
      cases result
      exact frame before framed queue cell aims
    · cases ran
  | relay c action =>
    obtain ⟨⟨pc,sh⟩,ran,rfl⟩ := Option.map_eq_some_iff.mp taken
    exact aimed
  | reader l action =>
    obtain ⟨config,configured,stepped⟩ := Option.bind_eq_some_iff.mp taken
    obtain ⟨⟨pc,sh⟩,ran,rfl⟩ := Option.map_eq_some_iff.mp stepped
    exact aimed
  | worker l =>
    simp only [step] at taken
    split at taken
    · obtain ⟨⟨pc,sh⟩,ran,rfl⟩ := Option.map_eq_some_iff.mp taken
      exact aimed
    · cases taken
  | hotplug connected info => cases taken; exact aimed

end

end FFWebHid.IoEvents
