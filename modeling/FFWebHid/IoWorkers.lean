import FFWebHid.Runs
import FFWebHid.Types
import FFWebHid.Capabilities
import FFWebHid.Mailboxes
import FFWebHid.Registry
import FFWebHid.Lifecycle
import FFWebHid.Coherence
import FFWebHid.Sections
import FFWebHid.Threads
import FFWebHid.Safety
import FFWebHid.IoAuthority
import FFWebHid.IoEvents

/-!
The I/O workers of a running daemon. The queue and the worker of each lifetime are
a mailbox, whatever the other threads do; a command is bound to one lifetime when
its epoch is read; and one that was revoked before the worker checked it is never
run.
-/
namespace FFWebHid.IoWorkers
open FFWebHid.Runs FFWebHid.Types FFWebHid.Mailboxes FFWebHid.Registry FFWebHid.Coherence FFWebHid.Threads
open FFWebHid.Safety FFWebHid.IoAuthority FFWebHid.IoEvents

/-- What happened to commands so far: the epoch that each was bound to, and what was
    enqueued, run and answered in each lifetime. -/
structure Ledger where
  captured : Nat → Option Lifetime := fun _ => none
  enqueued : Lifetime → List IoCommand := fun _ => []
  ran : Lifetime → List IoCommand := fun _ => []
  answers : Lifetime → List (IoCommand × Answer) := fun _ => []

def Ledger.record (g : Ledger) : IoEvent → Ledger
  | .captures reply cell => { g with captured := Function.update g.captured reply (some cell) }
  | .enqueues l command => { g with enqueued := Function.update g.enqueued l (g.enqueued l ++ [command]) }
  | .receives _ _ => g
  | .runs l command => { g with ran := Function.update g.ran l (g.ran l ++ [command]) }
  | .answers l command how => { g with answers := Function.update g.answers l ((command,how) :: g.answers l) }
  | .stops l dropped =>
    { g with answers := Function.update g.answers l (dropped.map (fun command => (command,.stopped)) ++ g.answers l) }

structure Observed where
  world : World := {}
  ledger : Ledger := {}

/-- A step of the daemon, with its event recorded. -/
def observe (daemon : Daemon) (o : Observed) (a : Action) : Option Observed :=
  (step daemon o.world a).map fun w => ⟨w,(ioEvent o.world a).elim o.ledger o.ledger.record⟩

def workerOf : WorkerPc → Worker IoCommand
  | .idle => .idle
  | .received command => .checking command
  | .validated command => .checking command
  | .running command => .running command
  | .stopped => .stopped

/-- The mailbox of a lifetime. -/
def lane (w : World) (g : Ledger) (l : Lifetime) : Mailbox IoCommand where
  enqueued := g.enqueued l
  queue := commandsOf (w.shared.queue l)
  worker := workerOf (w.worker l)
  ran := g.ran l
  answers := g.answers l

def Observed.lane (o : Observed) (l : Lifetime) : Mailbox IoCommand := IoWorkers.lane o.world o.ledger l

/-! ### The invariant -/

/-- Commands that are under way have reply channels of their own, and each lifetime
    is a mailbox. -/
structure IoLedger (w : World) (g : Ledger) : Prop where
  aimed : ∀ thread queue cell, aiming w thread = some (queue,cell) →
    queue = cell ∧ (w.shared.entryOf queue).isSome = true
  bound : ∀ thread queue command, carrying w thread = some (queue,command) → (w.shared.entryOf queue).isSome = true
  built : ∀ l command, command ∈ g.enqueued l → (w.shared.entryOf l).isSome = true
  carried : ∀ thread queue command, carrying w thread = some (queue,command) →
    command.reply < w.shared.nextReply ∧ g.captured command.reply = some queue ∧
      ∀ l other, other ∈ g.enqueued l → other.reply ≠ command.reply
  apart : ∀ thread other queue queue' command command', carrying w thread = some (queue,command) →
    carrying w other = some (queue',command') → command.reply = command'.reply → thread = other
  logged : ∀ l command, command ∈ g.enqueued l →
    command.reply < w.shared.nextReply ∧ g.captured command.reply = some l
  single : ∀ l command command', command ∈ g.enqueued l → command' ∈ g.enqueued l →
    command.reply = command'.reply → command = command'
  stopped : ∀ l, w.shared.workerStopped l = true ↔ w.worker l = .stopped
  mailbox : ∀ l, ∃ taken, Ok (lane w g l) taken
  replies : ∀ reply ran, w.shared.replies reply = some ran ↔
    ∃ l command how, (command,how) ∈ g.answers l ∧ command.reply = reply ∧ ran = (how == .result)

/-- Answering commands writes their replies and nothing else. -/
theorem foldl_answer (commands : List IoCommand) (sh : Shared) :
    commands.foldl (fun sh command => sh.answer command.reply false) sh =
      { sh with replies := fun reply => if reply ∈ commands.map (·.reply) then some false else sh.replies reply } := by
  induction commands generalizing sh with
  | nil => simp
  | cons first rest ih =>
    rw [List.foldl_cons,ih]
    simp only [Shared.answer,List.map_cons,List.mem_cons]
    congr 1
    funext reply
    by_cases here : reply ∈ rest.map (·.reply)
    · simp [here]
    · by_cases same : reply = first.reply
      · subst same; simp [here]
      · simp [here,same]

section
variable {daemon : Daemon} {w w' : World} {g : Ledger}

/-- A step moves one mailbox at most, and as a mailbox moves. -/
theorem lane_step {event : Option IoEvent} (inv : IoLedger w g) (change : IoChange w w' event) (l : Lifetime) :
    lane w' (event.elim g g.record) l = lane w g l ∨ Step (lane w g l) (lane w' (event.elim g g.record) l) := by
  cases change with
  | silent shared worker _ =>
    refine Or.inl ?_
    simp only [lane,Option.elim_none,shared.queue l,worker]
  | validates l₀ command here set shared worker _ =>
    refine Or.inl ?_
    by_cases mine : l = l₀
    · subst mine
      simp [lane,shared,worker,here,workerOf]
    · simp [lane,shared,worker,mine]
  | captures thread queue cell command _ _ _ shared worker _ _ =>
    refine Or.inl ?_
    simp [lane,Ledger.record,shared,worker]
  | enqueues thread queue command carried pushed worker _ _ =>
    unfold Shared.push at pushed
    split at pushed
    · cases pushed
    next room =>
      have shared := Option.some.inj pushed
      by_cases mine : l = queue
      · subst mine
        refine Or.inr ?_
        have new : command ∉ (lane w g l).enqueued := fun member => (inv.carried thread l command carried).2.2 l command member rfl
        have live : (lane w g l).worker ≠ .stopped := by
          intro stopped
          have done : w.worker l = .stopped := by
            cases state : w.worker l <;> simp [lane,state,workerOf] at stopped ⊢
          rw [(inv.stopped l).mpr done] at room
          simp at room
        have result : lane w' (g.record (.enqueues l command)) l =
            { lane w g l with
              enqueued := (lane w g l).enqueued ++ [command]
              queue := (lane w g l).queue ++ [command] } := by
          simp [lane,Ledger.record,← shared,worker,commandsOf]
        exact result ▸ .enqueue command new live
      · refine Or.inl ?_
        simp [lane,Ledger.record,← shared,worker,mine]
  | receives l₀ command rest idle queued shared worker _ =>
    by_cases mine : l = l₀
    · subst mine
      refine Or.inr ?_
      have result : lane w' (g.record (.receives l command)) l =
          { lane w g l with queue := commandsOf rest, worker := .checking command } := by
        simp [lane,Ledger.record,shared,worker,workerOf]
      exact result ▸ .receive command (commandsOf rest) (by simp [lane,idle,workerOf]) (by simp [lane,queued,commandsOf])
    · refine Or.inl ?_
      simp [lane,Ledger.record,shared,worker,mine]
  | runs l₀ command here current shared worker _ =>
    by_cases mine : l = l₀
    · subst mine
      refine Or.inr ?_
      have result : lane w' (g.record (.runs l command)) l =
          { lane w g l with worker := .running command, ran := (lane w g l).ran ++ [command] } := by
        simp [lane,Ledger.record,shared,worker,workerOf]
      exact result ▸ .start command (by simp [lane,here,workerOf])
    · refine Or.inl ?_
      simp [lane,Ledger.record,shared,worker,mine]
  | rejects l₀ command here shared worker _ =>
    by_cases mine : l = l₀
    · subst mine
      refine Or.inr ?_
      have result : lane w' (g.record (.answers l command .rejected)) l =
          { lane w g l with worker := .idle, answers := (command,.rejected) :: (lane w g l).answers } := by
        simp [lane,Ledger.record,shared,Shared.answer,worker,workerOf]
      refine result ▸ .reject command ?_
      rcases here with here | here <;> simp [lane,here,workerOf]
    · refine Or.inl ?_
      simp [lane,Ledger.record,shared,Shared.answer,worker,mine]
  | finishes l₀ command here shared worker _ =>
    by_cases mine : l = l₀
    · subst mine
      refine Or.inr ?_
      have result : lane w' (g.record (.answers l command .result)) l =
          { lane w g l with worker := .idle, answers := (command,.result) :: (lane w g l).answers } := by
        simp [lane,Ledger.record,shared,Shared.answer,worker,workerOf]
      exact result ▸ .finish command (by simp [lane,here,workerOf])
    · refine Or.inl ?_
      simp [lane,Ledger.record,shared,Shared.answer,worker,mine]
  | stops l₀ rest idle queued shared worker _ =>
    by_cases mine : l = l₀
    · subst mine
      refine Or.inr ?_
      have left : (lane w g l).queue = commandsOf rest := by simp [lane,queued,commandsOf]
      have result : lane w' (g.record (.stops l (commandsOf rest))) l =
          { lane w g l with
            queue := []
            worker := .stopped
            answers := (lane w g l).queue.map (fun command => (command,.stopped)) ++ (lane w g l).answers } := by
        rw [left]
        simp [lane,Ledger.record,shared,worker,workerOf,commandsOf]
      exact result ▸ .stop (by simp [lane,idle,workerOf])
    · refine Or.inl ?_
      simp [lane,Ledger.record,shared,worker,mine]

/-- What a step does to the senders: reply channels are counted upwards, and the logs
    of what was enqueued grow by the command that a thread carried. -/
private theorem senders_step {event : Option IoEvent} (inv : IoLedger w g) (change : IoChange w w' event) :
    (∀ thread queue command, carrying w' thread = some (queue,command) →
      command.reply < w'.shared.nextReply ∧ (event.elim g g.record).captured command.reply = some queue ∧
        ∀ l other, other ∈ (event.elim g g.record).enqueued l → other.reply ≠ command.reply) ∧
    (∀ thread other queue queue' command command', carrying w' thread = some (queue,command) →
      carrying w' other = some (queue',command') → command.reply = command'.reply → thread = other) ∧
    (∀ l command, command ∈ (event.elim g g.record).enqueued l →
      command.reply < w'.shared.nextReply ∧ (event.elim g g.record).captured command.reply = some l) ∧
    ∀ l command command', command ∈ (event.elim g g.record).enqueued l →
      command' ∈ (event.elim g g.record).enqueued l → command.reply = command'.reply → command = command' := by
  have kept (nextReply : w'.shared.nextReply = w.shared.nextReply)
      (carries : ∀ thread x, carrying w' thread = some x → carrying w thread = some x) (next : Ledger)
      (captured : next.captured = g.captured) (enqueued : next.enqueued = g.enqueued) :
      (∀ thread queue command, carrying w' thread = some (queue,command) →
        command.reply < w'.shared.nextReply ∧ next.captured command.reply = some queue ∧
          ∀ l other, other ∈ next.enqueued l → other.reply ≠ command.reply) ∧
      (∀ thread other queue queue' command command', carrying w' thread = some (queue,command) →
        carrying w' other = some (queue',command') → command.reply = command'.reply → thread = other) ∧
      (∀ l command, command ∈ next.enqueued l →
        command.reply < w'.shared.nextReply ∧ next.captured command.reply = some l) ∧
      ∀ l command command', command ∈ next.enqueued l → command' ∈ next.enqueued l →
        command.reply = command'.reply → command = command' := by
    rw [nextReply,captured,enqueued]
    exact ⟨fun thread queue command holds => inv.carried thread queue command (carries thread _ holds),
      fun thread other queue queue' command command' holds holds' =>
        inv.apart thread other queue queue' command command' (carries thread _ holds) (carries other _ holds'),
      inv.logged,inv.single⟩
  cases change with
  | silent shared _ carries => exact kept shared.nextReply carries g rfl rfl
  | validates l command _ _ shared _ carries =>
    exact kept (by rw [shared]) (fun thread x holds => carries ▸ holds) g rfl rfl
  | receives l command rest _ _ shared _ carries =>
    exact kept (by rw [shared]) (fun thread x holds => carries ▸ holds) _ rfl rfl
  | runs l command _ _ shared _ carries =>
    exact kept (by rw [shared]) (fun thread x holds => carries ▸ holds) _ rfl rfl
  | rejects l command _ shared _ carries =>
    exact kept (by rw [shared]; rfl) (fun thread x holds => carries ▸ holds) _ rfl rfl
  | finishes l command _ shared _ carries =>
    exact kept (by rw [shared]; rfl) (fun thread x holds => carries ▸ holds) _ rfl rfl
  | stops l rest _ _ shared _ carries =>
    exact kept (by rw [shared,foldl_answer]) (fun thread x holds => carries ▸ holds) _ rfl rfl
  | captures thread queue cell command aims reply _ shared _ here others =>
    have next : w'.shared.nextReply = w.shared.nextReply + 1 := by rw [shared]
    have old {r : Nat} (known : r < w.shared.nextReply) :
        Function.update g.captured w.shared.nextReply (some cell) r = g.captured r :=
      Function.update_of_ne (Nat.ne_of_lt known) _ _
    refine ⟨?_,?_,?_,inv.single⟩
    · intro thread' queue' command' carries
      by_cases mine : thread' = thread
      · subst mine
        rw [here] at carries
        cases carries
        refine ⟨by omega,?_,?_⟩
        · simp [Ledger.record,reply,(inv.aimed thread' queue cell aims).1]
        · intro l other member
          have known := (inv.logged l other member).1
          omega
      · rw [others thread' mine] at carries
        obtain ⟨known,captured,fresh⟩ := inv.carried thread' queue' command' carries
        exact ⟨by omega,(old known).trans captured,fresh⟩
    · intro thread' other queue' queue'' command' command'' carries carries' same
      by_cases mine : thread' = thread
      · by_cases mine' : other = thread
        · rw [mine,mine']
        · subst mine
          rw [here] at carries
          rw [others other mine'] at carries'
          cases carries
          have known := (inv.carried other queue'' command'' carries').1
          omega
      · by_cases mine' : other = thread
        · subst mine'
          rw [here] at carries'
          rw [others thread' mine] at carries
          cases carries'
          have known := (inv.carried thread' queue' command' carries).1
          omega
        · rw [others thread' mine] at carries
          rw [others other mine'] at carries'
          exact inv.apart thread' other queue' queue'' command' command'' carries carries' same
    · intro l command' member
      obtain ⟨known,captured⟩ := inv.logged l command' member
      exact ⟨by omega,(old known).trans captured⟩
  | enqueues thread queue command carried pushed _ gone others =>
    have next : w'.shared.nextReply = w.shared.nextReply := by
      unfold Shared.push at pushed
      split at pushed
      · cases pushed
      · rw [← Option.some.inj pushed]
    obtain ⟨known,captured,fresh⟩ := inv.carried thread queue command carried
    have still (thread' : Thread) (x : Lifetime × IoCommand) (carries : carrying w' thread' = some x) :
        thread' ≠ thread ∧ carrying w thread' = some x := by
      have other : thread' ≠ thread := by
        rintro rfl
        rw [gone] at carries; cases carries
      exact ⟨other,others thread' other ▸ carries⟩
    have logged {l : Lifetime} {c : IoCommand}
        (member : c ∈ Function.update g.enqueued queue (g.enqueued queue ++ [command]) l) :
        c ∈ g.enqueued l ∨ (l = queue ∧ c = command) := by
      by_cases here : l = queue
      · subst here
        simpa using member
      · rw [Function.update_of_ne here] at member
        exact Or.inl member
    refine ⟨?_,?_,?_,?_⟩
    · intro thread' queue' command' carries
      obtain ⟨other,before⟩ := still thread' _ carries
      obtain ⟨known',captured',fresh'⟩ := inv.carried thread' queue' command' before
      refine ⟨next ▸ known',captured',?_⟩
      intro l c member
      rcases logged member with old | ⟨_,rfl⟩
      · exact fresh' l c old
      · exact fun same => other (inv.apart thread' thread queue' queue command' c before carried same.symm)
    · intro thread' other queue' queue'' command' command'' carries carries' same
      exact inv.apart thread' other queue' queue'' command' command'' (still thread' _ carries).2
        (still other _ carries').2 same
    · intro l c member
      rw [next]
      rcases logged member with old | ⟨rfl,rfl⟩
      · exact inv.logged l c old
      · exact ⟨known,captured⟩
    · intro l c c' member member' same
      rcases logged member with old | ⟨_,rfl⟩ <;> rcases logged member' with old' | ⟨_,rfl⟩
      · exact inv.single l c c' old old' same
      · exact absurd same (fresh l c old)
      · exact absurd same.symm (fresh l c' old')
      · rfl

private theorem stopped_step {event : Option IoEvent} (inv : IoLedger w g) (change : IoChange w w' event) (l : Lifetime) :
    w'.shared.workerStopped l = true ↔ w'.worker l = .stopped := by
  have live {l₀ : Lifetime} {pc pc' : WorkerPc} (here : w.worker l₀ = pc)
      (worker : w'.worker = Function.update w.worker l₀ pc') (moving : pc ≠ .stopped) (moved : pc' ≠ .stopped)
      (same : w'.shared.workerStopped = w.shared.workerStopped) :
      w'.shared.workerStopped l = true ↔ w'.worker l = .stopped := by
    rw [same,worker]
    by_cases mine : l = l₀
    · subst mine
      rw [Function.update_self,inv.stopped l,here]
      exact iff_of_false moving moved
    · rw [Function.update_of_ne mine]
      exact inv.stopped l
  cases change with
  | silent shared worker _ => rw [shared.stopped,worker]; exact inv.stopped l
  | validates l₀ command here _ shared worker _ => exact live here worker nofun nofun (by rw [shared])
  | captures _ _ _ _ _ _ _ shared worker _ _ => rw [shared,worker]; exact inv.stopped l
  | enqueues _ queue command _ pushed worker _ _ =>
    unfold Shared.push at pushed
    split at pushed
    · cases pushed
    · rw [← Option.some.inj pushed,worker]; exact inv.stopped l
  | receives l₀ command rest idle _ shared worker _ => exact live idle worker nofun nofun (by rw [shared])
  | runs l₀ command here _ shared worker _ => exact live here worker nofun nofun (by rw [shared])
  | rejects l₀ command here shared worker _ =>
    rcases here with here | here
    · exact live here worker nofun nofun (by rw [shared]; rfl)
    · exact live here worker nofun nofun (by rw [shared]; rfl)
  | finishes l₀ command here shared worker _ => exact live here worker nofun nofun (by rw [shared]; rfl)
  | stops l₀ rest idle _ shared worker _ =>
    rw [shared,worker]
    by_cases mine : l = l₀
    · subst mine; simp
    · simp [mine]
      exact inv.stopped l

/-- The reply channels hold what was answered. -/
private theorem replies_step {event : Option IoEvent} (inv : IoLedger w g) (change : IoChange w w' event) (reply : Nat)
    (ran : Bool) : w'.shared.replies reply = some ran ↔
      ∃ l command how, (command,how) ∈ (event.elim g g.record).answers l ∧ command.reply = reply ∧
        ran = (how == .result) := by
  have unanswered {l : Lifetime} {command : IoCommand} (enqueued : command ∈ g.enqueued l)
      (pending : (lane w g l).Pending command) {l' : Lifetime} {other : IoCommand} {how : Answer}
      (listed : (other,how) ∈ g.answers l') : other.reply ≠ command.reply := by
    intro same
    obtain ⟨taken,ok⟩ := inv.mailbox l'
    have known : other ∈ (lane w g l').answered := List.mem_map.mpr ⟨(other,how),listed,rfl⟩
    obtain ⟨before,free⟩ := (ok.answered other).mp known
    have member : other ∈ g.enqueued l' := by
      rw [show g.enqueued l' = (lane w g l').enqueued from rfl,ok.split]
      exact List.mem_append_left _ before
    have lifetime : l' = l := by
      have first := (inv.logged l' other member).2
      rw [same,(inv.logged l command enqueued).2] at first
      exact (Option.some.inj first).symm
    subst lifetime
    obtain rfl := inv.single l' other command member enqueued same
    have twice := (ok.answered_once member)
    rcases twice with ⟨_,never⟩ | ⟨settled,_⟩
    · exact absurd known (List.count_eq_zero.mp never)
    · exact settled pending
  have same (replies : w'.shared.replies = w.shared.replies) (next : Ledger) (answers : next.answers = g.answers) :
      w'.shared.replies reply = some ran ↔ ∃ l command how, (command,how) ∈ next.answers l ∧ command.reply = reply ∧
        ran = (how == .result) := by
    rw [replies,answers]; exact inv.replies reply ran
  have one {l : Lifetime} {command : IoCommand} {how : Answer} (enqueued : command ∈ g.enqueued l)
      (holds : (lane w g l).worker.held = some command)
      (shared : w'.shared = w.shared.answer command.reply (how == .result)) :
      w'.shared.replies reply = some ran ↔ ∃ l' c how', (c,how') ∈ (g.record (.answers l command how)).answers l' ∧
        c.reply = reply ∧ ran = (how' == .result) := by
    rw [shared]
    simp only [Shared.answer,Ledger.record]
    by_cases here : reply = command.reply
    · subst here
      rw [Function.update_self]
      constructor
      · intro answered
        cases answered
        exact ⟨l,command,how,by simp,rfl,rfl⟩
      · rintro ⟨l',c,how',member,equal,rfl⟩
        have old (listed : (c,how') ∈ g.answers l') : False := unanswered enqueued (Or.inr holds) listed equal
        by_cases mine : l' = l
        · subst mine
          rw [Function.update_self] at member
          rcases List.mem_cons.mp member with new | before
          · cases new; rfl
          · exact (old before).elim
        · rw [Function.update_of_ne mine] at member
          exact (old member).elim
    · rw [Function.update_of_ne here,inv.replies reply ran]
      constructor
      · rintro ⟨l',c,how',member,equal,value⟩
        refine ⟨l',c,how',?_,equal,value⟩
        by_cases mine : l' = l
        · subst mine
          rw [Function.update_self]; exact List.mem_cons_of_mem _ member
        · rwa [Function.update_of_ne mine]
      · rintro ⟨l',c,how',member,equal,value⟩
        refine ⟨l',c,how',?_,equal,value⟩
        by_cases mine : l' = l
        · subst mine
          rw [Function.update_self] at member
          rcases List.mem_cons.mp member with new | before
          · cases new; exact absurd equal.symm here
          · exact before
        · rwa [Function.update_of_ne mine] at member
  have held {l : Lifetime} {command : IoCommand} (holds : (lane w g l).worker.held = some command) :
      command ∈ g.enqueued l := by
    obtain ⟨taken,ok⟩ := inv.mailbox l
    rw [show g.enqueued l = (lane w g l).enqueued from rfl,ok.split]
    exact List.mem_append_left _ (ok.held holds)
  cases change with
  | silent shared _ _ => exact same shared.replies g rfl
  | validates _ _ _ _ shared _ _ => exact same (by rw [shared]) g rfl
  | captures _ _ _ _ _ _ _ shared _ _ _ => exact same (by rw [shared]) _ rfl
  | enqueues _ _ _ _ pushed _ _ _ =>
    refine same ?_ _ rfl
    unfold Shared.push at pushed
    split at pushed
    · cases pushed
    · rw [← Option.some.inj pushed]
  | receives _ _ _ _ _ shared _ _ => exact same (by rw [shared]) _ rfl
  | runs _ _ _ _ shared _ _ => exact same (by rw [shared]) _ rfl
  | rejects l command here shared _ _ =>
    have holds : (lane w g l).worker.held = some command := by
      rcases here with here | here <;> simp [lane,here,workerOf,Worker.held]
    exact one (held holds) holds shared
  | finishes l command here shared _ _ =>
    have holds : (lane w g l).worker.held = some command := by simp [lane,here,workerOf,Worker.held]
    exact one (held holds) holds shared
  | stops l rest idle queued shared _ _ =>
    have waiting {command : IoCommand} (member : command ∈ commandsOf rest) : command ∈ (lane w g l).queue := by
      simpa [lane,queued,commandsOf] using member
    have logged {command : IoCommand} (member : command ∈ commandsOf rest) : command ∈ g.enqueued l := by
      obtain ⟨taken,ok⟩ := inv.mailbox l
      rw [show g.enqueued l = (lane w g l).enqueued from rfl,ok.split]
      exact List.mem_append_right _ (waiting member)
    rw [shared,foldl_answer]
    simp only [Option.elim_some,Ledger.record]
    by_cases here : reply ∈ (commandsOf rest).map (·.reply)
    · rw [if_pos here]
      obtain ⟨command,member,rfl⟩ := List.mem_map.mp here
      constructor
      · intro answered
        cases answered
        refine ⟨l,command,.stopped,?_,rfl,rfl⟩
        rw [Function.update_self]
        exact List.mem_append_left _ (List.mem_map.mpr ⟨command,member,rfl⟩)
      · rintro ⟨l',c,how',listed,equal,rfl⟩
        have old (before : (c,how') ∈ g.answers l') : False :=
          unanswered (logged member) (Or.inl (waiting member)) before equal
        by_cases mine : l' = l
        · subst mine
          rw [Function.update_self] at listed
          rcases List.mem_append.mp listed with new | before
          · obtain ⟨_,_,pair⟩ := List.mem_map.mp new
            cases pair; rfl
          · exact (old before).elim
        · rw [Function.update_of_ne mine] at listed
          exact (old listed).elim
    · rw [if_neg here,inv.replies reply ran]
      constructor
      · rintro ⟨l',c,how',listed,equal,value⟩
        refine ⟨l',c,how',?_,equal,value⟩
        by_cases mine : l' = l
        · subst mine
          rw [Function.update_self]; exact List.mem_append_right _ listed
        · rwa [Function.update_of_ne mine]
      · rintro ⟨l',c,how',listed,equal,value⟩
        refine ⟨l',c,how',?_,equal,value⟩
        by_cases mine : l' = l
        · subst mine
          rw [Function.update_self] at listed
          rcases List.mem_append.mp listed with new | before
          · obtain ⟨_,member,pair⟩ := List.mem_map.mp new
            cases pair
            exact absurd (List.mem_map.mpr ⟨c,member,equal⟩) here
          · exact before
        · rwa [Function.update_of_ne mine] at listed

/-- Commands are bound to entries that were built. -/
private theorem bound_step {event : Option IoEvent} (inv : IoLedger w g) (change : IoChange w w' event)
    (entries : ∀ l, (w.shared.entryOf l).isSome = true → (w'.shared.entryOf l).isSome = true) :
    (∀ thread queue command, carrying w' thread = some (queue,command) → (w'.shared.entryOf queue).isSome = true) ∧
    ∀ l command, command ∈ (event.elim g g.record).enqueued l → (w'.shared.entryOf l).isSome = true := by
  have carried {thread : Thread} {queue : Lifetime} {command : IoCommand} (carries : carrying w thread = some (queue,command)) :
      (w'.shared.entryOf queue).isSome = true := entries queue (inv.bound thread queue command carries)
  have logged {l : Lifetime} {command : IoCommand} (member : command ∈ g.enqueued l) :
      (w'.shared.entryOf l).isSome = true := entries l (inv.built l command member)
  cases change with
  | silent _ _ carries => exact ⟨fun thread queue command holds => carried (carries thread _ holds),fun _ _ => logged⟩
  | captures thread queue cell command aims _ _ _ _ here others =>
    refine ⟨?_,fun _ _ => logged⟩
    intro thread' queue' command' carries
    by_cases mine : thread' = thread
    · subst mine
      rw [here] at carries
      cases carries
      exact entries queue (inv.aimed thread' queue cell aims).2
    · exact carried (others thread' mine ▸ carries)
  | enqueues thread queue command carries _ _ gone others =>
    refine ⟨?_,?_⟩
    · intro thread' queue' command' carries'
      by_cases mine : thread' = thread
      · subst mine
        rw [gone] at carries'; cases carries'
      · exact carried (others thread' mine ▸ carries')
    · intro l c member
      by_cases here : l = queue
      · subst here; exact carried carries
      · simp only [Option.elim_some,Ledger.record,Function.update_of_ne here] at member
        exact logged member
  | validates _ _ _ _ _ _ same => exact ⟨fun _ _ _ holds => carried (same ▸ holds),fun _ _ => logged⟩
  | receives _ _ _ _ _ _ _ same => exact ⟨fun _ _ _ holds => carried (same ▸ holds),fun _ _ => logged⟩
  | runs _ _ _ _ _ _ same => exact ⟨fun _ _ _ holds => carried (same ▸ holds),fun _ _ => logged⟩
  | rejects _ _ _ _ _ same => exact ⟨fun _ _ _ holds => carried (same ▸ holds),fun _ _ => logged⟩
  | finishes _ _ _ _ _ same => exact ⟨fun _ _ _ holds => carried (same ▸ holds),fun _ _ => logged⟩
  | stops _ _ _ _ _ _ same => exact ⟨fun _ _ _ holds => carried (same ▸ holds),fun _ _ => logged⟩

/-- An entry that was built has a worker. -/
def Served (w : World) : Prop := ∀ l, (w.shared.entryOf l).isSome = true → (w.shared.readerConfig l).isSome = true

theorem Served.step (move : Move daemon w w') (served : Served w) : Served w' := by
  cases move with
  | quiet shared _ =>
    intro l built
    rw [shared.readerConfig]
    exact served l (shared.entryOf ▸ built)
  | issues _ _ _ _ _ result => exact result ▸ served
  | reserves _ _ _ _ _ _ result => exact result ▸ served
  | builds c call g info numbered _ result =>
    subst result
    intro l built
    by_cases here : l = g
    · subst here; simp [withClient]
    · simp only [withClient,Function.update_of_ne here] at built ⊢
      exact served l built
  | registers _ _ _ _ _ _ _ _ _ _ _ result => exact result ▸ served

/-- The invariants of the daemon with its logs. -/
structure ObservedOk (daemon : Daemon) (o : Observed) : Prop where
  world : WorldOk daemon o.world
  io : IoOk o.world
  served : Served o.world
  ledger : IoLedger o.world o.ledger

theorem step_observed {o o' : Observed} {a : Action} (ok : ObservedOk daemon o) (taken : observe daemon o a = some o') :
    ObservedOk daemon o' := by
  obtain ⟨w',stepped,rfl⟩ := Option.map_eq_some_iff.mp taken
  have move := step_move ok.world stepped
  have change := step_ioChange stepped
  have entries (l : Lifetime) (built : (o.world.shared.entryOf l).isSome = true) :
      (w'.shared.entryOf l).isSome = true := by
    obtain ⟨e,found⟩ := Option.isSome_iff_exists.mp built
    rw [move.entryOf ok.world found]; rfl
  obtain ⟨carried,apart,logged,single⟩ := senders_step ok.ledger change
  obtain ⟨bound,built⟩ := bound_step ok.ledger change entries
  refine ⟨step_ok ok.world stepped,step_io ok.world ok.io stepped,ok.served.step move,?_⟩
  refine ⟨?_,bound,built,carried,apart,logged,single,stopped_step ok.ledger change,?_,replies_step ok.ledger change⟩
  · intro thread queue cell aims
    obtain ⟨same,built⟩ := step_aims ok.world stepped ok.ledger.aimed thread queue cell aims
    exact ⟨same,entries queue built⟩
  · intro l
    obtain ⟨taken,mailbox⟩ := ok.ledger.mailbox l
    rcases lane_step ok.ledger change l with same | moved
    · exact ⟨taken,by rw [same]; exact mailbox⟩
    · exact mailbox.step moved

theorem init_observed (daemon : Daemon) : ObservedOk daemon {} := by
  refine ⟨Safety.init_ok daemon,init_io,?_,?_⟩
  · intro l built; cases built
  · refine ⟨?_,?_,?_,?_,?_,?_,?_,?_,fun l => ⟨[],Mailboxes.init_ok⟩,?_⟩
    · intro thread queue cell aims; cases thread <;> cases aims
    · intro thread queue command carries; cases thread <;> cases carries
    · intro l command member; cases member
    · intro thread queue command carries; cases thread <;> cases carries
    · intro thread other queue queue' command command' carries; cases thread <;> cases carries
    · intro l command member; cases member
    · intro l command command' member; cases member
    · intro l
      constructor
      · intro stopped; cases stopped
      · intro stopped; cases stopped
    · intro reply ran
      constructor
      · intro answered; cases answered
      · rintro ⟨l,command,how,listed,_⟩; cases listed

theorem observed_ok {o o' : Observed} {trace : List Action} (ok : ObservedOk daemon o)
    (run : exec (observe daemon) o trace = some o') : ObservedOk daemon o' :=
  exec_invariant (fun _ _ _ => step_observed) ok run

end

end FFWebHid.IoWorkers
