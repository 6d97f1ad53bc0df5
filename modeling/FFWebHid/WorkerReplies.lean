import Mathlib.Data.List.Perm.Basic
import FFWebHid.WorkerRequests

/-!
Every request of the worker is in one place at a time: in hand, in the queue, in
the table of pending ones, or replied to. What the worker does moves a request from
one place to the next, so a request is lost only where an event that ought to end
it does not move it.
-/
namespace FFWebHid.WorkerReplies
open FFWebHid.Types FFWebHid.LittleEndian FFWebHid.ReportResults FFWebHid.Runs FFWebHid.WorkerRequests

/-- The messages that have been replied to, once for each reply. -/
def replied (log : List Output) : List Nat :=
  log.filterMap fun
    | .reply ticket _ _ => some ticket
    | _ => none

/-- The messages whose frame the transport took, once for each time. -/
def sent (log : List Output) : List Nat :=
  log.filterMap fun
    | .frame ticket _ _ true => some ticket
    | _ => none

/-- A message has been replied to with an error. -/
def Refused (log : List Output) (ticket : Nat) : Prop :=
  ∃ reqId result, .reply ticket reqId result ∈ log ∧ result.error ≠ none

/-- A message of a type that the worker serves. -/
def IsRequest (requests : List Request) (ticket : Nat) : Prop :=
  ∃ msg, requests[ticket]? = some msg ∧ msg.op ≠ none

/-- No message has two replies, and a request that has been ended has one. Of the
    requests in the queue when the transport opened, each has been sent once or
    refused, as has every other that has left the queue, and those sent were sent in
    the order in which they came. -/
structure Sound (w : World) : Prop where
  atMostOne : ∀ ticket, (replied w.worker.log).count ticket ≤ 1
  ended : ∀ ticket ∈ w.ended, IsRequest w.requests ticket → (replied w.worker.log).count ticket = 1
  opened : ∀ ticket ∈ w.opened, IsRequest w.requests ticket →
    (sent w.worker.log).count ticket = 1 ∨ Refused w.worker.log ticket
  queued : ∀ ticket ∈ w.queued, IsRequest w.requests ticket → ticket ∈ w.worker.preOpen.map (·.1) ∨
    (sent w.worker.log).count ticket = 1 ∨ Refused w.worker.log ticket
  inOrder : ((sent w.worker.log).filter (· ∈ w.queued)).Pairwise (· < ·)

/-- The condition on a step: authentication fails only while no request waits, and a
    response names no request whose identifier has more than 32 bits. -/
def Timely (w : World) : Event → Prop
  | .authFailed _ => w.worker.pending = [] ∧ ∀ item ∈ w.worker.preOpen, item.2.op = none
  | .binary batch => isResponse batch = true → 6 ≤ batch.length →
    ∀ entry ∈ w.worker.pending, entry.1 % 2 ^ 32 = responseId batch → entry.1 = responseId batch
  | _ => True

@[simp] theorem replied_append (log more : List Output) : replied (log ++ more) = replied log ++ replied more :=
  List.filterMap_append

@[simp] theorem sent_append (log more : List Output) : sent (log ++ more) = sent log ++ sent more :=
  List.filterMap_append

@[simp] theorem replied_nil : replied [] = [] := rfl

@[simp] theorem sent_nil : sent [] = [] := rfl

section
variable (ticket frameId : Nat) (reqId : Option Nat) (result : PortResult) (bytes : Bytes) (taken : Bool) (log : List Output)

@[simp] theorem replied_reply : replied (.reply ticket reqId result :: log) = ticket :: replied log := rfl

@[simp] theorem sent_reply : sent (.reply ticket reqId result :: log) = sent log := rfl

@[simp] theorem replied_frame : replied (.frame ticket frameId bytes taken :: log) = replied log := rfl

@[simp] theorem sent_taken : sent (.frame ticket frameId bytes true :: log) = ticket :: sent log := rfl

@[simp] theorem sent_lost : sent (.frame ticket frameId bytes false :: log) = sent log := rfl

end

theorem mem_replied {log : List Output} {ticket : Nat} :
    ticket ∈ replied log ↔ ∃ reqId result, .reply ticket reqId result ∈ log := by
  unfold replied
  rw [List.mem_filterMap]
  constructor
  · rintro ⟨output,among,same⟩
    cases output <;> cases same
    exact ⟨_,_,among⟩
  · rintro ⟨reqId,result,among⟩
    exact ⟨_,among,rfl⟩

theorem mem_sent {log : List Output} {ticket : Nat} :
    ticket ∈ sent log ↔ ∃ frameId bytes, .frame ticket frameId bytes true ∈ log := by
  unfold sent
  rw [List.mem_filterMap]
  constructor
  · rintro ⟨output,among,same⟩
    cases output with
    | frame t k b taken =>
      cases taken <;> cases same
      exact ⟨k,b,among⟩
    | _ => cases same
  · rintro ⟨frameId,bytes,among⟩
    exact ⟨_,among,rfl⟩

theorem mem_framedAs {log : List Output} {named : Nat → Bool} {ticket : Nat} :
    ticket ∈ framedAs log named ↔ ∃ frameId bytes taken, .frame ticket frameId bytes taken ∈ log ∧ named frameId = true := by
  unfold framedAs
  rw [List.mem_filterMap]
  constructor
  · rintro ⟨output,among,same⟩
    cases output with
    | frame t k b taken =>
      simp only at same
      split_ifs at same with names
      cases same
      exact ⟨k,b,taken,among,names⟩
    | _ => cases same
  · rintro ⟨frameId,bytes,taken,among,names⟩
    exact ⟨_,among,if_pos names⟩

theorem error_of_reject (op : PageOp) (reason : Reason) : (workerReply op (.reject reason)).error ≠ none := by
  simp [workerReply]

/-- The messages that have been replied to, are pending, are queued, or in hand. -/
def places (w : Worker) (hand : List (Nat × Request)) : List Nat :=
  replied w.log ++ (w.pending.map (·.2.ticket) ++ (w.preOpen.map (·.1) ++ hand.map (·.1)))

/-- The messages that the transport took, are queued, or in hand. -/
def unsent (w : Worker) (hand : List (Nat × Request)) : List Nat :=
  sent w.log ++ (w.preOpen.map (·.1) ++ hand.map (·.1))

/-- The pending requests and the log agree: what is pending was sent under its
    identifier and not replied to, what was framed is pending or replied to, and
    only what was sent is replied to without an error. -/
structure Table (requests : List Request) (log : List Output) (pending : List (Nat × Entry)) (nextReqId : Nat) : Prop where
  entries : ∀ entry ∈ pending, IsRequest requests entry.2.ticket
  framed : ∀ entry ∈ pending, ∃ bytes, .frame entry.2.ticket entry.1 bytes true ∈ log
  frames : ∀ ticket frameId bytes taken, .frame ticket frameId bytes taken ∈ log →
    ticket ∈ replied log ∨ ∃ entry ∈ pending, entry.1 = frameId ∧ entry.2.ticket = ticket
  succeeded : ∀ ticket reqId result, .reply ticket reqId result ∈ log → result.error = none → ticket ∈ sent log
  keys_once : (pending.map (·.1)).Nodup
  keys_used : ∀ entry ∈ pending, entry.1 < nextReqId

/-- No message is in two places, and no request is in none. -/
structure Kept (requests : List Request) (w : Worker) (hand : List (Nat × Request)) : Prop where
  placed_once : (places w hand).Nodup
  placed : ∀ ticket, IsRequest requests ticket → ticket ∈ places w hand
  came : ∀ ticket ∈ places w hand, ticket < requests.length
  unsent_once : (unsent w hand).Nodup
  items : ∀ item ∈ w.preOpen ++ hand, requests[item.1]? = some item.2
  table : Table requests w.log w.pending w.nextReqId

section Table
variable {requests : List Request} {log : List Output} {pending : List (Nat × Entry)} {nextReqId : Nat}

theorem Table.more (table : Table requests log pending nextReqId) (msg : Request) :
    Table (requests ++ [msg]) log pending nextReqId := by
  refine { table with entries := ?_ }
  intro entry among
  obtain ⟨other,found,served⟩ := table.entries entry among
  obtain ⟨inside,-⟩ := List.getElem?_eq_some_iff.mp found
  exact ⟨other,by rw [List.getElem?_append_left inside]; exact found,served⟩

/-- Something that is no frame is given out. -/
theorem Table.put (table : Table requests log pending nextReqId) {output : Output}
    (silent : ∀ ticket frameId bytes taken, output ≠ .frame ticket frameId bytes taken)
    (known : ∀ ticket reqId result, output = .reply ticket reqId result → result.error = none → ticket ∈ sent log) :
    Table requests (log ++ [output]) pending nextReqId := by
  refine { table with framed := ?_, frames := ?_, succeeded := ?_ }
  · intro entry among
    obtain ⟨bytes,logged⟩ := table.framed entry among
    exact ⟨bytes,List.mem_append_left _ logged⟩
  · intro ticket frameId bytes taken logged
    rcases List.mem_append.mp logged with old | new
    · refine (table.frames ticket frameId bytes taken old).imp_left ?_
      intro before
      rw [replied_append]
      exact List.mem_append_left _ before
    · exact (silent _ _ _ _ (List.mem_singleton.mp new).symm).elim
  · intro ticket reqId result logged success
    rw [sent_append]
    apply List.mem_append_left
    rcases List.mem_append.mp logged with old | new
    · exact table.succeeded ticket reqId result old success
    · exact known ticket reqId result (List.mem_singleton.mp new).symm success

/-- A request is framed under the next identifier, and taken. -/
theorem Table.register (table : Table requests log pending nextReqId) {entry : Entry}
    (request : IsRequest requests entry.ticket) (bytes : Bytes) :
    Table requests (log ++ [.frame entry.ticket nextReqId bytes true]) (pending ++ [(nextReqId,entry)]) (nextReqId + 1) := by
  constructor
  case entries =>
    intro other among
    rcases List.mem_append.mp among with old | new
    · exact table.entries other old
    · cases List.mem_singleton.mp new
      exact request
  case framed =>
    intro other among
    rcases List.mem_append.mp among with old | new
    · obtain ⟨bytes',logged⟩ := table.framed other old
      exact ⟨bytes',List.mem_append_left _ logged⟩
    · cases List.mem_singleton.mp new
      exact ⟨bytes,List.mem_append_right _ List.mem_cons_self⟩
  case frames =>
    intro ticket frameId bytes' taken logged
    rcases List.mem_append.mp logged with old | new
    · rcases table.frames ticket frameId bytes' taken old with done | ⟨other,held,named,same⟩
      · exact .inl (by rw [replied_append]; exact List.mem_append_left _ done)
      · exact .inr ⟨other,List.mem_append_left _ held,named,same⟩
    · cases List.mem_singleton.mp new
      exact .inr ⟨(nextReqId,entry),List.mem_append_right _ List.mem_cons_self,rfl,rfl⟩
  case succeeded =>
    intro ticket reqId result logged success
    rcases List.mem_append.mp logged with old | new
    · rw [sent_append]
      exact List.mem_append_left _ (table.succeeded ticket reqId result old success)
    · cases List.mem_singleton.mp new
  case keys_once =>
    rw [List.map_append,List.nodup_append]
    refine ⟨table.keys_once,List.nodup_singleton _,?_⟩
    intro key among last fresh same
    obtain ⟨other,held,rfl⟩ := List.mem_map.mp among
    have bound := table.keys_used other held
    rw [same,List.mem_singleton.mp fresh] at bound
    exact Nat.lt_irrefl _ bound
  case keys_used =>
    intro other among
    rcases List.mem_append.mp among with old | new
    · exact Nat.lt_succ_of_lt (table.keys_used other old)
    · cases List.mem_singleton.mp new
      exact Nat.lt_succ_self _

/-- A request is framed under the next identifier, not taken, and refused. -/
theorem Table.lost (table : Table requests log pending nextReqId) (ticket : Nat) (bytes : Bytes) (reqId : Option Nat)
    {result : PortResult} (error : result.error ≠ none) :
    Table requests (log ++ [.frame ticket nextReqId bytes false] ++ [.reply ticket reqId result]) pending (nextReqId + 1) := by
  constructor
  case entries => exact table.entries
  case framed =>
    intro other among
    obtain ⟨bytes',logged⟩ := table.framed other among
    exact ⟨bytes',List.mem_append_left _ (List.mem_append_left _ logged)⟩
  case frames =>
    intro other frameId bytes' taken logged
    simp only [List.mem_append,List.mem_singleton,reduceCtorEq,or_false] at logged
    rcases logged with old | new
    · refine (table.frames other frameId bytes' taken old).imp_left ?_
      intro before
      simp [before]
    · cases new
      exact .inl (by simp)
  case succeeded =>
    intro other reqId' result' logged success
    simp only [List.mem_append,List.mem_singleton,reduceCtorEq,or_false] at logged
    rcases logged with old | new
    · simpa using table.succeeded other reqId' result' old success
    · cases new
      exact (error success).elim
  case keys_once => exact table.keys_once
  case keys_used => exact fun other among => Nat.lt_succ_of_lt (table.keys_used other among)

/-- The first pending request is replied to. -/
theorem Table.settle {entry : Nat × Entry} (table : Table requests log (entry :: pending) nextReqId) (reply : Reply) :
    Table requests (log ++ [.reply entry.2.ticket entry.2.reqId (workerReply entry.2.op reply)]) pending nextReqId := by
  obtain ⟨bytes,taken⟩ := table.framed entry List.mem_cons_self
  have was : entry.2.ticket ∈ sent log := mem_sent.mpr ⟨entry.1,bytes,taken⟩
  have told : Table requests (log ++ [.reply entry.2.ticket entry.2.reqId (workerReply entry.2.op reply)]) (entry :: pending)
      nextReqId := by
    refine table.put (fun _ _ _ _ => Output.noConfusion) ?_
    rintro ticket reqId result ⟨⟩ -
    exact was
  constructor
  case entries => exact fun other among => told.entries other (List.mem_cons_of_mem _ among)
  case framed => exact fun other among => told.framed other (List.mem_cons_of_mem _ among)
  case frames =>
    intro ticket frameId bytes' taken' logged
    rcases told.frames ticket frameId bytes' taken' logged with done | ⟨other,held,named,same⟩
    · exact .inl done
    · rcases List.mem_cons.mp held with rfl | held
      · exact .inl (by rw [replied_append,← same]; simp)
      · exact .inr ⟨other,held,named,same⟩
  case succeeded => exact told.succeeded
  case keys_once => exact (List.nodup_cons.mp table.keys_once).2
  case keys_used => exact fun other among => told.keys_used other (List.mem_cons_of_mem _ among)

theorem Table.perm {other : List (Nat × Entry)} (table : Table requests log pending nextReqId) (same : other.Perm pending) :
    Table requests log other nextReqId where
  entries := fun entry among => table.entries entry (same.mem_iff.mp among)
  framed := fun entry among => table.framed entry (same.mem_iff.mp among)
  frames := by
    intro ticket frameId bytes taken logged
    rcases table.frames ticket frameId bytes taken logged with done | ⟨entry,held,found⟩
    · exact .inl done
    · exact .inr ⟨entry,same.mem_iff.mpr held,found⟩
  succeeded := table.succeeded
  keys_once := (same.map _).nodup_iff.mpr table.keys_once
  keys_used := fun entry among => table.keys_used entry (same.mem_iff.mp among)

end Table

/-! ### The table of pending requests -/

theorem lookup_unused {pending : List (Nat × Entry)} {nextReqId : Nat} (used : ∀ entry ∈ pending, entry.1 < nextReqId) :
    pending.lookup nextReqId = none := by
  rw [List.lookup_eq_none_iff]
  intro entry among
  have bound := used entry among
  simp
  omega

theorem filter_unused {pending : List (Nat × Entry)} {nextReqId : Nat} (used : ∀ entry ∈ pending, entry.1 < nextReqId) :
    pending.filter (·.1 ≠ nextReqId) = pending := by
  rw [List.filter_eq_self]
  intro entry among
  have bound := used entry among
  simp
  omega

theorem mem_of_lookup {pending : List (Nat × Entry)} {reqId : Nat} {entry : Entry} (found : pending.lookup reqId = some entry) :
    (reqId,entry) ∈ pending := by
  obtain ⟨before,after,rfl,-⟩ := List.lookup_eq_some_iff.mp found
  simp

theorem lookup_of_mem {pending : List (Nat × Entry)} (once : (pending.map (·.1)).Nodup) {reqId : Nat} {entry : Entry}
    (among : (reqId,entry) ∈ pending) : pending.lookup reqId = some entry := by
  induction pending with
  | nil => cases among
  | cons first rest ih =>
    obtain ⟨absent,once⟩ := List.nodup_cons.mp once
    rcases List.mem_cons.mp among with rfl | later
    · exact List.lookup_cons_self
    · have differs : reqId ≠ first.1 := by
        rintro rfl
        exact absent (List.mem_map.mpr ⟨_,later,rfl⟩)
      rw [List.lookup_cons,beq_false_of_ne differs]
      exact ih once later

/-- What is found is in the table once. -/
theorem perm_of_lookup {pending : List (Nat × Entry)} (once : (pending.map (·.1)).Nodup) {reqId : Nat} {entry : Entry}
    (found : pending.lookup reqId = some entry) : pending.Perm ((reqId,entry) :: pending.filter (·.1 ≠ reqId)) := by
  induction pending with
  | nil => cases found
  | cons first rest ih =>
    obtain ⟨absent,once⟩ := List.nodup_cons.mp once
    by_cases same : reqId = first.1
    · subst same
      rw [List.lookup_cons_self] at found
      cases found
      have others : rest.filter (·.1 ≠ first.1) = rest := by
        rw [List.filter_eq_self]
        intro other among
        have differs : other.1 ≠ first.1 := fun same => absent (List.mem_map.mpr ⟨other,among,same⟩)
        simpa using differs
      rw [List.filter_cons_of_neg (by simp),others]
    · rw [List.lookup_cons,beq_false_of_ne same] at found
      have kept := List.filter_cons_of_pos (p := fun e => decide (e.1 ≠ reqId)) (a := first) (l := rest) (by simpa using Ne.symm same)
      rw [kept]
      exact ((ih once found).cons first).trans (List.Perm.swap _ _ _)

section Moves
variable {requests : List Request} {w : Worker} {item : Nat × Request} {hand : List (Nat × Request)}

/-- What stays with the messages that are queued or in hand. -/
theorem Kept.moved (kept : Kept requests w hand) {w' : Worker} {hand' : List (Nat × Request)}
    (same : (places w' hand').Perm (places w hand)) (fewer : (unsent w' hand').Subperm (unsent w hand))
    (items : w'.preOpen ++ hand' ⊆ w.preOpen ++ hand) (table : Table requests w'.log w'.pending w'.nextReqId) :
    Kept requests w' hand' where
  placed_once := same.nodup_iff.mpr kept.placed_once
  placed := fun ticket request => same.mem_iff.mpr (kept.placed ticket request)
  came := fun ticket among => kept.came ticket (same.mem_iff.mp among)
  unsent_once := by
    obtain ⟨some_,same',part⟩ := fewer
    exact same'.nodup_iff.mp (kept.unsent_once.sublist part)
  items := fun other among => kept.items other (items among)
  table := table

/-- A message in hand is replied to with an error. -/
theorem Kept.refuse (kept : Kept requests w (item :: hand)) (reqId : Option Nat) {result : PortResult}
    (error : result.error ≠ none) : Kept requests (w.replyData item.1 reqId result) hand := by
  refine kept.moved ?_ ?_ ?_ ?_
  · rw [List.perm_iff_count]
    intro ticket
    simp [places,Worker.replyData,Worker.put,List.count_cons]
    omega
  · apply List.Sublist.subperm
    simp [unsent,Worker.replyData,Worker.put]
  · exact List.append_subset.mpr ⟨List.subset_append_left _ _,
      List.Subset.trans (List.subset_cons_self _ _) (List.subset_append_right _ _)⟩
  · refine kept.table.put (fun _ _ _ _ => Output.noConfusion) ?_
    rintro ticket reqId' result' ⟨⟩ success
    exact (error success).elim

/-- A message in hand is put into the queue. -/
theorem Kept.push (kept : Kept requests w (item :: hand)) :
    Kept requests { w with preOpen := w.preOpen ++ [item] } hand := by
  refine kept.moved ?_ ?_ ?_ kept.table
  · simp [places]
  · simp [unsent,List.Subperm.refl]
  · simp

/-- A message in hand that is no request is dropped. -/
theorem Kept.drop (kept : Kept requests w (item :: hand)) (other : item.2.op = none) : Kept requests w hand := by
  have fewer : (places w hand).Sublist (places w (item :: hand)) := by simp [places]
  have fewer' : (unsent w hand).Sublist (unsent w (item :: hand)) := by simp [unsent]
  constructor
  case placed_once => exact kept.placed_once.sublist fewer
  case placed =>
    intro ticket request
    have before := kept.placed ticket request
    have not : ticket ≠ item.1 := by
      rintro rfl
      obtain ⟨msg,found,served⟩ := request
      have known := kept.items item (by simp)
      cases found.symm.trans known
      exact served other
    simpa [places,not] using before
  case came => exact fun ticket among => kept.came ticket (fewer.subset among)
  case unsent_once => exact kept.unsent_once.sublist fewer'
  case items =>
    intro other among
    refine kept.items other ?_
    rw [List.mem_append] at among ⊢
    exact among.imp_right (List.mem_cons_of_mem _)
  case table => exact kept.table

/-- The queue is taken into hand. -/
theorem Kept.draw (kept : Kept requests w []) : Kept requests { w with preOpen := [] } w.preOpen := by
  refine kept.moved ?_ ?_ ?_ kept.table
  · simp [places]
  · simp [unsent,List.Subperm.refl]
  · simp

/-- Something that is neither a reply nor a frame is given out. -/
theorem Kept.note (kept : Kept requests w hand) {output : Output} (quiet : replied [output] = [])
    (silent : ∀ ticket frameId bytes taken, output ≠ .frame ticket frameId bytes taken) : Kept requests (w.put output) hand := by
  have unsentToo : sent [output] = [] := by
    cases output with
    | frame t k b taken => exact (silent t k b taken rfl).elim
    | _ => rfl
  refine kept.moved ?_ ?_ (List.Subset.refl _) (kept.table.put silent ?_)
  · simp [places,Worker.put,quiet]
  · simp [unsent,Worker.put,unsentToo,List.Subperm.refl]
  · rintro ticket reqId result rfl success
    cases quiet

/-- The transport is given the frame of a request in hand. -/
theorem Kept.transmit (kept : Kept requests w (item :: hand)) (served : item.2.op ≠ none) (t : Transport) {entry : Entry}
    (same : entry.ticket = item.1) (frame : Nat → Bytes) : Kept requests (w.transmit t entry frame) hand := by
  have request : IsRequest requests entry.ticket := by
    rw [same]
    exact ⟨item.2,kept.items item (by simp),served⟩
  have after : item.1 :: hand.map (·.1) = (item :: hand).map (·.1) := rfl
  unfold Worker.transmit
  by_cases taken : t.send w.nextReqId = true
  · simp only [taken,if_true]
    refine kept.moved ?_ ?_ ?_ (kept.table.register request _)
    · rw [List.perm_iff_count]
      intro ticket
      simp [places,Worker.registerPending,Worker.put,List.count_cons,same]
      omega
    · apply List.Perm.subperm
      rw [List.perm_iff_count]
      intro ticket
      simp [unsent,Worker.registerPending,Worker.put,List.count_cons,same]
      omega
    · exact List.append_subset.mpr ⟨List.subset_append_left _ _,
        List.Subset.trans (List.subset_cons_self _ _) (List.subset_append_right _ _)⟩
  · have found : (w.pending ++ [(w.nextReqId,entry)]).lookup w.nextReqId = some entry := by
      rw [List.lookup_append,lookup_unused kept.table.keys_used,List.lookup_cons_self]
      rfl
    have left : (w.pending ++ [(w.nextReqId,entry)]).filter (·.1 ≠ w.nextReqId) = w.pending := by
      rw [List.filter_append,filter_unused kept.table.keys_used]
      simp
    have after : (Worker.settle (Worker.delete (((Worker.registerPending { w with nextReqId := w.nextReqId + 1 } w.nextReqId entry).put
        (.frame entry.ticket w.nextReqId (frame w.nextReqId) false))) w.nextReqId) entry (.reject (.error "ws closed"))) =
        { w with nextReqId := w.nextReqId + 1, log := w.log ++ [.frame item.1 w.nextReqId (frame w.nextReqId) false] ++
          [.reply item.1 entry.reqId (workerReply entry.op (.reject (.error "ws closed")))] } := by
      simp only [Worker.settle,Worker.replyData,Worker.delete,Worker.registerPending,Worker.put,left,same]
    have lost : t.send w.nextReqId = false := by simpa using taken
    simp only [lost,Bool.false_eq_true,if_false]
    simp only [Worker.registerPending,Worker.put] at after ⊢
    rw [found]
    simp only
    rw [after]
    refine kept.moved ?_ ?_ ?_ (kept.table.lost item.1 _ _ (error_of_reject _ _))
    · rw [List.perm_iff_count]
      intro ticket
      simp [places,List.count_cons]
      omega
    · apply List.Sublist.subperm
      simp [unsent]
    · exact List.append_subset.mpr ⟨List.subset_append_left _ _,
        List.Subset.trans (List.subset_cons_self _ _) (List.subset_append_right _ _)⟩

/-- The first pending request is replied to. -/
theorem Kept.settle {entry : Nat × Entry} {rest : List (Nat × Entry)} (kept : Kept requests { w with pending := entry :: rest } hand)
    (reply : Reply) : Kept requests ({ w with pending := rest }.settle entry.2 reply) hand := by
  refine kept.moved ?_ ?_ (List.Subset.refl _) (kept.table.settle reply)
  · rw [List.perm_iff_count]
    intro ticket
    simp [places,Worker.settle,Worker.replyData,Worker.put,List.count_cons]
  · simp [unsent,Worker.settle,Worker.replyData,Worker.put,List.Subperm.refl]

/-- A pending request is replied to. -/
theorem Kept.answer (kept : Kept requests w hand) {reqId : Nat} {entry : Entry} (found : w.pending.lookup reqId = some entry)
    (reply : Reply) : Kept requests ((w.delete reqId).settle entry reply) hand := by
  have split := perm_of_lookup kept.table.keys_once found
  have first : Kept requests { w with pending := (reqId,entry) :: w.pending.filter (·.1 ≠ reqId) } hand := by
    refine kept.moved ?_ (List.Subperm.refl _) (List.Subset.refl _) (kept.table.perm split.symm)
    exact ((split.symm.map (·.2.ticket)).append_right _).append_left _
  exact first.settle reply

/-- A message in hand is handled. -/
theorem Kept.message (kept : Kept requests w (item :: hand)) (t : Transport) :
    Kept requests (w.handleDataPortMessage t item) hand := by
  unfold Worker.handleDataPortMessage
  by_cases open_ : t.isOpen = true
  · rw [if_pos open_]
    cases type : item.2.op with
    | none => exact kept.drop type
    | some op =>
      have served : item.2.op ≠ none := by simp [type]
      cases op with
      | receiveFeatureReport =>
        simp only [Worker.handleReceiveFeature,if_pos open_]
        exact kept.transmit served t rfl _
      | sendReport | sendFeatureReport =>
        simp only [Worker.handleSend,if_pos open_]
        split
        · exact kept.refuse _ (by simp [opResult])
        · exact kept.transmit served t rfl _
  · rw [if_neg open_]
    split_ifs
    · exact kept.refuse _ (by simp [queueResult])
    · exact kept.push

theorem Kept.messages {items : List (Nat × Request)} (kept : Kept requests w items) (t : Transport) :
    Kept requests (items.foldl (Worker.handleDataPortMessage t) w) [] := by
  induction items generalizing w with
  | nil => exact kept
  | cons item rest ih => exact ih (kept.message t)

theorem Kept.ready (kept : Kept requests w []) (t : Transport) : Kept requests (w.onReady t) [] :=
  (kept.note rfl fun _ _ _ _ => Output.noConfusion).draw.messages t

theorem Kept.settle_all {entries : List (Nat × Entry)} (kept : Kept requests { w with pending := entries } hand) (reply : Reply) :
    Kept requests { entries.foldl (fun w entry => w.settle entry.2 reply) w with pending := [] } hand := by
  induction entries generalizing w with
  | nil => exact kept
  | cons entry rest ih => exact ih (kept.settle reply)

theorem Kept.refuse_all {items : List (Nat × Request)} (kept : Kept requests w items) {result : Nat × Request → PortResult}
    (error : ∀ item, (result item).error ≠ none) :
    Kept requests (items.foldl (fun w item => w.replyData item.1 item.2.reqId (result item)) w) [] := by
  induction items generalizing w with
  | nil => exact kept
  | cons item rest ih => exact ih (kept.refuse _ (error item))

theorem Kept.closed (kept : Kept requests w []) (willReconnect : Bool) : Kept requests (w.onClosed willReconnect) [] := by
  have noted : Kept requests (if willReconnect then w else w.put .closed) [] := by
    split_ifs
    · exact kept
    · exact kept.note rfl fun _ _ _ _ => Output.noConfusion
  exact (noted.settle_all _).draw.refuse_all fun item => by simp [queueResult]

theorem Kept.inputs (kept : Kept requests w []) (batch : Bytes) (offset : Nat) : Kept requests (w.pushInputBatch batch offset) [] := by
  unfold Worker.pushInputBatch
  split
  · exact kept
  · exact kept
  · exact kept.note rfl fun _ _ _ _ => Output.noConfusion

theorem response_eq (batch : Bytes) (pending : List (Nat × Entry)) :
    ∃ reply, handleControlResponse batch (fun reqId => pending.lookup reqId) =
      if batch.length < 6 then none else (pending.lookup (responseId batch)).map fun entry => (entry,reply) := by
  exact ⟨_,rfl⟩

theorem Kept.binary (kept : Kept requests w []) (batch : Bytes) : Kept requests (w.onBinary batch) [] := by
  unfold Worker.onBinary
  split_ifs
  · exact kept.inputs batch 1
  · obtain ⟨reply,answer⟩ := response_eq batch w.pending
    rw [answer]
    split_ifs
    · exact kept
    · cases found : w.pending.lookup (responseId batch) with
      | none => exact kept
      | some entry => exact kept.answer found reply
  · exact kept.inputs batch 0

theorem Kept.timeout (kept : Kept requests w []) (reqId : Nat) : Kept requests (w.onTimeout reqId) [] := by
  unfold Worker.onTimeout
  cases found : w.pending.lookup reqId with
  | none => exact kept
  | some entry => exact kept.answer found _

/-- What the transport took has come. -/
theorem Kept.sent_came (kept : Kept requests w hand) {ticket : Nat} (among : ticket ∈ sent w.log) : ticket < requests.length := by
  obtain ⟨frameId,bytes,logged⟩ := mem_sent.mp among
  apply kept.came
  rcases kept.table.frames _ _ _ _ logged with done | ⟨entry,held,-,rfl⟩
  · exact List.mem_append_left _ done
  · exact List.mem_append_right _ (List.mem_append_left _ (List.mem_map.mpr ⟨entry,held,rfl⟩))

/-- A message comes. -/
theorem Kept.arrive (kept : Kept requests w []) (msg : Request) : Kept (requests ++ [msg]) w [(requests.length,msg)] := by
  have all : places w [(requests.length,msg)] = places w [] ++ [requests.length] := by simp [places]
  have all' : unsent w [(requests.length,msg)] = unsent w [] ++ [requests.length] := by simp [unsent]
  have unsentCame : ∀ ticket ∈ unsent w [], ticket < requests.length := by
    intro ticket among
    rcases List.mem_append.mp among with gone | waits
    · exact kept.sent_came gone
    · exact kept.came ticket (List.mem_append_right _ (List.mem_append_right _ waits))
  have fresh {tickets : List Nat} (once : tickets.Nodup) (before : ∀ ticket ∈ tickets, ticket < requests.length) :
      (tickets ++ [requests.length]).Nodup := by
    refine List.nodup_append.mpr ⟨once,List.nodup_singleton _,?_⟩
    intro ticket among last new same
    have inside := before ticket among
    rw [same,List.mem_singleton.mp new] at inside
    exact Nat.lt_irrefl _ inside
  constructor
  case placed_once => rw [all]; exact fresh kept.placed_once kept.came
  case unsent_once => rw [all']; exact fresh kept.unsent_once unsentCame
  case placed =>
    rintro ticket ⟨other,found,served⟩
    rw [all,List.mem_append,List.mem_singleton]
    by_cases inside : ticket < requests.length
    · rw [List.getElem?_append_left inside] at found
      exact .inl (kept.placed ticket ⟨other,found,served⟩)
    · obtain ⟨bound,-⟩ := List.getElem?_eq_some_iff.mp found
      rw [List.length_append,List.length_singleton] at bound
      exact .inr (by omega)
  case came =>
    intro ticket among
    rw [all,List.mem_append,List.mem_singleton] at among
    rw [List.length_append,List.length_singleton]
    rcases among with before | rfl
    · have inside := kept.came ticket before
      omega
    · omega
  case items =>
    intro item among
    rcases List.mem_append.mp among with waits | new
    · have known := kept.items item (List.mem_append_left _ waits)
      obtain ⟨inside,-⟩ := List.getElem?_eq_some_iff.mp known
      rw [List.getElem?_append_left inside]
      exact known
    · cases List.mem_singleton.mp new
      simp
  case table => exact kept.table.more msg

/-- Whatever happens, no message is lost from its place. -/
theorem Kept.event (kept : Kept requests w []) (event : Event) :
    Kept (requests ++ arrivals event) (w.handle requests.length event) [] := by
  have still : Kept (requests ++ []) w [] := by
    rw [List.append_nil]
    exact kept
  cases event with
  | data msg t => exact (kept.arrive msg).message t
  | opened t => exact still.ready t
  | closed willReconnect => exact still.closed willReconnect
  | authFailed code => exact still.note rfl fun _ _ _ _ => Output.noConfusion
  | binary batch => exact still.binary batch
  | timeout reqId => exact still.timeout reqId

end Moves

section Effects
variable (w : Worker)

@[simp] theorem settle_preOpen (entry : Entry) (reply : Reply) : (w.settle entry reply).preOpen = w.preOpen := rfl

@[simp] theorem settle_sent (entry : Entry) (reply : Reply) : sent (w.settle entry reply).log = sent w.log := by
  simp [Worker.settle,Worker.replyData,Worker.put]

@[simp] theorem delete_preOpen (reqId : Nat) : (w.delete reqId).preOpen = w.preOpen := rfl

@[simp] theorem delete_log (reqId : Nat) : (w.delete reqId).log = w.log := rfl

theorem settle_log (entry : Entry) (reply : Reply) : w.log <+: (w.settle entry reply).log := List.prefix_append _ _

theorem transmit_effect (t : Transport) (entry : Entry) (frame : Nat → Bytes) :
    (w.transmit t entry frame).preOpen = w.preOpen ∧ w.log <+: (w.transmit t entry frame).log ∧
      (sent (w.transmit t entry frame).log = sent w.log ∨ sent (w.transmit t entry frame).log = sent w.log ++ [entry.ticket]) := by
  unfold Worker.transmit
  by_cases taken : t.send w.nextReqId = true
  · simp [taken,Worker.registerPending,Worker.put]
  · have lost : t.send w.nextReqId = false := by simpa using taken
    simp only [lost,Bool.false_eq_true,if_false]
    split
    · simp [Worker.registerPending,Worker.put]
    · simp [Worker.settle,Worker.replyData,Worker.delete,Worker.registerPending,Worker.put]

/-- A message is sent or not while the transport is open, and put into the queue or
    not while it is closed. -/
theorem message_effect (t : Transport) (item : Nat × Request) :
    w.log <+: (w.handleDataPortMessage t item).log ∧
    ((t.isOpen = true ∧ (w.handleDataPortMessage t item).preOpen = w.preOpen ∧
      (sent (w.handleDataPortMessage t item).log = sent w.log ∨
        sent (w.handleDataPortMessage t item).log = sent w.log ++ [item.1])) ∨
    (t.isOpen = false ∧ sent (w.handleDataPortMessage t item).log = sent w.log ∧
      ((w.handleDataPortMessage t item).preOpen = w.preOpen ∨
        (w.handleDataPortMessage t item).preOpen = w.preOpen ++ [item]))) := by
  unfold Worker.handleDataPortMessage
  by_cases open_ : t.isOpen = true
  · rw [if_pos open_]
    rcases item.2.op with _ | op
    · simp [open_]
    · cases op with
      | receiveFeatureReport =>
        obtain ⟨queue,log,sends⟩ := transmit_effect w t ⟨item.1,.receiveFeatureReport,item.2.reqId⟩
          fun reqId => TransportFrames.buildSendFrame TransportFrames.msgReceiveFeatureReport reqId item.2.reportId none
        simp only [Worker.handleReceiveFeature,if_pos open_]
        exact ⟨log,.inl ⟨open_,queue,sends⟩⟩
      | sendReport | sendFeatureReport =>
        simp only [Worker.handleSend,if_pos open_]
        split
        · exact ⟨List.prefix_append _ _,.inl ⟨open_,rfl,.inl (by simp [Worker.replyData,Worker.put])⟩⟩
        · obtain ⟨queue,log,sends⟩ := transmit_effect w t _ _
          exact ⟨log,.inl ⟨open_,queue,sends⟩⟩
  · have shut : t.isOpen = false := by simpa using open_
    rw [if_neg open_]
    split_ifs
    · exact ⟨List.prefix_append _ _,.inr ⟨shut,by simp [Worker.replyData,Worker.put],.inl rfl⟩⟩
    · exact ⟨List.prefix_refl _,.inr ⟨shut,rfl,.inr rfl⟩⟩

/-- The queued messages that were sent, the queue, and the messages in hand. -/
def line (queued : List Nat) (w : Worker) (hand : List (Nat × Request)) : List Nat :=
  (sent w.log).filter (· ∈ queued) ++ (w.preOpen.map (·.1) ++ hand.map (·.1))

/-- The queue is worked off from its head, so no message of it overtakes another. -/
theorem messages_line (t : Transport) (queued : List Nat) (items : List (Nat × Request)) (clear : t.isOpen = true → w.preOpen = []) :
    (line queued (items.foldl (Worker.handleDataPortMessage t) w) []).Sublist (line queued w items) ∧
      (t.isOpen = true → (items.foldl (Worker.handleDataPortMessage t) w).preOpen = []) ∧
      w.log <+: (items.foldl (Worker.handleDataPortMessage t) w).log ∧
      (items.foldl (Worker.handleDataPortMessage t) w).preOpen ⊆ w.preOpen ++ items := by
  induction items generalizing w with
  | nil => exact ⟨List.Sublist.refl _,clear,List.prefix_refl _,List.subset_append_left _ _⟩
  | cons item rest ih =>
    obtain ⟨log,⟨open_,queue,sends⟩ | ⟨shut,sends,queue⟩⟩ := message_effect w t item
    · obtain ⟨later,empty,logs,left⟩ := ih (w.handleDataPortMessage t item) fun _ => queue.trans (clear open_)
      refine ⟨later.trans ?_,empty,log.trans logs,?_⟩
      · rcases sends with same | more
        · simp [line,queue,same]
        · simp only [line,queue,clear open_,more,List.filter_append,List.map_nil,List.nil_append,List.append_assoc,List.map_cons]
          refine List.Sublist.append_left ?_ _
          exact List.filter_sublist.append (List.Sublist.refl _)
      · intro other among
        rw [queue] at left
        have inside := left among
        simp only [List.mem_append,List.mem_cons] at inside ⊢
        exact inside.imp_right .inr
    · obtain ⟨later,empty,logs,left⟩ := ih (w.handleDataPortMessage t item) fun open_ => by simp [shut] at open_
      refine ⟨later.trans ?_,empty,log.trans logs,?_⟩
      · rcases queue with same | more
        · simp [line,sends,same]
        · simp [line,sends,more]
      · intro other among
        have inside := left among
        simp only [List.mem_append,List.mem_cons] at inside ⊢
        rcases queue with same | more
        · rw [same] at inside
          exact inside.imp_right .inr
        · rw [more] at inside
          simp only [List.mem_append,List.mem_singleton] at inside
          tauto

theorem settle_all_effect (entries : List (Nat × Entry)) (reply : Reply) :
    (entries.foldl (fun w entry => w.settle entry.2 reply) w).preOpen = w.preOpen ∧
      sent (entries.foldl (fun w entry => w.settle entry.2 reply) w).log = sent w.log ∧
      w.log <+: (entries.foldl (fun w entry => w.settle entry.2 reply) w).log := by
  induction entries generalizing w with
  | nil => exact ⟨rfl,rfl,List.prefix_refl _⟩
  | cons entry rest ih =>
    obtain ⟨queue,sends,log⟩ := ih (w.settle entry.2 reply)
    exact ⟨queue,sends.trans (settle_sent w _ _),(settle_log w _ _).trans log⟩

theorem refuse_all_effect (items : List (Nat × Request)) (result : Nat × Request → PortResult) :
    (items.foldl (fun w item => w.replyData item.1 item.2.reqId (result item)) w).preOpen = w.preOpen ∧
      (items.foldl (fun w item => w.replyData item.1 item.2.reqId (result item)) w).pending = w.pending ∧
      sent (items.foldl (fun w item => w.replyData item.1 item.2.reqId (result item)) w).log = sent w.log ∧
      w.log <+: (items.foldl (fun w item => w.replyData item.1 item.2.reqId (result item)) w).log := by
  induction items generalizing w with
  | nil => exact ⟨rfl,rfl,rfl,List.prefix_refl _⟩
  | cons item rest ih =>
    obtain ⟨queue,table,sends,log⟩ := ih (w.replyData item.1 item.2.reqId (result item))
    exact ⟨queue,table,sends.trans (by simp [Worker.replyData,Worker.put]),(List.prefix_append _ _).trans log⟩

/-- A lost transport empties the queue and the table. -/
theorem closed_effect (willReconnect : Bool) :
    (w.onClosed willReconnect).preOpen = [] ∧ (w.onClosed willReconnect).pending = [] ∧
      sent (w.onClosed willReconnect).log = sent w.log ∧ w.log <+: (w.onClosed willReconnect).log := by
  unfold Worker.onClosed
  have noted : sent (if willReconnect then w else w.put .closed).log = sent w.log ∧
      w.log <+: (if willReconnect then w else w.put .closed).log := by
    split_ifs
    · exact ⟨rfl,List.prefix_refl _⟩
    · exact ⟨by simp [Worker.put,sent],List.prefix_append _ _⟩
  generalize (if willReconnect then w else w.put .closed) = noted_ at noted
  obtain ⟨-,sends,log⟩ := settle_all_effect noted_ noted_.pending (.reject (.error "ws closed"))
  obtain ⟨queue,table,sends',log'⟩ := refuse_all_effect
    { noted_.pending.foldl (fun w entry => w.settle entry.2 (.reject (.error "ws closed"))) noted_ with pending := [], preOpen := [] }
    (noted_.pending.foldl (fun w entry => w.settle entry.2 (.reject (.error "ws closed"))) noted_).preOpen
    fun item => queueResult item.2.op "ws closed"
  exact ⟨queue,table,(sends'.trans sends).trans noted.1,(noted.2.trans log).trans log'⟩

theorem inputs_effect (batch : Bytes) (offset : Nat) :
    (w.pushInputBatch batch offset).preOpen = w.preOpen ∧ sent (w.pushInputBatch batch offset).log = sent w.log ∧
      w.log <+: (w.pushInputBatch batch offset).log := by
  unfold Worker.pushInputBatch
  split
  · exact ⟨rfl,rfl,List.prefix_refl _⟩
  · exact ⟨rfl,rfl,List.prefix_refl _⟩
  · exact ⟨rfl,by simp [Worker.put,sent],List.prefix_append _ _⟩

theorem answer_effect (reqId : Nat) (entry : Entry) (reply : Reply) :
    ((w.delete reqId).settle entry reply).preOpen = w.preOpen ∧ sent ((w.delete reqId).settle entry reply).log = sent w.log ∧
      w.log <+: ((w.delete reqId).settle entry reply).log :=
  ⟨rfl,settle_sent _ _ _,settle_log (w.delete reqId) _ _⟩

theorem binary_effect (batch : Bytes) :
    (w.onBinary batch).preOpen = w.preOpen ∧ sent (w.onBinary batch).log = sent w.log ∧ w.log <+: (w.onBinary batch).log := by
  unfold Worker.onBinary
  split_ifs
  · exact inputs_effect w batch 1
  · split
    · exact ⟨rfl,rfl,List.prefix_refl _⟩
    · exact answer_effect w _ _ _
  · exact inputs_effect w batch 0

theorem timeout_effect (reqId : Nat) :
    (w.onTimeout reqId).preOpen = w.preOpen ∧ sent (w.onTimeout reqId).log = sent w.log ∧ w.log <+: (w.onTimeout reqId).log := by
  unfold Worker.onTimeout
  split
  · exact ⟨rfl,rfl,List.prefix_refl _⟩
  · exact answer_effect w _ _ _

theorem ready_effect (t : Transport) (queued : List Nat) :
    (line queued (w.onReady t) []).Sublist (line queued w []) ∧ (t.isOpen = true → (w.onReady t).preOpen = []) ∧
      w.log <+: (w.onReady t).log ∧ (w.onReady t).preOpen ⊆ w.preOpen := by
  obtain ⟨lined,empty,log,left⟩ := messages_line { w.put .ready with preOpen := [] } t queued w.preOpen fun _ => rfl
  refine ⟨lined.trans ?_,empty,(List.prefix_append _ _).trans log,left⟩
  have sends : sent (w.put .ready).log = sent w.log := by simp [Worker.put,sent]
  simp [line,sends]

/-- What has been given out stays given out. -/
theorem event_log (ticket : Nat) (event : Event) : w.log <+: (w.handle ticket event).log := by
  cases event with
  | data msg t => exact (message_effect w t (ticket,msg)).1
  | opened t => exact (ready_effect w t []).2.2.1
  | closed willReconnect => exact (closed_effect w willReconnect).2.2.2
  | authFailed code => exact List.prefix_append _ _
  | binary batch => exact (binary_effect w batch).2.2
  | timeout reqId => exact (timeout_effect w reqId).2.2

end Effects

/-- What holds of the worker and the record whatever happens. -/
structure Inv (w : World) : Prop where
  kept : Kept w.requests w.worker []
  came : ∀ ticket ∈ w.queued ++ (w.opened ++ w.ended), ticket < w.requests.length
  waiting : ∀ ticket ∈ w.worker.preOpen.map (·.1), ticket ∈ w.queued
  left : ∀ ticket ∈ w.opened, ticket ∉ w.worker.preOpen.map (·.1)
  lined : (line w.queued w.worker []).Pairwise (· < ·)

theorem start_inv : Inv {} where
  kept := {
    placed_once := List.nodup_nil
    placed := by rintro ticket ⟨msg,found,-⟩; cases found
    came := by intro ticket among; cases among
    unsent_once := List.nodup_nil
    items := by intro item among; cases among
    table := by constructor <;> simp }
  came := by intro ticket among; cases among
  waiting := by intro ticket among; cases among
  left := by intro ticket among; cases among
  lined := List.Pairwise.nil

section Steps
variable {w : World}

/-- What an event ends has come. -/
theorem endedBy_came (inv : Inv w) (event : Event) : ∀ ticket ∈ endedBy w.worker w.requests.length event,
    ticket < w.requests.length := by
  have framed {named : Nat → Bool} : ∀ ticket ∈ framedAs w.worker.log named, ticket < w.requests.length := by
    intro ticket among
    obtain ⟨frameId,bytes,taken,logged,-⟩ := mem_framedAs.mp among
    apply inv.kept.came
    rcases inv.kept.table.frames _ _ _ _ logged with done | ⟨entry,held,-,rfl⟩
    · exact List.mem_append_left _ done
    · exact List.mem_append_right _ (List.mem_append_left _ (List.mem_map.mpr ⟨entry,held,rfl⟩))
  intro ticket among
  cases event with
  | data msg t => cases among
  | opened t => cases among
  | closed willReconnect => exact List.mem_range.mp among
  | authFailed code => exact List.mem_range.mp among
  | timeout reqId => exact framed ticket among
  | binary batch =>
    simp only [endedBy] at among
    split_ifs at among
    · exact framed ticket among
    · cases among

theorem line_congr {queued more : List Nat} (known : ∀ ticket ∈ more, ticket ∈ queued) (worker : Worker)
    (hand : List (Nat × Request)) : line (queued ++ more) worker hand = line queued worker hand := by
  have same : (sent worker.log).filter (· ∈ queued ++ more) = (sent worker.log).filter (· ∈ queued) := by
    apply List.filter_congr
    intro ticket _
    rw [decide_eq_decide,List.mem_append]
    exact ⟨fun among => among.elim id (known ticket),.inl⟩
  rw [line,same,line]

/-- An event that brings no message leaves the record right if it puts nothing into
    the queue and lets nothing overtake. -/
theorem Inv.quiet (inv : Inv w) (event : Event) (none_ : arrivals event = [])
    (fewer : (w.worker.handle w.requests.length event).preOpen ⊆ w.worker.preOpen)
    (lined : (line w.queued (w.worker.handle w.requests.length event) []).Sublist (line w.queued w.worker []))
    (cleared : openedBy w.worker event ≠ [] → (w.worker.handle w.requests.length event).preOpen = [])
    {w' : World} (taken : step w event = some w') : Inv w' := by
  cases taken
  have known : ∀ ticket ∈ (w.worker.handle w.requests.length event).preOpen.map (·.1), ticket ∈ w.queued := by
    intro ticket among
    obtain ⟨item,held,rfl⟩ := List.mem_map.mp among
    exact inv.waiting _ (List.mem_map.mpr ⟨item,fewer held,rfl⟩)
  constructor
  case kept => exact inv.kept.event event
  case came =>
    intro ticket among
    dsimp only at among ⊢
    rw [none_,List.append_nil]
    simp only [List.mem_append] at among
    rcases among with (was | waits) | (was | opens) | (was | ends)
    · exact inv.came _ (by simp [was])
    · exact inv.came _ (by simp [known ticket waits])
    · exact inv.came _ (by simp [was])
    · refine inv.came _ (List.mem_append_left _ (inv.waiting ticket ?_))
      unfold openedBy at opens
      split at opens
      · split_ifs at opens
        · exact opens
        · cases opens
      · cases opens
    · exact inv.came _ (by simp [was])
    · exact endedBy_came inv event ticket ends
  case waiting => exact fun ticket among => List.mem_append_right _ among
  case left =>
    intro ticket among held
    rcases List.mem_append.mp among with was | opens
    · obtain ⟨item,still,rfl⟩ := List.mem_map.mp held
      exact inv.left _ was (List.mem_map.mpr ⟨item,fewer still,rfl⟩)
    · rw [cleared (List.ne_nil_of_mem opens)] at held
      cases held
  case lined =>
    dsimp only
    rw [line_congr known]
    exact inv.lined.sublist lined

/-- A message that comes is behind all others. -/
theorem Inv.data (inv : Inv w) (msg : Request) (t : Transport) {w' : World} (taken : step w (.data msg t) = some w') : Inv w' := by
  cases taken
  have fresh : w.requests.length ∉ sent w.worker.log := fun gone => Nat.lt_irrefl _ (inv.kept.sent_came gone)
  have unknown : w.requests.length ∉ w.queued := fun was => Nat.lt_irrefl _ (inv.came _ (List.mem_append_left _ was))
  have below : ∀ ticket ∈ line w.queued w.worker [], ticket < w.requests.length := by
    intro ticket among
    rcases List.mem_append.mp among with gone | waits
    · exact inv.kept.sent_came (List.mem_filter.mp gone).1
    · exact inv.kept.came ticket (List.mem_append_right _ (List.mem_append_right _ waits))
  obtain ⟨queue,lined⟩ : ((w.worker.handleDataPortMessage t (w.requests.length,msg)).preOpen.map (·.1) ⊆
      w.worker.preOpen.map (·.1) ++ [w.requests.length]) ∧
      (line (w.queued ++ (w.worker.handleDataPortMessage t (w.requests.length,msg)).preOpen.map (·.1))
        (w.worker.handleDataPortMessage t (w.requests.length,msg)) []).Pairwise (· < ·) := by
    obtain ⟨-,⟨-,queue,sends⟩ | ⟨-,sends,queue⟩⟩ := message_effect w.worker t (w.requests.length,msg)
    · rw [line_congr (by rw [queue]; exact inv.waiting),line,queue]
      refine ⟨List.subset_append_left _ _,?_⟩
      rcases sends with same | more
      · rw [same]
        exact inv.lined
      · rw [more,List.filter_append,List.filter_singleton]
        simpa [unknown,line] using inv.lined
    · rcases queue with same | more
      · rw [line_congr (by rw [same]; exact inv.waiting),line,same,sends]
        exact ⟨List.subset_append_left _ _,inv.lined⟩
      · have split : line (w.queued ++ (w.worker.handleDataPortMessage t (w.requests.length,msg)).preOpen.map (·.1))
            (w.worker.handleDataPortMessage t (w.requests.length,msg)) [] = line w.queued w.worker [] ++ [w.requests.length] := by
          have old : (sent w.worker.log).filter (· ∈ w.queued ++ (w.worker.preOpen ++ [(w.requests.length,msg)]).map (·.1)) =
              (sent w.worker.log).filter (· ∈ w.queued) := by
            apply List.filter_congr
            intro ticket gone
            have differs : ticket ≠ w.requests.length := fun same => fresh (same ▸ gone)
            have waits := inv.waiting ticket
            simp only [List.map_append,List.mem_append,List.map_cons,List.map_nil,List.mem_singleton,differs,or_false]
            rw [decide_eq_decide]
            tauto
          rw [line,line,more,sends,old]
          simp
        rw [split]
        refine ⟨by rw [more]; simp,List.pairwise_append.mpr ⟨inv.lined,List.pairwise_singleton _ _,?_⟩⟩
        intro ticket among last same
        rw [List.mem_singleton.mp same]
        exact below ticket among
  constructor
  case kept => exact inv.kept.event (.data msg t)
  case came =>
    intro ticket among
    simp only [arrivals,List.length_append,List.length_singleton,openedBy,endedBy,List.append_nil,List.mem_append] at among ⊢
    rcases among with (was | waits) | was
    · have before := inv.came ticket (by simp [was])
      omega
    · rcases List.mem_append.mp (queue waits) with was | new
      · have before := inv.came ticket (List.mem_append_left _ (inv.waiting ticket was))
        omega
      · rw [List.mem_singleton.mp new]
        exact Nat.lt_succ_self _
    · have before := inv.came ticket (by simp only [List.mem_append]; exact .inr was)
      omega
  case waiting => exact fun ticket among => List.mem_append_right _ among
  case left =>
    intro ticket among held
    simp only [openedBy,List.append_nil] at among
    rcases List.mem_append.mp (queue held) with was | new
    · exact inv.left ticket among was
    · rw [List.mem_singleton.mp new] at among
      exact Nat.lt_irrefl _ (inv.came _ (by simp [among]))
  case lined => exact lined

theorem Inv.step (inv : Inv w) (event : Event) {w' : World} (taken : step w event = some w') : Inv w' := by
  cases event with
  | data msg t => exact inv.data msg t taken
  | opened t =>
    obtain ⟨lined,empty,-,fewer⟩ := ready_effect w.worker t w.queued
    refine inv.quiet (.opened t) rfl fewer lined ?_ taken
    intro opens
    simp only [openedBy] at opens
    split_ifs at opens with open_
    · exact empty open_
    · exact (opens rfl).elim
  | closed willReconnect =>
    obtain ⟨queue,-,sends,-⟩ := closed_effect w.worker willReconnect
    refine inv.quiet (.closed willReconnect) rfl ?_ ?_ (fun opens => (opens rfl).elim) taken
    · exact fun item held => by rw [Worker.handle,queue] at held; cases held
    · rw [Worker.handle,line,line,queue,sends]
      simp
  | authFailed code =>
    have sends : sent (w.worker.put (.authFailed code)).log = sent w.worker.log := by simp [Worker.put,sent]
    refine inv.quiet (.authFailed code) rfl (fun item held => held) ?_ (fun opens => (opens rfl).elim) taken
    rw [Worker.handle,Worker.onAuthFailed,line,sends]
    exact List.Sublist.refl _
  | binary batch =>
    obtain ⟨queue,sends,-⟩ := binary_effect w.worker batch
    refine inv.quiet (.binary batch) rfl ?_ ?_ (fun opens => (opens rfl).elim) taken
    · exact fun item held => by rw [Worker.handle,queue] at held; exact held
    · rw [Worker.handle,line,line,queue,sends]
  | timeout reqId =>
    obtain ⟨queue,sends,-⟩ := timeout_effect w.worker reqId
    refine inv.quiet (.timeout reqId) rfl ?_ ?_ (fun opens => (opens rfl).elim) taken
    · exact fun item held => by rw [Worker.handle,queue] at held; exact held
    · rw [Worker.handle,line,line,queue,sends]

/-- Every request that has been ended has been replied to. -/
def Ended (w : World) : Prop := ∀ ticket ∈ w.ended, IsRequest w.requests ticket → ticket ∈ replied w.worker.log

theorem replied_once (inv : Inv w) : (replied w.worker.log).Nodup := inv.kept.placed_once.sublist (List.sublist_append_left _ _)

theorem sent_once (inv : Inv w) : (sent w.worker.log).Nodup := inv.kept.unsent_once.sublist (List.sublist_append_left _ _)

/-- A request that waits nowhere has been sent or refused. -/
theorem sent_or_refused (inv : Inv w) {ticket : Nat} (request : IsRequest w.requests ticket)
    (left : ticket ∉ w.worker.preOpen.map (·.1)) : (sent w.worker.log).count ticket = 1 ∨ Refused w.worker.log ticket := by
  have gone (was : ticket ∈ sent w.worker.log) : (sent w.worker.log).count ticket = 1 := List.count_eq_one_of_mem (sent_once inv) was
  have somewhere := inv.kept.placed ticket request
  simp only [places,List.mem_append,List.map_nil,List.not_mem_nil,or_false] at somewhere
  rcases somewhere with done | held | waits
  · obtain ⟨reqId,result,logged⟩ := mem_replied.mp done
    by_cases success : result.error = none
    · exact .inl (gone (inv.kept.table.succeeded ticket reqId result logged success))
    · exact .inr ⟨reqId,result,logged,success⟩
  · obtain ⟨entry,among,rfl⟩ := List.mem_map.mp held
    obtain ⟨bytes,logged⟩ := inv.kept.table.framed entry among
    exact .inl (gone (mem_sent.mpr ⟨_,bytes,logged⟩))
  · exact (left waits).elim

/-- The worker is sound as long as nothing that has been ended is lost. -/
theorem sound_iff (inv : Inv w) : Sound w ↔ Ended w := by
  constructor
  · intro sound ticket ended request
    have once := sound.ended ticket ended request
    exact List.count_pos_iff.mp (by omega)
  · intro ended
    constructor
    case atMostOne => exact fun ticket => List.nodup_iff_count_le_one.mp (replied_once inv) ticket
    case ended => exact fun ticket was request => List.count_eq_one_of_mem (replied_once inv) (ended ticket was request)
    case opened => exact fun ticket was request => sent_or_refused inv request (inv.left ticket was)
    case queued =>
      intro ticket _ request
      by_cases waits : ticket ∈ w.worker.preOpen.map (·.1)
      · exact .inl waits
      · exact .inr (sent_or_refused inv request waits)
    case inOrder => exact inv.lined.sublist (List.sublist_append_left _ _)

/-- The requests that an event ends are replied to. -/
def Answered (w : World) (event : Event) : Prop :=
  ∀ ticket ∈ endedBy w.worker w.requests.length event, IsRequest w.requests ticket →
    ticket ∈ replied (w.worker.handle w.requests.length event).log

theorem ended_step (inv : Inv w) (ended : Ended w) (event : Event) {w' : World} (taken : step w event = some w') :
    Ended w' ↔ Answered w event := by
  cases taken
  obtain ⟨more,log⟩ := event_log w.worker w.requests.length event
  have old {ticket : Nat} (inside : ticket < w.requests.length) :
      IsRequest (w.requests ++ arrivals event) ticket ↔ IsRequest w.requests ticket := by
    unfold IsRequest
    rw [List.getElem?_append_left inside]
  constructor
  · intro next ticket ends request
    exact next ticket (List.mem_append_right _ ends) ((old (endedBy_came inv event ticket ends)).mpr request)
  · intro answered ticket ends request
    rcases List.mem_append.mp ends with was | now
    · have before := ended ticket was ((old (inv.came ticket (by simp [was]))).mp request)
      dsimp only
      rw [← log,replied_append]
      exact List.mem_append_left _ before
    · exact answered ticket now ((old (endedBy_came inv event ticket now)).mp request)

/-- A request framed under an identifier that has just been looked up is replied to. -/
theorem framed_answered (inv : Inv w) {ticket reqId : Nat} {bytes : Bytes} {taken : Bool}
    (logged : .frame ticket reqId bytes taken ∈ w.worker.log) {worker : Worker} (kept : w.worker.log <+: worker.log)
    (answers : ∀ entry, w.worker.pending.lookup reqId = some entry → entry.ticket ∈ replied worker.log) :
    ticket ∈ replied worker.log := by
  rcases inv.kept.table.frames _ _ _ _ logged with done | ⟨⟨key,entry⟩,held,rfl,rfl⟩
  · obtain ⟨more,log⟩ := kept
    rw [← log,replied_append]
    exact List.mem_append_left _ done
  · exact answers entry (lookup_of_mem inv.kept.table.keys_once held)

theorem settle_replied (w : Worker) (entry : Entry) (reply : Reply) : replied (w.settle entry reply).log = replied w.log ++ [entry.ticket] := by
  simp [Worker.settle,Worker.replyData,Worker.put]

theorem closed_answered (inv : Inv w) (willReconnect : Bool) : Answered w (.closed willReconnect) := by
  intro ticket _ request
  obtain ⟨queue,table,-,-⟩ := closed_effect w.worker willReconnect
  have somewhere := (inv.kept.closed willReconnect).placed ticket request
  rw [Worker.handle]
  simpa [places,queue,table] using somewhere

theorem timeout_answered (inv : Inv w) (reqId : Nat) : Answered w (.timeout reqId) := by
  intro ticket ends _
  obtain ⟨frameId,bytes,taken,logged,named⟩ := mem_framedAs.mp ends
  obtain rfl : frameId = reqId := of_decide_eq_true named
  refine framed_answered inv logged (timeout_effect w.worker frameId).2.2 ?_
  intro entry found
  simp [Worker.handle,Worker.onTimeout,found,settle_replied]

theorem authFailed_answered (inv : Inv w) (code : Nat) : Answered w (.authFailed code) ↔ Timely w (.authFailed code) := by
  have log : replied (w.worker.put (.authFailed code)).log = replied w.worker.log := by simp [Worker.put,replied]
  have apart := List.nodup_append.mp inv.kept.placed_once
  constructor
  · intro answered
    have waitsNot : ∀ ticket ∈ w.worker.pending.map (·.2.ticket) ++ (w.worker.preOpen.map (·.1) ++ []),
        ¬ IsRequest w.requests ticket := by
      intro ticket held request
      have inside := inv.kept.came ticket (List.mem_append_right _ held)
      have done := answered ticket (List.mem_range.mpr inside) request
      rw [Worker.handle,Worker.onAuthFailed,log] at done
      exact apart.2.2 ticket done ticket held rfl
    constructor
    · rw [List.eq_nil_iff_forall_not_mem]
      intro entry held
      exact waitsNot _ (List.mem_append_left _ (List.mem_map.mpr ⟨entry,held,rfl⟩)) (inv.kept.table.entries entry held)
    · intro item held
      by_contra served
      refine waitsNot item.1 ?_ ⟨item.2,inv.kept.items item (List.mem_append_left _ held),served⟩
      exact List.mem_append_right _ (List.mem_append_left _ (List.mem_map.mpr ⟨item,held,rfl⟩))
  · rintro ⟨empty,unserved⟩ ticket _ request
    rw [Worker.handle,Worker.onAuthFailed,log]
    have somewhere := inv.kept.placed ticket request
    simp only [places,empty,List.map_nil,List.append_nil,List.nil_append,List.mem_append] at somewhere
    refine somewhere.resolve_right ?_
    intro waits
    obtain ⟨item,held,rfl⟩ := List.mem_map.mp waits
    obtain ⟨msg,found,served⟩ := request
    cases found.symm.trans (inv.kept.items item (List.mem_append_left _ held))
    exact served (unserved item held)

/-- What a response does to the worker. -/
theorem response_handled (worker : Worker) {batch : Bytes} (response : isResponse batch = true) (long : 6 ≤ batch.length) :
    ∃ reply, worker.onBinary batch =
      match worker.pending.lookup (responseId batch) with
      | none => worker
      | some entry => (worker.delete (responseId batch)).settle entry reply := by
  have notInput : batch.head? ≠ some msgInputBatch := by
    intro input
    cases batch with
    | nil => cases input
    | cons first rest =>
      cases input
      simp [isResponse,msgInputBatch] at response
  obtain ⟨reply,answer⟩ := response_eq batch worker.pending
  refine ⟨reply,?_⟩
  rw [Worker.onBinary,if_neg notInput,if_pos response,answer,if_neg (Nat.not_lt.mpr long)]
  cases worker.pending.lookup (responseId batch) <;> rfl

theorem binary_answered (inv : Inv w) (batch : Bytes) : Answered w (.binary batch) ↔ Timely w (.binary batch) := by
  have apart := List.nodup_append.mp inv.kept.placed_once
  have tickets := (List.nodup_append.mp apart.2.1).1
  constructor
  · intro answered response long entry held same
    obtain ⟨bytes,logged⟩ := inv.kept.table.framed entry held
    have ends : entry.2.ticket ∈ endedBy w.worker w.requests.length (.binary batch) := by
      rw [endedBy,if_pos ⟨response,long⟩]
      exact mem_framedAs.mpr ⟨entry.1,bytes,true,logged,by simpa using same⟩
    have pending : entry.2.ticket ∈ w.worker.pending.map (·.2.ticket) := List.mem_map.mpr ⟨entry,held,rfl⟩
    have unanswered : entry.2.ticket ∉ replied w.worker.log := fun done =>
      apart.2.2 _ done _ (List.mem_append_left _ pending) rfl
    have done := answered _ ends (inv.kept.table.entries entry held)
    obtain ⟨reply,handled⟩ := response_handled w.worker response long
    rw [Worker.handle,handled] at done
    cases found : w.worker.pending.lookup (responseId batch) with
    | none =>
      rw [found] at done
      exact (unanswered done).elim
    | some other =>
      rw [found,settle_replied,delete_log] at done
      rcases List.mem_append.mp done with before | now
      · exact (unanswered before).elim
      · have equal := List.inj_on_of_nodup_map tickets held (mem_of_lookup found) (List.mem_singleton.mp now)
        rw [equal]
  · intro timely ticket ends _
    rw [endedBy] at ends
    split_ifs at ends with answer
    · obtain ⟨frameId,bytes,taken,logged,named⟩ := mem_framedAs.mp ends
      refine framed_answered inv logged (binary_effect w.worker batch).2.2 ?_
      intro entry found
      have same : frameId = responseId batch :=
        timely answer.1 answer.2 (frameId,entry) (mem_of_lookup found) (of_decide_eq_true named)
      subst same
      obtain ⟨reply,handled⟩ := response_handled w.worker answer.1 answer.2
      simp [Worker.handle,handled,found,settle_replied]
    · cases ends

theorem answered_iff (inv : Inv w) (event : Event) : Answered w event ↔ Timely w event := by
  cases event with
  | data msg t => exact ⟨fun _ => trivial,fun _ ticket ends => by cases ends⟩
  | opened t => exact ⟨fun _ => trivial,fun _ ticket ends => by cases ends⟩
  | closed willReconnect => exact ⟨fun _ => trivial,fun _ => closed_answered inv willReconnect⟩
  | authFailed code => exact authFailed_answered inv code
  | binary batch => exact binary_answered inv batch
  | timeout reqId => exact ⟨fun _ => trivial,fun _ => timeout_answered inv reqId⟩

end Steps

/-- Every state that a run reaches is sound exactly if every step of the run keeps
    the condition. -/
theorem requests_replied_iff (trace : List Event) :
    AllSteps step (fun _ _ w' => Sound w') {} trace ↔ AllSteps step (fun w event _ => Timely w event) {} trace := by
  have start : Inv {} ∧ Ended {} := ⟨start_inv,by intro ticket was; cases was⟩
  have same (w : World) (event : Event) (w' : World) (inv : Inv w ∧ Ended w) (taken : step w event = some w') :
      Sound w' ↔ Timely w event :=
    (sound_iff (inv.1.step event taken)).trans ((ended_step inv.1 inv.2 event taken).trans (answered_iff inv.1 event))
  have next (w : World) (event : Event) (w' : World) (inv : Inv w ∧ Ended w) (taken : step w event = some w')
      (timely : Timely w event) : Inv w' ∧ Ended w' :=
    ⟨inv.1.step event taken,(ended_step inv.1 inv.2 event taken).mpr ((answered_iff inv.1 event).mpr timely)⟩
  constructor
  · refine allSteps_under ?_ (fun w event w' inv taken sound => (same w event w' inv taken).mp sound) start
    exact fun w event w' inv taken sound => next w event w' inv taken ((same w event w' inv taken).mp sound)
  · refine allSteps_under ?_ (fun w event w' inv taken timely => (same w event w' inv taken).mpr timely) start
    exact fun w event w' inv taken timely => next w event w' inv taken timely

/-- A request that is pending and one that is queued when authentication fails have
    been ended and have no reply. -/
theorem auth_failure_unanswered :
    (∃ w, exec step {} [.data ⟨some .sendReport,some 7,1,some [5]⟩ ⟨true,fun _ => true⟩,.authFailed 0] = some w ∧
      0 ∈ w.ended ∧ IsRequest w.requests 0 ∧ (replied w.worker.log).count 0 = 0) ∧
    (∃ w, exec step {} [.data ⟨some .receiveFeatureReport,some 7,1,none⟩ ⟨false,fun _ => false⟩,.authFailed 0] = some w ∧
      0 ∈ w.ended ∧ IsRequest w.requests 0 ∧ (replied w.worker.log).count 0 = 0) := by
  constructor
  · exact ⟨_,rfl,by decide,⟨_,rfl,by decide⟩,rfl⟩
  · exact ⟨_,rfl,by decide,⟨_,rfl,by decide⟩,rfl⟩

end FFWebHid.WorkerReplies
