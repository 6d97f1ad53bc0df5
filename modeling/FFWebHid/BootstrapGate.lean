import Mathlib.Tactic.SplitIfs
import FFWebHid.Maps
import FFWebHid.Runs

/-!
The gate through which the ports of the page's documents come to the bridge. A window
offers a port in a message; the gate probes the port with a challenge, has the context
that the window had before destroyed, and accepts the first port that answers while its
document is still the window's. A candidate that leaves its transition is closed or
accepted, so that what is left of its callbacks does nothing, and a transition that fails
is at once no reservation any more; both are dropped here.
-/
namespace FFWebHid.BootstrapGate
open FFWebHid.Maps FFWebHid.Runs

/-- What the browser says of the document in a window. -/
structure Identity where
  frameId : Option Nat := none
  documentId : Option String := none
  deriving DecidableEq, Repr

/-- `hasBrowserLifetime`. -/
def hasLifetime (identity : Identity) : Bool := identity.frameId.isSome && identity.documentId.isSome

/-- `sameBrowserLifetime`. -/
def sameLifetime (context identity : Identity) : Bool :=
  context.frameId.isSome && context.documentId.isSome && context.frameId == identity.frameId &&
    context.documentId == identity.documentId

structure FrameContext where
  port : Nat
  origin : String
  identity : Identity
  deriving DecidableEq, Repr

/-- `deadline` says that the probe's timer is running. -/
structure Candidate where
  port : Nat
  origin : String
  identity : Identity
  challenge : String
  live : Bool := false
  expired : Bool := false
  closed : Bool := false
  deadline : Bool := true
  deriving DecidableEq, Repr

/-- The right response has come. -/
def Candidate.answer (c : Candidate) : Candidate := { c with live := true, deadline := false }

/-- The probe has failed: the candidate is closed, but stays in its place. -/
def Candidate.expire (c : Candidate) : Candidate := { c with expired := true, closed := true, deadline := false }

/-- A reservation of a window. The number stands for the object. -/
structure Transition where
  number : Nat
  previous : Option FrameContext
  targetIdentity : Identity
  cleanupComplete : Bool
  candidates : List Candidate := []
  deriving DecidableEq, Repr

/-- A `destroy` under way, and the transition that waits for it. -/
structure Destroy where
  context : Nat
  source : Nat
  transition : Option Nat
  deriving DecidableEq, Repr

structure Acceptance where
  source : Nat
  port : Nat
  identity : Identity
  deriving DecidableEq, Repr

/-- `accept` and `accepted` return, or one of them throws. -/
inductive Promotion where
  | done
  | acceptThrows
  | acceptedThrows
  deriving DecidableEq, Repr

/-- Windows and ports are numbers; contexts are known by their ports. The last fields
    record what has happened: the ports closed, the probes sent, the responses that found
    a handler, the ports accepted, and how the destroys have ended. -/
structure World where
  identities : HashMap Nat Identity := ∅
  contexts : HashMap Nat FrameContext := ∅
  reservations : HashMap Nat Transition := ∅
  nextTransition : Nat := 0
  nextPort : Nat := 0
  destroys : List Destroy := []
  closed : List Nat := []
  probes : List (Nat × String) := []
  responses : List (Nat × String) := []
  accepted : List Acceptance := []
  fulfilled : List Nat := []
  rejected : List Nat := []

namespace World
variable (w : World)

/-- `browserFrameIdentity`. -/
def getIdentity (source : Nat) : Identity := (w.identities.lookup source).getD {}

def setReservation (source : Nat) (transition : Transition) : World :=
  { w with reservations := w.reservations.insert source transition }

def deleteReservation (source : Nat) : World := { w with reservations := w.reservations.erase source }

/-- `rejectBootstrapPort`. -/
def reject (port : Nat) : World := { w with closed := w.closed ++ [port] }

/-- For a candidate that is taken off the transition. -/
def closeCandidate (candidate : Candidate) : World := if candidate.closed then w else w.reject candidate.port

def closeCandidates (candidates : List Candidate) : World := candidates.foldl closeCandidate w

/-- The transition of the source has the candidates. -/
def failTransition (source : Nat) (candidates : List Candidate) : World :=
  (w.closeCandidates candidates).deleteReservation source

/-- `destroyFrameContext` up to its first wait. -/
def destroy (source : Nat) (context : FrameContext) (transition : Option Nat) : World :=
  { w with
    contexts := if w.contexts.lookup source = some context then w.contexts.erase source else w.contexts
    destroys := w.destroys ++ [⟨context.port,source,transition⟩] }

/-- `acceptBootstrapPort`. -/
def accept (source : Nat) (head : Candidate) : World :=
  { w with contexts := w.contexts.insert source ⟨head.port,head.origin,head.identity⟩ }

/-- `accepted` has returned. -/
def record (source : Nat) (head : Candidate) : World :=
  { w with accepted := w.accepted ++ [⟨source,head.port,head.identity⟩] }

/-- The end of `tryPromote`, with the candidates behind the head. -/
def promote (source : Nat) (head : Candidate) (rest : List Candidate) : Promotion → World
  | .done => (((w.accept source head).record source head).closeCandidates rest).deleteReservation source
  | .acceptThrows => (w.reject head.port).failTransition source rest
  | .acceptedThrows =>
    (((w.accept source head).destroy source ⟨head.port,head.origin,head.identity⟩ none).reject
      head.port).failTransition source rest

/-- The loop of `tryPromote` over the candidates. -/
def promoteFirst (source : Nat) (transition : Transition) (promotion : Promotion) : World → List Candidate → World
  | w,[] => w.setReservation source { transition with candidates := [] }
  | w,head :: rest =>
    if head.expired then promoteFirst source transition promotion (w.closeCandidate head) rest
    else if !head.live || !transition.cleanupComplete then
      w.setReservation source { transition with candidates := head :: rest }
    else if !hasLifetime (w.getIdentity source) then w.failTransition source (head :: rest)
    else if !sameLifetime transition.targetIdentity (w.getIdentity source) then
      (w.closeCandidates (head :: rest)).setReservation source
        { transition with candidates := [], targetIdentity := w.getIdentity source }
    else if !sameLifetime head.identity transition.targetIdentity then
      promoteFirst source transition promotion (w.closeCandidate head) rest
    else w.promote source head rest promotion

def tryPromote (source : Nat) (transition : Transition) (promotion : Promotion) : World :=
  promoteFirst source transition promotion w transition.candidates

/-- What comes with a message: the challenge that `createChallenge` makes, whether the
    probe can be posted, and how a promotion ends. -/
structure Circumstances where
  challenge : String
  posts : Bool := true
  promotion : Promotion := .done
  deriving DecidableEq, Repr

/-- The candidate is the last of its transition. -/
def addCandidate (source : Nat) (transition : Transition) (port : Nat) (origin : String) (identity : Identity)
    (c : Circumstances) : World :=
  let candidate : Candidate := { port, origin, identity, challenge := c.challenge }
  if c.posts then
    { w with probes := w.probes ++ [(port,c.challenge)] }.setReservation source
      { transition with candidates := transition.candidates ++ [candidate] }
  else
    (w.reject port).tryPromote source
      { transition with candidates := transition.candidates ++ [candidate.expire] } c.promotion

def startTransition (source port : Nat) (origin : String) (identity : Identity) (previous : Option FrameContext)
    (c : Circumstances) : World :=
  let transition : Transition :=
    { number := w.nextTransition, previous, targetIdentity := identity, cleanupComplete := previous.isNone }
  let w := { w with nextTransition := w.nextTransition + 1 }.addCandidate source transition port origin identity c
  match previous with
  | none => w
  | some context => w.destroy source context (some transition.number)

/-- The gate's handler, once it has the one port of a window with a lifetime. -/
def offered (source port : Nat) (origin : String) (identity : Identity) (c : Circumstances) : World :=
  match w.reservations.lookup source with
  | some transition =>
    if sameLifetime transition.targetIdentity identity then
      if transition.candidates.any Candidate.live then w.reject port
      else w.addCandidate source transition port origin identity c
    else
      (w.closeCandidates transition.candidates).addCandidate source
        { transition with candidates := [], targetIdentity := identity } port origin identity c
  | none =>
    let previous := w.contexts.lookup source
    if previous.any fun context => sameLifetime context.identity identity then w.reject port
    else if previous.any fun context => !hasLifetime context.identity || !hasLifetime identity then w.reject port
    else w.startTransition source port origin identity previous c

/-- A message with so many ports, which are new in the bridge. -/
def handleBootstrap (isNull : Bool) (ports : Nat) (source : Option Nat) (origin : String) (c : Circumstances) : World :=
  let port := w.nextPort
  let w := { w with nextPort := w.nextPort + ports }
  match isNull,ports,source with
  | true,1,some source =>
    let identity := w.getIdentity source
    if hasLifetime identity then w.offered source port origin identity c else w.reject port
  | _,_,_ => (List.range' port ports).foldl reject w

/-- A response at the port of a candidate; `none` is any other message. -/
def probeAnswered (source : Nat) (transition : Transition) (candidate : Candidate) (response : Option String)
    (promotion : Promotion) : World :=
  let w := { w with responses := w.responses ++ (response.map fun challenge => (candidate.port,challenge)).toList }
  if !candidate.expired && response = some candidate.challenge then
    w.tryPromote source
      { transition with
        candidates := transition.candidates.map fun other => if other = candidate then other.answer else other }
      promotion
  else w

/-- The timer of a candidate has run out. -/
def probeExpired (source : Nat) (transition : Transition) (candidate : Candidate) (promotion : Promotion) : World :=
  if candidate.expired || candidate.live || candidate.closed then w
  else
    (w.reject candidate.port).tryPromote source
      { transition with
        candidates := transition.candidates.map fun other => if other = candidate then other.expire else other }
      promotion

/-- A destroy has ended. -/
def destroyed (d : Destroy) (ok : Bool) (promotion : Promotion) : World :=
  let w := if ok then { w with fulfilled := w.fulfilled ++ [d.context] } else { w with rejected := w.rejected ++ [d.context] }
  match w.reservations.lookup d.source with
  | none => w
  | some transition =>
    if d.transition = some transition.number then
      if ok then w.tryPromote d.source { transition with cleanupComplete := true } promotion
      else w.failTransition d.source transition.candidates
    else w

end World

inductive Action where
  | identity (source : Nat) (identity : Identity)
  | message (isNull : Bool) (ports : Nat) (source : Option Nat) (origin : String) (c : World.Circumstances)
  | response (source port : Nat) (response : Option String) (promotion : Promotion)
  | timeout (source port : Nat) (promotion : Promotion)
  | destroyed (k : Nat) (ok : Bool) (promotion : Promotion)
  deriving DecidableEq, Repr

/-- The candidate whose port has a handler. -/
def candidateAt (w : World) (source port : Nat) : Option (Transition × Candidate) :=
  (w.reservations.lookup source).bind fun transition =>
    (transition.candidates.find? fun c => c.port == port && !c.closed).map fun candidate => (transition,candidate)

/-- `none` when the action cannot happen in the state. -/
def step (w : World) : Action → Option World
  | .identity source identity => some { w with identities := w.identities.insert source identity }
  | .message isNull ports source origin c => some (w.handleBootstrap isNull ports source origin c)
  | .response source port response promotion =>
    match candidateAt w source port with
    | some (transition,candidate) => some (w.probeAnswered source transition candidate response promotion)
    | none => some w
  | .timeout source port promotion =>
    match candidateAt w source port with
    | some (transition,candidate) =>
      if candidate.deadline then some (w.probeExpired source transition candidate promotion) else none
    | none => none
  | .destroyed k ok promotion =>
    (w.destroys[k]?).map fun d => { w with destroys := w.destroys.eraseIdx k }.destroyed d ok promotion

def init : World := {}

/-- No probe and no destroy is under way. -/
def settled (w : World) : Bool :=
  w.destroys.isEmpty && w.reservations.entries.all fun e => e.2.candidates.all fun c => !c.deadline

variable {w w' : World} {s : Nat} {t : Transition} {c head : Candidate} {cs rest : List Candidate} {pr : Promotion}
  {r : Acceptance} {d : Destroy}

/-- The ports of the candidates that have not been closed. -/
def openPorts (cs : List Candidate) : List Nat := (cs.filter fun c => !c.closed).map Candidate.port

theorem openPorts_append (cs rest : List Candidate) : openPorts (cs ++ rest) = openPorts cs ++ openPorts rest := by
  simp [openPorts]

theorem closeCandidates_eq (cs : List Candidate) (w : World) :
    w.closeCandidates cs = { w with closed := w.closed ++ openPorts cs } := by
  induction cs generalizing w with
  | nil => simp [World.closeCandidates,openPorts]
  | cons c cs ih =>
    show (w.closeCandidate c).closeCandidates cs = _
    rw [ih,World.closeCandidate]
    cases closed : c.closed <;> simp [openPorts,closed,World.reject]

/-- Where the loop ends: it waits for the head or for ports to come, or the window has no
    document, or the head is promoted. -/
inductive Promotes (w : World) (s : Nat) (t : Transition) (pr : Promotion) (cs : List Candidate) : World → Prop
  | waits (dropped kept : List Candidate) (targetIdentity : Identity) (split : cs = dropped ++ kept)
      (head : ∀ c, kept.head? = some c → c.expired = false ∧ (t.cleanupComplete = true → c.live = false)) :
      Promotes w s t pr cs ((w.closeCandidates dropped).setReservation s { t with candidates := kept, targetIdentity })
  | fails (complete : t.cleanupComplete = true) : Promotes w s t pr cs (w.failTransition s cs)
  | promotes (dropped : List Candidate) (head : Candidate) (rest : List Candidate) (split : cs = dropped ++ head :: rest)
      (live : head.live = true) (complete : t.cleanupComplete = true) (lifetime : hasLifetime (w.getIdentity s) = true)
      (target : sameLifetime t.targetIdentity (w.getIdentity s) = true)
      (same : sameLifetime head.identity t.targetIdentity = true) :
      Promotes w s t pr cs ((w.closeCandidates dropped).promote s head rest pr)

/-- A candidate is dropped and the loop goes on. -/
theorem Promotes.dropped (goes : Promotes (w.closeCandidate head) s t pr rest w') :
    Promotes w s t pr (head :: rest) w' := by
  have identity : (w.closeCandidate head).getIdentity s = w.getIdentity s := by
    unfold World.closeCandidate
    split_ifs <;> rfl
  cases goes with
  | waits dropped kept targetIdentity split blocked =>
    exact .waits (head :: dropped) kept targetIdentity (by rw [split]; rfl) blocked
  | fails complete => exact .fails complete
  | promotes dropped next rest split live complete lifetime target same =>
    rw [identity] at lifetime target
    exact .promotes (head :: dropped) next rest (by rw [split]; rfl) live complete lifetime target same

theorem promoteFirst_promotes (s : Nat) (t : Transition) (pr : Promotion) (w : World) (cs : List Candidate) :
    Promotes w s t pr cs (World.promoteFirst s t pr w cs) := by
  induction cs generalizing w with
  | nil => exact .waits [] [] t.targetIdentity rfl nofun
  | cons head rest ih =>
    unfold World.promoteFirst
    split_ifs with expired waits lifetime target same
    · exact (ih (w.closeCandidate head)).dropped
    · refine .waits [] (head :: rest) t.targetIdentity rfl fun c first => ?_
      obtain rfl := Option.some.inj first
      refine ⟨Bool.eq_false_iff.mpr expired,fun complete => ?_⟩
      simpa [complete] using waits
    · exact .fails (by simp_all)
    · exact .waits (head :: rest) [] (w.getIdentity s) (by simp) nofun
    · exact (ih (w.closeCandidate head)).dropped
    · exact .promotes [] head rest rfl (by simp_all) (by simp_all) (by simpa using lifetime) (by simpa using target)
        (by simpa using same)

theorem tryPromote_promotes (w : World) (s : Nat) (t : Transition) (pr : Promotion) :
    Promotes w s t pr t.candidates (w.tryPromote s t pr) := promoteFirst_promotes s t pr w t.candidates

/-- The ports of the candidates that the gate still holds. -/
def held (reservations : HashMap Nat Transition) : List Nat :=
  reservations.entries.flatMap fun e => openPorts e.2.candidates

/-- How often a port has been closed, accepted, or is held, apart from the source's own. -/
def apart (w : World) (s p : Nat) : Nat :=
  w.closed.count p + (w.accepted.map Acceptance.port).count p + (held (w.reservations.erase s)).count p

def total (w : World) (p : Nat) : Nat :=
  w.closed.count p + (w.accepted.map Acceptance.port).count p + (held w.reservations).count p

/-- Every port that was offered is in one place. -/
def Ledger (w : World) : Prop := ∀ p, total w p = if p < w.nextPort then 1 else 0

theorem held_insert (m : HashMap Nat Transition) : held (m.insert s t) = openPorts t.candidates ++ held (m.erase s) := by
  rw [held,AList.entries_insert,List.flatMap_cons]
  rfl

theorem held_lookup {m : HashMap Nat Transition} (found : m.lookup s = some t) (p : Nat) :
    (held m).count p = (openPorts t.candidates).count p + (held (m.erase s)).count p := by
  have member : s ∈ m.entries.keys := mem_iff_lookup.mpr ⟨t,found⟩
  obtain ⟨t',first,last,_,entries,erased⟩ := List.exists_of_kerase member
  obtain rfl : t = t' := by
    have inside : ⟨s,t'⟩ ∈ m.entries := by rw [entries]; simp
    exact Option.some.inj (found.symm.trans (lookup_eq_some.mpr inside))
  have rest : held (m.erase s) = (first ++ last).flatMap fun e => openPorts e.2.candidates :=
    congrArg (List.flatMap fun e : (_ : Nat) × Transition => openPorts e.2.candidates) erased
  rw [rest,held,entries]
  simp only [List.flatMap_append,List.flatMap_cons,List.count_append]
  omega

theorem held_none {m : HashMap Nat Transition} (missing : m.lookup s = none) : m.erase s = m := by
  apply AList.ext
  exact List.kerase_of_notMem_keys fun member => by
    obtain ⟨t,found⟩ := mem_iff_lookup.mp (show s ∈ m from member)
    rw [missing] at found
    cases found

theorem total_of_some (found : w.reservations.lookup s = some t) (p : Nat) :
    total w p = apart w s p + (openPorts t.candidates).count p := by
  unfold total apart
  rw [held_lookup found]
  omega

theorem total_of_none (missing : w.reservations.lookup s = none) (p : Nat) : total w p = apart w s p := by
  unfold total apart
  rw [held_none missing]

theorem total_setReservation (w : World) (s : Nat) (t : Transition) (p : Nat) :
    total (w.setReservation s t) p = apart w s p + (openPorts t.candidates).count p := by
  unfold total apart World.setReservation
  rw [held_insert,List.count_append]
  dsimp only
  omega

theorem total_deleteReservation (w : World) (s p : Nat) : total (w.deleteReservation s) p = apart w s p := rfl

theorem apart_reject (w : World) (port s p : Nat) : apart (w.reject port) s p = apart w s p + [port].count p := by
  unfold apart World.reject
  rw [List.count_append]
  dsimp only
  omega

theorem apart_closeCandidates (w : World) (cs : List Candidate) (s p : Nat) :
    apart (w.closeCandidates cs) s p = apart w s p + (openPorts cs).count p := by
  rw [closeCandidates_eq]
  unfold apart
  rw [List.count_append]
  dsimp only
  omega

theorem total_failTransition (w : World) (s : Nat) (cs : List Candidate) (p : Nat) :
    total (w.failTransition s cs) p = apart w s p + (openPorts cs).count p :=
  (total_deleteReservation _ s p).trans (apart_closeCandidates w cs s p)

theorem apart_record (w : World) (s : Nat) (head : Candidate) (p : Nat) :
    apart (w.record s head) s p = apart w s p + [head.port].count p := by
  unfold apart World.record
  rw [List.map_append,List.count_append]
  show _ = _ + [head.port].count p
  simp only [List.map_cons,List.map_nil]
  omega

theorem total_promote (w : World) (s : Nat) (head : Candidate) (rest : List Candidate) (p : Nat) :
    total (w.promote s head rest pr) p = apart w s p + [head.port].count p + (openPorts rest).count p := by
  cases pr with
  | done =>
    refine (total_deleteReservation _ s p).trans ?_
    rw [apart_closeCandidates,apart_record]
    rfl
  | acceptThrows =>
    refine (total_failTransition _ s rest p).trans ?_
    rw [apart_reject]
  | acceptedThrows =>
    refine (total_failTransition _ s rest p).trans ?_
    rw [apart_reject]
    rfl

/-- A promotion leaves every port of the candidates in one place. -/
theorem Promotes.total (goes : Promotes w s t pr cs w') (opens : ∀ c ∈ cs, c.live = true → c.closed = false) (p : Nat) :
    total w' p = apart w s p + (openPorts cs).count p := by
  cases goes with
  | waits dropped kept targetIdentity split head =>
    rw [total_setReservation,apart_closeCandidates,split,openPorts_append,List.count_append,Nat.add_assoc]
  | fails => exact total_failTransition w s cs p
  | promotes dropped head rest split live =>
    rw [total_promote,apart_closeCandidates,split,openPorts_append,List.count_append]
    have opened := opens head (by rw [split]; simp) live
    have heads : openPorts (head :: rest) = [head.port] ++ openPorts rest := by simp [openPorts,opened]
    rw [heads,List.count_append]
    omega

/-- What a step for the source leaves of the others. -/
structure Frame (s : Nat) (w w' : World) : Prop where
  reservations : ∀ o, o ≠ s → w'.reservations.lookup o = w.reservations.lookup o
  contexts : ∀ o, o ≠ s → w'.contexts.lookup o = w.contexts.lookup o
  destroys : ∀ d : Destroy, d.source ≠ s → (d ∈ w'.destroys ↔ d ∈ w.destroys)
  accepted : ∀ r : Acceptance, r.source ≠ s → (r ∈ w'.accepted ↔ r ∈ w.accepted)
  probes : w.probes ⊆ w'.probes
  responses : w.responses ⊆ w'.responses
  fulfilled : w.fulfilled ⊆ w'.fulfilled
  rejected : w.rejected ⊆ w'.rejected
  nextTransition : w.nextTransition ≤ w'.nextTransition

theorem Frame.refl (s : Nat) (w : World) : Frame s w w :=
  ⟨fun _ _ => rfl,fun _ _ => rfl,fun _ _ => .rfl,fun _ _ => .rfl,List.Subset.refl _,List.Subset.refl _,
    List.Subset.refl _,List.Subset.refl _,le_rfl⟩

theorem Frame.trans {w₁ w₂ w₃ : World} (first : Frame s w₁ w₂) (second : Frame s w₂ w₃) : Frame s w₁ w₃ where
  reservations o ne := (second.reservations o ne).trans (first.reservations o ne)
  contexts o ne := (second.contexts o ne).trans (first.contexts o ne)
  destroys d ne := (second.destroys d ne).trans (first.destroys d ne)
  accepted r ne := (second.accepted r ne).trans (first.accepted r ne)
  probes := List.Subset.trans first.probes second.probes
  responses := List.Subset.trans first.responses second.responses
  fulfilled := List.Subset.trans first.fulfilled second.fulfilled
  rejected := List.Subset.trans first.rejected second.rejected
  nextTransition := Nat.le_trans first.nextTransition second.nextTransition

theorem frame_reject (s port : Nat) (w : World) : Frame s w (w.reject port) := { Frame.refl s w with }

theorem frame_closeCandidates (s : Nat) (cs : List Candidate) (w : World) : Frame s w (w.closeCandidates cs) := by
  rw [closeCandidates_eq]
  exact { Frame.refl s w with }

theorem frame_setReservation (s : Nat) (t : Transition) (w : World) : Frame s w (w.setReservation s t) :=
  { Frame.refl s w with reservations := fun _ ne => AList.lookup_insert_ne ne }

theorem frame_deleteReservation (s : Nat) (w : World) : Frame s w (w.deleteReservation s) :=
  { Frame.refl s w with reservations := fun _ ne => AList.lookup_erase_ne ne }

theorem frame_failTransition (s : Nat) (cs : List Candidate) (w : World) : Frame s w (w.failTransition s cs) :=
  (frame_closeCandidates s cs w).trans (frame_deleteReservation s _)

theorem frame_destroy (s : Nat) (context : FrameContext) (number : Option Nat) (w : World) :
    Frame s w (w.destroy s context number) where
  __ := Frame.refl s w
  contexts o ne := by
    unfold World.destroy
    split_ifs
    · exact AList.lookup_erase_ne ne
    · rfl
  destroys d ne := by
    show d ∈ w.destroys ++ [_] ↔ _
    rw [List.mem_append,List.mem_singleton]
    exact or_iff_left fun same => ne (congrArg Destroy.source same)

theorem frame_accept (s : Nat) (head : Candidate) (w : World) : Frame s w (w.accept s head) :=
  { Frame.refl s w with contexts := fun _ ne => AList.lookup_insert_ne ne }

theorem frame_record (s : Nat) (head : Candidate) (w : World) : Frame s w (w.record s head) where
  __ := Frame.refl s w
  accepted r ne := by
    show r ∈ w.accepted ++ [_] ↔ _
    rw [List.mem_append,List.mem_singleton]
    exact or_iff_left fun same => ne (congrArg Acceptance.source same)

theorem frame_promote (s : Nat) (head : Candidate) (rest : List Candidate) (pr : Promotion) (w : World) :
    Frame s w (w.promote s head rest pr) := by
  cases pr with
  | done =>
    refine ((frame_accept s head w).trans (frame_record s head _)).trans ?_
    exact frame_failTransition s rest _
  | acceptThrows => exact (frame_reject s head.port w).trans (frame_failTransition s rest _)
  | acceptedThrows =>
    refine ((frame_accept s head w).trans (frame_destroy s ⟨head.port,head.origin,head.identity⟩ none _)).trans ?_
    exact (frame_reject s head.port _).trans (frame_failTransition s rest _)

theorem Promotes.frame (goes : Promotes w s t pr cs w') : Frame s w w' := by
  cases goes with
  | waits dropped => exact (frame_closeCandidates s dropped w).trans (frame_setReservation s _ _)
  | fails => exact frame_failTransition s cs w
  | promotes dropped head rest => exact (frame_closeCandidates s dropped w).trans (frame_promote s head rest pr _)

theorem Promotes.nextPort (goes : Promotes w s t pr cs w') : w'.nextPort = w.nextPort := by
  cases goes with
  | waits dropped => rw [closeCandidates_eq]; rfl
  | fails => rw [World.failTransition,closeCandidates_eq]; rfl
  | promotes dropped head rest =>
    rw [closeCandidates_eq]
    cases pr <;> simp only [World.promote,World.failTransition,closeCandidates_eq] <;> rfl

theorem frame_addCandidate (w : World) (s : Nat) (t : Transition) (port : Nat) (origin : String) (identity : Identity)
    (c : World.Circumstances) : Frame s w (w.addCandidate s t port origin identity c) := by
  unfold World.addCandidate
  dsimp only
  split_ifs
  · refine Frame.trans ?_ (frame_setReservation s _ _)
    exact { Frame.refl s w with probes := List.subset_append_left _ _ }
  · exact (frame_reject s port w).trans (tryPromote_promotes _ s _ c.promotion).frame

theorem frame_startTransition (w : World) (s port : Nat) (origin : String) (identity : Identity)
    (previous : Option FrameContext) (c : World.Circumstances) :
    Frame s w (w.startTransition s port origin identity previous c) := by
  have numbered : Frame s w { w with nextTransition := w.nextTransition + 1 } :=
    { Frame.refl s w with nextTransition := Nat.le_succ _ }
  have added := numbered.trans (frame_addCandidate { w with nextTransition := w.nextTransition + 1 } s
    { number := w.nextTransition, previous, targetIdentity := identity, cleanupComplete := previous.isNone } port origin
    identity c)
  cases previous with
  | none => exact added
  | some context => exact added.trans (frame_destroy s context _ _)

theorem frame_offered (w : World) (s port : Nat) (origin : String) (identity : Identity) (c : World.Circumstances) :
    Frame s w (w.offered s port origin identity c) := by
  unfold World.offered
  split
  · split_ifs
    · exact frame_reject s port w
    · exact frame_addCandidate w s _ port origin identity c
    · exact (frame_closeCandidates s _ w).trans (frame_addCandidate _ s _ port origin identity c)
  · dsimp only
    split_ifs
    · exact frame_reject s port w
    · exact frame_reject s port w
    · exact frame_startTransition w s port origin identity _ c

theorem frame_probeAnswered (w : World) (s : Nat) (t : Transition) (c : Candidate) (response : Option String)
    (pr : Promotion) : Frame s w (w.probeAnswered s t c response pr) := by
  have heard : Frame s w { w with
      responses := w.responses ++ (response.map fun challenge => (c.port,challenge)).toList } :=
    { Frame.refl s w with responses := List.subset_append_left _ _ }
  unfold World.probeAnswered
  dsimp only
  split_ifs
  · exact heard.trans (tryPromote_promotes _ s _ pr).frame
  · exact heard

theorem frame_probeExpired (w : World) (s : Nat) (t : Transition) (c : Candidate) (pr : Promotion) :
    Frame s w (w.probeExpired s t c pr) := by
  unfold World.probeExpired
  split_ifs
  · exact Frame.refl s w
  · exact (frame_reject s c.port w).trans (tryPromote_promotes _ s _ pr).frame

theorem frame_destroyed (w : World) (d : Destroy) (ok : Bool) (pr : Promotion) :
    Frame d.source w (w.destroyed d ok pr) := by
  cases ok with
  | true =>
    have ended : Frame d.source w { w with fulfilled := w.fulfilled ++ [d.context] } :=
      { Frame.refl d.source w with fulfilled := List.subset_append_left _ _ }
    unfold World.destroyed
    simp only [if_true]
    split
    · exact ended
    · split_ifs
      · exact ended.trans (tryPromote_promotes _ d.source _ pr).frame
      · exact ended
  | false =>
    have ended : Frame d.source w { w with rejected := w.rejected ++ [d.context] } :=
      { Frame.refl d.source w with rejected := List.subset_append_left _ _ }
    unfold World.destroyed
    simp only [Bool.false_eq_true,if_false]
    split
    · exact ended
    · split_ifs
      · exact ended.trans (frame_failTransition d.source _ _)
      · exact ended

/-! ### The invariant -/

/-- A candidate in a transition: its probe was sent; a live one has answered it, and
    another that is open has its timer running. -/
structure Probed (w : World) (c : Candidate) : Prop where
  sent : c.closed = false → (c.port,c.challenge) ∈ w.probes
  answered : c.live = true → (c.port,c.challenge) ∈ w.responses
  opens : c.live = true → c.closed = false
  timed : c.closed = false → c.live = false → c.deadline = true
  spent : c.expired = c.closed

/-- A transition of the source: its context is gone, and the destroy that it waits for is
    under way, or has fulfilled. -/
structure Waiting (w : World) (s : Nat) (t : Transition) : Prop where
  probed : ∀ c ∈ t.candidates, Probed w c
  cleanup : t.cleanupComplete = false → ∃ d ∈ w.destroys, d.source = s ∧ d.transition = some t.number ∧
    t.previous.map FrameContext.port = some d.context
  cleaned : t.cleanupComplete = true → ∀ context, t.previous = some context → context.port ∈ w.fulfilled
  number : t.number < w.nextTransition
  vacant : w.contexts.lookup s = none
  waited : ∀ d ∈ w.destroys, d.source = s → d.transition = some t.number →
    t.previous.map FrameContext.port = some d.context

/-- Where the context of an accepted port is. -/
inductive Accounted (w : World) (s : Nat) (reservation : Option Transition) (port : Nat) : Prop
  | stands (context : FrameContext) (found : w.contexts.lookup s = some context) (same : context.port = port)
  | fulfilled (ended : port ∈ w.fulfilled)
  | rejected (ended : port ∈ w.rejected)
  | awaited (t : Transition) (reserved : reservation = some t) (incomplete : t.cleanupComplete = false)
      (same : t.previous.map FrameContext.port = some port)

/-- What holds for one source, whose reservation is given apart. -/
structure Owned (w : World) (s : Nat) (reservation : Option Transition) : Prop where
  waiting : ∀ t, reservation = some t → Waiting w s t
  accounted : ∀ r ∈ w.accepted, r.source = s → Accounted w s reservation r.port
  older : ∀ d ∈ w.destroys, d.source = s → ∀ n, d.transition = some n → n < w.nextTransition

/-- Nothing could be promoted now. -/
def Blocked (t : Transition) : Prop :=
  ∀ c, t.candidates.head? = some c → c.expired = false ∧ (t.cleanupComplete = true → c.live = false)

structure Sound (w : World) : Prop where
  owned : ∀ s, Owned w s (w.reservations.lookup s)
  blocked : ∀ s t, w.reservations.lookup s = some t → Blocked t

theorem Sound.initial : Sound init :=
  ⟨fun _ => ⟨nofun,nofun,nofun⟩,nofun⟩

theorem Probed.mono (probed : Probed w c) (probes : w.probes ⊆ w'.probes) (responses : w.responses ⊆ w'.responses) :
    Probed w' c where
  sent opened := probes (probed.sent opened)
  answered live := responses (probed.answered live)
  opens := probed.opens
  timed := probed.timed
  spent := probed.spent

/-- What concerns the source has not changed, apart from its reservation. -/
structure Same (o : Nat) (w w' : World) : Prop where
  contexts : w'.contexts.lookup o = w.contexts.lookup o
  destroys : ∀ d : Destroy, d.source = o → (d ∈ w'.destroys ↔ d ∈ w.destroys)
  accepted : ∀ r : Acceptance, r.source = o → (r ∈ w'.accepted ↔ r ∈ w.accepted)
  probes : w.probes ⊆ w'.probes
  responses : w.responses ⊆ w'.responses
  fulfilled : w.fulfilled ⊆ w'.fulfilled
  rejected : w.rejected ⊆ w'.rejected
  nextTransition : w.nextTransition ≤ w'.nextTransition

theorem Same.refl (o : Nat) (w : World) : Same o w w :=
  ⟨rfl,fun _ _ => .rfl,fun _ _ => .rfl,List.Subset.refl _,List.Subset.refl _,List.Subset.refl _,List.Subset.refl _,le_rfl⟩

theorem Frame.same {o : Nat} (frame : Frame s w w') (ne : o ≠ s) : Same o w w' where
  contexts := frame.contexts o ne
  destroys d source := frame.destroys d (by rwa [source])
  accepted r source := frame.accepted r (by rwa [source])
  probes := frame.probes
  responses := frame.responses
  fulfilled := frame.fulfilled
  rejected := frame.rejected
  nextTransition := frame.nextTransition

theorem Waiting.same (waiting : Waiting w s t) (same : Same s w w') : Waiting w' s t where
  probed c member := (waiting.probed c member).mono same.probes same.responses
  cleanup incomplete := by
    obtain ⟨d,member,source,rest⟩ := waiting.cleanup incomplete
    exact ⟨d,(same.destroys d source).mpr member,source,rest⟩
  cleaned complete context previous := same.fulfilled (waiting.cleaned complete context previous)
  number := Nat.lt_of_lt_of_le waiting.number same.nextTransition
  vacant := same.contexts.trans waiting.vacant
  waited d member source := waiting.waited d ((same.destroys d source).mp member) source

theorem Accounted.same {reservation : Option Transition} {port : Nat} (accounted : Accounted w s reservation port)
    (same : Same s w w') : Accounted w' s reservation port := by
  cases accounted with
  | stands context found is => exact .stands context (same.contexts.trans found) is
  | fulfilled ended => exact .fulfilled (same.fulfilled ended)
  | rejected ended => exact .rejected (same.rejected ended)
  | awaited t reserved incomplete is => exact .awaited t reserved incomplete is

theorem Owned.same {reservation : Option Transition} (owned : Owned w s reservation) (same : Same s w w') :
    Owned w' s reservation where
  waiting t reserved := (owned.waiting t reserved).same same
  accounted r member source := (owned.accounted r ((same.accepted r source).mp member) source).same same
  older d member source n number :=
    Nat.lt_of_lt_of_le (owned.older d ((same.destroys d source).mp member) source n number) same.nextTransition

/-- A step for the source keeps the invariant when it does so for the source. -/
theorem Sound.framed (ok : Sound w) (frame : Frame s w w') (own : Owned w' s (w'.reservations.lookup s))
    (blocked : ∀ t, w'.reservations.lookup s = some t → Blocked t) : Sound w' where
  owned o := by
    by_cases same : o = s
    · subst same; exact own
    · rw [frame.reservations o same]
      exact (ok.owned o).same (frame.same same)
  blocked o t found := by
    by_cases same : o = s
    · subst same; exact blocked t found
    · exact ok.blocked o t ((frame.reservations o same).symm.trans found)

/-- The transition has other candidates, or another target. -/
theorem Owned.candidates (owned : Owned w s (some t)) (candidates : List Candidate) (target : Identity)
    (probed : ∀ c ∈ candidates, Probed w c) :
    Owned w s (some { t with candidates, targetIdentity := target }) where
  waiting u reserved := by
    obtain rfl := Option.some.inj reserved
    have waiting := owned.waiting t rfl
    exact ⟨probed,waiting.cleanup,waiting.cleaned,waiting.number,waiting.vacant,waiting.waited⟩
  accounted r member source := by
    cases owned.accounted r member source with
    | stands context found same => exact .stands context found same
    | fulfilled ended => exact .fulfilled ended
    | rejected ended => exact .rejected ended
    | awaited u reserved incomplete same =>
      obtain rfl := Option.some.inj reserved
      exact .awaited _ rfl incomplete same
  older := owned.older

/-- Where the context of an earlier port of the source is, once the cleanup is complete. -/
theorem Owned.ended (owned : Owned w s (some t)) (complete : t.cleanupComplete = true) (member : r ∈ w.accepted) (source : r.source = s) :
    r.port ∈ w.fulfilled ∨ r.port ∈ w.rejected := by
  cases owned.accounted r member source with
  | stands context found same =>
    rw [(owned.waiting t rfl).vacant] at found
    cases found
  | fulfilled ended => exact .inl ended
  | rejected ended => exact .inr ended
  | awaited u reserved incomplete same =>
    obtain rfl := Option.some.inj reserved
    rw [complete] at incomplete
    cases incomplete

/-- The transition has come to its end. -/
theorem Owned.without (owned : Owned w s (some t)) (complete : t.cleanupComplete = true) : Owned w s none where
  waiting := nofun
  accounted _ member source := (owned.ended complete member source).elim .fulfilled .rejected
  older := owned.older

theorem same_reject (port : Nat) (w : World) : Same s w (w.reject port) := { Same.refl s w with }

theorem same_closeCandidates (cs : List Candidate) (w : World) : Same s w (w.closeCandidates cs) := by
  rw [closeCandidates_eq]
  exact { Same.refl s w with }

theorem same_setReservation (t : Transition) (w : World) : Same s w (w.setReservation s t) := { Same.refl s w with }

theorem same_failTransition (cs : List Candidate) (w : World) : Same s w (w.failTransition s cs) := by
  unfold World.failTransition
  rw [closeCandidates_eq]
  exact { Same.refl s w with }

theorem Owned.promote (owned : Owned w s (some t)) (complete : t.cleanupComplete = true) (head : Candidate)
    (rest : List Candidate) (pr : Promotion) : Owned (w.promote s head rest pr) s none := by
  have gone := owned.without complete
  cases pr with
  | done =>
    unfold World.promote
    rw [closeCandidates_eq]
    refine ⟨nofun,fun r member source => ?_,gone.older⟩
    rcases List.mem_append.mp member with old | new
    · rcases owned.ended complete old source with ended | ended
      · exact .fulfilled ended
      · exact .rejected ended
    · obtain rfl := List.mem_singleton.mp new
      exact .stands _ (AList.lookup_insert w.contexts) rfl
  | acceptThrows => exact (gone.same (same_reject head.port w)).same (same_failTransition rest _)
  | acceptedThrows =>
    refine Owned.same ?_ (same_failTransition rest _)
    refine Owned.same ?_ (same_reject head.port _)
    refine ⟨nofun,fun r member source => ?_,fun d member source n number => ?_⟩
    · rcases owned.ended complete member source with ended | ended
      · exact .fulfilled ended
      · exact .rejected ended
    rcases List.mem_append.mp member with old | new
    · exact owned.older d old source n number
    · obtain rfl := List.mem_singleton.mp new
      cases number

/-- A promotion keeps what holds for the source. -/
theorem Promotes.sound (goes : Promotes w s t pr t.candidates w') (owned : Owned w s (some t)) :
    Owned w' s (w'.reservations.lookup s) ∧ ∀ u, w'.reservations.lookup s = some u → Blocked u := by
  have probed := (owned.waiting t rfl).probed
  cases goes with
  | waits dropped kept targetIdentity split blocked =>
    have reserved : ((w.closeCandidates dropped).setReservation s
        { t with candidates := kept, targetIdentity }).reservations.lookup s =
        some { t with candidates := kept, targetIdentity } := AList.lookup_insert _
    rw [reserved]
    refine ⟨?_,fun u same => ?_⟩
    · refine (owned.candidates kept targetIdentity fun c member => probed c ?_).same ?_
      · rw [split]
        exact List.mem_append_right _ member
      · rw [closeCandidates_eq]
        exact { Same.refl s w with }
    · obtain rfl := Option.some.inj same
      exact blocked
  | fails complete =>
    have none : (w.failTransition s t.candidates).reservations.lookup s = none := AList.lookup_erase s _
    rw [none]
    exact ⟨(owned.without complete).same (same_failTransition _ w),nofun⟩
  | promotes dropped head rest split live complete =>
    have none : ((w.closeCandidates dropped).promote s head rest pr).reservations.lookup s = none := by
      cases pr <;> exact AList.lookup_erase s _
    rw [none]
    exact ⟨(owned.same (same_closeCandidates dropped w)).promote complete head rest pr,nofun⟩

theorem Sound.promotes (ok : Sound w) (frame : Frame s w w') {w'' : World}
    (goes : Promotes w' s t pr t.candidates w'') (owned : Owned w' s (some t)) : Sound w'' := by
  obtain ⟨own,blocked⟩ := goes.sound owned
  exact ok.framed (frame.trans goes.frame) own blocked

theorem Probed.fresh {port : Nat} {origin challenge : String} {identity : Identity}
    (sent : (port,challenge) ∈ w.probes) : Probed w { port, origin, identity, challenge } :=
  ⟨fun _ => sent,nofun,nofun,fun _ _ => rfl,rfl⟩

theorem Probed.unsent {port : Nat} {origin challenge : String} {identity : Identity} :
    Probed w (Candidate.expire { port, origin, identity, challenge }) :=
  ⟨nofun,nofun,nofun,nofun,rfl⟩

theorem Sound.addCandidate {v : World} (ok : Sound v) (frame : Frame s v w) (owned : Owned w s (some t))
    (blocked : Blocked t) (port : Nat) (origin : String) (identity : Identity) (c : World.Circumstances) :
    Sound (w.addCandidate s t port origin identity c) := by
  have probed := (owned.waiting t rfl).probed
  cases posts : c.posts with
  | true =>
    let sent : World := { w with probes := w.probes ++ [(port,c.challenge)] }
    have quiet : Same s w sent := { Same.refl s w with probes := List.subset_append_left _ _ }
    have reserved : (w.addCandidate s t port origin identity c).reservations.lookup s = some
        { t with candidates := t.candidates ++ [{ port, origin, identity, challenge := c.challenge }] } := by
      simp only [World.addCandidate,posts,if_true]
      exact AList.lookup_insert _
    refine ok.framed (frame.trans (frame_addCandidate w s t port origin identity c)) ?_ ?_
    · rw [reserved]
      have added := (owned.same quiet).candidates
        (t.candidates ++ [{ port, origin, identity, challenge := c.challenge }]) t.targetIdentity ?_
      · refine added.same ?_
        simp only [World.addCandidate,posts,if_true]
        exact same_setReservation _ sent
      · intro other member
        rcases List.mem_append.mp member with old | new
        · exact (probed other old).mono quiet.probes quiet.responses
        · obtain rfl := List.mem_singleton.mp new
          exact Probed.fresh (List.mem_append_right _ (List.mem_singleton_self _))
    · rw [reserved]
      intro u same
      obtain rfl := Option.some.inj same
      intro other first
      cases candidates : t.candidates with
      | nil =>
        simp only [candidates,List.nil_append,List.head?_cons,Option.some.injEq] at first
        subst first
        exact ⟨rfl,fun _ => rfl⟩
      | cons head rest =>
        refine blocked other ?_
        simpa [candidates] using first
  | false =>
    unfold World.addCandidate
    simp only [posts,Bool.false_eq_true,if_false]
    refine ok.promotes (frame.trans (frame_reject s port w)) (tryPromote_promotes _ s _ c.promotion) ?_
    refine (owned.candidates _ t.targetIdentity fun other member => ?_).same (same_reject port w)
    rcases List.mem_append.mp member with old | new
    · exact probed other old
    · obtain rfl := List.mem_singleton.mp new
      exact Probed.unsent

/-- A transition that waits for its cleanup promotes nobody, so that the context may as
    well have been destroyed before. -/
theorem promoteFirst_destroy (incomplete : t.cleanupComplete = false) (context : FrameContext) (number : Option Nat)
    (cs : List Candidate) (w : World) : (World.promoteFirst s t pr w cs).destroy s context number =
      World.promoteFirst s t pr (w.destroy s context number) cs := by
  induction cs generalizing w with
  | nil => rfl
  | cons head rest ih =>
    unfold World.promoteFirst
    split_ifs with expired waits
    · rw [ih]
      congr 1
      unfold World.closeCandidate
      split_ifs <;> rfl
    · rfl
    all_goals simp [incomplete] at waits

theorem addCandidate_destroy (incomplete : t.cleanupComplete = false) (context : FrameContext) (number : Option Nat)
    (port : Nat) (origin : String) (identity : Identity) (c : World.Circumstances) :
    (w.addCandidate s t port origin identity c).destroy s context number =
      (w.destroy s context number).addCandidate s t port origin identity c := by
  unfold World.addCandidate
  dsimp only
  split_ifs
  · rfl
  · refine promoteFirst_destroy ?_ context number _ _
    exact incomplete

theorem Sound.startTransition (ok : Sound w) (free : w.reservations.lookup s = none) (port : Nat) (origin : String)
    (identity : Identity) (c : World.Circumstances) :
    Sound (w.startTransition s port origin identity (w.contexts.lookup s) c) := by
  have owned := ok.owned s
  rw [free] at owned
  let next : World := { w with nextTransition := w.nextTransition + 1 }
  have numbered : Frame s w next := { Frame.refl s w with nextTransition := Nat.le_succ _ }
  have older (d) (member : d ∈ w.destroys) (source : d.source = s) : d.transition ≠ some w.nextTransition :=
    fun same => absurd (owned.older d member source _ same) (Nat.lt_irrefl _)
  unfold World.startTransition
  cases standing : w.contexts.lookup s with
  | none =>
    refine ok.addCandidate numbered ⟨fun t same => ?_,fun r member source => ?_,fun d member source n number => ?_⟩
      (fun _ first => by cases first) port origin identity c
    · obtain rfl := Option.some.inj same
      exact ⟨nofun,nofun,nofun,Nat.lt_succ_self _,standing,fun d member source number => absurd number (older d member source)⟩
    · cases owned.accounted r member source with
      | stands context found same => exact .stands context found same
      | fulfilled ended => exact .fulfilled ended
      | rejected ended => exact .rejected ended
      | awaited t reserved => cases reserved
    · exact Nat.lt_succ_of_lt (owned.older d member source n number)
  | some context =>
    dsimp only
    rw [addCandidate_destroy rfl]
    refine ok.addCandidate (numbered.trans (frame_destroy s context _ next))
      ⟨fun t same => ?_,fun r member source => ?_,fun d member source n number => ?_⟩
      (fun _ first => by cases first) port origin identity c
    · obtain rfl := Option.some.inj same
      refine ⟨nofun,fun _ => ⟨_,List.mem_append_right _ (List.mem_singleton_self _),rfl,rfl,rfl⟩,nofun,
        Nat.lt_succ_self _,?_,fun d member source number => ?_⟩
      · show (if w.contexts.lookup s = some context then w.contexts.erase s else w.contexts).lookup s = none
        rw [if_pos standing]
        exact AList.lookup_erase s _
      · rcases List.mem_append.mp member with old | new
        · exact absurd number (older d old source)
        · obtain rfl := List.mem_singleton.mp new
          rfl
    · cases owned.accounted r member source with
      | stands other found same =>
        obtain rfl := Option.some.inj (found.symm.trans standing)
        exact .awaited _ rfl rfl (congrArg some same)
      | fulfilled ended => exact .fulfilled ended
      | rejected ended => exact .rejected ended
      | awaited t reserved => cases reserved
    · rcases List.mem_append.mp member with old | new
      · exact Nat.lt_succ_of_lt (owned.older d old source n number)
      · obtain rfl := List.mem_singleton.mp new
        obtain rfl := Option.some.inj number
        exact Nat.lt_succ_self _

theorem Sound.unmoved (ok : Sound w) (reservations : w'.reservations = w.reservations)
    (same : ∀ s, Same s w w') : Sound w' :=
  ⟨fun s => reservations ▸ (ok.owned s).same (same s),fun s t found => ok.blocked s t (reservations ▸ found)⟩

theorem Sound.offered (ok : Sound w) (s port : Nat) (origin : String) (identity : Identity) (c : World.Circumstances) :
    Sound (w.offered s port origin identity c) := by
  have rejected : Sound (w.reject port) := ok.unmoved rfl fun s => same_reject port w
  unfold World.offered
  split
  next t found =>
    have owned := ok.owned s
    rw [found] at owned
    split_ifs
    · exact rejected
    · exact ok.addCandidate (Frame.refl s w) owned (ok.blocked s t found) port origin identity c
    · refine ok.addCandidate (frame_closeCandidates s t.candidates w) ?_ (fun _ first => by cases first) port origin
        identity c
      exact (owned.candidates [] identity nofun).same (same_closeCandidates t.candidates w)
  next free =>
    dsimp only
    split_ifs
    · exact rejected
    · exact rejected
    · exact ok.startTransition free port origin identity c

theorem rejectAll_eq (ports : List Nat) (w : World) :
    ports.foldl World.reject w = { w with closed := w.closed ++ ports } := by
  induction ports generalizing w with
  | nil => simp
  | cons port ports ih =>
    rw [List.foldl_cons,ih]
    simp [World.reject]

theorem Sound.handleBootstrap (ok : Sound w) (isNull : Bool) (ports : Nat) (source : Option Nat) (origin : String)
    (c : World.Circumstances) : Sound (w.handleBootstrap isNull ports source origin c) := by
  have counted : Sound { w with nextPort := w.nextPort + ports } := ok.unmoved rfl fun s => { Same.refl s w with }
  unfold World.handleBootstrap
  dsimp only
  split
  · split_ifs
    · exact counted.offered _ _ origin _ c
    · exact counted.unmoved rfl fun s => same_reject _ _
  · rw [rejectAll_eq]
    exact counted.unmoved rfl fun s => { Same.refl s _ with }

variable {port : Nat}

theorem candidateAt_eq (found : candidateAt w s port = some (t,c)) : w.reservations.lookup s = some t ∧
    c ∈ t.candidates ∧ c.port = port ∧ c.closed = false := by
  unfold candidateAt at found
  obtain ⟨u,reserved,found⟩ := Option.bind_eq_some_iff.mp found
  obtain ⟨c',first,same⟩ := Option.map_eq_some_iff.mp found
  obtain ⟨rfl,rfl⟩ := Prod.mk.inj same
  have holds := List.find?_some first
  simp only [Bool.and_eq_true,beq_iff_eq,Bool.not_eq_true'] at holds
  exact ⟨reserved,List.mem_of_find?_eq_some first,holds⟩

/-- The candidate at a port becomes live. -/
theorem Probed.live {other : Candidate} (probed : Probed w other) (opened : other.closed = false)
    (responded : (other.port,other.challenge) ∈ w.responses) : Probed w other.answer where
  sent := probed.sent
  answered _ := responded
  opens _ := opened
  timed _ := nofun
  spent := probed.spent

/-- The timer of a candidate that is not live. -/
theorem Probed.expired (dead : c.live = false) : Probed w c.expire where
  sent := nofun
  answered live := by
    rw [show c.live = true from live] at dead
    cases dead
  opens live := by
    rw [show c.live = true from live] at dead
    cases dead
  timed := nofun
  spent := rfl

/-- A message that came for the candidate is recorded. -/
def heard (w : World) (c : Candidate) (response : Option String) : World :=
  { w with responses := w.responses ++ (response.map fun challenge => (c.port,challenge)).toList }

theorem same_heard (w : World) (c : Candidate) (response : Option String) (o : Nat) : Same o w (heard w c response) :=
  { Same.refl o w with responses := List.subset_append_left _ _ }

theorem Owned.answered (owned : Owned w s (some t)) (opened : c.closed = false) :
    Owned (heard w c (some c.challenge)) s
      (some { t with candidates := t.candidates.map fun other => if other = c then other.answer else other }) := by
  have same := same_heard w c (some c.challenge) s
  refine (owned.same same).candidates _ t.targetIdentity fun other inside => ?_
  obtain ⟨old,before,rfl⟩ := List.mem_map.mp inside
  have probed := ((owned.waiting t rfl).probed old before).mono same.probes same.responses
  split_ifs with equal
  · subst equal
    exact probed.live opened (List.mem_append_right _ (List.mem_singleton_self _))
  · exact probed

theorem Owned.timedOut (owned : Owned w s (some t)) (dead : c.live = false) : Owned (w.reject c.port) s
    (some { t with candidates := t.candidates.map fun other => if other = c then other.expire else other }) := by
  have same : Same s w (w.reject c.port) := same_reject c.port w
  refine (owned.same same).candidates _ t.targetIdentity fun other inside => ?_
  obtain ⟨old,before,rfl⟩ := List.mem_map.mp inside
  split_ifs with equal
  · subst equal
    exact Probed.expired dead
  · exact ((owned.waiting t rfl).probed old before).mono same.probes same.responses

/-- The response is the challenge, and the loop runs, or it only has been heard. -/
theorem probeAnswered_cases (w : World) (s : Nat) (t : Transition) (c : Candidate) (response : Option String)
    (pr : Promotion) :
    w.probeAnswered s t c response pr = heard w c response ∨ response = some c.challenge ∧
      w.probeAnswered s t c response pr = (heard w c (some c.challenge)).tryPromote s
        { t with candidates := t.candidates.map fun other => if other = c then other.answer else other } pr := by
  unfold World.probeAnswered
  dsimp only
  split_ifs with right
  · rw [Bool.and_eq_true,decide_eq_true_eq] at right
    obtain ⟨_,rfl⟩ := right
    exact .inr ⟨rfl,rfl⟩
  · exact .inl rfl

theorem Sound.probeAnswered (ok : Sound w) (found : candidateAt w s port = some (t,c)) (response : Option String)
    (pr : Promotion) : Sound (w.probeAnswered s t c response pr) := by
  obtain ⟨reserved,member,_,opened⟩ := candidateAt_eq found
  have owned := ok.owned s
  rw [reserved] at owned
  have still (response) : Sound (heard w c response) := ok.unmoved rfl (same_heard w c response)
  rcases probeAnswered_cases w s t c response pr with same | ⟨_,same⟩
  · rw [same]
    exact still response
  · rw [same]
    exact (still _).promotes (Frame.refl s _) (tryPromote_promotes _ s _ pr) (owned.answered opened)

theorem probeExpired_cases (w : World) (s : Nat) (t : Transition) (c : Candidate) (pr : Promotion) :
    w.probeExpired s t c pr = w ∨ c.live = false ∧ w.probeExpired s t c pr = (w.reject c.port).tryPromote s
      { t with candidates := t.candidates.map fun other => if other = c then other.expire else other } pr := by
  unfold World.probeExpired
  split_ifs with spent
  · exact .inl rfl
  · exact .inr ⟨by simp_all,rfl⟩

theorem Sound.probeExpired (ok : Sound w) (found : candidateAt w s port = some (t,c)) (pr : Promotion) :
    Sound (w.probeExpired s t c pr) := by
  obtain ⟨reserved,member,_,opened⟩ := candidateAt_eq found
  have owned := ok.owned s
  rw [reserved] at owned
  rcases probeExpired_cases w s t c pr with same | ⟨dead,same⟩
  · rw [same]
    exact ok
  · rw [same]
    exact ok.promotes (frame_reject s c.port w) (tryPromote_promotes _ s _ pr) (owned.timedOut dead)

theorem Owned.erased {reservation : Option Transition} {k : Nat} (owned : Owned w s reservation)
    (found : w.destroys[k]? = some d) (other : ∀ t, reservation = some t → d.transition ≠ some t.number) :
    Owned { w with destroys := w.destroys.eraseIdx k } s reservation where
  waiting t reserved := by
    have waiting := owned.waiting t reserved
    refine ⟨fun c member => { waiting.probed c member with },fun incomplete => ?_,waiting.cleaned,waiting.number,
      waiting.vacant,fun d member => waiting.waited d (List.mem_of_mem_eraseIdx member)⟩
    obtain ⟨d',member,source,number,rest⟩ := waiting.cleanup incomplete
    refine ⟨d',(mem_eraseIdx_or found member).resolve_left fun same => ?_,source,number,rest⟩
    exact other t reserved (same ▸ number)
  accounted r member source := by
    cases owned.accounted r member source with
    | stands context found same => exact .stands context found same
    | fulfilled ended => exact .fulfilled ended
    | rejected ended => exact .rejected ended
    | awaited t reserved incomplete same => exact .awaited t reserved incomplete same
  older d member := owned.older d (List.mem_of_mem_eraseIdx member)

theorem frame_erased {k : Nat} (found : w.destroys[k]? = some d) :
    Frame d.source w { w with destroys := w.destroys.eraseIdx k } where
  __ := Frame.refl d.source w
  destroys d' ne := by
    refine ⟨List.mem_of_mem_eraseIdx,fun member => (mem_eraseIdx_or found member).resolve_left fun same => ne ?_⟩
    rw [same]

/-- The destroy that the transition waits for has fulfilled. -/
theorem Owned.completed {k : Nat} (owned : Owned w s (some t)) (found : w.destroys[k]? = some d) (source : d.source = s)
    (mine : d.transition = some t.number) :
    Owned { w with destroys := w.destroys.eraseIdx k, fulfilled := w.fulfilled ++ [d.context] } s
      (some { t with cleanupComplete := true }) where
  waiting u reserved := by
    obtain rfl := Option.some.inj reserved
    have waiting := owned.waiting t rfl
    have awaited := waiting.waited d (List.mem_of_getElem? found) source mine
    refine ⟨fun c member => { waiting.probed c member with },nofun,fun _ context previous => ?_,waiting.number,
      waiting.vacant,fun d member => waiting.waited d (List.mem_of_mem_eraseIdx member)⟩
    rw [show t.previous = some context from previous] at awaited
    obtain same : context.port = d.context := Option.some.inj awaited
    rw [same]
    exact List.mem_append_right _ (List.mem_singleton_self _)
  accounted r member source' := by
    cases owned.accounted r member source' with
    | stands context found same => exact .stands context found same
    | fulfilled ended => exact .fulfilled (List.mem_append_left _ ended)
    | rejected ended => exact .rejected ended
    | awaited u reserved incomplete same =>
      obtain rfl := Option.some.inj reserved
      have awaited := (owned.waiting t rfl).waited d (List.mem_of_getElem? found) source mine
      rw [Option.some.inj (same.symm.trans awaited)]
      exact .fulfilled (List.mem_append_right _ (List.mem_singleton_self _))
  older d member := owned.older d (List.mem_of_mem_eraseIdx member)

/-- The destroy that the transition waits for has been rejected, and it fails. -/
theorem Owned.failed {k : Nat} (owned : Owned w s (some t)) (found : w.destroys[k]? = some d) (source : d.source = s)
    (mine : d.transition = some t.number) :
    Owned { w with destroys := w.destroys.eraseIdx k, rejected := w.rejected ++ [d.context] } s none where
  waiting := nofun
  accounted r member source' := by
    cases owned.accounted r member source' with
    | stands context found same => exact .stands context found same
    | fulfilled ended => exact .fulfilled ended
    | rejected ended => exact .rejected (List.mem_append_left _ ended)
    | awaited u reserved incomplete same =>
      obtain rfl := Option.some.inj reserved
      have awaited := (owned.waiting t rfl).waited d (List.mem_of_getElem? found) source mine
      rw [Option.some.inj (same.symm.trans awaited)]
      exact .rejected (List.mem_append_right _ (List.mem_singleton_self _))
  older d member := owned.older d (List.mem_of_mem_eraseIdx member)

theorem Sound.destroyed (ok : Sound w) {k : Nat} (found : w.destroys[k]? = some d) (done : Bool) (pr : Promotion) :
    Sound ({ w with destroys := w.destroys.eraseIdx k }.destroyed d done pr) := by
  have owned := ok.owned d.source
  have others (reservation) (same : w.reservations.lookup d.source = reservation)
      (other : ∀ t, reservation = some t → d.transition ≠ some t.number) :
      Sound { w with destroys := w.destroys.eraseIdx k } := by
    refine ok.framed (frame_erased found) ?_ (ok.blocked d.source)
    refine owned.erased found fun t reserved => other t (same.symm.trans reserved)
  unfold World.destroyed
  cases done with
  | true =>
    simp only [if_true]
    cases reserved : w.reservations.lookup d.source with
    | none => exact (others none reserved nofun).unmoved rfl fun s =>
        { Same.refl s _ with fulfilled := List.subset_append_left _ _ }
    | some t =>
      dsimp only
      split_ifs with mine
      · rw [reserved] at owned
        refine ok.promotes ((frame_erased found).trans ?_) (tryPromote_promotes _ d.source _ pr)
          (owned.completed found rfl mine)
        exact { Frame.refl d.source _ with fulfilled := List.subset_append_left _ _ }
      · refine (others (some t) reserved ?_).unmoved rfl fun s =>
          { Same.refl s _ with fulfilled := List.subset_append_left _ _ }
        rintro u ⟨⟩
        exact mine
  | false =>
    simp only [Bool.false_eq_true,if_false]
    cases reserved : w.reservations.lookup d.source with
    | none => exact (others none reserved nofun).unmoved rfl fun s =>
        { Same.refl s _ with rejected := List.subset_append_left _ _ }
    | some t =>
      dsimp only
      split_ifs with mine
      · rw [reserved] at owned
        let v : World := { w with destroys := w.destroys.eraseIdx k, rejected := w.rejected ++ [d.context] }
        have erased : Frame d.source w v :=
          (frame_erased found).trans { Frame.refl d.source _ with rejected := List.subset_append_left _ _ }
        have none : (v.failTransition d.source t.candidates).reservations.lookup d.source = none :=
          AList.lookup_erase d.source _
        refine ok.framed (erased.trans (frame_failTransition d.source t.candidates v)) ?_ ?_
        · rw [none]
          exact (owned.failed found rfl mine).same (same_failTransition t.candidates v)
        · rw [none]
          nofun
      · refine (others (some t) reserved ?_).unmoved rfl fun s =>
          { Same.refl s _ with rejected := List.subset_append_left _ _ }
        rintro u ⟨⟩
        exact mine

theorem step_sound {a : Action} (ok : Sound w) (taken : step w a = some w') : Sound w' := by
  cases a with
  | identity source identity =>
    obtain rfl := Option.some.inj taken
    exact ok.unmoved rfl fun s => { Same.refl s w with }
  | message isNull ports source origin c =>
    obtain rfl := Option.some.inj taken
    exact ok.handleBootstrap isNull ports source origin c
  | response source port response pr =>
    simp only [step] at taken
    split at taken
    next t c found =>
      obtain rfl := Option.some.inj taken
      exact ok.probeAnswered found response pr
    next =>
      obtain rfl := Option.some.inj taken
      exact ok
  | timeout source port pr =>
    simp only [step] at taken
    split at taken
    next t c found =>
      split_ifs at taken
      obtain rfl := Option.some.inj taken
      exact ok.probeExpired found pr
    next => cases taken
  | destroyed k done pr =>
    obtain ⟨d,found,rfl⟩ := Option.map_eq_some_iff.mp taken
    exact ok.destroyed found done pr

theorem Waiting.opens (waiting : Waiting w s t) : ∀ c ∈ t.candidates, c.live = true → c.closed = false :=
  fun c member => (waiting.probed c member).opens

theorem total_addCandidate (opens : ∀ c ∈ t.candidates, c.live = true → c.closed = false) (port : Nat) (origin : String)
    (identity : Identity) (c : World.Circumstances) (p : Nat) :
    total (w.addCandidate s t port origin identity c) p =
      apart w s p + (openPorts t.candidates).count p + [port].count p := by
  unfold World.addCandidate
  dsimp only
  split_ifs
  · rw [total_setReservation,openPorts_append,List.count_append,← Nat.add_assoc]
    rfl
  · rw [(tryPromote_promotes _ s _ c.promotion).total fun other member live => ?_,apart_reject,openPorts_append,
      List.count_append]
    · show _ + ((openPorts t.candidates).count p + 0) = _
      omega
    · rcases List.mem_append.mp member with old | new
      · exact opens other old live
      · obtain rfl := List.mem_singleton.mp new
        cases live

theorem total_startTransition (free : w.reservations.lookup s = none) (port : Nat) (origin : String)
    (identity : Identity) (previous : Option FrameContext) (c : World.Circumstances) (p : Nat) :
    total (w.startTransition s port origin identity previous c) p = total w p + [port].count p := by
  unfold World.startTransition
  cases previous with
  | none =>
    refine (total_addCandidate (fun _ member => by cases member) port origin identity c p).trans ?_
    rw [total_of_none free]
    rfl
  | some context =>
    refine (total_addCandidate (fun _ member => by cases member) port origin identity c p).trans ?_
    rw [total_of_none free]
    rfl

theorem total_offered (ok : Sound w) (s port : Nat) (origin : String) (identity : Identity) (c : World.Circumstances)
    (p : Nat) : total (w.offered s port origin identity c) p = total w p + [port].count p := by
  have rejected : total (w.reject port) p = total w p + [port].count p := by
    unfold total World.reject
    rw [List.count_append]
    dsimp only
    omega
  unfold World.offered
  split
  next t found =>
    have waiting := (ok.owned s).waiting t found
    split_ifs
    · exact rejected
    · rw [total_addCandidate waiting.opens,total_of_some found]
    · rw [total_addCandidate (fun _ member => by cases member),apart_closeCandidates,total_of_some found]
      rfl
  next free =>
    dsimp only
    split_ifs
    · exact rejected
    · exact rejected
    · exact total_startTransition free port origin identity _ c p

theorem total_handleBootstrap (ok : Sound w) (isNull : Bool) (ports : Nat) (source : Option Nat) (origin : String)
    (c : World.Circumstances) (p : Nat) : total (w.handleBootstrap isNull ports source origin c) p =
      total w p + (List.range' w.nextPort ports).count p := by
  have counted : Sound { w with nextPort := w.nextPort + ports } := ok.unmoved rfl fun s => { Same.refl s w with }
  unfold World.handleBootstrap
  dsimp only
  split
  · split_ifs
    · exact total_offered counted _ _ origin _ c p
    · unfold total World.reject
      rw [List.count_append,List.range'_one]
      dsimp only
      omega
  · rw [rejectAll_eq]
    unfold total
    rw [List.count_append]
    dsimp only
    omega

theorem openPorts_live (c : Candidate) (cs : List Candidate) :
    openPorts (cs.map fun other => if other = c then other.answer else other) = openPorts cs := by
  unfold openPorts Candidate.answer
  induction cs with
  | nil => rfl
  | cons other cs ih =>
    by_cases same : other = c <;> cases closed : other.closed <;> simp_all

theorem openPorts_cons (c : Candidate) (cs : List Candidate) :
    openPorts (c :: cs) = if c.closed then openPorts cs else c.port :: openPorts cs := by
  unfold openPorts
  rw [List.filter_cons]
  cases c.closed <;> rfl

/-- Every candidate that equals the one whose timer has run out gives its port back. -/
theorem openPorts_expired (opened : c.closed = false) (cs : List Candidate) (p : Nat) :
    (openPorts (cs.map fun other => if other = c then other.expire else other)).count p +
      cs.count c * [c.port].count p = (openPorts cs).count p := by
  induction cs with
  | nil => simp [openPorts]
  | cons other cs ih =>
    have head (xs : List Nat) : (other.port :: xs).count p = [other.port].count p + xs.count p := by
      rw [← List.count_append]
      rfl
    rw [List.map_cons,openPorts_cons,openPorts_cons other]
    by_cases same : other = c
    · subst same
      rw [if_pos rfl,if_pos (show other.expire.closed = true from rfl),opened,if_neg Bool.false_ne_true,
        List.count_cons_self,head (openPorts cs),Nat.succ_mul]
      omega
    · rw [if_neg same,List.count_cons_of_ne same]
      cases other.closed with
      | true => exact ih
      | false =>
        rw [if_neg Bool.false_ne_true,if_neg Bool.false_ne_true,head (openPorts cs),head (openPorts (cs.map _)),← ih]
        omega

theorem total_probeAnswered (ok : Sound w) (found : candidateAt w s port = some (t,c)) (response : Option String)
    (pr : Promotion) (p : Nat) : total (w.probeAnswered s t c response pr) p = total w p := by
  obtain ⟨reserved,member,_,opened⟩ := candidateAt_eq found
  have owned := ok.owned s
  rw [reserved] at owned
  rcases probeAnswered_cases w s t c response pr with same | ⟨_,same⟩
  · rw [same]
    rfl
  · rw [same,(tryPromote_promotes _ s _ pr).total ((owned.answered opened).waiting _ rfl).opens,openPorts_live,
      total_of_some reserved]
    rfl

theorem total_probeExpired (ok : Sound w) (ledger : Ledger w) (found : candidateAt w s port = some (t,c))
    (pr : Promotion) (p : Nat) : total (w.probeExpired s t c pr) p = total w p := by
  obtain ⟨reserved,member,_,opened⟩ := candidateAt_eq found
  have owned := ok.owned s
  rw [reserved] at owned
  rcases probeExpired_cases w s t c pr with same | ⟨dead,same⟩
  · rw [same]
  · have once : t.candidates.count c = 1 := by
      have some : 0 < t.candidates.count c := List.count_pos_iff.mpr member
      have bounded := ledger c.port
      rw [total_of_some reserved,← openPorts_expired opened,List.count_singleton_self] at bounded
      split_ifs at bounded <;> omega
    rw [same,(tryPromote_promotes _ s _ pr).total ((owned.timedOut dead).waiting _ rfl).opens,apart_reject,
      total_of_some reserved,← openPorts_expired opened t.candidates p,once]
    dsimp only
    omega

theorem total_destroyed (ok : Sound w) {k : Nat} (done : Bool) (pr : Promotion) (p : Nat) :
    total ({ w with destroys := w.destroys.eraseIdx k }.destroyed d done pr) p = total w p := by
  unfold World.destroyed
  cases done with
  | true =>
    simp only [if_true]
    cases reserved : w.reservations.lookup d.source with
    | none => rfl
    | some t =>
      dsimp only
      split_ifs
      · have waiting := (ok.owned d.source).waiting t reserved
        refine ((tryPromote_promotes _ d.source { t with cleanupComplete := true } pr).total waiting.opens p).trans ?_
        rw [total_of_some reserved]
        rfl
      · rfl
  | false =>
    simp only [Bool.false_eq_true,if_false]
    cases reserved : w.reservations.lookup d.source with
    | none => rfl
    | some t =>
      dsimp only
      split_ifs
      · rw [total_failTransition,total_of_some reserved]
        rfl
      · rfl

theorem offered_nextPort (s port : Nat) (origin : String) (identity : Identity) (c : World.Circumstances) :
    (w.offered s port origin identity c).nextPort = w.nextPort := by
  have added (v : World) (t : Transition) : (v.addCandidate s t port origin identity c).nextPort = v.nextPort := by
    unfold World.addCandidate
    dsimp only
    split_ifs
    · rfl
    · exact (tryPromote_promotes _ s _ c.promotion).nextPort
  unfold World.offered
  split
  · split_ifs
    · rfl
    · exact added w _
    · rw [added,closeCandidates_eq]
  · dsimp only
    split_ifs
    · rfl
    · rfl
    · unfold World.startTransition
      split <;> exact added _ _

theorem count_range' (n m p : Nat) : (List.range' n m).count p = if n ≤ p ∧ p < n + m then 1 else 0 := by
  rw [List.Nodup.count List.nodup_range']
  simp [List.mem_range'_1]

theorem ledger_of (ledger : Ledger w) (same : ∀ p, total w' p = total w p) (ports : w'.nextPort = w.nextPort) :
    Ledger w' := fun p => by rw [same,ports]; exact ledger p

theorem step_ledger {a : Action} (ok : Sound w) (ledger : Ledger w) (taken : step w a = some w') : Ledger w' := by
  cases a with
  | identity source identity =>
    obtain rfl := Option.some.inj taken
    exact ledger
  | message isNull ports source origin c =>
    obtain rfl := Option.some.inj taken
    have next : (w.handleBootstrap isNull ports source origin c).nextPort = w.nextPort + ports := by
      unfold World.handleBootstrap
      dsimp only
      split
      · split_ifs
        · exact offered_nextPort _ _ origin _ c
        · rfl
      · rw [rejectAll_eq]
    intro p
    rw [total_handleBootstrap ok,ledger p,next,count_range']
    split_ifs <;> omega
  | response source port response pr =>
    simp only [step] at taken
    split at taken
    next t c found =>
      obtain rfl := Option.some.inj taken
      refine ledger_of ledger (total_probeAnswered ok found response pr) ?_
      unfold World.probeAnswered
      dsimp only
      split_ifs
      · exact (tryPromote_promotes _ source _ pr).nextPort
      · rfl
    next =>
      obtain rfl := Option.some.inj taken
      exact ledger
  | timeout source port pr =>
    simp only [step] at taken
    split at taken
    next t c found =>
      split_ifs at taken
      obtain rfl := Option.some.inj taken
      refine ledger_of ledger (total_probeExpired ok ledger found pr) ?_
      unfold World.probeExpired
      split_ifs
      · rfl
      · exact (tryPromote_promotes _ source _ pr).nextPort
    next => cases taken
  | destroyed k done pr =>
    obtain ⟨d,found,rfl⟩ := Option.map_eq_some_iff.mp taken
    refine ledger_of ledger (total_destroyed ok done pr) ?_
    unfold World.destroyed
    cases done with
    | true =>
      simp only [if_true]
      split
      · rfl
      · split_ifs
        · exact (tryPromote_promotes _ d.source _ pr).nextPort
        · rfl
    | false =>
      simp only [Bool.false_eq_true,if_false]
      split
      · rfl
      · split_ifs
        · rw [World.failTransition,closeCandidates_eq]
          rfl
        · rfl

/-! ### What is accepted -/

theorem sameLifetime_iff {context identity : Identity} :
    sameLifetime context identity = true ↔ hasLifetime context = true ∧ context = identity := by
  obtain ⟨frameId,documentId⟩ := context
  obtain ⟨frameId',documentId'⟩ := identity
  simp only [sameLifetime,hasLifetime,Bool.and_eq_true,beq_iff_eq,Identity.mk.injEq]
  tauto

/-- What the gate knows of a port that it accepts: it has answered its probe, its document
    is the window's, the context that its transition replaces has been destroyed, and
    every destroy of an earlier context has ended. -/
structure Authentic (w w' : World) (r : Acceptance) : Prop where
  answered : ∃ challenge, (r.port,challenge) ∈ w.probes ∧ (r.port,challenge) ∈ w'.responses
  lifetime : hasLifetime r.identity = true
  current : r.identity = w.getIdentity r.source
  replaced : ∃ t, w.reservations.lookup r.source = some t ∧
    ∀ context, t.previous = some context → context.port ∈ w'.fulfilled
  earlier : ∀ before ∈ w.accepted, before.source = r.source → before.port ∈ w'.fulfilled ∨ before.port ∈ w'.rejected

/-- What a promotion knows of the port that it accepts. -/
structure Known (w : World) (s : Nat) (t : Transition) (w' : World) (r : Acceptance) : Prop where
  source : r.source = s
  answered : ∃ challenge, (r.port,challenge) ∈ w.probes ∧ (r.port,challenge) ∈ w.responses
  lifetime : hasLifetime r.identity = true
  current : r.identity = w.getIdentity s
  complete : t.cleanupComplete = true
  stands : ∃ context, w'.contexts.lookup s = some context ∧ context.identity = r.identity

theorem not_accepts {accepted : List Acceptance} (same : accepted = accepted ++ [r]) : False := by
  have := congrArg List.length same
  rw [List.length_append,List.length_singleton] at this
  omega

theorem Promotes.accepts (goes : Promotes w s t pr t.candidates w') (probed : ∀ c ∈ t.candidates, Probed w c)
    (accepts : w'.accepted = w.accepted ++ [r]) : Known w s t w' r := by
  cases goes with
  | waits dropped kept targetIdentity =>
    rw [closeCandidates_eq] at accepts
    exact (not_accepts accepts).elim
  | fails =>
    rw [World.failTransition,closeCandidates_eq] at accepts
    exact (not_accepts accepts).elim
  | promotes dropped head rest split live complete lifetime target same =>
    have inside : head ∈ t.candidates := by rw [split]; simp
    rw [closeCandidates_eq] at accepts ⊢
    cases pr with
    | done =>
      rw [World.promote,closeCandidates_eq] at accepts ⊢
      have new : ⟨s,head.port,head.identity⟩ = r := List.head_eq_of_cons_eq (List.append_cancel_left accepts)
      subst new
      have current := (sameLifetime_iff.mp target).2
      have identity := (sameLifetime_iff.mp same).2
      refine ⟨rfl,⟨head.challenge,(probed head inside).sent ((probed head inside).opens live),
        (probed head inside).answered live⟩,?_,identity.trans current,complete,
        ⟨_,AList.lookup_insert w.contexts,rfl⟩⟩
      rw [show head.identity = w.getIdentity s from identity.trans current]
      exact lifetime
    | acceptThrows =>
      simp only [World.promote,World.failTransition,closeCandidates_eq] at accepts
      exact (not_accepts accepts).elim
    | acceptedThrows =>
      simp only [World.promote,World.failTransition,closeCandidates_eq] at accepts
      exact (not_accepts accepts).elim

/-- A port is accepted in the transition that the source had. -/
theorem Known.authentic {v : World} (known : Known v s t w' r) (owned : Owned v s (some t)) (frame : Frame s v w')
    {t₀ : Transition} (reserved : w.reservations.lookup s = some t₀) (previous : t.previous = t₀.previous)
    (probes : v.probes = w.probes) (identities : v.identities = w.identities) (accepted : v.accepted = w.accepted) :
    Authentic w w' r where
  answered := by
    obtain ⟨challenge,sent,answered⟩ := known.answered
    exact ⟨challenge,probes ▸ sent,frame.responses answered⟩
  lifetime := known.lifetime
  current := by
    rw [known.current,known.source]
    unfold World.getIdentity
    rw [identities]
  replaced := by
    refine ⟨t₀,known.source.symm ▸ reserved,fun context same => ?_⟩
    exact frame.fulfilled ((owned.waiting t rfl).cleaned known.complete context (previous.trans same))
  earlier before member source :=
    (owned.ended known.complete (accepted.symm ▸ member) (source.trans known.source)).imp (frame.fulfilled ·)
      (frame.rejected ·)

/-- What a step that accepts a port has to show. -/
def Accepts (w w' : World) (r : Acceptance) : Prop :=
  Authentic w w' r ∧ ∃ context, w'.contexts.lookup r.source = some context ∧ context.identity = r.identity

theorem Known.accepts {v : World} (known : Known v s t w' r) (owned : Owned v s (some t)) (frame : Frame s v w')
    {t₀ : Transition} (reserved : w.reservations.lookup s = some t₀) (previous : t.previous = t₀.previous)
    (probes : v.probes = w.probes) (identities : v.identities = w.identities) (accepted : v.accepted = w.accepted) :
    Accepts w w' r :=
  ⟨known.authentic owned frame reserved previous probes identities accepted,known.source.symm ▸ known.stands⟩

/-- A candidate that was added to others lets one of them be accepted at most when its
    probe could not be sent. -/
theorem addCandidate_accepts (owned : Owned w s (some t)) {port : Nat} {origin : String} {identity : Identity}
    {c : World.Circumstances}
    (accepts : (w.addCandidate s t port origin identity c).accepted = w.accepted ++ [r])
    (reserved : w.reservations.lookup s = some t) : Accepts w (w.addCandidate s t port origin identity c) r := by
  unfold World.addCandidate at accepts ⊢
  dsimp only at accepts ⊢
  split_ifs at accepts ⊢
  · exact (not_accepts accepts).elim
  · have probed := (owned.waiting t rfl).probed
    let candidate : Candidate := { port, origin, identity, challenge := c.challenge }
    have unsent : Owned (w.reject port) s (some { t with candidates := t.candidates ++ [candidate.expire] }) := by
      refine (owned.candidates _ t.targetIdentity fun other member => ?_).same (same_reject port w)
      rcases List.mem_append.mp member with old | new
      · exact probed other old
      · obtain rfl := List.mem_singleton.mp new
        exact Probed.unsent
    have goes := tryPromote_promotes (w.reject port) s { t with candidates := t.candidates ++ [candidate.expire] }
      c.promotion
    have known := goes.accepts (unsent.waiting _ rfl).probed accepts
    exact known.accepts unsent goes.frame reserved rfl rfl rfl rfl

/-- A candidate that is alone is not accepted when it comes. -/
theorem addCandidate_alone (alone : t.candidates = []) (port : Nat) (origin : String) (identity : Identity)
    (c : World.Circumstances) : (w.addCandidate s t port origin identity c).accepted = w.accepted := by
  unfold World.addCandidate
  dsimp only
  rw [alone]
  split_ifs
  · rfl
  · rfl

theorem startTransition_accepted (s port : Nat) (origin : String) (identity : Identity)
    (previous : Option FrameContext) (c : World.Circumstances) :
    (w.startTransition s port origin identity previous c).accepted = w.accepted := by
  unfold World.startTransition
  cases previous with
  | none => exact addCandidate_alone rfl port origin identity c
  | some context => exact addCandidate_alone rfl port origin identity c

theorem offered_accepts (ok : Sound w) {s port : Nat} {origin : String} {identity : Identity} {c : World.Circumstances}
    (accepts : (w.offered s port origin identity c).accepted = w.accepted ++ [r]) :
    Accepts w (w.offered s port origin identity c) r := by
  unfold World.offered at accepts ⊢
  split at accepts
  next t found =>
    have owned := ok.owned s
    rw [found] at owned
    split_ifs at accepts ⊢
    · exact (not_accepts accepts).elim
    · exact addCandidate_accepts owned accepts found
    · rw [addCandidate_alone rfl,closeCandidates_eq] at accepts
      exact (not_accepts accepts).elim
  next free =>
    dsimp only at accepts
    split_ifs at accepts
    · exact (not_accepts accepts).elim
    · exact (not_accepts accepts).elim
    · rw [startTransition_accepted] at accepts
      exact (not_accepts accepts).elim

theorem step_accepts {a : Action} (ok : Sound w) (taken : step w a = some w') (accepts : w'.accepted = w.accepted ++ [r]) :
    Accepts w w' r := by
  cases a with
  | identity source identity =>
    obtain rfl := Option.some.inj taken
    exact (not_accepts accepts).elim
  | message isNull ports source origin c =>
    obtain rfl := Option.some.inj taken
    have counted : Sound { w with nextPort := w.nextPort + ports } := ok.unmoved rfl fun s => { Same.refl s w with }
    unfold World.handleBootstrap at accepts ⊢
    dsimp only at accepts ⊢
    split at accepts
    · split_ifs at accepts ⊢
      · obtain ⟨authentic,stands⟩ := offered_accepts counted accepts
        exact ⟨{ authentic with },stands⟩
      · exact (not_accepts accepts).elim
    · rw [rejectAll_eq] at accepts
      exact (not_accepts accepts).elim
  | response source port response pr =>
    simp only [step] at taken
    split at taken
    next t c found =>
      obtain rfl := Option.some.inj taken
      obtain ⟨reserved,_,_,opened⟩ := candidateAt_eq found
      have owned := ok.owned source
      rw [reserved] at owned
      rcases probeAnswered_cases w source t c response pr with same | ⟨_,same⟩
      · rw [same] at accepts
        exact (not_accepts accepts).elim
      · rw [same] at accepts ⊢
        have answered := owned.answered opened
        have goes := tryPromote_promotes (heard w c (some c.challenge)) source { t with
          candidates := t.candidates.map fun other => if other = c then other.answer else other } pr
        have known := goes.accepts (answered.waiting _ rfl).probed accepts
        exact known.accepts answered goes.frame reserved rfl rfl rfl rfl
    next =>
      obtain rfl := Option.some.inj taken
      exact (not_accepts accepts).elim
  | timeout source port pr =>
    simp only [step] at taken
    split at taken
    next t c found =>
      split_ifs at taken
      obtain rfl := Option.some.inj taken
      obtain ⟨reserved,_,_,opened⟩ := candidateAt_eq found
      have owned := ok.owned source
      rw [reserved] at owned
      rcases probeExpired_cases w source t c pr with same | ⟨dead,same⟩
      · rw [same] at accepts
        exact (not_accepts accepts).elim
      · rw [same] at accepts ⊢
        have timedOut := owned.timedOut dead
        have goes := tryPromote_promotes (w.reject c.port) source { t with
          candidates := t.candidates.map fun other => if other = c then other.expire else other } pr
        have known := goes.accepts (timedOut.waiting _ rfl).probed accepts
        exact known.accepts timedOut goes.frame reserved rfl rfl rfl rfl
    next => cases taken
  | destroyed k done pr =>
    obtain ⟨d,found,rfl⟩ := Option.map_eq_some_iff.mp taken
    have owned := ok.owned d.source
    unfold World.destroyed at accepts ⊢
    cases done with
    | true =>
      simp only [if_true] at accepts ⊢
      cases reserved : w.reservations.lookup d.source with
      | none =>
        rw [reserved] at accepts
        exact (not_accepts accepts).elim
      | some t =>
        rw [reserved] at owned accepts
        dsimp only at accepts ⊢
        split_ifs at accepts ⊢ with mine
        · have completed := owned.completed found rfl mine
          have goes := tryPromote_promotes
            { w with destroys := w.destroys.eraseIdx k, fulfilled := w.fulfilled ++ [d.context] } d.source
            { t with cleanupComplete := true } pr
          have known := goes.accepts (completed.waiting _ rfl).probed accepts
          exact known.accepts completed goes.frame reserved rfl rfl rfl rfl
        · exact (not_accepts accepts).elim
    | false =>
      simp only [Bool.false_eq_true,if_false] at accepts
      split at accepts
      · exact (not_accepts accepts).elim
      · split_ifs at accepts
        · rw [World.failTransition,closeCandidates_eq] at accepts
          exact (not_accepts accepts).elim
        · exact (not_accepts accepts).elim

theorem offered_stands (free : w.reservations.lookup s = none) {context : FrameContext} {identity : Identity}
    (found : w.contexts.lookup s = some context) (same : sameLifetime context.identity identity = true) (port : Nat)
    (origin : String) (c : World.Circumstances) : w.offered s port origin identity c = w.reject port := by
  unfold World.offered
  rw [free,found]
  simp [same]

/-- While the document of a context is the window's, the context stays. -/
theorem step_stands {a : Action} (ok : Sound w) {context : FrameContext} (found : w.contexts.lookup s = some context)
    (lifetime : hasLifetime context.identity = true) (current : w.getIdentity s = context.identity)
    (taken : step w a = some w') : w'.contexts.lookup s = some context := by
  have free : w.reservations.lookup s = none := by
    cases reserved : w.reservations.lookup s with
    | none => rfl
    | some t =>
      rw [((ok.owned s).waiting t reserved).vacant] at found
      cases found
  have framed {o : Nat} {v : World} (ne : s ≠ o) (frame : Frame o w v) :
      v.contexts.lookup s = some context := (frame.contexts s ne).trans found
  cases a with
  | identity source identity =>
    obtain rfl := Option.some.inj taken
    exact found
  | message isNull ports source origin c =>
    obtain rfl := Option.some.inj taken
    unfold World.handleBootstrap
    dsimp only
    split
    next source =>
      split_ifs
      · by_cases same : s = source
        · subst same
          let v : World := { w with nextPort := w.nextPort + 1 }
          have is : sameLifetime context.identity (v.getIdentity s) = true := sameLifetime_iff.mpr ⟨lifetime,current.symm⟩
          have rejected := offered_stands (w := v) free found is w.nextPort origin c
          rw [show ({ w with nextPort := w.nextPort + 1 } : World) = v from rfl,rejected]
          exact found
        · refine framed same (Frame.trans ?_ (frame_offered _ source _ origin _ c))
          exact { Frame.refl source w with }
      · exact found
    next =>
      rw [rejectAll_eq]
      exact found
  | response source port response pr =>
    simp only [step] at taken
    split at taken
    next t c there =>
      obtain rfl := Option.some.inj taken
      have ne : s ≠ source := fun same => by
        rw [same,(candidateAt_eq there).1] at free
        cases free
      exact framed ne (frame_probeAnswered w source t c response pr)
    next =>
      obtain rfl := Option.some.inj taken
      exact found
  | timeout source port pr =>
    simp only [step] at taken
    split at taken
    next t c there =>
      split_ifs at taken
      obtain rfl := Option.some.inj taken
      have ne : s ≠ source := fun same => by
        rw [same,(candidateAt_eq there).1] at free
        cases free
      exact framed ne (frame_probeExpired w source t c pr)
    next => cases taken
  | destroyed k done pr =>
    obtain ⟨d,there,rfl⟩ := Option.map_eq_some_iff.mp taken
    by_cases same : s = d.source
    · unfold World.destroyed
      rw [← same]
      cases done with
      | true =>
        simp only [if_true,free]
        exact found
      | false =>
        simp only [Bool.false_eq_true,if_false,free]
        exact found
    · exact framed same ((frame_erased there).trans (frame_destroyed _ d done pr))

/-- Between two ports that are accepted for one document of a window, another document was
    the window's. -/
theorem accepts_apart {a : Action} {between : List Action} {last next : World} (ok : Sound w) {context : FrameContext}
    (found : w.contexts.lookup s = some context) (lifetime : hasLifetime context.identity = true)
    (run : exec step w between = some last) (taken : step last a = some next)
    (accepts : next.accepted = last.accepted ++ [r]) (source : r.source = s) :
    ∃ first rest x, between = first ++ rest ∧ exec step w first = some x ∧ x.getIdentity s ≠ context.identity := by
  induction between generalizing w with
  | nil =>
    obtain rfl := Option.some.inj run
    exfalso
    have known := (step_accepts ok taken accepts).1
    obtain ⟨t,reserved,_⟩ := known.replaced
    rw [source] at reserved
    rw [((ok.owned s).waiting t reserved).vacant] at found
    cases found
  | cons b between ih =>
    by_cases current : w.getIdentity s = context.identity
    · obtain ⟨middle,first,rest⟩ := exec_cons.mp run
      obtain ⟨before,after,x,split,reached,differs⟩ :=
        ih (step_sound ok first) (step_stands ok found lifetime current first) rest
      exact ⟨b :: before,after,x,by rw [split]; rfl,exec_cons.mpr ⟨middle,first,reached⟩,differs⟩
    · exact ⟨[],b :: between,w,rfl,rfl,current⟩

theorem settled_held (ok : Sound w) (idle : settled w = true) : held w.reservations = [] := by
  unfold settled at idle
  rw [Bool.and_eq_true,List.isEmpty_iff,List.all_eq_true] at idle
  obtain ⟨noDestroy,quiet⟩ := idle
  refine List.flatMap_eq_nil_iff.mpr fun ⟨s,t⟩ member => ?_
  have found := lookup_eq_some.mpr member
  have waiting := (ok.owned s).waiting t found
  have blocked := ok.blocked s t found
  have complete : t.cleanupComplete = true := by
    by_contra incomplete
    obtain ⟨d,there,_⟩ := waiting.cleanup (Bool.eq_false_iff.mpr incomplete)
    rw [noDestroy] at there
    cases there
  cases candidates : t.candidates with
  | nil => rfl
  | cons head rest =>
    obtain ⟨fresh,dead⟩ := blocked head (by rw [candidates]; rfl)
    have inside : head ∈ t.candidates := by rw [candidates]; exact List.mem_cons_self
    have probed := waiting.probed head inside
    have running := probed.timed (probed.spent ▸ fresh) (dead complete)
    have idle := List.all_eq_true.mp (quiet ⟨s,t⟩ member) head inside
    rw [running] at idle
    cases idle

theorem Ledger.initial : Ledger init := fun p => by simp [total,init,held]

theorem reached {trace : List Action} (run : exec step init trace = some w) : Sound w ∧ Ledger w :=
  exec_invariant (I := fun w => Sound w ∧ Ledger w)
    (fun _ _ _ ok taken => ⟨step_sound ok.1 taken,step_ledger ok.1 ok.2 taken⟩) ⟨Sound.initial,Ledger.initial⟩ run

/-- A port is accepted only if it has answered its probe for the document that the window
    shows, after the context that its transition replaces has been destroyed; two ports
    are accepted for one document of a window only if the window has shown another in
    between; and when no probe and no destroy is under way, every port that was offered
    has been accepted, or else closed once. -/
theorem gate_keeps {trace : List Action} (run : exec step init trace = some w) :
    AllSteps step (fun w _ w' => ∀ r, w'.accepted = w.accepted ++ [r] → Authentic w w' r) init trace ∧
    (∀ before a between b after w₁ w₂ w₃ w₄ r r', trace = before ++ a :: between ++ b :: after →
      exec step init before = some w₁ → step w₁ a = some w₂ → exec step w₂ between = some w₃ → step w₃ b = some w₄ →
      w₂.accepted = w₁.accepted ++ [r] → w₄.accepted = w₃.accepted ++ [r'] → r.source = r'.source →
      ∃ first rest x, between = first ++ rest ∧ exec step w₂ first = some x ∧ x.getIdentity r.source ≠ r.identity) ∧
    (settled w = true → ∀ port, port < w.nextPort →
      (∃ r ∈ w.accepted, r.port = port) ∧ w.closed.count port = 0 ∨
        (∀ r ∈ w.accepted, r.port ≠ port) ∧ w.closed.count port = 1) := by
  refine ⟨?_,?_,fun idle port offered => ?_⟩
  · refine allSteps_of_invariant (I := Sound) (fun _ _ _ ok taken => step_sound ok taken)
      (fun _ _ _ ok taken r accepts => (step_accepts ok taken accepts).1) Sound.initial
  · intro before a between b after w₁ w₂ w₃ w₄ r r' _ reaches first runs last accepts accepts' same
    have ok := (reached reaches).1
    obtain ⟨authentic,context,found,identity⟩ := step_accepts ok first accepts
    rw [← identity]
    exact accepts_apart (step_sound ok first) found (identity ▸ authentic.lifetime) runs last accepts' same.symm
  · obtain ⟨ok,ledger⟩ := reached run
    have once := ledger port
    rw [total,settled_held ok idle,if_pos offered,List.count_nil,Nat.add_zero] at once
    by_cases accepted : ∃ r ∈ w.accepted, r.port = port
    · obtain ⟨r,member,same⟩ := accepted
      have some : 0 < (w.accepted.map Acceptance.port).count port :=
        List.count_pos_iff.mpr (List.mem_map.mpr ⟨r,member,same⟩)
      exact .inl ⟨⟨r,member,same⟩,by omega⟩
    · have none : (w.accepted.map Acceptance.port).count port = 0 := by
        refine List.count_eq_zero.mpr fun member => accepted ?_
        obtain ⟨r,inside,same⟩ := List.mem_map.mp member
        exact ⟨r,inside,same⟩
      exact .inr ⟨fun r member same => accepted ⟨r,member,same⟩,by omega⟩

/-- A window that shows a document, and then another, whose port is accepted after the
    first's context has been destroyed; a third port comes too late. -/
def replaced : List Action :=
  [.identity 0 ⟨some 7,some "a"⟩,.message true 1 (some 0) "" ⟨"p",true,.done⟩,.response 0 0 (some "p") .done,
    .identity 0 ⟨some 7,some "b"⟩,.message true 1 (some 0) "" ⟨"q",true,.done⟩,.response 0 1 (some "q") .done,
    .message true 1 (some 0) "" ⟨"r",true,.done⟩,.destroyed 0 true .done]

theorem gate_keeps_replaced : ∃ w w₂, exec step init replaced = some w ∧ exec step init (replaced.take 3) = some w₂ ∧
    AllSteps step (fun w _ w' => ∀ r, w'.accepted = w.accepted ++ [r] → Authentic w w' r) init replaced ∧
    (∃ first rest x, (replaced.drop 3).take 4 = first ++ rest ∧ exec step w₂ first = some x ∧
      x.getIdentity 0 ≠ ⟨some 7,some "a"⟩) ∧
    ∀ port, port < w.nextPort → (∃ r ∈ w.accepted, r.port = port) ∧ w.closed.count port = 0 ∨
      (∀ r ∈ w.accepted, r.port ≠ port) ∧ w.closed.count port = 1 := by
  -- the states around the two acceptances
  have facts : (exec step init (replaced.take 2)).bind (fun w₁ => (step w₁ (.response 0 0 (some "p") .done)).bind fun w₂ =>
      (exec step w₂ ((replaced.drop 3).take 4)).bind fun w₃ => (step w₃ (.destroyed 0 true .done)).map fun w₄ =>
        (w₁.accepted,w₂.accepted,w₃.accepted,w₄.accepted,settled w₄)) =
      some ([],[⟨0,0,⟨some 7,some "a"⟩⟩],[⟨0,0,⟨some 7,some "a"⟩⟩],
        [⟨0,0,⟨some 7,some "a"⟩⟩,⟨0,1,⟨some 7,some "b"⟩⟩],true) := by decide
  obtain ⟨w₁,run₁,facts⟩ := Option.bind_eq_some_iff.mp facts
  obtain ⟨w₂,step₂,facts⟩ := Option.bind_eq_some_iff.mp facts
  obtain ⟨w₃,run₃,facts⟩ := Option.bind_eq_some_iff.mp facts
  obtain ⟨w₄,step₄,facts⟩ := Option.map_eq_some_iff.mp facts
  simp only [Prod.mk.injEq] at facts
  obtain ⟨none,first,still,second,idle⟩ := facts
  have run₂ : exec step init (replaced.take 3) = some w₂ := exec_append.mpr ⟨w₁,run₁,exec_cons.mpr ⟨w₂,step₂,rfl⟩⟩
  have run : exec step init replaced = some w₄ :=
    exec_append.mpr ⟨w₂,run₂,exec_append.mpr ⟨w₃,run₃,exec_cons.mpr ⟨w₄,step₄,rfl⟩⟩⟩
  obtain ⟨authentic,apart,once⟩ := gate_keeps run
  refine ⟨w₄,w₂,run,run₂,authentic,?_,once idle⟩
  exact apart (replaced.take 2) (.response 0 0 (some "p") .done) ((replaced.drop 3).take 4) (.destroyed 0 true .done) []
    w₁ w₂ w₃ w₄ ⟨0,0,⟨some 7,some "a"⟩⟩ ⟨0,1,⟨some 7,some "b"⟩⟩ rfl run₁ step₂ run₃ step₄ (by rw [none,first]; rfl)
    (by rw [still,second]; rfl) rfl

/-- A document that comes back to its window has a second port accepted. -/
theorem document_returns : ¬ ∀ w (trace : List Action), exec step init trace = some w →
    ∀ r ∈ w.accepted, ∀ r' ∈ w.accepted, r.source = r'.source → sameLifetime r.identity r'.identity = true →
      r.port = r'.port := by
  intro one
  have facts : (exec step init
      [.identity 0 ⟨some 7,some "a"⟩,.message true 1 (some 0) "" ⟨"p",true,.done⟩,.response 0 0 (some "p") .done,
        .identity 0 ⟨some 7,some "b"⟩,.message true 1 (some 0) "" ⟨"q",true,.done⟩,.response 0 1 (some "q") .done,
        .destroyed 0 true .done,.identity 0 ⟨some 7,some "a"⟩,.message true 1 (some 0) "" ⟨"r",true,.done⟩,
        .response 0 2 (some "r") .done,.destroyed 0 true .done]).map World.accepted =
      some [⟨0,0,⟨some 7,some "a"⟩⟩,⟨0,1,⟨some 7,some "b"⟩⟩,⟨0,2,⟨some 7,some "a"⟩⟩] := by decide
  obtain ⟨w,run,accepted⟩ := Option.map_eq_some_iff.mp facts
  have same := one w _ run ⟨0,0,⟨some 7,some "a"⟩⟩ (by rw [accepted]; simp) ⟨0,2,⟨some 7,some "a"⟩⟩
    (by rw [accepted]; simp) rfl (by decide)
  cases same

end FFWebHid.BootstrapGate
