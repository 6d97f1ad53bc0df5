import FFWebHid.Maps
import FFWebHid.Runs
import FFWebHid.Types
import FFWebHid.Registry
import FFWebHid.Lifecycle
import FFWebHid.Coherence
import FFWebHid.Sections
import FFWebHid.Threads
import FFWebHid.Safety
import FFWebHid.Operations
import FFWebHid.Reservations

/-!
The protocol of a first open. The reservations that are taken are those of the
clients that hold one, so that one client opens a device at a time; and a generation
is published once, by the client that took it, unless the reservation was
invalidated before.
-/
namespace FFWebHid.OpenProtocol
open FFWebHid.Runs FFWebHid.Types FFWebHid.Maps FFWebHid.Registry FFWebHid.Lifecycle FFWebHid.Coherence
open FFWebHid.Sections FFWebHid.Threads FFWebHid.Safety FFWebHid.Operations FFWebHid.Reservations

section
variable {daemon : Daemon} {w w' : World}

/-- A token that was drawn and that nobody registers any more. -/
structure Spent (w : World) (t : Token) : Prop where
  issued : t ∈ w.shared.issued
  absent : w.mgr.sessions.lookup t = none
  apart : ∀ c call, pendingCall (w.client c) = some call → call.token ≠ t

theorem Move.issued (move : Move daemon w w') {t : Token} (issued : t ∈ w.shared.issued) : t ∈ w'.shared.issued := by
  cases move with
  | quiet shared _ => exact shared.issued ▸ issued
  | issues _ _ _ _ _ result => exact result ▸ List.mem_cons_of_mem _ issued
  | reserves _ _ _ _ _ _ result => exact result ▸ issued
  | builds _ _ _ _ _ _ result => exact result ▸ issued
  | registers _ _ _ _ _ _ _ _ _ _ _ result => exact result ▸ issued

/-- A token that is new is that of an open which starts. -/
theorem Move.started (move : Move daemon w w') {t : Token} (issued : t ∈ w'.shared.issued) :
    t ∈ w.shared.issued ∨ ∃ c call, pendingCall (w'.client c) = some call ∧ call.token = t := by
  cases move with
  | quiet shared _ => exact Or.inl (shared.issued ▸ issued)
  | issues c d token idle fresh result =>
    subst result
    rcases List.mem_cons.mp issued with rfl | known
    · exact Or.inr ⟨c,⟨d,t⟩,by simp [withClient,pendingCall],rfl⟩
    · exact Or.inl known
  | reserves _ _ _ _ _ _ result => subst result; exact Or.inl issued
  | builds _ _ _ _ _ _ result => subst result; exact Or.inl issued
  | registers _ _ _ _ _ _ _ _ _ _ _ result => subst result; exact Or.inl issued

/-- Reservations are counted upwards. -/
theorem Move.generation (move : Move daemon w w') : w.mgr.nextLifetimeGeneration ≤ w'.mgr.nextLifetimeGeneration := by
  cases move with
  | quiet shared _ => exact Nat.le_of_eq shared.mgr.generation.symm
  | issues _ _ _ _ _ result => exact result ▸ Nat.le_refl _
  | reserves _ _ m _ _ generation result =>
    subst result
    show _ ≤ m.nextLifetimeGeneration
    omega
  | builds _ _ _ _ _ _ result => exact result ▸ Nat.le_refl _
  | registers _ _ _ _ m _ _ registered _ _ _ result =>
    subst result
    exact Nat.le_of_eq registered.generation.symm

/-- An open that is pending was pending before, or its token is new. -/
theorem Move.pending (move : Move daemon w w') {c : ClientId} {call : OpenCall}
    (pending : pendingCall (w'.client c) = some call) :
    pendingCall (w.client c) = some call ∨ call.token ∉ w.shared.issued := by
  have kept {other : ClientId} {pc : ClientPc} {sh : Shared} (result : w' = withClient w other pc sh)
      (here : pendingCall pc = some call → pendingCall (w.client other) = some call ∨ call.token ∉ w.shared.issued) :
      pendingCall (w.client c) = some call ∨ call.token ∉ w.shared.issued := by
    subst result
    by_cases same : c = other
    · subst same
      exact here (by simpa [withClient] using pending)
    · exact Or.inl (by simpa [withClient,same] using pending)
  cases move with
  | quiet _ inherits => exact Or.inl ((inherits c).pending call pending)
  | issues other d t idle fresh result =>
    refine kept result fun here => Or.inr ?_
    cases here
    exact fun known => (fresh _ known).1 rfl
  | reserves other reserved m waits _ _ result => exact kept result fun here => Or.inl (waits.trans here)
  | builds other built g info numbered before result =>
    refine kept result fun here => Or.inl ?_
    rw [before]; exact here
  | registers other registered d pc m _ _ _ _ _ finished result =>
    refine kept result fun here => ?_
    rw [finished.1] at here; cases here

theorem Spent.step {t : Token} (move : Move daemon w w') (spent : Spent w t) : Spent w' t := by
  refine ⟨Move.issued move spent.issued,?_,?_⟩
  · cases move with
    | quiet shared _ => exact shared.mgr.noNew t spent.absent
    | issues _ _ _ _ _ result => exact result ▸ spent.absent
    | reserves _ _ m _ same _ result =>
      subst result
      show m.sessions.lookup t = none
      rw [same.sessions]; exact spent.absent
    | builds _ _ _ _ _ _ result => exact result ▸ spent.absent
    | registers c call d pc m pending _ registered _ _ _ result =>
      subst result
      show m.sessions.lookup t = none
      rw [registered.others t (spent.apart c call pending).symm]; exact spent.absent
  · intro c call pending same
    rcases Move.pending move pending with before | new
    · exact spent.apart c call before same
    · exact new (same ▸ spent.issued)

/-- No entry of the generation is published. -/
def Unpublished (m : DeviceManager) (g : Nat) : Prop := ∀ d e, m.devices.lookup d = some e → e.lifetime ≠ g

theorem holding_generation {pc : ClientPc} {d : DeviceId} {g : Nat} (holds : holding pc = some (d,g)) :
    generationOf pc = some g := by
  unfold holding at holds
  split at holds
  · obtain ⟨g',held,same⟩ := Option.map_eq_some_iff.mp holds
    cases same; exact held
  · cases holds

theorem holding_opening {pc : ClientPc} {d : DeviceId} {g : Nat} (holds : holding pc = some (d,g)) :
    ∃ call open', pc = .opening call open' ∧ call.deviceId = d := by
  unfold holding at holds
  split at holds
  · obtain ⟨g',_,same⟩ := Option.map_eq_some_iff.mp holds
    cases same; exact ⟨_,_,rfl,rfl⟩
  · cases holds

/-- A generation that is not published stays so while nobody may publish it. -/
theorem Change.unpublished {r : Option OpenResult} {g : Nat} (change : Change daemon w r w')
    (never : w.mgr.invalidated g = true ∨ ∀ c, publisher (w.client c) ≠ some g) (unpublished : Unpublished w.mgr g) :
    Unpublished w'.mgr g := by
  intro d e present
  cases change with
  | keeps _ _ _ _ _ devices => exact unpublished d e (devices d e present)
  | reserves _ _ _ _ _ _ _ _ _ _ _ _ _ devices => exact unpublished d e (devices ▸ present)
  | releases _ _ _ _ _ _ _ _ _ _ devices => exact unpublished d e (devices ▸ present)
  | decides result _ c _ own _ _ _ _ answered =>
    cases answered with
    | attached _ _ _ _ _ devices => exact unpublished d e (devices ▸ present)
    | refused _ same => exact unpublished d e (same ▸ present)
    | published id _ entry mine valid _ _ devices =>
      rw [devices,lookup_insert_eq] at present
      by_cases here : d = id
      · rw [if_pos here] at present
        cases present
        rintro rfl
        rcases never with told | nobody
        · rw [valid] at told; cases told
        · exact nobody c (own.trans mine)
      · rw [if_neg here] at present
        exact unpublished d e present

/-! ### The invariant -/

structure Protocol (o : Observed) : Prop where
  held : ∀ c d g, holding (o.world.client c) = some (d,g) → o.mgr.opening.lookup d = some ⟨g⟩
  owned : ∀ d r, o.mgr.opening.lookup d = some r → ∃ c, holding (o.world.client c) = some (d,r.generation)
  unpublished : ∀ c g, publisher (o.world.client c) = some g → Unpublished o.mgr g
  single : ∀ d d' e e', o.mgr.devices.lookup d = some e → o.mgr.devices.lookup d' = some e' →
    e.lifetime = e'.lifetime → d = d'
  answered : ∀ t ∈ o.world.shared.issued, (∃ c call, pendingCall (o.world.client c) = some call ∧ call.token = t) ∨
    ∃ r ∈ o.results, r.call.token = t
  spent : ∀ r ∈ o.results, r.answer = none → Spent o.world r.call.token
  retired : ∀ r ∈ o.results, ∀ g, r.generation = some g →
    g ≤ o.mgr.nextLifetimeGeneration ∧ ∀ c, publisher (o.world.client c) ≠ some g
  abandoned : ∀ r ∈ o.results, r.answer = none → ∀ g, r.generation = some g → Unpublished o.mgr g

/-- The reservations in the map are those that clients hold. -/
private theorem held_step {r : Option OpenResult} (ok : WorldOk daemon w) (change : Change daemon w r w')
    (held : ∀ c d g, holding (w.client c) = some (d,g) → w.mgr.opening.lookup d = some ⟨g⟩) :
    ∀ c d g, holding (w'.client c) = some (d,g) → w'.mgr.opening.lookup d = some ⟨g⟩ := by
  intro c d g holds
  cases change with
  | keeps _ reservations same =>
    rw [reservations.opening]
    exact held c d g (same c ▸ holds)
  | reserves _ c₀ d₀ g₀ free empty _ opening _ here _ _ others _ =>
    rw [opening,lookup_insert_eq]
    by_cases mine : c = c₀
    · subst mine
      rw [here] at holds
      cases holds
      rw [if_pos rfl]
    · rw [others c mine] at holds
      have before := held c d g holds
      rw [if_neg (by rintro rfl; rw [free] at before; cases before)]
      exact before
  | decides _ _ c₀ _ _ _ same reservations others _ =>
    rw [reservations.opening]
    by_cases mine : c = c₀
    · subst mine; exact held c d g (same ▸ holds)
    · exact held c d g (others c mine ▸ holds)
  | releases _ c₀ d₀ g₀ mine₀ _ opening _ gone others _ =>
    by_cases mine : c = c₀
    · subst mine
      rw [gone.1] at holds; cases holds
    · rw [others c mine] at holds
      have before := held c d g holds
      have given := held c₀ d₀ g₀ mine₀
      have apart : d ≠ d₀ := by
        rintro rfl
        rw [before] at given
        cases given
        exact mine (ok.reservedApart c c₀ g (holding_generation holds) (holding_generation mine₀))
      rw [opening,if_pos given,lookup_erase_eq,if_neg apart]
      exact before

private theorem owned_step {r : Option OpenResult} (change : Change daemon w r w')
    (held : ∀ c d g, holding (w.client c) = some (d,g) → w.mgr.opening.lookup d = some ⟨g⟩)
    (owned : ∀ d r, w.mgr.opening.lookup d = some r → ∃ c, holding (w.client c) = some (d,r.generation)) :
    ∀ d r, w'.mgr.opening.lookup d = some r → ∃ c, holding (w'.client c) = some (d,r.generation) := by
  intro d reservation present
  cases change with
  | keeps _ reservations same =>
    rw [reservations.opening] at present
    obtain ⟨c,holds⟩ := owned d reservation present
    exact ⟨c,(same c).trans holds⟩
  | reserves _ c₀ d₀ g₀ free empty _ opening _ here _ _ others _ =>
    rw [opening,lookup_insert_eq] at present
    by_cases mine : d = d₀
    · subst mine
      rw [if_pos rfl] at present
      cases present
      exact ⟨c₀,here⟩
    · rw [if_neg mine] at present
      obtain ⟨c,holds⟩ := owned d reservation present
      refine ⟨c,?_⟩
      rw [others c (by rintro rfl; rw [empty] at holds; cases holds)]
      exact holds
  | decides _ _ c₀ _ _ _ same reservations others _ =>
    rw [reservations.opening] at present
    obtain ⟨c,holds⟩ := owned d reservation present
    refine ⟨c,?_⟩
    by_cases mine : c = c₀
    · subst mine; rw [same]; exact holds
    · rw [others c mine]; exact holds
  | releases _ c₀ d₀ g₀ mine₀ _ opening _ _ others _ =>
    rw [opening,if_pos (held c₀ d₀ g₀ mine₀),lookup_erase_eq] at present
    by_cases mine : d = d₀
    · rw [if_pos mine] at present; cases present
    · rw [if_neg mine] at present
      obtain ⟨c,holds⟩ := owned d reservation present
      refine ⟨c,?_⟩
      rw [others c (by rintro rfl; rw [mine₀] at holds; cases holds; exact mine rfl)]
      exact holds

/-- Nobody but its client publishes a generation, and only once. -/
private theorem unpublished_step {r : Option OpenResult} (ok : WorldOk daemon w) (change : Change daemon w r w')
    (unpublished : ∀ c g, publisher (w.client c) = some g → Unpublished w.mgr g) :
    ∀ c g, publisher (w'.client c) = some g → Unpublished w'.mgr g := by
  intro c g publishes
  have only {c₀ : ClientId} (before : publisher (w.client c) = some g) (other : publisher (w.client c₀) = some g) :
      c = c₀ := ok.reservedApart c c₀ g (publisher_generation before) (publisher_generation other)
  cases change with
  | keeps _ _ _ publishers _ devices =>
    exact fun d e present => unpublished c g (publishers c g publishes) d e (devices d e present)
  | reserves _ c₀ d₀ g₀ _ _ fresh _ _ _ here _ others devices =>
    intro d e present
    rw [devices] at present
    by_cases mine : c = c₀
    · subst mine
      rw [here] at publishes
      cases publishes
      have known := (ok.built _ e (ok.published d e present)).1
      rw [fresh]
      exact Nat.ne_of_lt (Nat.lt_succ_of_le known)
    · rw [others c mine] at publishes
      exact unpublished c g publishes d e present
  | decides result _ c₀ _ own finished _ _ others answered =>
    by_cases mine : c = c₀
    · subst mine
      rw [finished.2] at publishes; cases publishes
    · rw [others c mine] at publishes
      have before := unpublished c g publishes
      cases answered with
      | attached _ _ _ _ _ devices => exact fun d e present => before d e (devices ▸ present)
      | refused _ same => exact fun d e present => before d e (same ▸ present)
      | published id _ entry generation _ _ _ devices =>
        intro d e present
        rw [devices,lookup_insert_eq] at present
        by_cases here : d = id
        · rw [if_pos here] at present
          cases present
          rintro rfl
          exact mine (only publishes (own.trans generation))
        · rw [if_neg here] at present
          exact before d e present
  | releases _ c₀ _ _ _ _ _ _ gone others devices =>
    intro d e present
    rw [devices] at present
    by_cases mine : c = c₀
    · subst mine
      rw [gone.2] at publishes; cases publishes
    · rw [others c mine] at publishes
      exact unpublished c g publishes d e present

private theorem single_step {r : Option OpenResult} (change : Change daemon w r w')
    (unpublished : ∀ c g, publisher (w.client c) = some g → Unpublished w.mgr g)
    (single : ∀ d d' e e', w.mgr.devices.lookup d = some e → w.mgr.devices.lookup d' = some e' →
      e.lifetime = e'.lifetime → d = d') :
    ∀ d d' e e', w'.mgr.devices.lookup d = some e → w'.mgr.devices.lookup d' = some e' →
      e.lifetime = e'.lifetime → d = d' := by
  intro d d' e e' present present' same
  cases change with
  | keeps _ _ _ _ _ devices => exact single d d' e e' (devices d e present) (devices d' e' present') same
  | reserves _ _ _ _ _ _ _ _ _ _ _ _ _ devices =>
    rw [devices] at present present'
    exact single d d' e e' present present' same
  | releases _ _ _ _ _ _ _ _ _ _ devices =>
    rw [devices] at present present'
    exact single d d' e e' present present' same
  | decides result _ c₀ _ own _ _ _ _ answered =>
    cases answered with
    | attached _ _ _ _ _ devices =>
      rw [devices] at present present'
      exact single d d' e e' present present' same
    | refused _ kept =>
      rw [kept] at present present'
      exact single d d' e e' present present' same
    | published id _ entry generation _ _ _ devices =>
      have new : Unpublished w.mgr entry.lifetime := unpublished c₀ _ (own.trans generation)
      rw [devices,lookup_insert_eq] at present present'
      by_cases here : d = id <;> by_cases here' : d' = id
      · rw [here,here']
      · rw [if_pos here] at present
        rw [if_neg here'] at present'
        cases present
        exact absurd same.symm (new d' e' present')
      · rw [if_neg here] at present
        rw [if_pos here'] at present'
        cases present'
        exact absurd same (new d e present)
      · rw [if_neg here] at present
        rw [if_neg here'] at present'
        exact single d d' e e' present present' same

/-- An open is pending until its result is fixed. -/
private theorem answered_step {o : Observed} {r : Option OpenResult}
    (change : Change daemon o.world r w') (started : ∀ t ∈ w'.shared.issued, t ∈ o.world.shared.issued ∨
      ∃ c call, pendingCall (w'.client c) = some call ∧ call.token = t)
    (answered : ∀ t ∈ o.world.shared.issued, (∃ c call, pendingCall (o.world.client c) = some call ∧ call.token = t) ∨
      ∃ r ∈ o.results, r.call.token = t) :
    ∀ t ∈ w'.shared.issued, (∃ c call, pendingCall (w'.client c) = some call ∧ call.token = t) ∨
      ∃ result ∈ r.toList ++ o.results, result.call.token = t := by
  intro t issued
  rcases started t issued with known | new
  · rcases answered t known with ⟨c,call,waits,same⟩ | ⟨result,listed,same⟩
    · cases change with
      | keeps _ _ _ _ pending _ => exact Or.inl ⟨c,call,pending c call waits,same⟩
      | reserves _ c₀ _ _ _ _ _ _ _ _ _ pending others _ =>
        refine Or.inl ⟨c,call,?_,same⟩
        by_cases mine : c = c₀
        · subst mine; rw [pending]; exact waits
        · rw [others c mine]; exact waits
      | decides result decided c₀ pending _ _ _ _ others _ =>
        by_cases mine : c = c₀
        · subst mine
          rw [waits] at pending
          cases pending
          exact Or.inr ⟨result,by simp [decided],same⟩
        · exact Or.inl ⟨c,call,by rw [others c mine]; exact waits,same⟩
      | releases _ c₀ _ _ _ settled _ _ _ others _ =>
        by_cases mine : c = c₀
        · subst mine
          rw [settled] at waits; cases waits
        · exact Or.inl ⟨c,call,by rw [others c mine]; exact waits,same⟩
    · exact Or.inr ⟨result,List.mem_append_right _ listed,same⟩
  · exact Or.inl new

/-- Both invariants of the daemon with its results. -/
structure ProtocolOk (daemon : Daemon) (o : Observed) : Prop where
  world : WorldOk daemon o.world
  protocol : Protocol o

/-- The result that a step fixes, if any, and what is known of it. -/
private theorem fixed {r : OpenResult} (change : Change daemon w (some r) w') :
    ∃ c, pendingCall (w.client c) = some r.call ∧ publisher (w.client c) = r.generation ∧
      (pendingCall (w'.client c) = none ∧ publisher (w'.client c) = none) ∧
      (∀ c', c' ≠ c → w'.client c' = w.client c') ∧ Answered daemon w w' c r := by
  cases change with
  | keeps nothing => cases nothing
  | reserves nothing => cases nothing
  | releases nothing => cases nothing
  | decides result decided c pending own finished _ _ others answered =>
    cases decided
    exact ⟨c,pending,own,finished,others,answered⟩

private theorem spent_step {r : Option OpenResult} {results : List OpenResult} (ok : WorldOk daemon w)
    (move : Move daemon w w') (change : Change daemon w r w')
    (spent : ∀ r ∈ results, r.answer = none → Spent w r.call.token) :
    ∀ result ∈ r.toList ++ results, result.answer = none → Spent w' result.call.token := by
  intro result listed failed
  rcases List.mem_append.mp listed with new | old
  · obtain rfl := Option.mem_toList.mp new
    obtain ⟨c,pending,_,finished,others,answered⟩ := fixed change
    obtain ⟨issued,absent⟩ := ok.pending c result.call pending
    cases answered with
    | attached _ answer => rw [failed] at answer; cases answer
    | published _ answer => rw [failed] at answer; cases answer
    | refused _ same =>
      refine ⟨Move.issued move issued,same ▸ absent,?_⟩
      intro c' call pending' equal
      by_cases mine : c' = c
      · subst mine
        rw [finished.1] at pending'; cases pending'
      · rw [others c' mine] at pending'
        exact mine (ok.pendingApart c' c call result.call pending' pending equal)
  · exact (spent result old failed).step move

private theorem retired_step {r : Option OpenResult} {results : List OpenResult} (ok : WorldOk daemon w)
    (move : Move daemon w w') (change : Change daemon w r w')
    (retired : ∀ r ∈ results, ∀ g, r.generation = some g →
      g ≤ w.mgr.nextLifetimeGeneration ∧ ∀ c, publisher (w.client c) ≠ some g) :
    ∀ result ∈ r.toList ++ results, ∀ g, result.generation = some g →
      g ≤ w'.mgr.nextLifetimeGeneration ∧ ∀ c, publisher (w'.client c) ≠ some g := by
  intro result listed g took
  rcases List.mem_append.mp listed with new | old
  · obtain rfl := Option.mem_toList.mp new
    obtain ⟨c,_,own,finished,others,_⟩ := fixed change
    have mine : generationOf (w.client c) = some g := publisher_generation (own.trans took)
    refine ⟨Nat.le_trans (ok.reserved c g mine) (Move.generation move),?_⟩
    intro c' publishes
    by_cases here : c' = c
    · subst here
      rw [finished.2] at publishes; cases publishes
    · rw [others c' here] at publishes
      exact here (ok.reservedApart c' c g (publisher_generation publishes) mine)
  · obtain ⟨known,nobody⟩ := retired result old g took
    refine ⟨Nat.le_trans known (Move.generation move),?_⟩
    intro c publishes
    cases change with
    | keeps _ _ _ publishers _ _ => exact nobody c (publishers c g publishes)
    | reserves _ c₀ _ g₀ _ _ fresh _ _ _ here _ others _ =>
      by_cases mine : c = c₀
      · subst mine
        rw [here] at publishes
        cases publishes
        omega
      · exact nobody c (others c mine ▸ publishes)
    | decides _ _ c₀ _ _ finished _ _ others _ =>
      by_cases mine : c = c₀
      · subst mine
        rw [finished.2] at publishes; cases publishes
      · exact nobody c (others c mine ▸ publishes)
    | releases _ c₀ _ _ _ _ _ _ gone others _ =>
      by_cases mine : c = c₀
      · subst mine
        rw [gone.2] at publishes; cases publishes
      · exact nobody c (others c mine ▸ publishes)

private theorem abandoned_step {o : Observed} {r : Option OpenResult}
    (protocol : Protocol o) (change : Change daemon o.world r w') :
    ∀ result ∈ r.toList ++ o.results, result.answer = none → ∀ g, result.generation = some g →
      Unpublished w'.mgr g := by
  intro result listed failed g took
  rcases List.mem_append.mp listed with new | old
  · obtain rfl := Option.mem_toList.mp new
    obtain ⟨c,_,own,_,_,answered⟩ := fixed change
    cases answered with
    | attached _ answer => rw [failed] at answer; cases answer
    | published _ answer => rw [failed] at answer; cases answer
    | refused _ same =>
      rw [same]
      exact protocol.unpublished c g (own.trans took)
  · exact Change.unpublished change (Or.inr (protocol.retired result old g took).2)
      (protocol.abandoned result old failed g took)

/-- Every step keeps the protocol. -/
theorem step_protocol {o o' : Observed} {a : Action} (ok : ProtocolOk daemon o)
    (taken : observe daemon o a = some o') : ProtocolOk daemon o' := by
  obtain ⟨w',stepped,rfl⟩ := Option.map_eq_some_iff.mp taken
  have move := step_move ok.world stepped
  have change := step_change ok.world stepped
  refine ⟨step_ok ok.world stepped,?_⟩
  exact {
    held := held_step ok.world change ok.protocol.held
    owned := owned_step change ok.protocol.held ok.protocol.owned
    unpublished := unpublished_step ok.world change ok.protocol.unpublished
    single := single_step change ok.protocol.unpublished ok.protocol.single
    answered := answered_step change (fun t issued => Move.started move issued) ok.protocol.answered
    spent := spent_step ok.world move change ok.protocol.spent
    retired := retired_step ok.world move change ok.protocol.retired
    abandoned := abandoned_step ok.protocol change }

theorem init_protocol (daemon : Daemon) : ProtocolOk daemon {} := by
  refine ⟨init_ok daemon,?_,?_,?_,?_,?_,?_,?_,?_⟩
  · intro c d g holds; cases holds
  · intro d r present; cases present
  · intro c g publishes; cases publishes
  · intro d d' e e' present; cases present
  · intro t issued; cases issued
  · intro r listed; cases listed
  · intro r listed; cases listed
  · intro r listed; cases listed

theorem observed_ok {o : Observed} {trace : List Action} (run : exec (observe daemon) {} trace = some o) :
    ProtocolOk daemon o := exec_invariant (fun _ _ _ => step_protocol) (init_protocol daemon) run

theorem Change.invalidated {r : Option OpenResult} {g : Nat} (change : Change daemon w r w')
    (told : w.mgr.invalidated g = true) : w'.mgr.invalidated g = true := by
  cases change with
  | keeps _ reservations => exact reservations.invalidated g told
  | reserves _ _ _ _ _ _ _ _ same => exact same ▸ told
  | decides _ _ _ _ _ _ _ reservations => exact reservations.invalidated g told
  | releases _ _ _ _ _ _ _ same => exact same ▸ told

/-- A generation that was invalidated before it was published never is. -/
private theorem doomed_run {o o' : Observed} {g : Nat} {later : List Action} (ok : ProtocolOk daemon o)
    (told : o.mgr.invalidated g = true) (unpublished : Unpublished o.mgr g)
    (run : exec (observe daemon) o later = some o') : Unpublished o'.mgr g := by
  have step (s : Observed) (a : Action) (s' : Observed)
      (holds : ProtocolOk daemon s ∧ s.mgr.invalidated g = true ∧ Unpublished s.mgr g)
      (taken : observe daemon s a = some s') :
      ProtocolOk daemon s' ∧ s'.mgr.invalidated g = true ∧ Unpublished s'.mgr g := by
    obtain ⟨w',stepped,rfl⟩ := Option.map_eq_some_iff.mp taken
    obtain ⟨ok,told,unpublished⟩ := holds
    have change := step_change ok.world stepped
    exact ⟨step_protocol ok taken,Change.invalidated change told,
      Change.unpublished change (Or.inl told) unpublished⟩
  exact (exec_invariant step ⟨ok,told,unpublished⟩ run).2.2

/-- Closing a device by force invalidates the reservation that is taken. -/
private theorem forced_step {a : Action} {d : DeviceId} {g : Nat} (ok : WorldOk daemon w)
    (taken : step daemon w a = some w') (forced : operationOf daemon w a = some (.forceClose d))
    (reserved : w.mgr.opening.lookup d = some ⟨g⟩) (unpublished : Unpublished w.mgr g) :
    w'.mgr.invalidated g = true ∧ Unpublished w'.mgr g := by
  have result : w'.mgr = (w.mgr.forceClose d).2 := by rw [step_operation taken,forced]; rfl
  refine ⟨?_,?_⟩
  · rw [result]
    show (w.mgr.tellOpener d).invalidated g = true
    simp [DeviceManager.tellOpener,reserved,DeviceManager.notifyWaiters]
  · intro d' e present
    rw [result] at present
    exact unpublished d' e ((run_quiet ok.coherent (.forceClose d) rfl).device ok.coherent present)

/-- The open of a token has returned, or has not begun. -/
def Returned (w : World) (t : Token) : Prop := ∀ c call pc, w.client c = .opening call pc → call.token ≠ t

/-- The session of a token is registered on a device that has an entry. -/
def Attached (m : DeviceManager) (t : Token) (id : DeviceId) : Prop :=
  ∃ s e, m.sessions.lookup t = some s ∧ s.deviceId = id ∧ s.active = true ∧ m.devices.lookup id = some e

/-- What an open leaves that fails: no session, no entry of its own and, when it has
    returned, no reservation but those of other opens in progress. -/
structure Abandoned (w : World) (r : OpenResult) : Prop where
  session : w.mgr.sessions.lookup r.call.token = none
  entry : ∀ g, r.generation = some g → Unpublished w.mgr g
  reservation : Returned w r.call.token → ∀ d reservation, w.mgr.opening.lookup d = some reservation →
    ∃ c call pc, w.client c = .opening call pc ∧ call.deviceId = d ∧ call.token ≠ r.call.token ∧
      generationOf (.opening call pc) = some reservation.generation

/-- In every state that is reached: one physical opener at most is in progress for a
    device; every open that has returned has a result, and one that failed is
    abandoned. In every step: an entry stays the one that was published until it is
    removed; an open that succeeds is attached to an entry; and the handle of an
    opener in progress is never published once its device is closed by force. -/
theorem open_reservations {trace : List Action} {o : Observed} (run : exec (observe daemon) {} trace = some o) :
    (∀ c c' call call' g g', o.world.client c = .opening call (.physical g) →
      o.world.client c' = .opening call' (.physical g') → call.deviceId = call'.deviceId → c = c') ∧
    (∀ d d' e e', o.mgr.devices.lookup d = some e → o.mgr.devices.lookup d' = some e' →
      e.lifetime = e'.lifetime → d = d') ∧
    (∀ t ∈ o.world.shared.issued, Returned o.world t → ∃ r ∈ o.results, r.call.token = t) ∧
    (∀ r ∈ o.results, r.answer = none → Abandoned o.world r) ∧
    ∀ a o', observe daemon o a = some o' →
      (∀ d e e', o.mgr.devices.lookup d = some e → o'.mgr.devices.lookup d = some e' → e' = e) ∧
      (∀ r id, resultAt daemon o.world a = some r → r.answer = some id → Attached o'.mgr r.call.token id) ∧
      ∀ d, operationOf daemon o.world a = some (.forceClose d) →
        ∀ c call pc g, o.world.client c = .opening call pc → call.deviceId = d →
          publisher (.opening call pc) = some g →
          ∀ later o'', exec (observe daemon) o' later = some o'' → Unpublished o''.mgr g := by
  have ok := observed_ok run
  have protocol := ok.protocol
  have holds {c : ClientId} {call : OpenCall} {pc : OpenPc} {g : Nat} (here : o.world.client c = .opening call pc)
      (held : generationOf (.opening call pc) = some g) : holding (o.world.client c) = some (call.deviceId,g) := by
    rw [here]
    exact congrArg (Option.map fun g => (call.deviceId,g)) held
  refine ⟨?_,protocol.single,?_,?_,?_⟩
  · intro c c' call call' g g' here here' same
    have first := protocol.held _ _ _ (holds here rfl)
    have second := protocol.held _ _ _ (holds here' rfl)
    rw [same,second] at first
    cases first
    exact ok.world.reservedApart c c' g (by rw [here]; rfl) (by rw [here']; rfl)
  · intro t issued returned
    rcases protocol.answered t issued with ⟨c,call,waits,same⟩ | found
    · cases here : o.world.client c with
      | opening call' pc =>
        rw [here] at waits
        have equal : call' = call := by cases pc <;> cases waits <;> rfl
        exact absurd (equal ▸ same) (returned c call' pc here)
      | _ => rw [here] at waits; cases waits
    · exact found
  · intro r listed failed
    refine ⟨(protocol.spent r listed failed).absent,protocol.abandoned r listed failed,?_⟩
    intro returned d reservation present
    obtain ⟨c,held⟩ := protocol.owned d reservation present
    obtain ⟨call,pc,here,device⟩ := holding_opening held
    exact ⟨c,call,pc,here,device,returned c call pc here,here ▸ holding_generation held⟩
  · intro a o' taken
    obtain ⟨w',stepped,rfl⟩ := Option.map_eq_some_iff.mp taken
    refine ⟨?_,?_,?_⟩
    · intro d e e' present present'
      exact (step_move ok.world stepped).effect.device present present'
    · intro r id decided answer
      have change := step_change ok.world stepped
      rw [decided] at change
      obtain ⟨c,_,_,_,_,answered⟩ := fixed change
      cases answered with
      | attached id' answer' e there registered devices =>
        rw [answer'] at answer
        cases answer
        exact ⟨_,e,registered.session,rfl,rfl,by rw [← there]; exact congrArg (AList.lookup id) devices⟩
      | published id' answer' e _ _ _ registered devices =>
        rw [answer'] at answer
        cases answer
        refine ⟨_,e,registered.session,rfl,rfl,?_⟩
        show w'.mgr.devices.lookup id = some e
        rw [devices,lookup_insert_eq,if_pos rfl]
      | refused failed _ => rw [failed] at answer; cases answer
    · intro d forced c call pc g here device publishes later o'' continued
      have reserved := protocol.held _ _ _ (holds here (publisher_generation publishes))
      rw [device] at reserved
      obtain ⟨told,unpublished⟩ := forced_step ok.world stepped forced reserved
        (protocol.unpublished c g (here ▸ publishes))
      exact doomed_run (step_protocol ok taken) told unpublished continued

end

/-- The first client is opening the device when it is lost, and the second waits. -/
def lostWhileOpening : List Action :=
  connecting 1 ++ connecting 2 ++ [.client 1 (.openDevice 7 tokenA),.client 1 .advance,.client 2 (.openDevice 7 tokenB),
    .client 2 .advance,.hotplug false vendorInfo]

/-- The opener has its device and gives up, the second client finds nobody opening. -/
def bothFail : List Action :=
  [.client 1 (.opened vendorInfo false),.client 1 .advance,.client 1 .advance,.client 1 .advance] ++
    List.replicate 2 (.client 2 .advance)

/-- Both opens fail, and the handle of the first is not published. -/
theorem open_reservations_forced : ∃ o, exec (observe vendorDaemon) {} (lostWhileOpening ++ .relay 2 .take :: bothFail) = some o ∧
    o.results = [⟨⟨7,tokenB⟩,none,none⟩,⟨⟨7,tokenA⟩,some 1,none⟩] ∧ Unpublished o.mgr 1 ∧
    ∀ r ∈ o.results, Abandoned o.world r := by
  obtain ⟨o,run⟩ := Option.isSome_iff_exists.mp (by decide :
    (exec (observe vendorDaemon) {} (lostWhileOpening ++ .relay 2 .take :: bothFail)).isSome = true)
  obtain ⟨middle,before,last⟩ := exec_append.mp run
  obtain ⟨next,taken,later⟩ := exec_cons.mp last
  have results : (exec (observe vendorDaemon) {} (lostWhileOpening ++ .relay 2 .take :: bothFail)).map (·.results) =
      some [⟨⟨7,tokenB⟩,none,none⟩,⟨⟨7,tokenA⟩,some 1,none⟩] := by decide
  have opening : (exec (observe vendorDaemon) {} lostWhileOpening).map (fun o => o.world.client 1) =
      some (.opening ⟨7,tokenA⟩ (.physical 1)) := rfl
  have forced : (exec (observe vendorDaemon) {} lostWhileOpening).map (fun o =>
      operationOf vendorDaemon o.world (.relay 2 .take)) = some (some (.forceClose 7)) := rfl
  rw [run] at results
  rw [before] at opening forced
  simp only [Option.map_some,Option.some.injEq] at results opening forced
  obtain ⟨_,_,_,abandoned,_⟩ := open_reservations run
  obtain ⟨_,_,_,_,steps⟩ := open_reservations before
  refine ⟨o,run,results,(steps _ next taken).2.2 7 forced 1 _ _ 1 opening rfl rfl bothFail o later,?_⟩
  intro r listed
  refine abandoned r listed ?_
  rw [results] at listed
  simp only [List.mem_cons,List.not_mem_nil,or_false] at listed
  rcases listed with rfl | rfl <;> rfl

end FFWebHid.OpenProtocol
