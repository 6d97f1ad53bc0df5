import FFWebHid.Maps
import FFWebHid.Runs
import FFWebHid.Lineages
import FFWebHid.Policies

/-!
The feature along a tree of documents. The recorded policy of a document is the one
it declares when the declarations of all documents above it admit it, and no policy
otherwise; the delegation of a frame is looked up for the frame alone.
-/
namespace FFWebHid.PolicyTrees
open FFWebHid.Maps FFWebHid.Runs FFWebHid.Lineages FFWebHid.Policies

/-- The declaration of every document above a document lists the origin of the next. -/
def Admitted (s : PolicyStore) : PolicyEntry → Prop :=
  Descends (fun k => s.permissionsPolicy.lookup k) PolicyEntry.parentKey fun parent e =>
    listAllows parent.self e.origin = true

/-- What holds of a record: its parent is the one that it was stored below, and its
    effective policy is the declared one exactly when it is admitted. -/
structure Sound (urls : Urls) (s : PolicyStore) (k : DocumentKey) (e : PolicyEntry) : Prop where
  parent : ∀ p, e.parentKey = some p → p.documentId ≠ "" ∧ p.tabId = k.tabId ∧ e.parentFrameId ≠ none
  present : e.self ≠ .none → ∀ p, e.parentKey = some p → ∃ parent, s.permissionsPolicy.lookup p = some parent
  named : e.origin = urls.urlOrigin e.url
  denied : e.self = .none → e.effective = .none
  inherited : e.self ≠ .none → (Admitted s e → e.effective = e.self) ∧ (¬ Admitted s e → e.effective = .none)

def StoreOk (urls : Urls) (s : PolicyStore) : Prop :=
  ∀ k e, s.permissionsPolicy.lookup k = some e → Sound urls s k e

variable {urls : Urls} {s s' : PolicyStore}

theorem listAllows_ne_none {list : Allowlist} {origin : String} (allows : listAllows list origin = true) :
    list ≠ .none := by
  rintro rfl; cases allows

/-- A store whose records are sound by an older store is sound when their parents are
    where they were. -/
theorem StoreOk.of_kept (sound : ∀ k e, s'.permissionsPolicy.lookup k = some e → Sound urls s k e)
    (kept : ∀ k e p, s'.permissionsPolicy.lookup k = some e → e.self ≠ .none → e.parentKey = some p →
      s'.permissionsPolicy.lookup p = s.permissionsPolicy.lookup p) : StoreOk urls s' := by
  intro k e found
  obtain ⟨parent,present,named,denied,inherited⟩ := sound k e found
  refine ⟨parent,?_,named,denied,?_⟩
  · intro declares p above
    obtain ⟨P,there⟩ := present declares p above
    exact ⟨P,(kept k e p found declares above).trans there⟩
  · intro declares
    have same : Admitted s' e ↔ Admitted s e := by
      refine descends_congr (R := fun v => v.self ≠ .none ∧ ∃ k, s'.permissionsPolicy.lookup k = some v)
        ?_ ?_ ⟨declares,k,found⟩
      · rintro v ⟨_,k,_⟩ p _ P there allows
        exact ⟨listAllows_ne_none allows,p,there⟩
      · rintro v ⟨declares,k,found⟩ p above
        exact (kept k v p found declares above).symm
    rw [same]; exact inherited declares

theorem lookup_adopt (key k : DocumentKey) (e : PolicyEntry) : (s.adopt key e).permissionsPolicy.lookup k =
    if k = key then some { e with documentId := key.documentId }
    else if k = key.pending then none else s.permissionsPolicy.lookup k := by
  simp only [PolicyStore.adopt,lookup_insert_eq,lookup_erase_eq]

/-- A record that moves to the document of its frame keeps all but the identifier. -/
theorem Sound.adopted {k : DocumentKey} {e : PolicyEntry} (sound : Sound urls s k e) (key : DocumentKey)
    (tab : key.tabId = k.tabId) : Sound urls s key { e with documentId := key.documentId } := by
  obtain ⟨parent,present,named,denied,inherited⟩ := sound
  refine ⟨?_,present,named,denied,?_⟩
  · intro p above
    rw [tab]; exact parent p above
  · intro declares
    have same : Admitted s { e with documentId := key.documentId } ↔ Admitted s e :=
      ⟨descends_alike rfl fun _ => id,descends_alike rfl fun _ => id⟩
    rw [same]; exact inherited declares

/-- Adopting a pending record: it was nobody's parent, and the document had none. -/
theorem StoreOk.adopt (ok : StoreOk urls s) {key : DocumentKey} {e : PolicyEntry}
    (absent : s.permissionsPolicy.lookup key = none) (pending : s.permissionsPolicy.lookup key.pending = some e) :
    StoreOk urls (s.adopt key e) := by
  have older (k : DocumentKey) (e' : PolicyEntry) (found : (s.adopt key e).permissionsPolicy.lookup k = some e') :
      Sound urls s k e' := by
    rw [lookup_adopt] at found
    split at found
    next here => cases found; subst here; exact (ok k.pending e pending).adopted k rfl
    split at found
    · cases found
    · exact ok k e' found
  refine .of_kept older ?_
  intro k e' p found declares above
  have sound := older k e' found
  obtain ⟨P,there⟩ := sound.present declares p above
  have moved : p ≠ key := by rintro rfl; rw [absent] at there; cases there
  have named : p ≠ key.pending := by rintro rfl; exact (sound.parent _ above).1 rfl
  rw [lookup_adopt,if_neg moved,if_neg named]

/-- A new record under a key that is nobody's parent. -/
theorem StoreOk.insert (ok : StoreOk urls s) {key : DocumentKey} {e : PolicyEntry} (sound : Sound urls s key e)
    (apart : e.parentKey ≠ some key) (childless : ∀ k e', s.permissionsPolicy.lookup k = some e' → e'.parentKey ≠ some key) :
    StoreOk urls { s with permissionsPolicy := s.permissionsPolicy.insert key e } := by
  refine .of_kept (s := s) ?_ ?_
  · intro k e' found
    rw [lookup_insert_eq] at found
    split at found
    next here => cases found; exact here ▸ sound
    · exact ok k e' found
  · intro k e' p found _ above
    rw [lookup_insert_eq] at found ⊢
    refine if_neg ?_
    rintro rfl
    split at found
    · cases found; exact apart above
    · exact childless k e' found above

/-- Dropping records that are nobody's parent. -/
theorem StoreOk.drop (ok : StoreOk urls s) (dropped : DocumentKey → Bool)
    (rest : ∀ k, s'.permissionsPolicy.lookup k = if dropped k then none else s.permissionsPolicy.lookup k)
    (childless : ∀ k e p, dropped k = false → s.permissionsPolicy.lookup k = some e → e.parentKey = some p →
      dropped p = false) : StoreOk urls s' := by
  have kept (k : DocumentKey) (e : PolicyEntry) (found : s'.permissionsPolicy.lookup k = some e) :
      dropped k = false ∧ s.permissionsPolicy.lookup k = some e := by
    rw [rest] at found
    split at found
    · cases found
    next stays => exact ⟨Bool.eq_false_iff.mpr stays,found⟩
  refine .of_kept (fun k e found => ok k e (kept k e found).2) ?_
  intro k e p found _ above
  obtain ⟨stays,before⟩ := kept k e found
  rw [rest,childless k e p stays before above]; rfl

theorem StoreOk.of_records (ok : StoreOk urls s) (same : s'.permissionsPolicy = s.permissionsPolicy) :
    StoreOk urls s' :=
  .of_kept (s := s) (fun k e found => ok k e (same ▸ found)) (fun _ _ _ _ _ _ => by rw [same])

/-- Some record is below a selected document. -/
def isParent (s : PolicyStore) (selected : DocumentKey → Bool) : Bool :=
  (values s.permissionsPolicy).any fun e => e.parentKey.any selected

/-- No step drops or replaces the record of a document while documents below it are
    recorded, and a document is loaded below one that is recorded. A run that does
    otherwise leaves documents whose parent is not recorded, and with them no tree to
    compare: such a document is denied the feature (`orphan_denied`), and nothing is said
    of those that it embeds. -/
def keepsParents (s : PolicyStore) : Event → Bool
  | .beforeRequest true _ _ => true
  | .beforeRequest false tabId frameId => !isParent s fun k => k.tabId == tabId && k.frameId == frameId
  | .headersReceived details => !isParent s (· == details.key) &&
      match details.parentKey with
      | none => true
      | some parent => parent != details.key && (s.parentRecord parent).1.isSome
  | .setFrameDelegation _ _ => true
  | .getPolicy _ _ => true
  | .frameDestroyed request sender => (resolve request sender).all fun key => !isParent s (· == key)

theorem isParent_false {selected : DocumentKey → Bool} (none : isParent s selected = false) {k p : DocumentKey}
    {e : PolicyEntry} (found : s.permissionsPolicy.lookup k = some e) (above : e.parentKey = some p) :
    selected p = false := by
  rw [isParent,List.any_eq_false] at none
  have apart := none e (mem_values.mpr ⟨k,found⟩)
  rw [above] at apart
  simpa using apart

theorem parentRecord_ok (ok : StoreOk urls s) {key : DocumentKey} {parent : PolicyEntry}
    (found : (s.parentRecord key).1 = some parent) : StoreOk urls (s.parentRecord key).2 ∧
      (s.parentRecord key).2.permissionsPolicy.lookup key = some parent ∧
      ∀ k e, (s.parentRecord key).2.permissionsPolicy.lookup k = some e →
        ∃ k₀ e₀, s.permissionsPolicy.lookup k₀ = some e₀ ∧ e₀.parentKey = e.parentKey := by
  unfold PolicyStore.parentRecord at found ⊢
  cases own : s.permissionsPolicy.lookup key with
  | some e =>
    simp only [own] at found ⊢
    exact ⟨ok,found,fun k e found => ⟨k,e,found,rfl⟩⟩
  | none =>
    cases pending : s.permissionsPolicy.lookup key.pending with
    | none => simp only [own,pending] at found; cases found
    | some e =>
      simp only [own,pending] at found ⊢
      refine ⟨ok.adopt own pending,by rw [lookup_adopt,if_pos rfl]; exact found,?_⟩
      intro k e' found'
      rw [lookup_adopt] at found'
      split at found'
      · cases found'; exact ⟨key.pending,e,pending,rfl⟩
      split at found'
      · cases found'
      · exact ⟨k,e',found',rfl⟩

theorem policyEntryForDocument_ok (ok : StoreOk urls s) (key : DocumentKey) (origin : String) :
    StoreOk urls (s.policyEntryForDocument key origin).2 := by
  unfold PolicyStore.policyEntryForDocument
  cases own : s.permissionsPolicy.lookup key with
  | some e => exact ok
  | none =>
    cases pending : s.permissionsPolicy.lookup key.pending with
    | none => exact ok
    | some e =>
      dsimp only
      split
      · exact ok.adopt own pending
      · exact ok

/-- What a document below a recorded parent inherits. -/
theorem inherit_below {k : DocumentKey} {parent e : PolicyEntry} (sound : Sound urls s k parent)
    (named : e.parentKey = some k) (found : s.permissionsPolicy.lookup k = some parent) :
    (Admitted s e → inherit e.self (some parent) e.origin = e.self) ∧
      (¬ Admitted s e → inherit e.self (some parent) e.origin = .none) := by
  have below : Admitted s e ↔ Admitted s parent ∧ listAllows parent.self e.origin = true := descends_below named found
  have allows : listAllows parent.effective e.origin = true ↔ Admitted s e := by
    rw [below]
    by_cases declares : parent.self = .none
    · rw [sound.denied declares,declares]; simp [listAllows]
    · by_cases admitted : Admitted s parent
      · rw [(sound.inherited declares).1 admitted]; simp [admitted]
      · rw [(sound.inherited declares).2 admitted]; simp [admitted,listAllows]
  unfold inherit
  constructor
  · intro admitted
    exact if_pos (allows.mpr admitted)
  · intro refused
    exact if_neg (mt allows.mp refused)

theorem parentKey_spec {d : Details} {p : DocumentKey} (named : d.parentKey = some p) :
    p.documentId ≠ "" ∧ p.tabId = d.tabId ∧ d.parentFrameId ≠ none := by
  obtain ⟨frame,there,result⟩ := Option.bind_eq_some_iff.mp named
  split at result
  · cases result
  next given => cases result; exact ⟨given,rfl,by rw [there]; simp⟩

/-- Storing the record of a document below a recorded one. -/
theorem storePermissionsPolicy_ok (ok : StoreOk urls s) {d : Details} (keeps : keepsParents s (.headersReceived d) = true) :
    StoreOk urls (s.storePermissionsPolicy urls d) := by
  simp only [keepsParents,Bool.and_eq_true,Bool.not_eq_true'] at keeps
  obtain ⟨childless,above⟩ := keeps
  have free (k : DocumentKey) (e : PolicyEntry) (found : s.permissionsPolicy.lookup k = some e) :
      e.parentKey ≠ some d.key := by
    intro named
    have := isParent_false childless found named
    simp at this
  unfold PolicyStore.storePermissionsPolicy
  have apart : d.parentKey ≠ some d.key := by
    intro same
    rw [same] at above; simp at above
  by_cases declares : ownPolicy urls (urls.urlOrigin d.url) d.responseHeaders = .none
  · simp only [declares,if_pos]
    exact ok.insert ⟨fun p named => parentKey_spec named,fun absurd => (absurd rfl).elim,rfl,fun _ => rfl,
      fun absurd => (absurd rfl).elim⟩ apart free
  · simp only [declares,if_false]
    cases named : d.parentKey with
    | none =>
      refine ok.insert ⟨?_,?_,rfl,fun none => absurd none declares,fun _ => ⟨fun _ => rfl,?_⟩⟩ ?_ free
      · rintro p ⟨⟩
      · rintro _ p ⟨⟩
      · intro refused; exact absurd (descends_root rfl) refused
      · rintro ⟨⟩
    | some p =>
      rw [named] at above
      simp only [Bool.and_eq_true,bne_iff_ne] at above
      obtain ⟨parent,found⟩ := Option.isSome_iff_exists.mp above.2
      obtain ⟨ok',there,older⟩ := parentRecord_ok ok found
      simp only [found]
      refine ok'.insert ⟨?_,?_,rfl,fun none => absurd none declares,fun _ => ?_⟩ ?_ ?_
      · rintro p' ⟨⟩; exact parentKey_spec named
      · rintro _ p' ⟨⟩; exact ⟨parent,there⟩
      · exact inherit_below (ok' p parent there) rfl there
      · rintro ⟨⟩; exact above.1 rfl
      · intro k e found'
        obtain ⟨k₀,e₀,before,same⟩ := older k e found'
        rw [← same]; exact free k₀ e₀ before

private theorem clear_rest (selected : DocumentKey → Bool) (k : DocumentKey) :
    (s.clear selected).permissionsPolicy.lookup k = if selected k then none else s.permissionsPolicy.lookup k := by
  simp only [PolicyStore.clear,lookup_retain]
  cases selected k <;> cases s.permissionsPolicy.lookup k <;> rfl

theorem handleSetFrameDelegation_ok (ok : StoreOk urls s) (request : Request) (sender : Sender) :
    StoreOk urls (s.handleSetFrameDelegation urls request sender).2 := by
  unfold PolicyStore.handleSetFrameDelegation
  split
  next key _ _ =>
    have recorded := policyEntryForDocument_ok ok key (urls.urlOrigin request.origin)
    dsimp only
    split
    · exact ok
    · split
      · exact recorded
      · exact recorded.of_records rfl
  · exact ok

theorem policyForRequest_ok (ok : StoreOk urls s) (request : Request) (sender : Sender) :
    StoreOk urls (s.policyForRequest urls request sender).2 := by
  unfold PolicyStore.policyForRequest
  split
  · exact ok
  next key _ =>
    have recorded := policyEntryForDocument_ok ok key (urls.urlOrigin request.origin)
    dsimp only
    split
    · exact ok
    · split <;> exact recorded

/-- Every step that keeps parents keeps the invariant. -/
theorem step_ok (ok : StoreOk urls s) {event : Event} (taken : step urls s event = some s')
    (keeps : keepsParents s event = true) : StoreOk urls s' := by
  cases event with
  | beforeRequest mainFrame tabId frameId =>
    cases mainFrame with
    | true =>
      cases taken
      refine ok.drop (fun k => k.tabId == tabId) (clear_rest _) ?_
      intro k e p stays found above
      rw [((ok k e found).parent p above).2.1]; exact stays
    | false =>
      cases taken
      refine ok.drop (fun k => k.tabId == tabId && k.frameId == frameId) (clear_rest _) ?_
      intro k e p _ found above
      exact isParent_false (Bool.not_eq_true' _ ▸ keeps) found above
  | headersReceived details => cases taken; exact storePermissionsPolicy_ok ok keeps
  | setFrameDelegation request sender => cases taken; exact handleSetFrameDelegation_ok ok request sender
  | getPolicy request sender => cases taken; exact policyForRequest_ok ok request sender
  | frameDestroyed request sender =>
    cases taken
    simp only [keepsParents] at keeps
    unfold PolicyStore.frameDestroyed
    cases named : resolve request sender with
    | none => exact ok
    | some key =>
      rw [named,Option.all_some,Bool.not_eq_true'] at keeps
      refine ok.drop (· == key) (fun k => ?_) ?_
      · simp only [lookup_erase_eq,beq_iff_eq]
      · intro k e p _ found above
        exact isParent_false keeps found above

theorem init_ok (urls : Urls) : StoreOk urls {} := by
  intro k e found; cases found

/-! ### Answers -/

/-- A document that requests can name, with its record. -/
def Recorded (s : PolicyStore) (key : DocumentKey) (e : PolicyEntry) : Prop :=
  key.documentId ≠ "" ∧ (s.policyEntryForDocument key e.origin).1 = some e

/-- The request is about the document of a record. -/
def Names (urls : Urls) (s : PolicyStore) (request : Request) (sender : Sender) (key : DocumentKey)
    (e : PolicyEntry) : Prop :=
  resolve request sender = some key ∧ (s.policyEntryForDocument key (urls.urlOrigin request.origin)).1 = some e

/-- What a document needs to have the feature: every document above lists the next,
    it lists itself, and its frame got the feature from the one that embeds it. -/
structure Enabled (s : PolicyStore) (key : DocumentKey) (e : PolicyEntry) : Prop where
  origin : e.origin ≠ ""
  admitted : Admitted s e
  own : listAllows e.self e.origin = true
  handed : s.delegatedTo key e = true

theorem resolve_named {request : Request} {sender : Sender} {key : DocumentKey}
    (resolved : resolve request sender = some key) : key.documentId ≠ "" := by
  obtain ⟨tab,_,resolved⟩ := Option.bind_eq_some_iff.mp resolved
  obtain ⟨frame,_,resolved⟩ := Option.bind_eq_some_iff.mp resolved
  obtain ⟨named,same⟩ := Option.ite_none_left_eq_some.mp resolved
  cases same; exact named

/-- A record that is found for a document is its own, or the pending one of its frame. -/
theorem policyEntry_cases {key : DocumentKey} {origin : String} {e : PolicyEntry}
    (found : (s.policyEntryForDocument key origin).1 = some e) : e.origin = origin ∧
      ((s.permissionsPolicy.lookup key = some e ∧ (s.policyEntryForDocument key origin).2 = s) ∨
        ∃ e₀, s.permissionsPolicy.lookup key = none ∧ s.permissionsPolicy.lookup key.pending = some e₀ ∧
          e = { e₀ with documentId := key.documentId } ∧ (s.policyEntryForDocument key origin).2 = s.adopt key e₀) := by
  unfold PolicyStore.policyEntryForDocument at found ⊢
  cases own : s.permissionsPolicy.lookup key with
  | some e₁ =>
    simp only [own,Option.ite_none_right_eq_some,Option.some.injEq] at found ⊢
    exact ⟨found.2 ▸ found.1,Or.inl ⟨found.2,trivial⟩⟩
  | none =>
    cases pending : s.permissionsPolicy.lookup key.pending with
    | none => simp only [own,pending] at found; cases found
    | some e₀ =>
      simp only [own,pending] at found ⊢
      split at found
      next same =>
        cases found
        exact ⟨same,Or.inr ⟨e₀,trivial,rfl,rfl,by rw [if_pos same]⟩⟩
      · cases found

theorem policyEntry_sound (ok : StoreOk urls s) {key : DocumentKey} {origin : String} {e : PolicyEntry}
    (found : (s.policyEntryForDocument key origin).1 = some e) : Sound urls s key e := by
  rcases (policyEntry_cases found).2 with ⟨own,_⟩ | ⟨e₀,_,pending,rfl,_⟩
  · exact ok key e own
  · exact (ok key.pending e₀ pending).adopted key rfl

/-- Finding the record of a document does not change who it was delegated by. -/
theorem delegatedTo_found (ok : StoreOk urls s) {key : DocumentKey} {origin : String} {e : PolicyEntry}
    (found : (s.policyEntryForDocument key origin).1 = some e) (declares : e.self ≠ .none) :
    (s.policyEntryForDocument key origin).2.delegatedTo key e = s.delegatedTo key e := by
  have sound := policyEntry_sound ok found
  rcases (policyEntry_cases found).2 with ⟨_,same⟩ | ⟨e₀,absent,_,_,same⟩
  · rw [same]
  · rw [same]
    unfold PolicyStore.delegatedTo
    cases above : e.parentKey with
    | none => rfl
    | some p =>
      obtain ⟨P,there⟩ := sound.present declares p above
      have moved : p ≠ key := by rintro rfl; rw [absent] at there; cases there
      have pending : p ≠ key.pending := by rintro rfl; exact (sound.parent _ above).1 rfl
      simp only [Option.bind_some,lookup_adopt,if_neg moved,if_neg pending]
      rfl

/-- A request is answered `allowed` when its document has what it needs. -/
theorem allowed_iff (ok : StoreOk urls s) {request : Request} {sender : Sender} {key : DocumentKey} {e : PolicyEntry}
    (names : Names urls s request sender key e) :
    (s.policyForRequest urls request sender).1 = true ↔ Enabled s key e := by
  obtain ⟨resolved,found⟩ := names
  have origin := (policyEntry_cases found).1
  have sound := policyEntry_sound ok found
  have effective : listAllows e.effective e.origin = true ↔ Admitted s e ∧ listAllows e.self e.origin = true := by
    by_cases declares : e.self = .none
    · rw [sound.denied declares,declares]; simp [listAllows]
    · by_cases admitted : Admitted s e
      · rw [(sound.inherited declares).1 admitted]; simp [admitted]
      · rw [(sound.inherited declares).2 admitted]; simp [admitted,listAllows]
  unfold PolicyStore.policyForRequest
  simp only [resolved,found]
  rw [← origin]
  by_cases empty : e.origin = ""
  · rw [if_pos empty]
    exact ⟨fun no => Bool.noConfusion no,fun enabled => absurd empty enabled.origin⟩
  · rw [if_neg empty,Bool.and_eq_true,effective]
    have alike (own : listAllows e.self e.origin = true) :
        (s.policyEntryForDocument key e.origin).2.delegatedTo key e = s.delegatedTo key e := by
      rw [← origin] at found
      exact delegatedTo_found ok found (listAllows_ne_none own)
    constructor
    · rintro ⟨handed,admitted,own⟩
      exact ⟨empty,admitted,own,alike own ▸ handed⟩
    · rintro ⟨_,admitted,own,handed⟩
      exact ⟨(alike own).trans handed,admitted,own⟩

/-- In every state, a document in a frame is denied the feature while the record of the
    document around it is not there. -/
theorem orphan_denied {request : Request} {sender : Sender} {key : DocumentKey} {e : PolicyEntry}
    (names : Names urls s request sender key e) (framed : e.parentFrameId ≠ none)
    (gone : ∀ p, e.parentKey = some p → p ≠ key ∧ s.permissionsPolicy.lookup p = none) :
    (s.policyForRequest urls request sender).1 = false := by
  obtain ⟨resolved,found⟩ := names
  -- Finding the record of the document moves no other record to a new key.
  have missing (p : DocumentKey) (above : e.parentKey = some p) :
      (s.policyEntryForDocument key (urls.urlOrigin request.origin)).2.permissionsPolicy.lookup p = none := by
    obtain ⟨apart,absent⟩ := gone p above
    rcases (policyEntry_cases found).2 with ⟨_,same⟩ | ⟨e₀,_,_,_,same⟩
    · rw [same]; exact absent
    · rw [same,lookup_adopt,if_neg apart,absent,ite_self]
  have denied : (s.policyEntryForDocument key (urls.urlOrigin request.origin)).2.delegatedTo key e = false := by
    unfold PolicyStore.delegatedTo
    cases frame : e.parentFrameId with
    | none => exact absurd frame framed
    | some f =>
      cases above : e.parentKey with
      | none => rfl
      | some p => simp only [Option.bind_some,missing p above]
  unfold PolicyStore.policyForRequest
  simp only [resolved,found,denied,Bool.false_and]
  split <;> rfl

/-- A document with the feature is embedded in one with the feature. -/
def Monotone (urls : Urls) (s : PolicyStore) : Prop :=
  ∀ request sender key e p request' sender' parent, Names urls s request sender key e → e.parentKey = some p →
    Names urls s request' sender' p parent → (s.policyForRequest urls request sender).1 = true →
    (s.policyForRequest urls request' sender').1 = true

/-- The record of a document and that of its parent. -/
def ParentOf (s : PolicyStore) (above below : DocumentKey × PolicyEntry) : Prop :=
  below.2.parentKey = some above.1 ∧ s.permissionsPolicy.lookup above.1 = some above.2

/-- All documents around a document with the feature have it. -/
def NeverRegains (urls : Urls) (s : PolicyStore) : Prop :=
  ∀ request sender key e a ancestor request' sender', Names urls s request sender key e →
    Relation.TransGen (ParentOf s) (a,ancestor) (key,e) → Names urls s request' sender' a ancestor →
    (s.policyForRequest urls request sender).1 = true → (s.policyForRequest urls request' sender').1 = true

/-- The document is refused on its own account: it does not list itself, or its frame
    did not get the feature. -/
def Refused (s : PolicyStore) (key : DocumentKey) (e : PolicyEntry) : Prop :=
  ¬ (listAllows e.self e.origin = true ∧ s.delegatedTo key e = true)

/-- No document that is refused on its own account embeds one that all documents
    above admit, that lists itself, and whose frame got the feature. -/
def Unbroken (s : PolicyStore) : Prop :=
  ∀ key e p parent, Recorded s key e → e.parentKey = some p → s.permissionsPolicy.lookup p = some parent →
    Refused s p parent → ¬ Enabled s key e

private theorem recorded_of_names {request : Request} {sender : Sender} {key : DocumentKey} {e : PolicyEntry}
    (names : Names urls s request sender key e) : Recorded s key e := by
  obtain ⟨resolved,found⟩ := names
  refine ⟨resolve_named resolved,?_⟩
  rw [← (policyEntry_cases found).1] at found; exact found

/-- Every recorded document is named by a request with its URL. -/
private theorem names_of_recorded (ok : StoreOk urls s) {key : DocumentKey} {e : PolicyEntry}
    (recorded : Recorded s key e) : ∃ request sender, Names urls s request sender key e := by
  obtain ⟨named,found⟩ := recorded
  refine ⟨{ frameId := some key.frameId, documentId := key.documentId, origin := e.url },⟨some key.tabId,none,""⟩,?_,?_⟩
  · simp [resolve,named]
  · rw [← (policyEntry_sound ok found).named]; exact found

/-- An admitted document that declares a policy has its parent recorded. -/
private theorem parent_recorded (ok : StoreOk urls s) {key p : DocumentKey} {e : PolicyEntry}
    (recorded : Recorded s key e) (enabled : Enabled s key e) (above : e.parentKey = some p) :
    ∃ parent, s.permissionsPolicy.lookup p = some parent ∧ Recorded s p parent ∧ parent.origin ≠ "" ∧
      Admitted s parent := by
  have sound := policyEntry_sound ok recorded.2
  obtain ⟨parent,there⟩ := sound.present (listAllows_ne_none enabled.own) p above
  refine ⟨parent,there,⟨(sound.parent p above).1,?_⟩,?_,((descends_below above there).mp enabled.admitted).1⟩
  · unfold PolicyStore.policyEntryForDocument
    simp [there]
  · have handed := enabled.handed
    unfold PolicyStore.delegatedTo at handed
    cases frame : e.parentFrameId with
    | none => exact absurd frame (sound.parent p above).2.2
    | some f =>
      simp only [frame,above,Option.bind_some,there,Bool.and_eq_true,bne_iff_ne] at handed
      exact handed.1

private theorem parent_enabled (ok : StoreOk urls s) (unbroken : Unbroken s) {key p : DocumentKey} {e parent : PolicyEntry}
    (recorded : Recorded s key e) (enabled : Enabled s key e) (above : e.parentKey = some p)
    (there : s.permissionsPolicy.lookup p = some parent) : Recorded s p parent ∧ Enabled s p parent := by
  obtain ⟨parent',there',known,origin,admitted⟩ := parent_recorded ok recorded enabled above
  obtain rfl : parent' = parent := Option.some.inj (there'.symm.trans there)
  have fine : ¬ Refused s p parent' := fun refused => unbroken key e p parent' recorded above there refused enabled
  obtain ⟨own,handed⟩ := not_not.mp fine
  exact ⟨known,origin,admitted,own,handed⟩

private theorem names_unique {request : Request} {sender : Sender} {key : DocumentKey} {e parent : PolicyEntry}
    (names : Names urls s request sender key e) (there : s.permissionsPolicy.lookup key = some parent) : parent = e := by
  rcases (policyEntry_cases names.2).2 with ⟨own,_⟩ | ⟨_,absent,_⟩
  · exact Option.some.inj (there.symm.trans own)
  · rw [absent] at there; cases there

theorem monotone_of_unbroken (ok : StoreOk urls s) (unbroken : Unbroken s) : Monotone urls s := by
  intro request sender key e p request' sender' parent names above names' allowed
  have recorded := recorded_of_names names
  have enabled := (allowed_iff ok names).mp allowed
  obtain ⟨parent',there,_⟩ := parent_recorded ok recorded enabled above
  obtain rfl := names_unique names' there
  exact (allowed_iff ok names').mpr (parent_enabled ok unbroken recorded enabled above there).2

theorem unbroken_of_monotone (ok : StoreOk urls s) (monotone : Monotone urls s) : Unbroken s := by
  intro key e p parent recorded above there refused enabled
  obtain ⟨parent',there',known,_⟩ := parent_recorded ok recorded enabled above
  obtain rfl : parent' = parent := Option.some.inj (there'.symm.trans there)
  obtain ⟨request,sender,names⟩ := names_of_recorded ok recorded
  obtain ⟨request',sender',names'⟩ := names_of_recorded ok known
  have allowed := monotone request sender key e p request' sender' parent' names above names'
    ((allowed_iff ok names).mpr enabled)
  have above' := (allowed_iff ok names').mp allowed
  exact refused ⟨above'.own,above'.handed⟩

theorem neverRegains_of_unbroken (ok : StoreOk urls s) (unbroken : Unbroken s) : NeverRegains urls s := by
  intro request sender key e a ancestor request' sender' names around names' allowed
  have reaches := ancestors_of_parents (P := fun v => Recorded s v.1 v.2 ∧ Enabled s v.1 v.2)
    (fun above below link holds => parent_enabled ok unbroken holds.1 holds.2 link.1 link.2) around
    ⟨recorded_of_names names,(allowed_iff ok names).mp allowed⟩
  exact (allowed_iff ok names').mpr reaches.2

/-- After every run that keeps parents, the feature is inherited along the tree of
    documents exactly when no document that is refused on its own account embeds one
    that is not; then no chain of frames regains it. -/
theorem policy_monotone_iff (urls : Urls) {trace : List Event} (run : exec (step urls) {} trace = some s)
    (keeps : AllSteps (step urls) (fun s event _ => keepsParents s event = true) {} trace) :
    (Monotone urls s ↔ Unbroken s) ∧ (Unbroken s → NeverRegains urls s) := by
  have ok : StoreOk urls s := by
    refine exec_invariant_under (I := StoreOk urls) ?_ (init_ok urls) run keeps
    intro s event s' ok taken kept
    exact step_ok ok taken kept
  exact ⟨⟨unbroken_of_monotone ok,monotone_of_unbroken ok⟩,neverRegains_of_unbroken ok⟩

/-- Two sites; a page names itself with and without its path. -/
def twoSites : Urls :=
  ⟨fun text =>
    if text = "https://a.example/" ∨ text = "https://a.example" then some "https://a.example"
    else if text = "https://b.example/" ∨ text = "https://b.example" then some "https://b.example"
    else none⟩

/-- A page of one site with a frame of the other, and in that frame a second one of
    the same site. No document declares a policy. -/
def nestedFrames (delegated : Bool) : List Event :=
  [.beforeRequest true 1 0,.headersReceived ⟨1,0,"",none,"","https://a.example/",[]⟩,
    .beforeRequest false 1 1,.headersReceived ⟨1,1,"",some 0,"page","https://b.example/",[]⟩,
    .setFrameDelegation ⟨some 1,"frame","https://b.example",some "bridge",delegated⟩ ⟨some 1,some 0,"page"⟩,
    .beforeRequest false 1 2,.headersReceived ⟨1,2,"",some 1,"frame","https://b.example/",[]⟩]

def askInner : Request := { frameId := some 2, documentId := "inner", origin := "https://b.example" }
def askFrame : Request := { frameId := some 1, documentId := "frame", origin := "https://b.example" }
def pageSender : Sender := ⟨some 1,some 0,"page"⟩

/-- With delegation both frames have the feature. -/
theorem policy_monotone_delegated : ∃ s, exec (step twoSites) {} (nestedFrames true) = some s ∧
    (s.policyForRequest twoSites askInner pageSender).1 = true ∧
    (s.policyForRequest twoSites askFrame pageSender).1 = true ∧
    (Monotone twoSites s ↔ Unbroken s) ∧ (Unbroken s → NeverRegains twoSites s) := by
  obtain ⟨s,run⟩ := Option.isSome_iff_exists.mp
    (by decide : (exec (step twoSites) {} (nestedFrames true)).isSome = true)
  have answers : (exec (step twoSites) {} (nestedFrames true)).map (fun s =>
      ((s.policyForRequest twoSites askInner pageSender).1,(s.policyForRequest twoSites askFrame pageSender).1)) =
      some (true,true) := by decide
  rw [run] at answers
  simp only [Option.map_some,Option.some.injEq,Prod.mk.injEq] at answers
  exact ⟨s,run,answers.1,answers.2,policy_monotone_iff twoSites run (allSteps_of_checkAll (by decide))⟩

/-- Without, the inner frame has the feature that the frame around it was not given. -/
theorem inner_frame_regains : ∃ s, exec (step twoSites) {} (nestedFrames false) = some s ∧
    AllSteps (step twoSites) (fun s event _ => keepsParents s event = true) {} (nestedFrames false) ∧
    (s.policyForRequest twoSites askInner pageSender).1 = true ∧
    (s.policyForRequest twoSites askFrame pageSender).1 = false ∧ ¬ Monotone twoSites s := by
  obtain ⟨s,run⟩ := Option.isSome_iff_exists.mp (by decide : (exec (step twoSites) {} (nestedFrames false)).isSome = true)
  have answers : (exec (step twoSites) {} (nestedFrames false)).map (fun s =>
      ((s.policyForRequest twoSites askInner pageSender).1,(s.policyForRequest twoSites askFrame pageSender).1)) =
      some (true,false) := by decide
  have records : (exec (step twoSites) {} (nestedFrames false)).map (fun s =>
      ((s.policyEntryForDocument ⟨1,2,"inner"⟩ (twoSites.urlOrigin askInner.origin)).1.map (·.parentKey),
        (s.policyEntryForDocument ⟨1,1,"frame"⟩ (twoSites.urlOrigin askFrame.origin)).1.isSome)) =
      some (some (some ⟨1,1,"frame"⟩),true) := by decide
  rw [run] at answers records
  simp only [Option.map_some,Option.some.injEq,Prod.mk.injEq] at answers records
  refine ⟨s,run,allSteps_of_checkAll (by decide),answers.1,answers.2,?_⟩
  intro monotone
  obtain ⟨e,found,above⟩ := Option.map_eq_some_iff.mp records.1
  obtain ⟨parent,found'⟩ := Option.isSome_iff_exists.mp records.2
  have regained := monotone askInner pageSender ⟨1,2,"inner"⟩ e ⟨1,1,"frame"⟩ askFrame pageSender parent
    ⟨by decide,found⟩ above ⟨by decide,found'⟩ answers.1
  rw [answers.2] at regained; cases regained

end FFWebHid.PolicyTrees
