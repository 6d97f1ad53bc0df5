import Mathlib.Algebra.GroupWithZero.Nat
import FFWebHid.MetaTags
import FFWebHid.Runs

/-!
The response filter of pages (`handleMetaCsp`): it keeps the chunks and scans their text, decides
at the end of the head, at its limit or at the end of the page, and writes when the settings and
the hash have been looked up, while chunks go on arriving.
-/
namespace FFWebHid.MetaCsp
open FFWebHid.Utf8 FFWebHid.MetaTags FFWebHid.Runs

/-- What `toLowerCase` makes of a character: only `İ` becomes longer. -/
def lowerUnits (c : Char) : Nat := if c.toNat = 0x130 then 2 else units c

/-- `scanText.toLowerCase().indexOf('</head>')`. -/
def headEnd? : Text → Option Nat
  | [] => none
  | c :: t => if begins "</head>".toList (c :: t) then some 0 else (headEnd? t).map (lowerUnits c + ·)

/-- `slice(0, end)` and `slice(end)`. A character that is cut is left to the second, which is put
    behind the first again: no tag ends with half of it. -/
def slices : Nat → Text → Text × Text
  | _,[] => ([],[])
  | last,c :: t =>
    if last < units c then ([],c :: t)
    else (c :: (slices (last - units c) t).1,(slices (last - units c) t).2)

/-- What the filter is for the browser: the page waits for what it writes, gets what arrives, or
    gets nothing more. -/
inductive Status where
  | filtering
  | disconnected
  | closed
  deriving DecidableEq, Repr

/-- The variables of the filter, and what has arrived and what the page has got of it. -/
structure State where
  rawChunks : List (List UInt8) := []
  scanText : Text := []
  dec : Decoder := {}
  gaveUp : Bool := false
  processed : Bool := false
  status : Status := .filtering
  stopped : Bool := false
  arrived : List UInt8 := []
  delivered : List UInt8 := []
  deriving DecidableEq

/-- The text and its head. Once it is decided, `scanText` does not change. -/
def State.html (s : State) : Text := s.scanText ++ s.dec.finish

def State.parts (s : State) : Text × Text :=
  match headEnd? s.scanText with
  | none => (s.html,[])
  | some last => slices last s.html

/-- `anyChange`. -/
def State.anyChange (l : Lookups) (s : State) : Bool := (pieces none s.parts.1).any (Piece.changes l)

/-- The beginning of `process`. -/
def State.process (s : State) (eof : Bool) : State :=
  if s.processed = false ∧ (headEnd? s.scanText ≠ none ∨ eof = true ∨ s.gaveUp = true) then { s with processed := true } else s

/-- The rest of it, after the lookups. -/
def State.finish (l : Lookups) (s : State) : State :=
  if s.anyChange l then
    { s with
      delivered := s.delivered ++ encode ((pieces none s.parts.1).flatMap (Piece.rewritten l) ++ s.parts.2)
      status := .closed }
  else { s with delivered := s.delivered ++ s.rawChunks.flatten,status := .disconnected }

def State.isFull (s : State) : Bool := !((s.scanText.map units).sum < 262144)

def State.ondata (s : State) (chunk : List UInt8) : State :=
  let s := { s with rawChunks := s.rawChunks ++ [chunk] }
  if s.processed then s
  else if s.isFull then State.process { s with gaveUp := true } false
  else State.process { s with scanText := s.scanText ++ (s.dec.stream chunk).1,dec := (s.dec.stream chunk).2 } false

/-- A chunk arrives, the page ends, or the lookups that a decision waits for have come. -/
inductive Event where
  | data (chunk : List UInt8)
  | stop
  | resolve
  deriving DecidableEq

def State.step (l : Lookups) (s : State) : Event → Option State
  | .data chunk =>
    if s.stopped then none
    else
      let s := { s with arrived := s.arrived ++ chunk }
      match s.status with
      | .filtering => some (s.ondata chunk)
      | .disconnected => some { s with delivered := s.delivered ++ chunk }
      | .closed => some s
  | .stop =>
    if s.stopped then none
    else
      let s := { s with stopped := true }
      some (if s.status = .filtering then s.process true else s)
  | .resolve => if s.processed = true ∧ s.status = .filtering then some (s.finish l) else none

/-! ### What the filter is for -/

/-- The bytes of a page, with other policies in some of its tags. -/
inductive Faithful (l : Lookups) : List UInt8 → List UInt8 → Prop where
  | nil : Faithful l [] []
  | keep {body out : List UInt8} (b : UInt8) : Faithful l body out → Faithful l (b :: body) (b :: out)
  | tag {body out : List UInt8} {tag after : Text} (rewrites : Rewrites l tag after) :
    Faithful l body out → Faithful l (encode tag ++ body) (encode after ++ out)

/-- What has arrived, with every tag of the head rewritten that is to be changed and no other. -/
def Rewritten (l : Lookups) (s : State) : Prop :=
  s.arrived = encode ((pieces none s.parts.1).flatMap Piece.original ++ s.parts.2) ∧
    s.delivered = encode ((pieces none s.parts.1).flatMap (Piece.rewritten l) ++ s.parts.2)

/-- A page gets nothing before the filter is done, and then what has arrived, but for its policies:
    all of the head that are to be changed, or the bytes as they are where none is. At the end of
    the page nothing but the lookups is waited for. -/
structure Sound (l : Lookups) (s : State) : Prop where
  waiting : s.status = .filtering → s.delivered = []
  written : s.status ≠ .filtering → Faithful l s.arrived s.delivered
  rewritten : s.status = .closed → Rewritten l s
  untouched : s.status = .disconnected → s.anyChange l = false ∧ s.delivered = s.arrived
  decided : s.stopped = true → s.processed = true

/-- Where a policy is to be changed, nothing arrives after the decision or beyond the limit; the
    page is text in UTF-8, and what is found in its tags are their policies. -/
def Condition (l : Lookups) (s : State) : Event → Prop
  | .data chunk => s.processed = true ∨ s.isFull = true → chunk = [] ∨ s.anyChange l = false
  | .stop => True
  | .resolve => s.anyChange l = true → IsText s.arrived ∧ ∀ tag m value, .tag tag ∈ pieces none s.parts.1 →
      edit? l tag = some (m,value) → Found tag m value

theorem slices_joined (last : Nat) (t : Text) : (slices last t).1 ++ (slices last t).2 = t := by
  induction t generalizing last with
  | nil => rfl
  | cons c t ih =>
    rw [slices]
    split
    · rfl
    · exact congrArg (c :: ·) (ih _)

theorem parts_joined (s : State) : s.parts.1 ++ s.parts.2 = s.html := by
  unfold State.parts
  split
  · exact List.append_nil _
  · exact slices_joined _ _

theorem Faithful.append {l : Lookups} {body out : List UInt8} (bytes : List UInt8) (rest : Faithful l body out) :
    Faithful l (bytes ++ body) (bytes ++ out) := by
  induction bytes with
  | nil => exact rest
  | cons b bytes ih => exact .keep b ih

theorem Faithful.refl (l : Lookups) (body : List UInt8) : Faithful l body body := by
  have whole := Faithful.append body (Faithful.nil (l := l))
  rwa [List.append_nil] at whole

/-- Where what is found is sound, only policies are rewritten. -/
theorem faithful_pieces {l : Lookups} {found : List Piece} (rest : Text)
    (sound : ∀ tag m value, .tag tag ∈ found → edit? l tag = some (m,value) → Found tag m value) :
    Faithful l (encode (found.flatMap Piece.original ++ rest)) (encode (found.flatMap (Piece.rewritten l) ++ rest)) := by
  induction found with
  | nil => exact .refl l _
  | cons piece found ih =>
    have later := ih fun tag m value among => sound tag m value (List.mem_cons_of_mem piece among)
    rw [List.flatMap_cons,List.flatMap_cons,List.append_assoc,List.append_assoc,encode_append,encode_append _ (_ ++ _)]
    cases piece with
    | text c => exact later.append _
    | tag tag =>
      rcases edited : edit? l tag with _ | ⟨m,value⟩
      · have same : Piece.rewritten l (.tag tag) = tag := by rw [Piece.rewritten,rewriteTag,edited]; rfl
        rw [same]
        exact later.append _
      · obtain ⟨after,rewritten,rewrites⟩ := rewrites_of_found edited (sound tag m value List.mem_cons_self edited)
        have same : Piece.rewritten l (.tag tag) = after := by rw [Piece.rewritten,rewritten]; rfl
        rw [same]
        exact .tag rewrites later

/-- A page ends like it did. -/
theorem Faithful.last {l : Lookups} {body out : List UInt8} (faithful : Faithful l body out) :
    body.getLast? = out.getLast? := by
  induction faithful with
  | nil => rfl
  | keep b _ ih => rw [List.getLast?_cons,List.getLast?_cons,ih]
  | tag rewrites _ ih =>
    obtain ⟨c,front,front',rfl,rfl⟩ := rewrites_last rewrites
    have ending (front : Text) : (encode (front ++ [c])).getLast? = (encodeChar c).getLast? := by
      have filled : encodeChar c ≠ [] := by
        unfold encodeChar
        dsimp only
        split_ifs <;> exact List.cons_ne_nil _ _
      rw [encode_append,encode,encode,List.flatMap_cons,List.flatMap_nil,List.append_nil,
        List.getLast?_append_of_ne_nil _ filled]
    rw [List.getLast?_append,List.getLast?_append,ending,ending,ih]

/-- While the page waits, everything is kept; and it has been scanned, or a decision has been
    made that changes nothing. -/
structure Keeps (l : Lookups) (s : State) : Prop where
  waiting : s.status = .filtering → s.delivered = [] ∧ s.rawChunks.flatten = s.arrived
  scanned : s.status = .filtering →
    Decoder.stream {} s.arrived = (s.scanText,s.dec) ∨ (s.processed = true ∧ s.anyChange l = false)
  written : s.status ≠ .filtering → s.processed = true ∧ Faithful l s.arrived s.delivered
  passed : s.status = .disconnected → s.anyChange l = false ∧ s.delivered = s.arrived
  closed : s.status = .closed → s.anyChange l = true ∧ Rewritten l s
  decided : s.stopped = true → s.processed = true

section
variable {l : Lookups} {s : State}

theorem process_cases (s : State) (eof : Bool) : s.process eof = s ∨ s.process eof = { s with processed := true } := by
  unfold State.process
  split
  · exact .inr rfl
  · exact .inl rfl

/-- While the page waits, all that counts is what is kept and scanned. -/
theorem Keeps.filtering (filtering : s.status = .filtering) (running : s.stopped = true → s.processed = true)
    (nothing : s.delivered = []) (kept : s.rawChunks.flatten = s.arrived)
    (scanned : Decoder.stream {} s.arrived = (s.scanText,s.dec) ∨ (s.processed = true ∧ s.anyChange l = false)) : Keeps l s where
  waiting _ := ⟨nothing,kept⟩
  scanned _ := scanned
  written done := absurd filtering done
  passed done := by rw [filtering] at done; cases done
  closed done := by rw [filtering] at done; cases done
  decided := running

theorem Keeps.decide (keeps : Keeps l s) (filtering : s.status = .filtering) : Keeps l { s with processed := true } := by
  obtain ⟨nothing,kept⟩ := keeps.waiting filtering
  refine .filtering filtering (fun _ => rfl) nothing kept ?_
  exact (keeps.scanned filtering).imp id fun decided => ⟨rfl,decided.2⟩

theorem Keeps.process (keeps : Keeps l s) (filtering : s.status = .filtering) (eof : Bool) : Keeps l (s.process eof) := by
  rcases process_cases s eof with same | decides
  · rwa [same]
  · rw [decides]
    exact keeps.decide filtering

/-- A chunk is scanned, or it comes where nothing is changed. -/
theorem Keeps.ondata (keeps : Keeps l s) (filtering : s.status = .filtering) (running : s.stopped = false) {chunk : List UInt8}
    (condition : Condition l s (.data chunk)) : Keeps l (State.ondata { s with arrived := s.arrived ++ chunk } chunk) := by
  obtain ⟨nothing,kept⟩ := keeps.waiting filtering
  have kept' : (s.rawChunks ++ [chunk]).flatten = s.arrived ++ chunk := by
    rw [List.flatten_append,kept,List.flatten_cons,List.flatten_nil,List.append_nil]
  have live {p : Prop} (stopped : s.stopped = true) : p := by
    rw [running] at stopped
    cases stopped
  -- a chunk that is not scanned
  have late (ready : s.processed = true ∨ s.isFull = true) :
      Decoder.stream {} (s.arrived ++ chunk) = (s.scanText,s.dec) ∨ s.anyChange l = false := by
    rcases condition ready with rfl | unchanged
    · rw [List.append_nil]
      exact (keeps.scanned filtering).imp id And.right
    · exact .inr unchanged
  rw [State.ondata]
  dsimp only
  split_ifs with processed full
  · refine .filtering filtering live nothing kept' ?_
    exact (late (.inl processed)).imp id fun unchanged => ⟨processed,unchanged⟩
  · have decides : State.process { s with arrived := s.arrived ++ chunk,rawChunks := s.rawChunks ++ [chunk],gaveUp := true } false
        = { s with
          arrived := s.arrived ++ chunk
          rawChunks := s.rawChunks ++ [chunk]
          gaveUp := true
          processed := true } := if_pos ⟨by simpa using processed,.inr (.inr rfl)⟩
    rw [decides]
    refine .filtering filtering (fun _ => rfl) nothing kept' ?_
    exact (late (.inr full)).imp id fun unchanged => ⟨rfl,unchanged⟩
  · have scanned : Keeps l { s with
        arrived := s.arrived ++ chunk
        rawChunks := s.rawChunks ++ [chunk]
        scanText := s.scanText ++ (s.dec.stream chunk).1
        dec := (s.dec.stream chunk).2 } := by
      refine .filtering filtering live nothing kept' ?_
      rcases keeps.scanned filtering with scanned | ⟨decided,-⟩
      · left
        dsimp only
        rw [stream_append,scanned]
      · exact absurd decided processed
    exact scanned.process filtering false

/-- The page gets what has arrived, with other policies if one is changed. -/
theorem Keeps.finish (keeps : Keeps l s) (filtering : s.status = .filtering) (processed : s.processed = true)
    (condition : Condition l s .resolve) : Keeps l (s.finish l) := by
  obtain ⟨nothing,kept⟩ := keeps.waiting filtering
  rw [State.finish]
  split_ifs with changed
  · obtain ⟨text,found⟩ := condition changed
    have original : s.arrived = encode ((pieces none s.parts.1).flatMap Piece.original ++ s.parts.2) := by
      rcases keeps.scanned filtering with scanned | ⟨-,unchanged⟩
      · obtain ⟨read,ended⟩ := stream_text text
        rw [scanned] at read ended
        have html : s.html = decode s.arrived := by
          rw [State.html,Decoder.finish,ended]
          exact (List.append_nil _).trans read
        rw [pieces_original,Option.getD_none,List.nil_append,parts_joined,html,text.1]
      · rw [changed] at unchanged
        cases unchanged
    have faithful : Faithful l s.arrived
        (s.delivered ++ encode ((pieces none s.parts.1).flatMap (Piece.rewritten l) ++ s.parts.2)) := by
      rw [nothing,List.nil_append,original]
      exact faithful_pieces s.parts.2 found
    have rewritten : s.delivered ++ encode ((pieces none s.parts.1).flatMap (Piece.rewritten l) ++ s.parts.2)
        = encode ((pieces none s.parts.1).flatMap (Piece.rewritten l) ++ s.parts.2) := by rw [nothing,List.nil_append]
    exact ⟨nofun,nofun,fun _ => ⟨processed,faithful⟩,nofun,fun _ => ⟨changed,original,rewritten⟩,fun _ => processed⟩
  · have all : s.delivered ++ s.rawChunks.flatten = s.arrived := by rw [nothing,kept,List.nil_append]
    refine ⟨nofun,nofun,fun _ => ⟨processed,?_⟩,fun _ => ⟨Bool.eq_false_iff.mpr changed,all⟩,nofun,fun _ => processed⟩
    dsimp only
    rw [all]
    exact .refl l s.arrived

/-- One step. -/
theorem keeps_step {e : Event} {s' : State} (keeps : Keeps l s) (taken : s.step l e = some s') (condition : Condition l s e) :
    Keeps l s' := by
  cases e with
  | data chunk =>
    rw [State.step] at taken
    split_ifs at taken with stopped
    have running : s.stopped = false := by simpa using stopped
    dsimp only at taken
    split at taken
    · rename_i status
      obtain rfl := Option.some.inj taken
      exact keeps.ondata status running condition
    · rename_i status
      obtain rfl := Option.some.inj taken
      obtain ⟨unchanged,passed⟩ := keeps.passed status
      have all := congrArg (· ++ chunk) passed
      have decided := (keeps.written (by rw [status]; exact Status.noConfusion)).1
      refine ⟨fun waits => ?_,fun waits => ?_,fun _ => ⟨decided,?_⟩,fun _ => ⟨unchanged,all⟩,fun closed => ?_,
        fun _ => decided⟩
      · exact absurd (status.symm.trans waits) Status.noConfusion
      · exact absurd (status.symm.trans waits) Status.noConfusion
      · dsimp only at all ⊢
        rw [all]
        exact .refl l _
      · exact absurd (status.symm.trans closed) Status.noConfusion
    · rename_i status
      obtain rfl := Option.some.inj taken
      have decided := (keeps.written (by rw [status]; exact Status.noConfusion)).1
      obtain rfl : chunk = [] := by
        rcases condition (.inl decided) with none | unchanged
        · exact none
        · rw [(keeps.closed status).1] at unchanged
          cases unchanged
      rwa [List.append_nil]
  | stop =>
    rw [State.step] at taken
    split_ifs at taken with stopped
    dsimp only at taken
    obtain rfl := Option.some.inj taken
    split_ifs with filtering
    · have decides : State.process { s with stopped := true } true = { s with stopped := true,processed := true } := by
        rw [State.process]
        split_ifs with undecided
        · rfl
        · have decided : s.processed = true := by
            by_contra open'
            exact undecided ⟨by simpa using open',.inr (.inl rfl)⟩
          rw [← decided]
      rw [decides]
      obtain ⟨nothing,kept⟩ := keeps.waiting filtering
      exact .filtering filtering (fun _ => rfl) nothing kept
        ((keeps.scanned filtering).imp id fun decided => ⟨rfl,decided.2⟩)
    · obtain ⟨decided,-⟩ := keeps.written filtering
      exact { keeps with decided := fun _ => decided }
  | resolve =>
    rw [State.step] at taken
    split_ifs at taken with ready
    obtain rfl := Option.some.inj taken
    exact keeps.finish ready.2 ready.1 condition

end

theorem keeps_start (l : Lookups) : Keeps l {} := .filtering rfl nofun rfl rfl (.inl rfl)

/-- In every run whose steps meet the condition, in every state. -/
theorem sound_run {l : Lookups} {s : State} {events : List Event} (run : exec (State.step l) {} events = some s)
    (meets : AllSteps (State.step l) (fun s e _ => Condition l s e) {} events) : Sound l s := by
  have keeps := exec_invariant_under (fun _ _ _ keeps taken condition => keeps_step keeps taken condition)
    (keeps_start l) run meets
  exact ⟨fun waits => (keeps.waiting waits).1,fun done => (keeps.written done).2,fun closed => (keeps.closed closed).2,
    keeps.passed,keeps.decided⟩

def blob : Lookups := ⟨"blob",none⟩

def policy : Text := "worker-src 'self'".toList

def front : Text := "<meta http-equiv=\"Content-Security-Policy\" ".toList

def tag : Text := front ++ ("content=".toList ++ ('"' :: (policy ++ ['"']) ++ ['>']))

def content : ContentMatch := ⟨"content=".toList ++ '"' :: (policy ++ ['"']),some '"',policy⟩

/-- The first character is cut. -/
def halves : List Event :=
  let page := encode ('é' :: (tag ++ "</head>".toList))
  [.data (page.take 1),.data (page.drop 1),.resolve,.stop]

def stateAfter (events : List Event) : State := (exec (State.step blob) {} events).getD {}

theorem tag_found : Found tag content "worker-src 'self' blob:".toList where
  policy := ⟨by decide +kernel,by decide +kernel,by decide +kernel⟩
  content := ⟨front,['>'],'"' :: (policy ++ ['"']),by decide +kernel,rfl,⟨by decide +kernel,by decide +kernel⟩,
    .quoted (by decide) (by decide +kernel)⟩
  unquoted := by decide +kernel
  literal := by decide +kernel

theorem halves_sound : Sound blob (stateAfter halves) := by
  have run : exec (State.step blob) {} halves = some (stateAfter halves) := by decide +kernel
  refine sound_run run ?_
  intro s₁ taken₁
  obtain rfl : s₁ = stateAfter (halves.take 1) := Option.some.inj (taken₁.symm.trans (by decide +kernel))
  refine ⟨fun late => absurd late (by decide +kernel),fun s₂ taken₂ => ?_⟩
  obtain rfl : s₂ = stateAfter (halves.take 2) := Option.some.inj (taken₂.symm.trans (by decide +kernel))
  refine ⟨fun late => absurd late (by decide +kernel),fun s₃ taken₃ => ?_⟩
  refine ⟨fun _ => ⟨⟨by decide +kernel,by decide +kernel⟩,fun tag' m value among edited => ?_⟩,fun _ _ => ⟨trivial,trivial⟩⟩
  have one : pieces none (stateAfter (halves.take 2)).parts.1 = [.text 'é',.tag tag] := by decide +kernel
  rw [one] at among
  obtain rfl : tag' = tag := by simpa using among
  have edits : edit? blob tag = some (content,"worker-src 'self' blob:".toList) := by decide +kernel
  obtain ⟨rfl,rfl⟩ := Prod.mk.inj (Option.some.inj (edits.symm.trans edited))
  exact tag_found

/-- What arrives after the head has been written is lost. -/
theorem second_chunk_lost :
    ¬ Sound blob (stateAfter [.data (encode (tag ++ "</head>".toList)),.resolve,.data (encode "x".toList),.stop]) := by
  intro sound
  have last := (sound.written (by decide +kernel)).last
  exact absurd last (by decide +kernel)

end FFWebHid.MetaCsp
